-- Whole numbers in texts: the characters that are blank, the digits of every script, and the numbers
-- that are read from them. A number of settings and forms may be written plainly, or loosely: with
-- spaces around it, a plus sign, zeros in front, single underscores between its digits, or a point
-- with zeros after it.

namespace Dialogue.Text

/-! ## Blank characters

They are the spaces of every script, the line and paragraph ends and the four separators U+001C to
U+001F. The zero-width space is not blank. -/

def blanks : List Nat :=
  [0x09, 0x0A, 0x0B, 0x0C, 0x0D, 0x1C, 0x1D, 0x1E, 0x1F, 0x20, 0x85, 0xA0, 0x1680, 0x2000, 0x2001,
    0x2002, 0x2003, 0x2004, 0x2005, 0x2006, 0x2007, 0x2008, 0x2009, 0x200A, 0x2028, 0x2029, 0x202F,
    0x205F, 0x3000]

def isBlank (c : Char) : Bool := blanks.contains c.toNat

/-- A blank character that is not one of the four separators U+001C to U+001F. -/
def isSpace (c : Char) : Bool := isBlank c && !(0x1C ≤ c.toNat && c.toNat ≤ 0x1F)

/-- The text without the characters of a class at its two ends. -/
def trimBy (class? : Char → Bool) (cs : List Char) : List Char :=
  ((cs.dropWhile class?).reverse.dropWhile class?).reverse

def strip (s : String) : String := String.ofList (trimBy isBlank s.toList)

/-- Blank text holds blank characters only, or nothing. -/
def isBlankText (s : String) : Bool := s.toList.all isBlank

/-- Whether a character stands twice in a row somewhere. -/
def occursTwice (x : Char) : List Char → Bool
  | a :: b :: rest => (a == x && b == x) || occursTwice x (b :: rest)
  | _ => false

/-! ## Digits

Each script has its ten decimal digits in a row, from zero to nine. -/

/-- The zeros of the scripts. -/
def zeros : List Nat := [
  0x0030, 0x0660, 0x06F0, 0x07C0, 0x0966, 0x09E6, 0x0A66, 0x0AE6, 0x0B66, 0x0BE6,
  0x0C66, 0x0CE6, 0x0D66, 0x0DE6, 0x0E50, 0x0ED0, 0x0F20, 0x1040, 0x1090, 0x17E0,
  0x1810, 0x1946, 0x19D0, 0x1A80, 0x1A90, 0x1B50, 0x1BB0, 0x1C40, 0x1C50, 0xA620,
  0xA8D0, 0xA900, 0xA9D0, 0xA9F0, 0xAA50, 0xABF0, 0xFF10, 0x104A0, 0x10D30, 0x11066,
  0x110F0, 0x11136, 0x111D0, 0x112F0, 0x11450, 0x114D0, 0x11650, 0x116C0, 0x11730, 0x118E0,
  0x11950, 0x11C50, 0x11D50, 0x11DA0, 0x16A60, 0x16AC0, 0x16B50, 0x1D7CE, 0x1D7D8, 0x1D7E2,
  0x1D7EC, 0x1D7F6, 0x1E140, 0x1E2F0, 0x1E950, 0x1FBF0]

/-- The value of a decimal digit of any script. -/
def digitValue? (c : Char) : Option Nat :=
  (zeros.find? fun z => z ≤ c.toNat && c.toNat < z + 10).map (c.toNat - ·)

/-- The value of one of the digits `0` to `9`. -/
def plainDigit? (c : Char) : Option Nat :=
  if '0' ≤ c && c ≤ '9' then some (c.toNat - 48) else none

def isPlainDigit (c : Char) : Bool := (plainDigit? c).isSome

/-! ### Runs of digits -/

/-- The sign in front of a number: whether it is a minus, and what follows it. -/
def takeSign : List Char → Bool × List Char
  | '-' :: rest => (true, rest)
  | '+' :: rest => (false, rest)
  | rest => (false, rest)

def withSign (negative : Bool) (n : Nat) : Int := if negative then -(n : Int) else n

/-- The number that a run of digits stands for, the first digit being the highest. -/
def valueOf (digits : List Nat) : Nat := digits.foldl (fun n d => 10 * n + d) 0

/-- The number that a run of plain digits stands for. -/
def numeral (digits : List Char) : Nat := valueOf (digits.map fun c => c.toNat - 48)

/-- The most digits of a whole number that is read or written. -/
def digitLimit : Nat := 4300

/-! ## Plain numbers -/

/-- Why a text is no whole number. -/
inductive WholeFault where
  | unreadable
  | tooLong
  deriving DecidableEq

/-- A plain number: a minus sign or none, then digits without a zero in front. A run of digits that
is too long is reported before what follows it. -/
def plainWhole (cs : List Char) : Except WholeFault Int :=
  let negative := cs.head? == some '-'
  let unsigned := if negative then cs.drop 1 else cs
  let digits := unsigned.takeWhile isPlainDigit
  if unsigned == ['0'] then .ok 0
  else if digits.isEmpty || unsigned.head? == some '0' then .error .unreadable
  else if digitLimit < digits.length then .error .tooLong
  else if digits.length < unsigned.length then .error .unreadable
  else .ok (withSign negative (numeral digits))

/-! ## Loose numbers -/

/-- What is left of a number after zeros and underscores, the last of which is given. The zero in
front of a point stays, and so does the last character of a number that holds nothing else. -/
def afterZeros? (last : Char) : List Char → Option (List Char)
  | [] => some [last]
  | c :: rest =>
    if c == '0' || c == '_' then afterZeros? c rest
    else if c == '.' then some (last :: c :: rest)
    else if isPlainDigit c || c == '-' then some (c :: rest)
    else none

/-- A number without the zeros in front of it. Among these zeros underscores may stand in any
number, and a sign may follow them. -/
def withoutZeros? : List Char → Option (List Char)
  | [] => none
  | c :: rest =>
    if c == '0' then afterZeros? c rest
    else if isPlainDigit c || c == '-' then some (c :: rest)
    else none

/-- The number in front of the first point, if only zeros follow that, one at least. -/
def withoutPlaces (cs : List Char) : List Char :=
  let zeros := (cs.dropWhile (· != '.')).drop 1
  if !zeros.isEmpty && zeros.all (· == '0') then cs.takeWhile (· != '.') else cs

/-- Whether underscores stand only one at a time, and neither first nor last. -/
def underscoresBetween (cs : List Char) : Bool :=
  cs.head? != some '_' && cs.getLast? != some '_' && !occursTwice '_' cs

def withoutUnderscores (cs : List Char) : List Char :=
  if underscoresBetween cs then cs.filter (· != '_') else cs

/-- A loose number as a plain one. -/
def tidied? (cs : List Char) : Option (List Char) :=
  let cs := trimBy isSpace cs
  let tidy (cs : List Char) := (withoutZeros? cs).map fun cs =>
    withoutUnderscores (withoutPlaces cs)
  match cs with
  | '-' :: rest => (tidy rest).map ('-' :: ·)
  | '+' :: '-' :: _ => none
  | '+' :: rest => tidy rest
  | _ => tidy cs

/-- A whole number in a text, plain or loose. Only of a plain one is it said that it is too long: a
loose number with too many digits cannot be read. -/
def readWhole (s : String) : Except WholeFault Int :=
  match plainWhole s.toList, tidied? s.toList with
  | .error .unreadable, some cs => (plainWhole cs).mapError fun _ => .unreadable
  | r, _ => r

/-! ## Numbers in any script -/

/-- A whole number in the digits of any scripts, with an optional sign and with spaces around it, in
which single underscores may stand between digits. That there are too many digits is found out
before what follows them is looked at. -/
def readNumeral (cs : List Char) : Except WholeFault Int :=
  let (negative, rest) := takeSign (trimBy isSpace cs)
  let run := rest.takeWhile fun c => c == '_' || (digitValue? c).isSome
  let digits := run.filterMap digitValue?
  if run.isEmpty || !underscoresBetween run then .error .unreadable
  else if digitLimit < digits.length then .error .tooLong
  else if run.length < rest.length then .error .unreadable
  else .ok (withSign negative (valueOf digits))

end Dialogue.Text
