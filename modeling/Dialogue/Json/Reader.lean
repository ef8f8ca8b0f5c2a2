-- Reading a document. A number with a point or an exponent is read as a fraction, all others as
-- whole numbers of any size. Of two fields with one name the later value stands, in the place of
-- the first.
import Dialogue.Json
import Dialogue.Text.Whole
import Dialogue.Text.Units

namespace Dialogue.Json

/-- What is wrong with a text that is no document. -/
inductive Flaw where
  | noValue
  | noName
  | noColon
  | noComma
  | unclosedText
  | badEscape
  | badUnit
  | controlCharacter
  /-- Something follows the document. -/
  | surplus
  deriving DecidableEq

inductive ReadFault where
  /-- The text is no document. The flaw is at the front of what is left. -/
  | malformed (flaw : Flaw) (left : List Char)
  /-- A whole number has more digits than are read. -/
  | tooManyDigits (count : Nat)
  /-- More lists and objects stand inside one another than are read. The one too many is a list or
  an object. -/
  | tooDeep (isList : Bool)
  deriving DecidableEq

def isGap (c : Char) : Bool := c == ' ' || c == '\t' || c == '\n' || c == '\r'

def skipGap (cs : List Char) : List Char := cs.dropWhile isGap

/-! ## Texts -/

def hexDigit? (c : Char) : Option Nat :=
  if '0' ≤ c && c ≤ '9' then some (c.toNat - 48)
  else if 'a' ≤ c && c ≤ 'f' then some (c.toNat - 87)
  else if 'A' ≤ c && c ≤ 'F' then some (c.toNat - 55)
  else none

def hexUnit? (a b c d : Char) : Option Nat := do
  let a ← hexDigit? a
  let b ← hexDigit? b
  let c ← hexDigit? c
  let d ← hexDigit? d
  return ((a * 16 + b) * 16 + c) * 16 + d

def escapedChar? : Char → Option Char
  | '"' => some '"'
  | '\\' => some '\\'
  | '/' => some '/'
  | 'b' => some (Char.ofNat 8)
  | 'f' => some (Char.ofNat 12)
  | 'n' => some '\n'
  | 'r' => some '\r'
  | 't' => some '\t'
  | _ => none

/-- The characters up to the closing mark, and what follows it. `start` is the text from its opening
mark on, and `read` holds the characters so far, the last one first. No unit stands at the very end
of what there is. -/
def readText (start read : List Char) : List Char → Except ReadFault (String × List Char)
  | [] => .error (.malformed .unclosedText start)
  | '"' :: rest => .ok (String.ofList read.reverse, rest)
  | '\\' :: 'u' :: a :: b :: c :: d :: '\\' :: 'u' :: e :: f :: g :: h :: next :: rest =>
    match hexUnit? a b c d, hexUnit? e f g h with
    | none, _ =>
      .error (.malformed .badUnit ('u' :: a :: b :: c :: d :: '\\' :: 'u' :: e :: f :: g :: h
        :: next :: rest))
    | some _, none => .error (.malformed .badUnit ('u' :: e :: f :: g :: h :: next :: rest))
    | some u, some v =>
      if Text.isHighUnit u && Text.isLowUnit v then
        readText start (Text.pairedChar u v :: read) (next :: rest)
      else
        readText start (Text.loneChar u :: read) ('\\' :: 'u' :: e :: f :: g :: h :: next :: rest)
  | '\\' :: 'u' :: a :: b :: c :: d :: next :: rest =>
    match hexUnit? a b c d with
    | none => .error (.malformed .badUnit ('u' :: a :: b :: c :: d :: next :: rest))
    | some u => readText start (Text.loneChar u :: read) (next :: rest)
  | '\\' :: 'u' :: rest => .error (.malformed .badUnit ('u' :: rest))
  | ['\\'] => .error (.malformed .unclosedText start)
  | '\\' :: c :: rest =>
    match escapedChar? c with
    | none => .error (.malformed .badEscape ('\\' :: c :: rest))
    | some e => readText start (e :: read) rest
  | c :: rest =>
    if c.toNat < 0x20 then .error (.malformed .controlCharacter (c :: rest))
    else readText start (c :: read) rest

/-! ## Numbers -/

/-- An exponent: its value and what follows, or nothing if no digit comes. -/
def readExponent? : List Char → Option (Int × List Char)
  | c :: rest =>
    if c == 'e' || c == 'E' then
      let (negative, rest) := Text.takeSign rest
      let digits := rest.takeWhile Text.isPlainDigit
      if digits.isEmpty then none
      else some (Text.withSign negative (Text.numeral digits), rest.dropWhile Text.isPlainDigit)
    else none
  | [] => none

/-- The digits after a point and what follows, or nothing if no digit comes. -/
def readFraction? : List Char → Option (List Char × List Char)
  | '.' :: rest =>
    let digits := rest.takeWhile Text.isPlainDigit
    if digits.isEmpty then none else some (digits, rest.dropWhile Text.isPlainDigit)
  | _ => none

/-- A number. `start` is the text from its sign on. -/
def readNumber (start : List Char) (negative : Bool) (cs : List Char) :
    Except ReadFault (Json × List Char) :=
  let digits := cs.takeWhile Text.isPlainDigit
  let whole := if digits.head? == some '0' then digits.take 1 else digits
  if whole.isEmpty then .error (.malformed .noValue start)
  else
    let rest := cs.drop whole.length
    let fraction := readFraction? rest
    let rest := (fraction.map (·.2)).getD rest
    let exponent := readExponent? rest
    let rest := (exponent.map (·.2)).getD rest
    if fraction.isNone && exponent.isNone then
      if whole.length > Text.digitLimit then .error (.tooManyDigits whole.length)
      else .ok (.int (Text.withSign negative (Text.numeral whole)), rest)
    else
      let places := (fraction.map (·.1)).getD []
      let tens := (exponent.map (·.1)).getD 0 - places.length
      let x := nearestFloat (Text.numeral (whole ++ places)) tens
      .ok (.float (if negative then -x else x), rest)

/-! ## Values -/

/-- What follows a word, if the text starts with it. -/
def afterWord? (word : String) (cs : List Char) : Option (List Char) :=
  if word.toList.isPrefixOf cs then some (cs.drop word.length) else none

/-- The words that stand for values. -/
def words : List (String × Json) :=
  [("null", .null), ("true", .bool true), ("false", .bool false), ("NaN", .float notANumber),
    ("Infinity", .float infinity), ("-Infinity", .float (-infinity))]

def readWord? (cs : List Char) : Option (Json × List Char) :=
  words.findSome? fun w => (afterWord? w.1 cs).map fun rest => (w.2, rest)

mutual

/-- Reads one value. The first argument bounds the steps, of which there are at most two for each
character. The second one says how many lists and objects may still stand inside one another. -/
def readValue : Nat → Nat → List Char → Except ReadFault (Json × List Char)
  | 0, _, cs => .error (.malformed .noValue cs)
  | steps + 1, deep, cs =>
    match cs with
    | '"' :: rest => do
      let (s, rest) ← readText cs [] rest
      return (.str s, rest)
    | '[' :: rest =>
      if deep == 0 then .error (.tooDeep true)
      else
        match skipGap rest with
        | ']' :: rest => .ok (.arr [], rest)
        | rest => do
          let (items, rest) ← readItems steps (deep - 1) rest
          return (.arr items, rest)
    | '\x7b' :: rest =>
      if deep == 0 then .error (.tooDeep false)
      else
        match skipGap rest with
        | '\x7d' :: rest => .ok (.obj [], rest)
        | rest => do
          let (fields, rest) ← readFields steps (deep - 1) [] rest
          return (.obj fields, rest)
    | _ =>
      match readWord? cs with
      | some r => .ok r
      | none =>
        match cs with
        | '-' :: rest => readNumber cs true rest
        | _ => readNumber cs false cs

def readItems : Nat → Nat → List Char → Except ReadFault (List Json × List Char)
  | 0, _, cs => .error (.malformed .noValue cs)
  | steps + 1, deep, cs => do
    let (x, rest) ← readValue steps deep cs
    match skipGap rest with
    | ']' :: rest => return ([x], rest)
    | ',' :: rest =>
      let (xs, rest) ← readItems steps deep (skipGap rest)
      return (x :: xs, rest)
    | rest => .error (.malformed .noComma rest)

def readFields : Nat → Nat → Fields → List Char → Except ReadFault (Fields × List Char)
  | 0, _, _, cs => .error (.malformed .noValue cs)
  | steps + 1, deep, fields, cs =>
    match cs with
    | '"' :: rest => do
      let (key, rest) ← readText cs [] rest
      match skipGap rest with
      | ':' :: rest =>
        let (x, rest) ← readValue steps deep (skipGap rest)
        let fields := Fields.put fields key x
        match skipGap rest with
        | '\x7d' :: rest => return (fields, rest)
        | ',' :: rest => readFields steps deep fields (skipGap rest)
        | rest => .error (.malformed .noComma rest)
      | rest => .error (.malformed .noColon rest)
    | _ => .error (.malformed .noName cs)

end

/-- Reads a whole text as one document, in which only so many lists and objects may stand inside one
another. -/
def read (most : Nat) (s : String) : Except ReadFault Json := do
  let cs := s.toList
  let (x, rest) ← readValue (2 * cs.length + 2) most (skipGap cs)
  match skipGap rest with
  | [] => return x
  | rest => .error (.malformed .surplus rest)

/-! ## Messages -/

def Flaw.message : Flaw → String
  | noValue => "Expecting value"
  | noName => "Expecting property name enclosed in double quotes"
  | noColon => "Expecting ':' delimiter"
  | noComma => "Expecting ',' delimiter"
  | unclosedText => "Unterminated string starting at"
  | badEscape => "Invalid \\escape"
  | badUnit => "Invalid \\uXXXX escape"
  | controlCharacter => "Invalid control character at"
  | surplus => "Extra data"

/-- Where a text goes on behind what stands before: line and column, both from one on, and place. -/
def placeBehind (before : List Char) : String :=
  let line := before.count '\n' + 1
  let column := (before.reverse.takeWhile (· != '\n')).length + 1
  "line " ++ toString line ++ " column " ++ toString column ++ " (char "
    ++ toString before.length ++ ")"

/-- What is wrong with the text that was read. -/
def ReadFault.message (s : String) : ReadFault → String
  | malformed flaw left =>
    flaw.message ++ ": " ++ placeBehind (s.toList.take (s.length - left.length))
  | tooManyDigits count =>
    "Exceeds the limit (" ++ toString Text.digitLimit
      ++ " digits) for integer string conversion: value has " ++ toString count
      ++ " digits; use sys.set_int_max_str_digits() to increase the limit"
  | tooDeep isList =>
    "maximum recursion depth exceeded while decoding a JSON "
      ++ (if isList then "array" else "object") ++ " from a unicode string"

end Dialogue.Json
