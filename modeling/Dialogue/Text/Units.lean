-- Texts as units of eight, sixteen or thirty-two bits. A document may come in any of these, and the
-- zeros among its first bytes show which: the first characters of a document are plain ones, so
-- only a wider unit has a zero there.

namespace Dialogue.Text

/-! ## Pairs of units -/

def isHighUnit (u : Nat) : Bool := 0xD800 ≤ u && u < 0xDC00

def isLowUnit (u : Nat) : Bool := 0xDC00 ≤ u && u < 0xE000

/-- The character of two units of a pair. -/
def pairedChar (high low : Nat) : Char :=
  Char.ofNat (0x10000 + (high - 0xD800) * 0x400 + (low - 0xDC00))

/-- The character of a unit that stands alone. A half of a pair has none and is replaced. -/
def loneChar (u : Nat) : Char :=
  if isHighUnit u || isLowUnit u then Char.ofNat 0xFFFD else Char.ofNat u

/-- The characters of units of sixteen bits. -/
def charsOfUnits : List Nat → List Char
  | [] => []
  | [u] => [loneChar u]
  | u :: v :: rest =>
    if isHighUnit u && isLowUnit v then pairedChar u v :: charsOfUnits rest
    else loneChar u :: charsOfUnits (v :: rest)

/-! ## Bytes -/

/-- How bytes make up units, and whether the highest byte of a unit comes first. -/
inductive Width where
  | one
  | two (highFirst : Bool)
  | four (highFirst : Bool)
  deriving DecidableEq

/-- The width that the first bytes of a document show. -/
def Width.ofStart : List UInt8 → Width
  | [a, b] => if a == 0 then .two true else if b == 0 then .two false else .one
  | a :: b :: c :: d :: _ =>
    if a == 0 then if b == 0 then .four true else .two true
    else if b == 0 then if c == 0 && d == 0 then .four false else .two false
    else .one
  | _ => .one

def unitOf (highFirst : Bool) (bytes : List UInt8) : Nat :=
  (if highFirst then bytes else bytes.reverse).foldl (fun n b => 256 * n + b.toNat) 0

/-- The units of two bytes each, if no byte is left over. -/
def pairUnits? (highFirst : Bool) : List UInt8 → Option (List Nat)
  | [] => some []
  | a :: b :: rest => (pairUnits? highFirst rest).map (unitOf highFirst [a, b] :: ·)
  | _ => none

/-- The units of four bytes each, if no byte is left over and each is a character. -/
def quadUnits? (highFirst : Bool) : List UInt8 → Option (List Nat)
  | [] => some []
  | a :: b :: c :: d :: rest =>
    let u := unitOf highFirst [a, b, c, d]
    if u < 0x110000 then (quadUnits? highFirst rest).map (u :: ·) else none
  | _ => none

/-- The text without the mark that may stand in front of it. -/
def withoutMark : List Char → List Char
  | c :: rest => if c.toNat == 0xFEFF then rest else c :: rest
  | [] => []

/-- The document that is meant by the bytes of a text, unless they cannot be read in their width. -/
def unpacked? (s : String) : Option String :=
  let bytes := s.toUTF8.data.toList
  match Width.ofStart bytes with
  | .one => some (String.ofList (withoutMark s.toList))
  | .two highFirst => (pairUnits? highFirst bytes).map fun us => String.ofList (charsOfUnits us)
  | .four highFirst => (quadUnits? highFirst bytes).map fun us => String.ofList (us.map loneChar)

end Dialogue.Text
