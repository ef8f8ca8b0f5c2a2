-- Decimal text of binary64 numbers, worked out in whole numbers: a fixed count of places, and the
-- fewest digits that read back. Reading rounds to the nearest number, ties to the even one.

namespace Dialogue

/-! ## Powers -/

/-- The power of two. -/
def twoTo (n : Nat) : Nat := Nat.pow 2 n

/-- The power of ten. -/
def tenTo (n : Nat) : Nat := Nat.pow 10 n

/-! ## A binary64 number taken apart -/

/-- A finite number is `significand · 2 ^ exponent`, with a sign of its own. -/
structure Binary where
  negative : Bool
  significand : Nat
  exponent : Int

inductive Magnitude where
  | finite (b : Binary)
  | infinite (negative : Bool)
  | undefined

def magnitude (x : Float) : Magnitude :=
  let bits := x.toBits.toNat
  let negative := bits / twoTo 63 == 1
  let e : Nat := bits / twoTo 52 % 2048
  let frac := bits % twoTo 52
  if e == 2047 then
    if frac == 0 then .infinite negative else .undefined
  else if e == 0 then .finite ⟨negative, frac, -1074⟩
  else .finite ⟨negative, frac + twoTo 52, Int.ofNat e - 1075⟩

/-- The number as `numerator / 2 ^ places`. -/
structure Dyadic64 where
  numerator : Int
  places : Nat

def Binary.toDyadic (b : Binary) : Dyadic64 :=
  let m : Int := if b.negative then -(b.significand : Int) else b.significand
  if b.exponent < 0 then ⟨m, (-b.exponent).toNat⟩ else ⟨m * twoTo b.exponent.toNat, 0⟩

/-- The whole part, cut off toward zero. -/
def Binary.truncate (b : Binary) : Int :=
  let d := b.toDyadic
  d.numerator.tdiv (twoTo d.places)

def Binary.floor (b : Binary) : Int :=
  let d := b.toDyadic
  d.numerator.fdiv (twoTo d.places)

def Binary.isWhole (b : Binary) : Bool :=
  let d := b.toDyadic
  d.numerator % twoTo d.places == 0

/-! ## A fixed count of places -/

/-- The quotient rounded to the nearest whole number, a half to the even one. -/
def roundHalfEven (num den : Nat) : Nat :=
  let q := num / den
  let r := num % den
  if 2 * r < den then q
  else if den < 2 * r then q + 1
  else if q % 2 == 0 then q else q + 1

/-- The digits with zeros in front up to the width. -/
def padded (width n : Nat) : String :=
  let digits := Nat.toDigits 10 n
  String.ofList (List.replicate (width - digits.length) '0' ++ digits)

def Binary.fixed (places : Nat) (b : Binary) : String :=
  let scaled := b.significand * tenTo places
  let n :=
    if b.exponent < 0 then roundHalfEven scaled (twoTo (-b.exponent).toNat)
    else scaled * twoTo b.exponent.toNat
  (if b.negative then "-" else "") ++ toString (n / tenTo places) ++ "."
    ++ padded places (n % tenTo places)

/-- The text with that many places after the point. -/
def fixedText (places : Nat) (x : Float) : String :=
  match magnitude x with
  | .finite b => b.fixed places
  | .infinite negative => if negative then "-inf" else "inf"
  | .undefined => "nan"

/-! ## The fewest digits that read back -/

/-- `n · 2 ^ twos / 10 ^ tens` as a quotient of whole numbers. -/
def quotient (n : Nat) (twos tens : Int) : Nat × Nat :=
  (n * twoTo twos.toNat * tenTo (-tens).toNat, twoTo (-twos).toNat * tenTo tens.toNat)

/-- The reals that round to the number, in quarters of its last bit. -/
structure Rounding where
  low : Nat
  mid : Nat
  high : Nat
  /-- Whether the two ends round to the number too. -/
  closed : Bool
  twos : Int

def Binary.rounding (b : Binary) : Rounding :=
  let m := 4 * b.significand
  let low := if b.significand == twoTo 52 && b.exponent != -1074 then m - 1 else m - 2
  ⟨low, m, m + 2, b.significand % 2 == 0, b.exponent - 2⟩

/-- Whether `digits · 10 ^ tens` rounds to the number. -/
def Rounding.holds (r : Rounding) (tens : Int) (digits : Nat) : Bool :=
  let low := quotient r.low r.twos tens
  let high := quotient r.high r.twos tens
  if r.closed then low.1 ≤ digits * low.2 && digits * high.2 ≤ high.1
  else low.1 < digits * low.2 && digits * high.2 < high.1

/-- The grid point of step `10 ^ tens` that rounds to the number and lies nearest, if one does. -/
def Rounding.nearest? (r : Rounding) (tens : Int) : Option Nat :=
  let (num, den) := quotient r.mid r.twos tens
  let below := num / den
  let above := below + 1
  match r.holds tens below, r.holds tens above with
  | true, true =>
    let gap := 2 * (num % den)
    if gap < den || (gap == den && below % 2 == 0) then some below else some above
  | true, false => some below
  | false, true => some above
  | false, false => none

/-- The first grid with a hit, from coarse to fine. -/
def Rounding.coarsest (r : Rounding) : Nat → Int → Nat × Int
  | 0, tens => (r.mid, tens)
  | left + 1, tens =>
    match r.nearest? tens with
    | some digits => (digits, tens)
    | none => r.coarsest left (tens - 1)

/-- The place of the first digit: the greatest `k` with `10 ^ k` at most the number. It is looked
for downward from above the greatest binary64 number. -/
def leadingPlace (n : Nat) (twos : Int) : Nat → Int → Int
  | 0, k => k
  | left + 1, k =>
    let (num, den) := quotient n twos k
    if den ≤ num then k else leadingPlace n twos left (k - 1)

/-- Takes zeros off the end of a run of digits. -/
def dropZeros : Nat → Nat → Int → Nat × Int
  | 0, n, tens => (n, tens)
  | left + 1, n, tens =>
    if n != 0 && n % 10 == 0 then dropZeros left (n / 10) (tens + 1) else (n, tens)

/-- Digits and a power of ten: the fewest digits that read back, of these the nearest. -/
def Binary.shortest (b : Binary) : Nat × Int :=
  if b.significand == 0 then (0, 0)
  else
    let r := b.rounding
    let top := leadingPlace r.mid r.twos 640 309
    let (digits, tens) := r.coarsest 18 top
    dropZeros 20 digits tens

/-- The digits are laid out in place for a first digit from the fourth place after the point to the
sixteenth before it, and else with a power of ten of two digits or more. -/
def layOut (digits : List Char) (point : Int) : String :=
  let count : Int := digits.length
  let text := String.ofList digits
  if -4 < point && point ≤ 16 then
    if point ≤ 0 then "0." ++ String.ofList (List.replicate (-point).toNat '0') ++ text
    else if count ≤ point then
      text ++ String.ofList (List.replicate (point - count).toNat '0') ++ ".0"
    else String.ofList (digits.take point.toNat) ++ "." ++ String.ofList (digits.drop point.toNat)
  else
    let tail := digits.drop 1
    let e := point - 1
    String.ofList (digits.take 1) ++ (if tail.isEmpty then "" else "." ++ String.ofList tail)
      ++ (if e < 0 then "e-" else "e+") ++ padded 2 e.natAbs

/-- The text with the fewest digits that read back. -/
def shortestText (x : Float) : String :=
  match magnitude x with
  | .finite b =>
    let (digits, tens) := b.shortest
    let ds := Nat.toDigits 10 digits
    (if b.negative then "-" else "") ++ layOut ds (ds.length + tens)
  | .infinite negative => if negative then "-inf" else "inf"
  | .undefined => "nan"

/-! ## Reading -/

def infinity : Float := 1.0 / 0.0

def notANumber : Float := 0.0 / 0.0

/-- The number nearest to `digits · 10 ^ tens`. -/
def nearestFloat (digits : Nat) (tens : Int) : Float :=
  let size : Int := (Nat.toDigits 10 digits).length
  if digits == 0 || size + tens < -330 then 0.0
  else if 310 < size + tens then infinity
  else if tens < 0 then Float.ofScientific digits true (-tens).toNat
  else Float.ofScientific digits false tens.toNat

/-- The number nearest to a whole number. -/
def floatOfInt (n : Int) : Float :=
  let x := nearestFloat n.natAbs 0
  if n < 0 then -x else x

/-- Whether a whole number lies beyond the greatest binary64 number. -/
def overflowsFloat (n : Int) : Bool := (floatOfInt n.natAbs).isInf

end Dialogue
