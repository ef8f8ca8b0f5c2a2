-- Points in time and spans, in whole microseconds. Time is counted from the start of the year 2024,
-- and the calendar has the years 1 to 9999.
import Dialogue.Fault
import Dialogue.Text.Whole

namespace Dialogue.Clock

/-! ## The calendar -/

structure Date where
  year : Nat
  month : Nat
  day : Nat

/-- The date that lies so many days after the first of March of the year 0. Years are counted from
March on, so that the leap day is the last day of its year. -/
def dateOfDays (days : Nat) : Date :=
  let era := days / 146097
  let inEra := days % 146097
  let yearOfEra := (inEra - inEra / 1460 + inEra / 36524 - inEra / 146096) / 365
  let inYear := inEra - (365 * yearOfEra + yearOfEra / 4 - yearOfEra / 100)
  let shifted := (5 * inYear + 2) / 153
  let day := inYear - (153 * shifted + 2) / 5 + 1
  let month := if shifted < 10 then shifted + 3 else shifted - 9
  ⟨yearOfEra + era * 400 + (if month ≤ 2 then 1 else 0), month, day⟩

/-- The days from the first of March of the year 0 to the first of January 2024. -/
def firstDay : Nat := 739191

/-- The microseconds of a day. -/
def dayLength : Nat := 86400000000

/-- The date and the time of day, with six places of the second if they are not all zero. -/
def stamp (now : Int) : String :=
  let us := (firstDay * dayLength + now).toNat
  let d := dateOfDays (us / dayLength)
  let s := us / 1000000 % 86400
  let fraction := us % 1000000
  padded 4 d.year ++ "-" ++ padded 2 d.month ++ "-" ++ padded 2 d.day ++ "T" ++ padded 2 (s / 3600)
    ++ ":" ++ padded 2 (s / 60 % 60) ++ ":" ++ padded 2 (s % 60)
    ++ (if fraction == 0 then "" else "." ++ padded 6 fraction)

/-- The first moment of the calendar. -/
def firstMoment : Int := -63839664000000000

/-- The last moment of the calendar. -/
def lastMoment : Int := 251698233599999999

/-- Whether the calendar has a moment. -/
def isDated (now : Int) : Bool := firstMoment ≤ now && now ≤ lastMoment

/-- A moment, if the calendar has it. -/
def dated (now : Int) : Outcome Int := if isDated now then .ok now else .error .overflow

/-! ## Spans -/

/-- A span as a number of seconds. -/
def seconds (us : Int) : Float :=
  let x := nearestFloat us.natAbs (-6)
  if us < 0 then -x else x

/-- The same where the number of microseconds is itself rounded before it is divided. -/
def roughSeconds (us : Int) : Float := floatOfInt us / 1000000.0

/-- The fault where an undefined number should become a whole one. -/
def undefinedWhole : Fault := .badValue "cannot convert float NaN to integer"

/-- The fault where a text should be a whole number. Of a long text only the start is shown. -/
def unreadableWhole (s : String) : Fault :=
  .badValue ("invalid literal for int() with base 10: "
    ++ String.ofList ((Text.quoted s).toList.take 200))

/-- The span of so many seconds, to the nearest microsecond. A negative one is no time at all, and
one without end is a fault. -/
def spanOf (seconds : Float) : Outcome Nat :=
  match magnitude (seconds * 1000000.0 + 0.5) with
  | .finite b => .ok b.floor.toNat
  | .infinite _ => .error .overflow
  | .undefined => .error undefinedWhole

/-- The span of a value that must be a number of seconds. -/
def spanOfNumber : Json → Outcome Nat
  | .bool b => spanOf (if b then 1.0 else 0.0)
  | .int n => if overflowsFloat n then .error .overflow else spanOf (floatOfInt n)
  | .float x => spanOf x
  | _ => .error .wrongKind

/-- Minutes and seconds, each with two digits or more. -/
def minutesText (seconds : Int) : String :=
  let two (n : Int) : String :=
    if n < 0 then "-" ++ padded 1 n.natAbs else padded 2 n.natAbs
  two (seconds.fdiv 60) ++ ":" ++ two (seconds.fmod 60)

/-- The length of a call as it is shown, without the fraction of a second. -/
def durationText (us : Int) : String :=
  match magnitude (seconds us) with
  | .finite b => minutesText b.truncate
  | _ => minutesText 0

/-- The length of a call that is given as a number of seconds, which may stand in a text if it is
whole. -/
def lengthText : Json → Outcome String
  | .bool b => .ok (minutesText (if b then 1 else 0))
  | .int n => .ok (minutesText n)
  | .float x =>
    match magnitude x with
    | .finite b => .ok (minutesText b.truncate)
    | .infinite _ => .error .overflow
    | .undefined => .error undefinedWhole
  | .str s =>
    match Text.readNumeral s.toList with
    | .ok n => .ok (minutesText n)
    | .error .unreadable => .error (unreadableWhole s)
    | .error .tooLong => .error .tooManyDigits
  | _ => .error .wrongKind

end Dialogue.Clock
