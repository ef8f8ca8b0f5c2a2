-- Checking the fields of a document against the shape they should have. All complaints are
-- gathered, each with the path to the field that it is about.
import Dialogue.Json
import Dialogue.Text.Whole

namespace Dialogue

/-- What is wrong with a field. -/
inductive Wrong where
  | notText
  | notWhole
  | unreadableWhole
  | hasFraction
  | wholeTooLarge
  | notFinite
  | notNumber
  | unreadableNumber
  | notTruth
  | unreadableTruth
  | belowLeast
  | aboveMost
  | tooShort
  | tooLong
  | notList
  | notObject
  | notRecord
  | notForm
  | notListed
  | otherWord
  | missing
  | unknown
  | unreadable
  | unsettled
  deriving DecidableEq

def Wrong.word : Wrong → String
  | .notText => "string_type"
  | .notWhole => "int_type"
  | .unreadableWhole => "int_parsing"
  | .hasFraction => "int_from_float"
  | .wholeTooLarge => "int_parsing_size"
  | .notFinite => "finite_number"
  | .notNumber => "float_type"
  | .unreadableNumber => "float_parsing"
  | .notTruth => "bool_type"
  | .unreadableTruth => "bool_parsing"
  | .belowLeast => "greater_than_equal"
  | .aboveMost => "less_than_equal"
  | .tooShort => "string_too_short"
  | .tooLong => "string_too_long"
  | .notList => "list_type"
  | .notObject => "dict_type"
  | .notRecord => "model_type"
  | .notForm => "model_attributes_type"
  | .notListed => "enum"
  | .otherWord => "literal_error"
  | .missing => "missing"
  | .unknown => "extra_forbidden"
  | .unreadable => "json_invalid"
  | .unsettled => "value_error"

structure Complaint where
  path : List String
  wrong : Wrong
  deriving DecidableEq

def Complaint.text (c : Complaint) : String := ".".intercalate c.path ++ ": " ++ c.wrong.word

/-- The complaints as they are reported, in order. -/
def reported (complaints : List Complaint) : List String :=
  (complaints.map Complaint.text).mergeSort (fun a b => !(b < a))

/-- A value that passed its checks, or all that is wrong with it. -/
inductive Checked (α : Type) where
  | good (value : α)
  | bad (complaints : List Complaint)

namespace Checked

variable {α β : Type}

def map (f : α → β) : Checked α → Checked β
  | good a => good (f a)
  | bad cs => bad cs

/-- Both must pass. The complaints of both are kept. -/
def apply : Checked (α → β) → Checked α → Checked β
  | good f, good a => good (f a)
  | good _, bad cs => bad cs
  | bad cs, good _ => bad cs
  | bad cs, bad ds => bad (cs ++ ds)

instance : Functor Checked := ⟨map, fun a => map fun _ => a⟩

instance : Applicative Checked where
  pure := good
  seq f x := apply f (x ())

/-- A further check of a value that passed. -/
def andThen (x : Checked α) (f : α → Checked β) : Checked β :=
  match x with
  | good a => f a
  | bad cs => bad cs

def refuse (wrong : Wrong) : Checked α := bad [⟨[], wrong⟩]

/-- One of the two must pass. Where neither does, the complaints of both are kept. -/
def either : Checked α → Checked α → Checked α
  | good a, _ => good a
  | bad _, good b => good b
  | bad cs, bad ds => bad (cs ++ ds)

/-- The same check of a part that lies one step deeper. -/
def under (key : String) : Checked α → Checked α
  | good a => good a
  | bad cs => bad (cs.map fun c => ⟨key :: c.path, c.wrong⟩)

/-- Every element passes, each with its place. -/
def all (check : α → Checked β) : List (String × α) → Checked (List (String × β))
  | [] => good []
  | (key, a) :: rest =>
    apply (map (fun b bs => (key, b) :: bs) ((check a).under key)) (all check rest)

end Checked

/-! ## Single values -/

namespace Json

def checkText : Json → Checked String
  | .str s => .good s
  | _ => .refuse .notText

def checkOptionalText : Json → Checked (Option String)
  | .null => .good none
  | .str s => .good (some s)
  | _ => .refuse .notText

def wholeOfText (s : String) : Checked Int :=
  match Text.readWhole s with
  | .ok n => .good n
  | .error .unreadable => .refuse .unreadableWhole
  | .error .tooLong => .refuse .wholeTooLarge

def checkWhole : Json → Checked Int
  | .bool b => .good (if b then 1 else 0)
  | .int n => .good n
  | .float x =>
    match magnitude x with
    | .finite b =>
      if !b.isWhole then .refuse .hasFraction
      else if twoTo 63 ≤ b.truncate.natAbs then .refuse .wholeTooLarge
      else .good b.truncate
    | _ => .refuse .notFinite
  | .str s => wholeOfText s
  | _ => .refuse .notWhole

/-- The exponent after the places of a number, if that is all there is. -/
def exponent? : List Char → Option Int
  | [] => some 0
  | e :: rest =>
    let (down, digits) := Text.takeSign rest
    if (e == 'e' || e == 'E') && !digits.isEmpty && digits.all Text.isPlainDigit then
      some (Text.withSign down (Text.numeral digits))
    else none

/-- Digits with a point somewhere, and an exponent. -/
def decimal? (cs : List Char) : Option Float :=
  let whole := cs.takeWhile Text.isPlainDigit
  let rest := cs.dropWhile Text.isPlainDigit
  let (places, rest) :=
    match rest with
    | '.' :: r => (r.takeWhile Text.isPlainDigit, r.dropWhile Text.isPlainDigit)
    | r => ([], r)
  if whole.isEmpty && places.isEmpty then none
  else
    (exponent? rest).map fun tens =>
      nearestFloat (Text.numeral (whole ++ places)) (tens - places.length)

/-- A number as it stands in a text, without blanks. Its size may also be given by a word. -/
def floatOfChars? (cs : List Char) : Option Float :=
  let (negative, cs) := Text.takeSign cs
  let size : Option Float :=
    match String.ofList (cs.map Char.toLower) with
    | "inf" | "infinity" => some infinity
    | "nan" => some notANumber
    | _ => decimal? cs
  size.map fun x => if negative then -x else x

def floatOfText (s : String) : Checked Float :=
  match floatOfChars? (Text.trimBy Text.isSpace s.toList) with
  | some x => .good x
  | none =>
    if s.toList.contains '_' && Text.underscoresBetween s.toList then
      match floatOfChars? (s.toList.filter (· != '_')) with
      | some x => .good x
      | none => .refuse .unreadableNumber
    else .refuse .unreadableNumber

def checkFloat : Json → Checked Float
  | .bool b => .good (if b then 1.0 else 0.0)
  | .int n => if overflowsFloat n then .refuse .notNumber else .good (floatOfInt n)
  | .float x => .good x
  | .str s => floatOfText s
  | _ => .refuse .notNumber

/-- The words for yes and no, in any letter case. -/
def truthOfText (s : String) : Checked Bool :=
  let word := String.ofList (s.toList.map Char.toLower)
  if ["1", "true", "t", "yes", "y", "on"].contains word then .good true
  else if ["0", "false", "f", "no", "n", "off"].contains word then .good false
  else .refuse .unreadableTruth

def truthOfWhole : Int → Checked Bool
  | 0 => .good false
  | 1 => .good true
  | _ => .refuse .unreadableTruth

/-- A number is a truth value if it is zero or one. -/
def checkTruth : Json → Checked Bool
  | .bool b => .good b
  | .str s => truthOfText s
  | .int n => if twoTo 63 ≤ n.natAbs then .refuse .notTruth else truthOfWhole n
  | .float x =>
    match magnitude x with
    | .finite b =>
      if !b.isWhole || twoTo 63 ≤ b.truncate.natAbs then .refuse .notTruth
      else truthOfWhole b.truncate
    | _ => .refuse .notTruth
  | _ => .refuse .notTruth

/-- One of the given words. -/
def checkWord (words : List String) : Json → Checked Unit
  | .str s => if words.contains s then .good () else .refuse .otherWord
  | _ => .refuse .otherWord

def checkAtLeast (least : Int) (j : Json) : Checked Int :=
  j.checkWhole.andThen fun n => if n < least then .refuse .belowLeast else .good n

def numbered {α : Type} (xs : List α) : List (String × α) :=
  xs.zipIdx.map fun p => (toString p.2, p.1)

/-- A list whose elements all pass. -/
def checkList {α : Type} (check : Json → Checked α) : Json → Checked (List α)
  | .arr xs => (Checked.all check (numbered xs)).map fun items => items.map (·.2)
  | _ => .refuse .notList

/-- An object whose values all pass. -/
def checkObject {α : Type} (check : Json → Checked α) : Json → Checked (List (String × α))
  | .obj fs => Checked.all check fs
  | _ => .refuse .notObject

end Json

/-! ## Fields -/

namespace Fields

variable {α : Type}

/-- A field that may be left out. -/
def optional (fields : Fields) (key : String) (default : α) (check : Json → Checked α) :
    Checked α :=
  match fields.lookup key with
  | none => .good default
  | some j => (check j).under key

/-- A field that must be there. -/
def required (fields : Fields) (key : String) (check : Json → Checked α) : Checked α :=
  match fields.lookup key with
  | none => Checked.under key (.refuse .missing)
  | some j => (check j).under key

/-- No field but those that are known. -/
def onlyKnown (fields : Fields) (known : List String) : Checked Unit :=
  let unknown := fields.filter fun f => !known.contains f.1
  if unknown.isEmpty then .good () else .bad (unknown.map fun f => ⟨[f.1], .unknown⟩)

end Fields

end Dialogue
