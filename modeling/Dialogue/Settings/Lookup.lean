-- How the variables of a group of settings are found and read: what their names start with, whether
-- letter case counts in them, and how the name of a field in an object is joined to them.
import Dialogue.Settings.Controls
import Dialogue.Text.Letters

namespace Dialogue

abbrev Environment := List (String × String)

/-- How the variables of a group are found and read. -/
structure Lookup where
  /-- What the names of the variables start with. -/
  lead : String := ""
  /-- Whether letter case counts. -/
  exact : Bool := false
  /-- Whether an empty variable counts as not given. -/
  skipsEmpty : Bool := false
  /-- The text that stands for null. -/
  nullText : Option String := none
  /-- What joins the name of an object with the name of a field in it. Only at a text can a name be
  taken apart. -/
  joint : Option Json := none
  /-- The most parts of a name that is taken apart. Zero and less set no limit, nor does null. -/
  mostParts : Json := .null

namespace Lookup

/-- Whether the lead is for the names of variables. It can be said that it is not. -/
def isLeadMeant (fs : Fields) : Bool :=
  (Controls.said? fs "_env_prefix_target").all fun j =>
    j.same (.str "variable") || j.same (.str "all")

/-- What the names of the variables start with. It must have a length at least. -/
def leadOf (lead : String) (fs : Fields) : Outcome String :=
  match Controls.said? fs "_env_prefix" with
  | none => .ok (if isLeadMeant fs then lead else "")
  | some (.str s) => .ok (if isLeadMeant fs then s else "")
  | some (.arr _) | some (.obj _) => .ok ""
  | some _ => .error .wrongKind

/-- Whether a lead was given that is no text. -/
def hasListLead (fs : Fields) : Bool :=
  match Controls.said? fs "_env_prefix" with
  | some (.arr _) | some (.obj _) => true
  | _ => false

/-- The lookup of a group by what its document says. -/
def ofControls (lead : String) (fs : Fields) : Outcome Lookup := do
  let mostParts := (Controls.said? fs "_env_nested_max_split").getD .null
  if mostParts.isPresent && mostParts.number?.isNone then .error .wrongKind
  let lead ← leadOf lead fs
  Controls.checkFiles fs
  return {
    lead, mostParts
    exact := Controls.holds fs "_case_sensitive"
    skipsEmpty := Controls.holds fs "_env_ignore_empty"
    nullText := (Controls.said? fs "_env_parse_none_str").bind Json.str?
    joint := Controls.given? fs "_env_nested_delimiter" }

/-- A name as it is compared. -/
def fold (l : Lookup) (name : String) : String := if l.exact then name else Text.lower name

/-- What the variable of a setting is called, as names are compared. -/
def called (l : Lookup) (name : String) : String := l.fold (l.lead ++ name)

/-- The variables that count, under names as they are compared. Of two with one name the later
counts. -/
def seen (l : Lookup) (env : Environment) : Environment :=
  Fields.merge [] ((env.filter fun v => !(l.skipsEmpty && v.2 == "")).map fun v =>
    (l.fold v.1, v.2))

/-- How often a name is taken apart, if there is a limit. There can be none with a fraction. -/
def cuts (l : Lookup) : Outcome (Option Nat) :=
  match l.mostParts with
  | .float x => if x == 0.0 then .ok none else .error .wrongKind
  | .int n => .ok (if 1 ≤ n then some (n - 1).toNat else none)
  | .bool true => .ok (some 0)
  | _ => .ok none

/-- The parts of a name between the joints. Where there is a limit the last one holds all that is
left. -/
def path (l : Lookup) (joint : Json) (name : String) : Outcome (List String) :=
  match joint with
  | .str joint => do
    let names := name.splitOn joint
    return match ← l.cuts with
      | some count =>
        if count < names.length then names.take count ++ [joint.intercalate (names.drop count)]
        else names
      | none => names
  | _ => .error .wrongKind

/-- The value that a text stands for. -/
def value (l : Lookup) (s : String) : Json := if l.nullText == some s then .null else .str s

end Lookup

end Dialogue
