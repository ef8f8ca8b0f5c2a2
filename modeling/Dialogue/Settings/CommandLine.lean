-- The command line of a group of settings: how its arguments are taken, and the flags under which
-- they name the settings. No flag names two settings, and no setting takes a name that an earlier
-- one has.
import Dialogue.Flow
import Dialogue.Settings.Controls
import Dialogue.Text.Whole

namespace Dialogue

/-- How the arguments of a command line are taken. -/
structure CommandLine where
  /-- Whether letter case counts in names. -/
  exact : Bool := false
  /-- Whether what names no setting is passed over. -/
  lenient : Bool := false
  /-- Whether the program ends at arguments that it cannot take. -/
  ends : Bool := true
  /-- What the names of the settings start with. -/
  lead : String := ""
  /-- Whether the words in a name have dashes between them, and not low lines. -/
  dashed : Bool := false
  /-- The text that stands for null, if one does. -/
  nullText : Option String := some "null"
  /-- The characters that mark a name. -/
  marks : String := "-"
  /-- Further names for names. -/
  shortcuts : Fields := []

namespace CommandLine

/-! ## What is said about it -/

/-- Whether a text can stand in front of names: low lines, digits and letters, where all that is not
ASCII passes for a letter, with dots inside. No digit comes first. -/
def isDotted (text : String) : Bool :=
  let cs := text.toList.filter (· != '.')
  !text.startsWith "." && !text.endsWith "."
    && cs.all (fun c => c == '_' || c.isAlphanum || 128 ≤ c.toNat)
    && cs.head?.any fun c => !c.isDigit

/-- What the names start with: words with dots between them, and one more dot. -/
def leadOf (fs : Fields) : Outcome String :=
  match Controls.given? fs "_cli_prefix" with
  | none => .ok ""
  | some (.str lead) =>
    if isDotted lead then .ok (lead ++ ".")
    else .error (.badArguments ("CLI settings source prefix is invalid: " ++ lead))
  | some _ => .error .noSuchPart

/-- The characters that mark a name. There must be one. -/
def marksOf (fs : Fields) : Outcome String :=
  match Controls.said? fs "_cli_flag_prefix_char" with
  | none => .ok "-"
  | some (.str "") | some (.arr []) => .error .nothingThere
  | some (.str marks) => .ok marks
  | some _ => .error .wrongKind

/-- The command line by what a document says, but without its shortcuts. -/
def ofControls (fs : Fields) : Outcome CommandLine := do
  if let some (.obj _) := Controls.said? fs "_cli_flag_prefix_char" then .error .wrongKind
  let lead ← leadOf fs
  let marks ← marksOf fs
  let usual :=
    if Controls.said? fs "_cli_avoid_json" matches some (.bool true) then "None" else "null"
  return {
    lead, marks
    exact := (Controls.said? fs "_case_sensitive").any fun j => !(j matches .bool false)
    lenient := Controls.holds fs "_cli_ignore_unknown_args"
    ends := (Controls.said? fs "_cli_exit_on_error").all Json.isPresent
    dashed := (Controls.said? fs "_cli_kebab_case").any fun j => !j.same (.bool false)
    nullText := ((Controls.given? fs "_cli_parse_none_str").getD (.str usual)).str? }

def shortcutsOf (fs : Fields) : Outcome Fields :=
  match Controls.given? fs "_cli_shortcuts" with
  | none => .ok []
  | some (.obj shortcuts) => .ok shortcuts
  | some _ => .error .noSuchPart

/-- A choice that is a truth value. -/
def checkChoice (fs : Fields) (name field : String) : Checked Unit :=
  match Controls.said? fs name with
  | none => .good ()
  | some j => (j.checkTruth.map fun _ => ()).under field

/-- Whether there are dashes in names is a truth value or one of two words. -/
def checkDashes (fs : Fields) : Checked Unit :=
  match Controls.said? fs "_cli_kebab_case" with
  | none => .good ()
  | some j =>
    let truth := (j.checkTruth.map fun _ => ()).under "bool"
    let word := (j.checkWord ["all", "no_enums"]).under "literal['all','no_enums']"
    (truth.either word).under "kebab_case"

/-- What the record of an argument is called. -/
def title : String := "_CliArg"

/-- The choices that are noted down with every argument. -/
def checkChoices (fs : Fields) : Checked Unit :=
  (fun _ _ _ => ()) <$> checkChoice fs "_case_sensitive" "case_sensitive"
    <*> checkChoice fs "_cli_hide_none_type" "hide_none_type" <*> checkDashes fs

/-! ## Flags -/

/-- What a setting is called. -/
def called (c : CommandLine) (setting : String) : String :=
  let name := c.lead ++ setting
  if c.dashed then name.replace "_" "-" else name

/-- The first of the marks, where they start over again at their end. -/
def firstMarks (c : CommandLine) (count : Nat) : String :=
  String.ofList ((c.marks ++ c.marks).toList.take count)

/-- How a name is written in an argument: behind one mark if it has a single part, and else behind
two. -/
def flag (c : CommandLine) (name : Json) : Outcome String :=
  match name.elements? with
  | some [_] => .ok (c.firstMarks 1 ++ name.text)
  | some _ => .ok (c.firstMarks 2 ++ name.text)
  | none => .error .wrongKind

/-- The flags under which help is asked for. -/
def helpFlags (c : CommandLine) : List String :=
  [c.firstMarks 1 ++ "h", c.firstMarks 2 ++ "help"]

/-- What an argument can name. -/
inductive Target where
  | setting (name : String)
  | help

/-- All flags, with what they name. -/
abbrev Names := List (List String × Target)

def Names.named? (names : Names) (flag : String) : Option (List String × Target) :=
  names.find? fun n => n.1.contains flag

/-- The further names of one name: a single one, or several. -/
def furtherNames : Json → Outcome (List Json)
  | .str name => .ok [.str name]
  | j => j.asList

/-- The names of a setting, without those that are taken. A further name can have further names. -/
def namesOf (c : CommandLine) (taken : List Json) (setting : String) : Outcome (List Json) :=
  let free (names : List Json) := names.filter fun name => !name.isIn taken
  c.shortcuts.foldlM (fun names s => do
    if Json.isIn (.str s.1) names then return names ++ free (← furtherNames s.2)
    else return names) (free [.str (c.called setting)])

/-- Adds the flags of settings to those that are there. None may be there already. -/
def addNames (c : CommandLine) (taken : List Json) (known : Names) :
    List String → Outcome Names
  | [] => .ok known
  | setting :: settings => do
    let names ← c.namesOf taken setting
    let flags ← names.mapM c.flag
    if flags.any fun flag => (known.named? flag).isSome then .error .twoMeanings
    else addNames c (taken ++ names) (known ++ [(flags, .setting setting)]) settings

/-- The flags of all settings, and those for help. -/
def names (c : CommandLine) (settings : List String) : Outcome Names :=
  c.addNames [] [(c.helpFlags, .help)] settings

end CommandLine

end Dialogue
