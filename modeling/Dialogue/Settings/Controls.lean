-- What a document about a group of settings says on how the rest of the group is found and read.
-- Some of it makes no difference, but it must make sense all the same.
import Dialogue.Fault

namespace Dialogue.Controls

/-- The names under which such things are said. -/
def names : List String :=
  ["_case_sensitive", "_nested_model_default_partial_update", "_env_prefix", "_env_prefix_target",
    "_env_file", "_env_file_depth", "_env_file_encoding", "_env_ignore_empty",
    "_env_nested_delimiter", "_env_nested_max_split", "_env_parse_none_str", "_env_parse_enums",
    "_cli_prog_name", "_cli_parse_args", "_cli_settings_source", "_cli_parse_none_str",
    "_cli_hide_none_type", "_cli_avoid_json", "_cli_enforce_required",
    "_cli_use_class_docs_for_groups", "_cli_exit_on_error", "_cli_prefix", "_cli_flag_prefix_char",
    "_cli_implicit_flags", "_cli_ignore_unknown_args", "_cli_kebab_case", "_cli_shortcuts",
    "_cli_show_env_vars", "_secrets_dir", "_build_sources"]

/-- Whether a name is the one that is kept for the group itself, so that nothing can be given under
it. -/
def isReserved (name : String) : Bool :=
  name.length == 17 && name.startsWith "__p" && name.endsWith "c_self__"

/-- What a document says under a name. A null says nothing. -/
def said? (fs : Fields) (name : String) : Option Json :=
  match fs.lookup name with
  | some .null => none
  | j => j

/-- What is said, if it counts as given. -/
def given? (fs : Fields) (name : String) : Option Json := (said? fs name).filter Json.isPresent

def holds (fs : Fields) (name : String) : Bool := (given? fs name).isSome

/-! ## Files -/

/-- Files and folders are named by a text or by several. -/
def checkPlaces (fs : Fields) (name : String) : Outcome Unit :=
  match said? fs name with
  | none | some (.str _) | some (.obj _) => .ok ()
  | some (.arr xs) => if xs.all fun x => x.str?.isSome then .ok () else .error .wrongKind
  | some _ => .error .wrongKind

/-- How many folders may be searched for a file upwards: any number that is not above zero, or else
a whole one. -/
def checkFileDepth (fs : Fields) : Outcome Unit :=
  match said? fs "_env_file_depth" with
  | none => .ok ()
  | some j =>
    match j.number? with
    | none => .error .wrongKind
    | some n =>
      let isCount :=
        match j with
        | .int n => n < 9223372036854775808
        | .bool _ => true
        | _ => false
      if isCount || !(Json.Number.exact ⟨0, 0⟩).below n then .ok ()
      else
        .error (.badValue
          "Stop argument for islice() must be None or an integer: 0 <= x <= sys.maxsize.")

/-- The files that variables are taken from, if there are any. -/
def checkFiles (fs : Fields) : Outcome Unit := do
  checkPlaces fs "_env_file"
  let isNamed :=
    match said? fs "_env_file" with
    | some (.str _) => true
    | some j => j.isPresent
    | none => false
  if isNamed then checkFileDepth fs

end Dialogue.Controls
