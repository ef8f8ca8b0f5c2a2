-- Settings from environment variables. A name counts in any letter case, and of two that differ in
-- case only the later one counts. A group of settings has variables of its own, which start with
-- the name of the group, and it can be given as a whole, as a document. Letter case does not matter
-- there either. Such a document can also say that the variables of its group are found otherwise,
-- and give arguments of a command line, which count for more than all the rest.
import Dialogue.Settings
import Dialogue.Settings.Items
import Dialogue.Settings.Lookup

namespace Dialogue

/-- Sets a value at the end of a path of names. Where an object is needed and something else stands,
nothing changes, and a null only takes the place of an empty object. -/
def putAt (fs : Fields) : List String → Json → Fields
  | [], _ => fs
  | [name], .null =>
    match fs.lookup name with
    | none | some (.obj []) => Fields.put fs name .null
    | some _ => fs
  | [name], j => Fields.put fs name j
  | name :: path, j =>
    match fs.lookup name with
    | none => Fields.put fs name (.obj (putAt [] path j))
    | some (.obj inner) => Fields.put fs name (.obj (putAt inner path j))
    | some _ => fs

/-- The first fields with the second set over them. Where both hold an object, these are merged. -/
def overlay (fs more : Fields) : Fields :=
  more.foldl (fun acc f =>
    match acc.lookup f.1, f.2 with
    | some (.obj old), .obj new => Fields.put acc f.1 (.obj (Fields.merge old new))
    | _, j => Fields.put acc f.1 j) fs

namespace Environment

/-- How many lists and objects may stand inside one another in a setting. -/
def mostNested : Nat := 986

/-- The value of a setting. -/
def value? (env : Environment) (l : Lookup) (name : String) : Option String :=
  (l.seen env).lookup (l.called name)

/-- The fields of an object that have variables of their own. -/
def parts (env : Environment) (l : Lookup) (name : String) : Outcome Fields :=
  match l.joint with
  | none => .ok []
  | some joint =>
    let lead := l.called name ++ joint.text
    ((l.seen env).filter fun v => v.1.startsWith lead).foldlM (fun fs v => do
      return putAt fs (← l.path joint (v.1.drop lead.length).toString) (l.value v.2)) []

/-- The value of a setting that is written as a document. A null counts as not given. -/
def document? (env : Environment) (l : Lookup) (name : String) : Outcome (Option Json) :=
  match (env.value? l name).map fun s => (s, l.value s) with
  | none => do
    let fs ← env.parts l name
    return if fs.isEmpty then none else some (.obj fs)
  | some (_, .null) => .ok (some .null)
  | some (s, _) =>
    match Json.read mostNested s with
    | .error (.tooDeep _) => .error .tooDeep
    | .error _ => .error (.unreadableSetting name)
    | .ok .null => .ok none
    | .ok (.obj fs) => do return some (.obj (overlay fs (← env.parts l name)))
    | .ok j => .ok (some j)

def text? (env : Environment) (l : Lookup) (name : String) : Option Json :=
  (env.value? l name).map l.value

/-- The fields that the environment gives. Those in `documents` are written as documents. -/
def fields (env : Environment) (l : Lookup) (documents : List String) :
    List String → Outcome Fields
  | [] => .ok []
  | name :: names => do
    let value ←
      if documents.contains name then env.document? l name else pure (env.text? l name)
    let rest ← fields env l documents names
    return match value with
      | some j => (name, j) :: rest
      | none => rest

end Environment

/-- The fields under the known names, where a name is one of them in another letter case. Of several
spellings of one name the last counts. -/
def respelled (known : List String) (fs : Fields) : Fields :=
  fs.foldl (fun acc f =>
    Fields.put acc ((known.find? fun name => name == Text.lower f.1).getD f.1) f.2) []

/-- A group of settings. -/
structure SettingsGroup (α : Type) where
  title : String
  /-- The name of the group among the settings. -/
  name : String
  /-- What the names of its variables start with. -/
  lead : String
  names : List String
  documents : List String := []
  check : Fields → Checked α

namespace SettingsGroup

variable {α : Type}

/-- The given fields under the names of the group, in any letter case. Of several spellings of one
name the first counts. -/
def spelled (g : SettingsGroup α) (given : Fields) : Fields :=
  respelled g.names (given.filter fun f => !Controls.names.contains f.1).reverse

/-- The fields from the variables of the group. They cannot be looked for behind a lead that is no
text, and where letter case does not count such a lead is a fault in any case. -/
def fromVariables (g : SettingsGroup α) (env : Environment) (l : Lookup) (given : Fields) :
    Outcome Fields := do
  let isList := Lookup.hasListLead given
  if isList && Lookup.isLeadMeant given then .error (.lostSetting (g.names.headD ""))
  let own ← env.fields l g.documents g.names
  if isList && !l.exact then .error .noSuchPart
  return own

/-- The group from its own variables, with the given fields set over them, and over those the
arguments of a command line. Among the fields there may be some that say how the rest is found. -/
def gather (g : SettingsGroup α) (env : Environment) (given : Fields) :
    Outcome (Checked Fields) := do
  let l ← Lookup.ofControls g.lead given
  match ← CommandLine.fieldsOf g.documents g.names given with
  | .bad complaints => return .bad complaints
  | .good set =>
    let own ← g.fromVariables env l given
    Controls.checkPlaces given "_secrets_dir"
    return .good (overlay (overlay own (g.spelled given)) set)

/-- Checks what is given in place of all that the fields can be taken from: a pair, the first part
of which must be empty. -/
def checkSources (sources : Json) : Outcome Unit :=
  match sources.elements? with
  | some [first, _] => if first.isPresent then .error .wrongKind else .ok ()
  | some (_ :: _ :: _ :: _) => .error (.badValue "too many values to unpack (expected 2)")
  | some few =>
    .error (.badValue ("not enough values to unpack (expected 2, got " ++ toString few.length
      ++ ")"))
  | none => .error .wrongKind

/-- The fields of the group, which are none at all where sources are given for it. The complaints
are about what was said on the arguments. -/
def settled (g : SettingsGroup α) (env : Environment) (given : Fields) :
    Outcome (Checked Fields) :=
  if given.any fun f => Controls.isReserved f.1 then .error .wrongKind
  else
    match Controls.said? given "_build_sources" with
    | none => g.gather env given
    | some sources => (checkSources sources).map fun _ => .good []

/-- The group where nothing else is checked along with it. -/
def settle (g : SettingsGroup α) (env : Environment) (given : Fields) : Outcome α := do
  match ← g.settled env given with
  | .bad complaints => .error (.unfit CommandLine.title (reported complaints))
  | .good fs =>
    match g.check fs with
    | .good a => return a
    | .bad complaints => .error (.unfit g.title (reported complaints))

/-- The group as a part of all settings: from a document if there is one, else from its variables
alone. Without a document a complaint is final. -/
def part (g : SettingsGroup α) (env : Environment) (given : Fields) : Outcome (Checked α) :=
  match given.lookup g.name with
  | none => (g.settle env []).map .good
  | some (.obj fs) =>
    match g.settled env (respelled g.names fs) with
    | .ok settled => .ok ((settled.andThen g.check).under g.name)
    | .error fault =>
      if fault.isUnsettled then .ok (Checked.under g.name (.refuse .unsettled)) else .error fault
  | some _ => .ok (Checked.under g.name (.refuse .notRecord))

end SettingsGroup

def canvasGroup : SettingsGroup CanvasSettings where
  title := "CanvasConfig"
  name := "canvas"
  lead := "CANVAS_"
  names := CanvasSettings.names
  documents := ["start_position"]
  check := CanvasSettings.check

def versioningGroup : SettingsGroup VersioningSettings where
  title := "VersioningConfig"
  name := "versioning"
  lead := "VERSIONING_"
  names := VersioningSettings.names
  check := VersioningSettings.check

def simulationGroup : SettingsGroup SimulationSettings where
  title := "SimulationConfig"
  name := "simulation"
  lead := "SIMULATION_"
  names := SimulationSettings.names
  check := SimulationSettings.check

namespace Settings

/-- The names of the settings, with the groups at the end. -/
def names : List String :=
  ["service_name", "host", "port", "debug", "log_level", "cors_origins", "canvas", "versioning",
    "simulation"]

def ofEnvironment (env : Environment) : Outcome Settings := do
  let fs ← env.fields {} ["cors_origins", "canvas", "versioning", "simulation"] names
  let base : Settings := {}
  let canvas ← canvasGroup.part env fs
  let versioning ← versioningGroup.part env fs
  let simulation ← simulationGroup.part env fs
  let checked : Checked Settings :=
    Settings.mk
      <$> Fields.optional fs "service_name" base.serviceName Json.checkText
      <*> Fields.optional fs "host" base.host Json.checkText
      <*> Fields.optional fs "port" base.port Json.checkPort
      <*> Fields.optional fs "debug" base.debug Json.checkTruth
      <*> Fields.optional fs "log_level" base.logLevel Json.checkText
      <*> Fields.optional fs "cors_origins" base.corsOrigins (Json.checkList Json.checkText)
      <*> canvas <*> versioning <*> simulation
  match checked with
  | .good s => return s
  | .bad complaints => .error (.unfit "Settings" (reported complaints))

/-- Settings from given groups and nothing else. -/
def ofGroups (given : Fields) : Outcome Settings := do
  let group (name : String) : Outcome Fields :=
    match given.lookup name with
    | none => .ok []
    | some (.obj fs) => .ok fs
    | some _ => .error .wrongKind
  let canvas ← canvasGroup.settle [] (← group "canvas")
  let versioning ← versioningGroup.settle [] (← group "versioning")
  let simulation ← simulationGroup.settle [] (← group "simulation")
  return { canvas, versioning, simulation }

end Settings

end Dialogue
