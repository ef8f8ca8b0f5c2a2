-- What can go wrong outside the graph rules: a value of the wrong kind, a field that is missing, a
-- flow that is not there. A change that the graph rules forbid is no fault but a refusal.
import Dialogue.Checked

namespace Dialogue

/-- Trouble with a flow as a whole. -/
inductive FlowError where
  | notFound (id : Json)
  | noneSelected
  | alreadyExists (id : Json)
  /-- The flow cannot be read or breaks graph rules. The issues are those of the rules. -/
  | invalid (message issues : Json)
  | other (message code details : Json)

namespace FlowError

def message : FlowError → Json
  | notFound id => .str ("Flow not found: " ++ id.text)
  | noneSelected => .str "No flow is selected"
  | alreadyExists id => .str ("Flow already exists: " ++ id.text)
  | invalid m _ => m
  | other m _ _ => m

/-- A word for the error. What is null or empty is none. -/
def code : FlowError → Json
  | notFound _ => .str "flow_not_found"
  | noneSelected => .str "no_flow_selected"
  | alreadyExists _ => .str "flow_exists"
  | invalid _ _ => .str "invalid_flow"
  | other _ c _ => c

/-- The issues of a flow that is not valid. Where none are given the list is empty. -/
def issues (given : Json) : Json := given.orElse (.arr [])

def details : FlowError → Json
  | notFound id => .obj [("flow_id", id)]
  | noneSelected => .obj []
  | alreadyExists id => .obj [("flow_id", id)]
  | invalid _ given => .obj [("issues", issues given)]
  | other _ _ given => given.orElse (.obj [])

/-- The name under which the error is known outside. -/
def kind : FlowError → String
  | notFound _ => "FlowNotFoundError"
  | noneSelected => "NoFlowSelectedError"
  | alreadyExists _ => "FlowExistsError"
  | invalid _ _ => "InvalidFlowError"
  | other _ _ _ => "FlowBuilderError"

/-- The message with its code in front, if there is one. -/
def shown (e : FlowError) : String :=
  if e.code.isPresent then "[" ++ e.code.text ++ "] " ++ e.message.text else e.message.text

/-- Whether the error can be shown. Only behind a code can the message be anything but a text. -/
def isShowable (e : FlowError) : Bool := e.code.isPresent || e.message.str?.isSome

def described (e : FlowError) : String :=
  e.kind ++ "(message=" ++ e.message.quoted ++ ", code=" ++ e.code.quoted ++ ")"

def toJson (e : FlowError) : Json :=
  .obj [("error_type", .str e.kind), ("message", e.message), ("code", e.code),
    ("details", e.details)]

end FlowError

inductive Fault where
  /-- A value is of a kind that the operation cannot work with. -/
  | wrongKind
  /-- Nothing is there under the name. -/
  | missingField (key : Json)
  /-- A value of the right kind that is not allowed. -/
  | badValue (message : String)
  /-- A whole number with too many digits. -/
  | tooManyDigits
  /-- A value without the part that is asked of it. -/
  | noSuchPart
  /-- A number beyond all limits. -/
  | overflow
  /-- A document that is nested too deep. -/
  | tooDeep
  /-- An effect that broke off. -/
  | brokeOff (message : String)
  | flow (e : FlowError)
  /-- A record of that title that fails its checks. -/
  | unfit (title : String) (errors : List String)
  /-- A setting whose text is no document. -/
  | unreadableSetting (name : String)
  /-- A setting that cannot be looked for. -/
  | lostSetting (name : String)
  /-- The first of something that has none. -/
  | nothingThere
  /-- Something else than a list where the arguments of a command line should be. -/
  | notArguments (given : Json)
  /-- Arguments that cannot be read. -/
  | badArguments (message : String)
  /-- Two things that an argument would name at once. -/
  | twoMeanings
  /-- Marks that no pattern can be made of. -/
  | badMarks
  /-- Arguments at which a program ends. -/
  | quit

namespace Fault

/-- The reason as it stands in the message about a flow that cannot be read. -/
def reason : Fault → String
  | wrongKind => "<TypeError>"
  | missingField key => key.quoted
  | badValue m => m
  | brokeOff m => m
  | flow e => e.shown
  | _ => ""

/-- Whether the fault tells what is wrong with a group of settings, and not that it could not be
worked on. -/
def isUnsettled : Fault → Bool
  | unreadableSetting _ | lostSetting _ | notArguments _ | badArguments _ | badValue _ => true
  | _ => false

/-- Whether the fault tells what is wrong with data, and not that it could not be worked on. -/
def isAboutData : Fault → Bool
  | wrongKind | missingField _ | badValue _ => true
  | _ => false

end Fault

abbrev Outcome (α : Type) := Except Fault α

/-- The value of a listed word, or the complaint that it is not one of them. -/
def listed {α : Type} (list : String) (ofWord? : String → Option α) (j : Json) : Outcome α :=
  match j.str?.bind ofWord? with
  | some a => .ok a
  | none => .error (.badValue (j.quoted ++ " is not a valid " ++ list))

end Dialogue
