-- Responses of the service, and what becomes of them when they are sent. What the studio refuses is
-- answered with a status of its own, and a fault that no one foresaw breaks the request off.
import Dialogue.Json.Depth
import Dialogue.Service.Form
import Dialogue.Workspace

namespace Dialogue

inductive Response where
  | answer (status : Nat) (body : Json)
  /-- A status and nothing else. -/
  | bare (status : Nat)
  /-- The request broke off. -/
  | broken

namespace Response

def ok (fs : Fields) : Response := answer 200 (.obj fs)

def detail (status : Nat) (j : Json) : Response := answer status (.obj [("detail", j)])

def complaints (cs : List Complaint) : Response := detail 422 (.arr ((reported cs).map .str))

def ofBodyFault : BodyFault → Response
  | .complaints cs => complaints cs
  | .unparsable => detail 400 (.str "There was an error parsing the body")
  | .unsendable => broken

def ofFlowError (e : FlowError) : Response :=
  let status :=
    match e with
    | .notFound _ => 404
    | .invalid _ _ => 422
    | _ => 409
  let issues : Fields :=
    match e with
    | .invalid _ given => [("issues", FlowError.issues given)]
    | _ => []
  detail status (.obj ([("error", e.code), ("message", e.message)] ++ issues))

/-- That no flow can be saved is foreseen by no one. -/
def ofFault : Fault → Response
  | .flow .noneSelected => broken
  | .flow e => ofFlowError e
  | _ => broken

def ofRefusal (r : Refusal) : Response :=
  detail (if r.isMissing then 404 else 409)
    (.obj [("error", .str r.word), ("message", .str r.message)])

def ofReply : Reply → Response
  | .done .nothing => ok [("success", .bool true)]
  | .done p => answer 200 p.toJson
  | .refused r => ofRefusal r
  | .failed fault => ofFault fault

def ofOutcome {α : Type} (fields : α → Fields) : Outcome α → Response
  | .ok a => ok (fields a)
  | .error fault => ofFault fault

end Response

/-! ## Values that can be sent -/

namespace Json

/-- The spelling of a key in a response. A number that is not finite is spelled like null. -/
def sentKey : Json → String
  | .bool b => if b then "true" else "false"
  | .float x => if x.isFinite then shortestText x else Json.null.text
  | key => key.text

end Json

namespace Response

/-- The most levels of a value in an answer. -/
def mostLevels : Nat := 255

/-- The response as it goes out. An answer whose values are nested too deep breaks the request off,
where the outermost levels, as many as given, do not count. A number that is not finite becomes
null, but not in a response about an error: there it breaks the request off. -/
def sent (frame : Nat) : Response → Response
  | answer status body =>
    if status == 200 then
      if frame + mostLevels < body.levels then broken
      else answer status (body.withoutInfinite.spelled Json.sentKey)
    else if body.isFinite then answer status (body.spelled Json.sentKey)
    else broken
  | bare status => bare status
  | broken => broken

end Response

end Dialogue
