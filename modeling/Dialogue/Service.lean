-- The service: requests to a studio, and what is done for each of them. Requests about a flow open
-- it on the desk first.
import Dialogue.Service.Endpoint
import Dialogue.Service.Response
import Dialogue.Run.Bench
import Dialogue.Workspace

namespace Dialogue

/-! ## The studio

A workspace, and a bench on which its flows are tried out. Both go by one clock. -/

structure Studio where
  setup : Setup
  lab : Lab
  workspace : Workspace := {}
  bench : Bench := {}

namespace Studio

/-- A new studio. Effects are simulated where no others are given. -/
def fresh (settings : Settings) (palette : Palette) (effects : List (NodeKind × Effect))
    (dice : Dice) (room : Room) : Studio where
  setup := ⟨settings, palette, room⟩
  lab := {
    settings := settings.simulation
    palette, room
    effects := effects.foldl (fun all e => Effects.replace all e.1 e.2)
      (Effects.simulated settings.simulation palette) }
  bench := { session := { dice } }

def now (s : Studio) : Int := s.bench.session.now

/-- Does something in the workspace. -/
def inWorkspace {α : Type} (s : Studio) (act : Workspace → Workspace × α) : Studio × α :=
  let (workspace, a) := act s.workspace
  ({ s with workspace }, a)

def onBench (s : Studio) (act : Bench → Bench) : Studio := { s with bench := act s.bench }

/-- Starts a run of a stored flow. The run takes the flow as it stands. -/
def startRun (s : Studio) (id : Json) (channel : Outcome Channel) (wait : Bool) :
    Studio × Outcome Unit :=
  match channel, s.workspace.find id with
  | .error fault, _ => (s, .error fault)
  | _, .error fault => (s, .error fault)
  | .ok channel, .ok f => (s.onBench fun b => b.start s.lab f channel wait, .ok ())

end Studio

/-! ## Requests -/

structure Request where
  method : Method
  path : String
  query : List (String × String) := []
  body : Body := .none

namespace Studio

/-- Whether the flow is on the desk. -/
def isOpen (s : Studio) (flow : String) : Bool :=
  s.workspace.desk.any fun d => d.flow.id.same (.str flow)

/-- Puts a flow on the desk unless it is there already. -/
def openFlow (s : Studio) (flow : String) : Studio × Outcome Unit :=
  if s.isOpen flow then (s, .ok ())
  else
    let (s, r) := s.inWorkspace (Workspace.openFlow (s.setup.room.steps - 1) · (.str flow))
    (s, r.map fun _ => ())

/-- Does something with the flow on the desk. -/
def withFlow (s : Studio) (flow : String) (act : Studio → Studio × Response) :
    Studio × Response :=
  match s.openFlow flow with
  | (s, .error fault) => (s, .ofFault fault)
  | (s, .ok _) => act s

/-- An edit of a flow. -/
def editFlow (s : Studio) (flow : String) (e : Edit) : Studio × Response :=
  s.withFlow flow fun s =>
    let (s, reply) := s.inWorkspace (Workspace.edit s.setup · e)
    (s, .ofReply reply)

/-- Does something with a body in the right form. -/
def withForm {α : Type} (s : Studio) (b : Body) (check : Json → Checked α)
    (act : α → Studio × Response) : Studio × Response :=
  match b.form check with
  | .ok a => act a
  | .error fault => (s, .ofBodyFault fault)

/-! ## Flows -/

def health (s : Studio) : Response :=
  .ok [("status", .str "healthy"), ("service", .str s.setup.settings.serviceName),
    ("version", .str "1.0.0"), ("uptime_seconds", .float (Clock.roughSeconds s.now))]

def kinds (s : Studio) : Response :=
  .ofOutcome (fun catalog =>
      [("catalog", catalog), ("total", .int Palette.standard.definitions.length)])
    (Palette.standard.catalog s.setup.room.steps)

def dirtyField (s : Studio) : Fields := [("has_unsaved_changes", .bool s.workspace.isDirty)]

/-- The filter of a list. A status that is given must be one. -/
def listFilter (query : List (String × String)) : Checked Filter :=
  let status : Checked (Option Status) :=
    match query.lookup "status" with
    | none => .good none
    | some w =>
      match Status.ofWord? w with
      | some status => .good (some status)
      | none => .bad [⟨["query", "status"], .notListed⟩]
  status.map fun status =>
    { category := .ofOption (query.lookup "category"), status
      search := .ofOption (query.lookup "search") }

def listFlows (s : Studio) (query : List (String × String)) : Response :=
  match listFilter query with
  | .bad cs => .complaints cs
  | .good filter =>
    .ofOutcome (fun flows =>
        [("flows", .arr (flows.map fun f => .obj f.summary)), ("total", .int flows.length)])
      (s.workspace.store.list filter)

def flowResponse (r : Studio × Outcome Flow) : Studio × Response :=
  (r.1, .ofOutcome Flow.fields r.2)

/-! ## Versions -/

def saveFlow (s : Studio) (flow : String) : Studio × Response :=
  s.withFlow flow fun s =>
    let (s, r) := s.inWorkspace (Workspace.save s.setup · s.now)
    (s, .ofOutcome (fun f => f.summary ++ s.dirtyField) r)

def publishFlow (s : Studio) (flow : String) (v : Form.NewVersion) : Studio × Response :=
  s.withFlow flow fun s =>
    let (s, r) := s.inWorkspace (Workspace.publish s.setup · s.now (.str v.changelog)
      (.ofOption v.author))
    (s, .ofOutcome Version.summary r)

def listVersions (s : Studio) (flow : String) : Studio × Response :=
  s.withFlow flow fun s =>
    (s, .ofOutcome (fun vs =>
        [("flow_id", .str flow), ("versions", .arr (vs.map .obj)), ("total", .int vs.length)])
      s.workspace.versions)

def rollbackFlow (s : Studio) (flow version : String) : Studio × Response :=
  s.withFlow flow fun s =>
    let (s, reply) := s.inWorkspace (Workspace.rollback · s.now (.str version))
    match reply with
    | .done _ => (s, .ofOutcome (fun d => d.flow.summary) s.workspace.onDesk)
    | reply => (s, .ofReply reply)

/-! ## Runs -/

/-- The run as it stands. The node it has come to must have a text for its id. -/
def runResponse (s : Studio) : Response :=
  let r := s.bench.session.run
  match r.current with
  | .null | .str _ =>
    .ofOutcome id (s.bench.session.record [("events", .arr (r.events.toList.map Event.toJson))])
  | _ => .broken

/-- The run takes no such input in its state. -/
def notAccepting (s : Studio) : Response :=
  .detail 409 (.obj [("error", .str "invalid_run_state"),
    ("message", .str ("Run is not accepting this input (state: " ++ s.bench.session.run.state.word
      ++ ")"))])

/-- The response when a task has ended that began just now. -/
def taskResponse (s : Studio) : Studio × Response :=
  let rest := s.onBench fun b => { b with endings := [] }
  match s.bench.endings.getLast? with
  | some (_, .answered false) => (rest, s.notAccepting)
  | some (_, .failed fault) => (rest, .ofFault fault)
  | _ => (rest, s.runResponse)

def hangUpRun (s : Studio) : Studio × Response :=
  let (session, accepted) := s.bench.session.tryEndCall
  let s := s.onBench fun b => { b with session }
  match accepted with
  | .ok true => (s, s.runResponse)
  | .ok false => (s, s.notAccepting)
  | .error fault => (s, .ofFault fault)

/-! ## All endpoints -/

def atEndpoint (s : Studio) (r : Request) : Endpoint → Studio × Response
  | .health => (s, s.health)
  | .kinds => (s, s.kinds)
  | .createFlow =>
    s.withForm r.body Form.newFlow fun f =>
      flowResponse (s.inWorkspace (Workspace.createFlow s.setup · s.now (.str f.name)
        (.str f.description) (.str f.category)))
  | .importFlow =>
    s.withForm r.body Form.anyObject fun fs =>
      flowResponse (s.inWorkspace (Workspace.importFlow s.setup · s.now (.obj fs)))
  | .listFlows => (s, s.listFlows r.query)
  | .getFlow f => (s, .ofOutcome Flow.fields (s.workspace.find (.str f)))
  | .deleteFlow f =>
    let (s, o) := s.inWorkspace (Workspace.deleteFlow · (.str f))
    (s, .ofOutcome (fun _ => [("status", .str "deleted"), ("flow_id", .str f)]) o)
  | .duplicateFlow f =>
    flowResponse (s.inWorkspace (Workspace.duplicateFlow s.setup · s.now (.str f) .null))
  | .selectFlow f =>
    let (s, o) := s.inWorkspace (Workspace.openFlow s.setup.room.steps · (.str f))
    (s, .ofOutcome (fun f => f.fields ++ s.dirtyField) o)
  | .validateFlow f =>
    (s, .ofOutcome Report.fields (s.workspace.validateFlow s.setup s.now (.str f)))
  | .addNode f =>
    s.withForm r.body Form.newNode fun (kind, position) =>
      s.editFlow f (.addNode kind (.obj position))
  | .updateNode f n =>
    s.withForm r.body Form.changes fun changes =>
      s.editFlow f (.updateData (.str n) (.obj changes))
  | .deleteNode f n => s.editFlow f (.deleteNode (.str n))
  | .duplicateNode f n => s.editFlow f (.duplicateNode (.str n))
  | .moveNode f n =>
    s.withForm r.body Form.position fun position =>
      s.editFlow f (.moveNode (.str n) (.obj position))
  | .addEdge f =>
    s.withForm r.body Form.newEdge fun e =>
      s.editFlow f (.addEdge (.str e.source) (.str e.target) e.handle)
  | .deleteEdge f e => s.editFlow f (.deleteEdge (.str e))
  | .save f => s.saveFlow f
  | .publish f => s.withForm r.body Form.newVersion fun v => s.publishFlow f v
  | .versions f => s.listVersions f
  | .rollback f v => s.rollbackFlow f v
  | .startRun f =>
    s.withForm r.body Form.newRun fun channel =>
      match s.startRun (.str f) (.ok channel) true with
      | (s, .ok _) => s.taskResponse
      | (s, .error fault) => (s, .ofFault fault)
  | .currentRun => (s, s.runResponse)
  | .submitText =>
    s.withForm r.body (Form.said "text") fun text =>
      (s.onBench fun b => b.submitText s.lab (.str text) true).taskResponse
  | .submitKeys =>
    s.withForm r.body (Form.said "digits") fun digits =>
      (s.onBench fun b => b.submitKeys s.lab digits true).taskResponse
  | .hangUp => s.hangUpRun
  | .resetRun =>
    let s := s.onBench (·.onSession Session.reset)
    (s, s.runResponse)

/-- The levels of an answer that are the same for all answers of the endpoint. -/
def frame : Endpoint → Nat
  | .listFlows => 3
  | _ => 1

/-- Answers a request. A path without endpoints is not found, and one without an endpoint for the
method does not allow it. A response to a request for the head alone has no body. -/
def handle (s : Studio) (r : Request) : Studio × Response :=
  let endpoints := Endpoint.atPath r.path
  match endpoints.lookup r.method with
  | some e =>
    let (s, response) := s.atEndpoint r e
    (s, response.sent (frame e))
  | none =>
    let (status, reason) :=
      if endpoints.isEmpty then (404, "Not Found") else (405, "Method Not Allowed")
    (s, if r.method == .head then .bare status else .detail status (.str reason))

end Studio

end Dialogue
