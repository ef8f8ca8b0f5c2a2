-- How a run walks through its flow. A walk goes on until it has to wait for time to pass, or for an
-- answer, or is over. Where it waits for time it says at which stage, and it can be taken up there.
import Dialogue.Run.Session
import Dialogue.Text.Letters

namespace Dialogue

/-! ## The test of a condition

What the tester says is held against the value of the condition, in any letter case. -/

/-- The condition with an operator and a value, which must both be texts. -/
def ConditionData.ofParts (operator value : Json) : Outcome ConditionData :=
  let checked : Checked ConditionData :=
    (fun operator value => { operator, value })
      <$> operator.checkText.under "operator" <*> value.checkText.under "value"
  match checked with
  | .good d => .ok d
  | .bad complaints => .error (.unfit NodeKind.condition.shape (reported complaints))

/-- Only two operators can match. Every other one never does. -/
def ConditionData.matches (d : ConditionData) (said : String) : Bool :=
  let said := Text.lower said
  let value := Text.lower d.value
  if d.operator == "equals" then said == value
  else if d.operator == "contains" then Text.contains said value
  else false

/-- The same where what is said need not be a text. -/
def ConditionData.test (d : ConditionData) (said : Json) : Outcome Bool :=
  match said with
  | .str said => .ok (d.matches said)
  | _ => .error .noSuchPart

/-! ## A walk -/

/-- What runs are simulated with. -/
structure Lab where
  settings : SimulationSettings
  palette : Palette
  effects : Effects
  /-- The room for a copy of a flow. -/
  room : Room

/-- Where a walk waits for time to pass. -/
inductive Stage where
  /-- The call is being connected. The start node comes next. -/
  | connecting (start : Node)
  /-- The node has been announced. -/
  | announced (n : Node)
  /-- The node's message has been said. -/
  | spoken (n : Node)
  /-- The node's effect takes its time. -/
  | inEffect (n : Node) (channel : Option Channel)
  /-- The call is being ended at the node. -/
  | closing
  /-- The answer to a condition is being weighed. -/
  | weighing (n : Node) (text : String)
  /-- The keys pressed at a node are being taken in. -/
  | keyed (n : Node) (digits : String)

/-- How a walk stops. -/
inductive Halt where
  | asleep (span : Nat) (stage : Stage)
  | done
  | failed (fault : Fault)

/-- Waits for a span of time, if it is one. -/
def Halt.pause (span : Outcome Nat) (stage : Stage) : Halt :=
  match span with
  | .ok span => .asleep span stage
  | .error fault => .failed fault

/-- The session after a stretch of a walk, and how the stretch stopped. -/
abbrev Stretch := Session × Halt

namespace Session

/-! ## The next node -/

/-- The first edge without a label, or else the first connection. -/
def defaultNext (f : Flow) (n : Node) : Option Node :=
  match (f.outgoing n.id).find? fun e => !e.label.isPresent with
  | some e => f.node? e.target
  | none => n.connections.head?.bind f.node?

def branchWord (matched : Bool) : String := if matched then "Yes" else "No"

/-- The target that the condition itself names for a branch. An empty one is none. -/
def namedBranch (d : NodeData) (matched : Bool) : Option String :=
  match d with
  | .condition d => (if matched then d.yesTo else d.noTo).filter (· != "")
  | _ => none

/-- The edge of the branch, or else the target that the condition names. -/
def branchNext (f : Flow) (n : Node) (matched : Bool) : Option Node :=
  match (f.outgoing n.id).find? fun e => e.label.same (.str (branchWord matched)) with
  | some e => f.node? e.target
  | none => (namedBranch n.data matched).bind fun id => f.node? (.str id)

/-- Looks for the next node in the flow of the run. Without a flow there is nowhere to look. -/
def lookAhead (s : Session) (next : Flow → Option Node) : Outcome (Option Node) :=
  match s.run.flow with
  | some f => .ok (next f)
  | none => .error .noSuchPart

/-! ## Ends -/

/-- Hangs up if a call is on. -/
def hangUpIfOn (s : Session) : Session := if s.run.onCall then s.hangUp else s

/-- There is no way on, and the run is over. -/
def deadEnd (s : Session) : Session := s.hangUpIfOn.finish .success

def limitReached (most : Nat) (n : Node) : Notice :=
  { speaker := .error
    content := .str ("Step limit reached (" ++ toString most ++ "); stopping run")
    node := n.id
    mark := some .error }

/-- The run has come to as many nodes as it may. -/
def stopAtLimit (lab : Lab) (s : Session) (n : Node) : Session :=
  (((s.setRun Run.countError).emit (limitReached lab.settings.maxSteps n)).hangUpIfOn).finish .error

/-! ## Coming to a node -/

def announcement (p : Palette) (n : Node) : Notice :=
  let d := p.current n.kind
  { speaker := .system
    content := .str (d.icon.text ++ " " ++ d.name.text ++ ": " ++ n.data.label)
    node := n.id
    mark := some .processing }

def countVisit (n : Node) (r : Run) : Run :=
  { r with
    steps := r.steps + 1
    current := n.id
    stats.visited := r.stats.visited + 1 }

/-- Comes to a node and announces it, unless the limit is reached. -/
def enter (lab : Lab) (s : Session) (n : Node) : Stretch :=
  if lab.settings.maxSteps ≤ s.run.steps then (s.stopAtLimit lab n, .done)
  else
    ((s.setRun (countVisit n)).emit (announcement lab.palette n),
      .pause (lab.settings.span lab.settings.stepDelay) (.announced n))

/-- Goes on to the next node, or ends where there is none. -/
def goOn (lab : Lab) (s : Session) : Option Node → Stretch
  | some n => s.enter lab n
  | none => (s.deadEnd, .done)

/-- Whether a task of that generation may go on. -/
def isCurrent (s : Session) (generation : Nat) : Bool := s.generation == generation

/-- Leaves a node. The walk goes on only if nothing else has happened to the run. -/
def leave (lab : Lab) (s : Session) (generation : Nat) (next : Flow → Option Node) : Stretch :=
  match s.lookAhead next with
  | .error fault => (s, .failed fault)
  | .ok next =>
    if s.isCurrent generation && s.run.state == .running then s.goOn lab next else (s, .done)

/-- Goes on after an answer. -/
def answered (lab : Lab) (s : Session) (generation : Nat) (next : Flow → Option Node) : Stretch :=
  match s.lookAhead next with
  | .error fault => (s, .failed fault)
  | .ok next => if s.isCurrent generation then s.goOn lab next else (s, .done)

/-! ## What a node says -/

/-- Says something on the channel of the run, which is a text or what an effect tells instead. -/
def say (s : Session) (n : Node) (what : Json) (how : String) : Session :=
  if s.run.channel == some .voice then
    s.emit {
      speaker := .voice
      content := .str (how ++ ": \"" ++ what.text ++ "\"")
      node := n.id
      mark := some .success }
  else s.emit { speaker := .bot, content := what, node := n.id }

def speak (s : Session) (n : Node) (text : String) : Session := s.say n (.str text) "Speaking"

def tell (s : Session) (n : Node) (mark : Mark) (text : String) : Session :=
  s.emit { speaker := .system, content := .str text, node := n.id, mark := some mark }

/-- Tells how an effect went. -/
def report (s : Session) (n : Node) (r : EffectResult) (speaker : Speaker) : Session :=
  if r.success then s.emit { speaker, content := r.detail, node := n.id, mark := some .success }
  else
    (s.setRun Run.countError).emit
      { speaker := .error, content := r.detail, node := n.id, mark := some .error }

def channelSpeaker (s : Session) : Speaker :=
  if s.run.channel == some .voice then .voice else .system

/-- Tells how the effect of a node went, in the way of its kind. -/
def reportEffect (s : Session) (n : Node) (r : EffectResult) : Session :=
  match n.kind with
  | .assistant => if r.success then s.say n r.detail "AI Speaking" else s.report n r .system
  | .transfer => s.report n r s.channelSpeaker
  | _ => s.report n r .system

/-- The effect is over. A task that may not go on still has it act. -/
def afterEffect (lab : Lab) (s : Session) (generation : Nat) (n : Node) (channel : Option Channel) :
    Stretch :=
  let (outcome, dice) := (lab.effects n.kind).act n channel s.dice
  let s := { s with dice }
  match outcome with
  | .error fault => (s, .failed fault)
  | .ok r =>
    if s.isCurrent generation then
      (s.reportEffect n r).leave lab generation fun f => defaultNext f n
    else (s, .done)

/-- Starts the effect of a node. One that takes no time is over at once. -/
def startEffect (lab : Lab) (s : Session) (generation : Nat) (n : Node) : Stretch :=
  let channel := s.run.channel
  match (lab.effects n.kind).span n channel with
  | some span => (s, .pause span (.inEffect n channel))
  | none => s.afterEffect lab generation n channel

def waitFor (s : Session) (n : Node) (state : RunState) : Session :=
  s.setRun fun r => { r with waiting := some n, state }

def countCall (s : Session) : Session :=
  s.setRun fun r => { r with stats.apiCalls := r.stats.apiCalls + 1 }

def countIntegration (s : Session) : Session :=
  s.setRun fun r => { r with stats.integrationCalls := r.stats.integrationCalls + 1 }

def announceTransfer (s : Session) (n : Node) (target : String) : Session :=
  if s.run.channel == some .voice then
    s.emit {
      speaker := .voice
      content := .str ("Transferring call to " ++ target ++ "...")
      node := n.id
      mark := some .processing }
  else
    s.emit {
      speaker := .bot
      content := .str ("Transferring you to " ++ target ++ "...")
      node := n.id }

def messageText (d : MessageData) : String := orElse d.content "No message configured"

def conditionText (d : ConditionData) : String :=
  "Waiting for input to evaluate: \"" ++ orElse d.subject "user_input" ++ "\" " ++ d.operator
    ++ " \"" ++ d.value ++ "\""

def keysText (d : DtmfData) : String :=
  "Waiting for DTMF input (max " ++ toString d.maxDigits ++ " digits, " ++ toString d.timeout
    ++ "s timeout)..."

def requestText (d : ApiCallData) : String :=
  "API " ++ d.method ++ " " ++ orElse d.url "https://api.example.com"

/-- What an integration is about to do, by the name of its kind. -/
def integrationText (name : String) : NodeData → String
  | .channel _ d => "Sending via " ++ name ++ ": \"" ++ d.template ++ "\""
  | .ticket _ d =>
    name ++ ": " ++ d.action ++ " ticket \"" ++ d.subject ++ "\" (Priority: " ++ d.priority ++ ")"
  | .crm _ d => name ++ ": " ++ d.action ++ " → " ++ d.objectType
  | _ => name

/-- Does what a node is there for. -/
def visit (lab : Lab) (s : Session) (generation : Nat) (n : Node) : Stretch :=
  match n.data with
  | .start _ => s.leave lab generation fun f => defaultNext f n
  | .message d =>
    (s.speak n (messageText d),
      .pause (lab.settings.span lab.settings.message) (.spoken n))
  | .condition d => ((s.tell n .pending (conditionText d)).waitFor n .waitingForText, .done)
  | .dtmf d =>
    (((s.speak n (orElse d.prompt "Please enter your selection")).tell n .pending
      (keysText d)).waitFor n .waitingForKeys, .done)
  | .apiCall d =>
    (s.countCall.tell n .processing (requestText d)).startEffect lab generation n
  | .assistant _ =>
    (s.tell n .processing "AI Assistant processing...").startEffect lab generation n
  | .transfer d =>
    (s.announceTransfer n (orElse d.transferTo defaultTarget)).startEffect lab generation n
  | .channel _ _ | .ticket _ _ | .crm _ _ =>
    (s.countIntegration.tell n .processing
      (integrationText (lab.palette.current n.kind).name.text n.data)).startEffect lab generation n
  | .finish _ =>
    if s.run.channel == some .voice && s.run.onCall then
      (s.emit {
          speaker := .voice
          content := .str "Call ending..."
          node := n.id
          mark := some .processing },
        .pause (lab.settings.span lab.settings.callEnd) .closing)
    else ((s.tell n .success "Test completed").finish .success, .done)

/-! ## Taking a walk up again -/

def verdict (matched : Bool) : Notice :=
  { speaker := .system
    content := .str (if matched then "Condition: Yes (matched)" else "Condition: No (not matched)")
    mark := some (if matched then .success else .error) }

/-- Whether an answer matches the condition of the node. -/
def isMatch (n : Node) (text : String) : Bool :=
  match n.data with
  | .condition d => d.matches text
  | _ => false

def keysReceived (digits : String) : Notice :=
  { speaker := .system
    content := .str ("DTMF received: \"" ++ digits ++ "\" → Processing...")
    mark := some .success }

def callStarted : Notice :=
  { speaker := .voice, content := .str "Initiating voice call...", mark := some .processing }

def sessionStarted : Notice :=
  { speaker := .system, content := .str "Test session started", mark := some .success }

def noStartFound : Notice :=
  { speaker := .error, content := .str "No start node found in flow", mark := some .error }

def callConnected : Notice :=
  { speaker := .voice, content := .str "Call connected", mark := some .success }

/-- Goes on from a stage when its time is over. A task that may not go on stops there, but an effect
is asked first how it went. -/
def resume (lab : Lab) (s : Session) (generation : Nat) (stage : Stage) : Stretch :=
  match stage with
  | .inEffect n channel => s.afterEffect lab generation n channel
  | stage =>
    if !s.isCurrent generation then (s, .done)
    else
      match stage with
      | .connecting start =>
        let s := s.emit callConnected
        (s.setRun fun r => { r with onCall := true, connectedAt := some s.now }).enter lab start
      | .announced n => s.visit lab generation n
      | .spoken n => s.leave lab generation fun f => defaultNext f n
      | .closing => (s.hangUp.finish .success, .done)
      | .weighing n text =>
        let matched := isMatch n text
        (s.emit (verdict matched)).answered lab generation fun f => branchNext f n matched
      | .keyed n digits =>
        (s.emit (keysReceived digits)).answered lab generation fun f => defaultNext f n
      | .inEffect _ _ => (s, .done)

/-! ## Controls -/

/-- The run of a flow when it has just begun. -/
def begun (f : Flow) (channel : Channel) (now : Int) : Run :=
  { state := .running
    channel := some channel
    flow := some f
    stats := { totalNodes := f.nodes.length, startedAt := some now } }

/-- Starts a run of a flow, in place of any other. -/
def start (lab : Lab) (s : Session) (f : Flow) (channel : Channel) : Stretch :=
  let s := { s.reset with run := begun f channel s.now }
  match f.startNode? with
  | none => (((s.setRun Run.countError).emit noStartFound).finish .error, .done)
  | some start =>
    match channel with
    | .voice =>
      (s.emit callStarted, .pause (lab.settings.span lab.settings.callConnect) (.connecting start))
    | .chat => (s.emit sessionStarted).enter lab start

/-- The run no longer waits. -/
def takeUp (s : Session) : Session :=
  s.setRun fun r => { r with waiting := none, state := .running }

/-- Answers a node that waits for keys. There is no stretch if none does or no key was pressed. -/
def submitKeys (lab : Lab) (s : Session) (digits : String) : Option Stretch :=
  if digits == "" || s.run.state != .waitingForKeys then none
  else
    s.run.waiting.map fun n =>
      (s.takeUp.emit { speaker := .keypad, content := .str ("DTMF: " ++ digits) },
        .pause (lab.settings.span lab.settings.inputEval) (.keyed n digits))

/-- Answers a node that waits. Where it waits for keys, the text counts as keys. Blank text answers
nothing. -/
def submitText (lab : Lab) (s : Session) (text : String) : Option Stretch :=
  if Text.isBlankText text then none
  else if s.run.state == .waitingForKeys then s.submitKeys lab (Text.strip text)
  else if s.run.state != .waitingForText then none
  else
    s.run.waiting.map fun n =>
      (s.takeUp.emit { speaker := .user, content := .str text },
        .pause (lab.settings.span lab.settings.inputEval) (.weighing n text))

end Session

end Dialogue
