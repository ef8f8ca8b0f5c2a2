-- Runs off the calendar, after its end or before its start. No event can be told there, so a
-- stretch fails at its first one. What was done before it stays done, and the number of the event
-- is used up.
import Dialogue.Run.Walk

namespace Dialogue

/-- Whether the record of the run goes on with the clock. -/
def Run.isTimed (r : Run) : Bool :=
  (r.onCall && r.connectedAt.isSome) || (r.stats.startedAt.isSome && r.stats.endedAt.isNone)

namespace Session

/-- Whether the calendar has no such time. -/
def isLate (s : Session) : Bool := !Clock.isDated s.now

/-- The record of the run, with its events at their place. -/
def record (s : Session) (events : Fields) : Outcome Fields :=
  if s.isLate && s.run.isTimed then .error .overflow else .ok (s.run.fields s.now events)

/-! ## Late stretches -/

/-- The time of an event cannot be told. -/
def emitLate (s : Session) : Stretch := ({ s with nextEvent := s.nextEvent + 1 }, .failed .overflow)

/-- Hangs up. The length of a call that is on cannot be told, and else the event cannot. -/
def hangUpLate (s : Session) : Stretch :=
  if s.run.onCall then (s, .failed .overflow) else s.emitLate

/-- There is no way on. A call would have to be hung up first. Without one the run is over, but the
time of its end cannot be told. -/
def deadEndLate (s : Session) : Stretch :=
  if s.run.onCall then (s, .failed .overflow)
  else
    (s.setRun fun r => { r with state := .ended, result := some .success }, .failed .overflow)

/-- Comes to a node, which cannot be announced, or to the limit. -/
def enterLate (lab : Lab) (s : Session) (n : Node) : Stretch :=
  let isAtLimit := lab.settings.maxSteps ≤ s.run.steps
  (s.setRun (if isAtLimit then Run.countError else countVisit n)).emitLate

/-- Leaves a node, if nothing else has happened to the run. -/
def leaveLate (lab : Lab) (s : Session) (generation : Nat) (next : Flow → Option Node) :
    Stretch :=
  match s.lookAhead next with
  | .error fault => (s, .failed fault)
  | .ok next =>
    if s.isCurrent generation && s.run.state == .running then
      match next with
      | some n => s.enterLate lab n
      | none => s.deadEndLate
    else (s, .done)

/-- Begins to do what a node is there for. -/
def visitLate (lab : Lab) (s : Session) (generation : Nat) (n : Node) : Stretch :=
  match n.data with
  | .start _ => s.leaveLate lab generation fun f => defaultNext f n
  | .apiCall _ => s.countCall.emitLate
  | .channel _ _ | .ticket _ _ | .crm _ _ => s.countIntegration.emitLate
  | .message _ | .condition _ | .dtmf _ | .assistant _ | .transfer _ | .finish _ => s.emitLate

/-- The effect is over. A task that may not go on still has it act. -/
def afterEffectLate (lab : Lab) (s : Session) (generation : Nat) (n : Node)
    (channel : Option Channel) : Stretch :=
  let (outcome, dice) := (lab.effects n.kind).act n channel s.dice
  let s := { s with dice }
  match outcome with
  | .error fault => (s, .failed fault)
  | .ok r =>
    if s.isCurrent generation then (if r.success then s else s.setRun Run.countError).emitLate
    else (s, .done)

def resumeLate (lab : Lab) (s : Session) (generation : Nat) (stage : Stage) : Stretch :=
  match stage with
  | .inEffect n channel => s.afterEffectLate lab generation n channel
  | stage =>
    if !s.isCurrent generation then (s, .done)
    else
      match stage with
      | .announced n => s.visitLate lab generation n
      | .spoken n => s.leaveLate lab generation fun f => defaultNext f n
      | .closing => s.hangUpLate
      | .connecting _ | .weighing _ _ | .keyed _ _ => s.emitLate
      | .inEffect _ _ => (s, .done)

/-- A run that starts late has no time of its start. -/
def startLate (s : Session) (f : Flow) (channel : Channel) : Stretch :=
  ({ s.reset with run := { begun f channel s.now with stats.startedAt := none } },
    .failed .overflow)

/-- Hangs up from outside. The run no longer waits, but it does not end. -/
def endCallLate (s : Session) : Session × Outcome Bool :=
  if s.canHangUp then
    let s := { s.setRun fun r => { r with waiting := none } with generation := s.generation + 1 }
    (s.hangUpLate.1, .error .overflow)
  else (s, .ok false)

/-! ## In time or late -/

/-- A run takes a copy of its flow. Where there is no room for one, the last run is discarded all
the same. -/
def tryStart (lab : Lab) (s : Session) (f : Flow) (channel : Channel) : Stretch :=
  if lab.room.steps < f.copyDepth + 1 then (s.reset, .failed .tooDeep)
  else if s.isLate then s.startLate f channel
  else s.start lab f channel

def tryResume (lab : Lab) (s : Session) (generation : Nat) (stage : Stage) : Stretch :=
  if s.isLate then s.resumeLate lab generation stage else s.resume lab generation stage

/-- The stretch after an answer. Late, the answer is taken up and no more. -/
def tryAnswer (s : Session) (r : Option Stretch) : Option Stretch :=
  if s.isLate then r.map fun _ => s.takeUp.emitLate else r

def tryEndCall (s : Session) : Session × Outcome Bool :=
  if s.isLate then s.endCallLate
  else
    let (s, accepted) := s.endCall
    (s, .ok accepted)

end Session

end Dialogue
