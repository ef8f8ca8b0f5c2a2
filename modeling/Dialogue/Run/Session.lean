-- A test run of a flow, one at a time: what is known of it, the listeners that hear its events, and
-- how it is ended from outside. A listener may act at once, inside the event that it hears.
import Dialogue.Run.Effect

namespace Dialogue

/-! ## The run -/

inductive RunState where
  | idle
  | running
  | waitingForText
  | waitingForKeys
  | ended
  deriving DecidableEq

def RunState.word : RunState → String
  | .idle => "idle"
  | .running => "running"
  | .waitingForText => "waiting_for_input"
  | .waitingForKeys => "waiting_for_dtmf"
  | .ended => "ended"

/-- How a run ended. -/
inductive RunResult where
  | success
  | error
  deriving DecidableEq

def RunResult.word : RunResult → String
  | .success => "success"
  | .error => "error"

/-- One run. All that it holds is gone when the run is discarded. -/
structure Run where
  state : RunState := .idle
  result : Option RunResult := none
  channel : Option Channel := none
  /-- The id of the node the run has come to, or null. -/
  current : Json := .null
  stats : Stats := {}
  events : Log Event := {}
  /-- The flow as it was when the run started. -/
  flow : Option Flow := none
  /-- The node that waits for an answer. -/
  waiting : Option Node := none
  /-- How many nodes the run has come to. -/
  steps : Nat := 0
  onCall : Bool := false
  connectedAt : Option Int := none
  /-- The length of the call, once it is over. -/
  callLength : Int := 0

namespace Run

def isOver (r : Run) : Bool := r.state == .idle || r.state == .ended

/-- The length of the call so far. -/
def callSpan (r : Run) (now : Int) : Int :=
  match r.onCall, r.connectedAt with
  | true, some start => now - start
  | _, _ => r.callLength

def countError (r : Run) : Run := { r with stats.errors := r.stats.errors + 1 }

/-- The record of the run, with its events at their place. -/
def fields (r : Run) (now : Int) (events : Fields) : Fields :=
  [("state", .str r.state.word), ("result", .ofOption (r.result.map RunResult.word)),
    ("channel", .ofOption (r.channel.map Channel.word)), ("current_node_id", r.current),
    ("call_active", .bool r.onCall), ("call_duration", .float (Clock.seconds (r.callSpan now)))]
    ++ events ++ [("stats", r.stats.toJson now)]

end Run

/-! ## Listeners -/

/-- What a listener does when it hears its cue. -/
inductive Reaction where
  | fail
  | hangUp
  | reset
  /-- It leaves, or makes the named listener leave. -/
  | leave (target : Option String)

/-- A callback. What it does hangs on what the event holds. One that does several things stands as as
many listeners in a row, for nothing comes between two that are told one after the other. One that
lets events go by before it acts stands as a listener that comes later, or as one whose cue the
earlier events do not hold. Only one that tells two events of the same content apart is left out. -/
structure Listener where
  name : String
  /-- The listener reacts to an event that holds this. -/
  cue : Json := .str ""
  reaction : Option Reaction := none
  /-- Whether the listener is the last that came under its name. No other can be made to leave. -/
  latest : Bool := true

/-- Whether a notice holds a cue: as a part of its text, as an item of its list, or as the name of a
field. -/
def Notice.holds (n : Notice) (cue : Json) : Bool :=
  match n.content, cue with
  | .str s, .str part => Text.contains s part
  | .arr items, item => item.isIn items
  | .obj fields, .str name => (fields.lookup name).isSome
  | _, _ => false

/-! ## The session -/

structure Session where
  run : Run := {}
  /-- Raised whenever a run is started, ended from outside or discarded. A task that started under
  an older number must not go on. -/
  generation : Nat := 0
  /-- How many runs were started or discarded. -/
  runs : Nat := 0
  listeners : List Listener := []
  /-- The names under which listeners came, in order. -/
  names : List String := []
  /-- All that was heard, and by whom. -/
  heard : Log (String × Event) := {}
  nextEvent : Nat := 1
  now : Int := 0
  dice : Dice := {}

namespace Session

def setRun (s : Session) (change : Run → Run) : Session := { s with run := change s.run }

/-- Discards the run. -/
def reset (s : Session) : Session :=
  { s with run := {}, runs := s.runs + 1, generation := s.generation + 1 }

/-- The run is over. -/
def finish (s : Session) (result : RunResult) : Session :=
  s.setRun fun r => { r with
    state := .ended
    result := some result
    stats.endedAt := some s.now }

/-- The last listener that came under the name leaves, unless it has left already. -/
def dismiss (s : Session) (name : String) : Session :=
  { s with listeners := s.listeners.eraseP fun l => l.latest && l.name == name }

/-- The same from outside, where the name must be one that a listener came under. -/
def unsubscribe (s : Session) (name : String) : Outcome Session :=
  if s.names.contains name then .ok (s.dismiss name) else .error (.missingField (.str name))

/-- A listener that came under the same name before goes on listening. -/
def subscribe (s : Session) (l : Listener) : Session :=
  let older := s.listeners.map fun o => if o.name == l.name then { o with latest := false } else o
  { s with
    listeners := older ++ [l]
    names := if s.names.contains l.name then s.names else s.names ++ [l.name] }

/-- How many events each name has heard. -/
def counts (s : Session) : List (String × Nat) :=
  s.names.map fun n => (n, s.heard.toList.countP (·.1 == n))

/-! ### Events

Whatever hangs up on behalf of a listener is passed as an argument, because hanging up is an event
itself. -/

/-- The listener reacts to its cue. A listener that fails is passed over. -/
def react (hang : Session → Session) (l : Listener) (s : Session) : Session :=
  match l.reaction with
  | none => s
  | some .fail => s
  | some .hangUp => hang s
  | some .reset => s.reset
  | some (.leave target) => s.dismiss (target.getD l.name)

def hear (hang : Session → Session) (e : Event) (s : Session) (l : Listener) : Session :=
  let s := { s with heard := s.heard.push (l.name, e) }
  if e.notice.holds l.cue then s.react hang l else s

/-- Appends the event, and tells it to all who listen at that moment. -/
def post (hang : Session → Session) (s : Session) (n : Notice) : Session :=
  let e : Event := ⟨Ids.full s.nextEvent, s.now, n⟩
  let s := s.setRun fun r => { r with events := r.events.push e }
  let s := { s with nextEvent := s.nextEvent + 1 }
  s.listeners.foldl (hear hang e) s

def callEnded (span : Int) : Notice :=
  { speaker := .voice
    content := .str ("Call ended (" ++ Clock.durationText span ++ ")")
    mark := some .success }

def hangUpWith (hang : Session → Session) (s : Session) : Session :=
  let span := s.run.callSpan s.now
  (s.setRun fun r => { r with callLength := span, onCall := false }).post hang (callEnded span)

/-- Whether there is a voice run that can be hung up. -/
def canHangUp (s : Session) : Bool := s.run.channel == some .voice && !s.run.isOver

def endCallWith (hang : Session → Session) (s : Session) : Session :=
  if s.canHangUp then
    let s := { s.setRun fun r => { r with waiting := none } with generation := s.generation + 1 }
    (s.hangUpWith hang).finish .success
  else s

/-- A hang-up from inside an event, where there is room on the call stack for so many of them inside
each other. A listener that hangs up on the event of its own hang-up uses up the room. The hang-up
for which there is none left fails inside its listener, which is passed over like any that fails:
nothing is done and nobody is told. -/
def nestedHangUp : Nat → Session → Session
  | 0 => fun s => s
  | depth + 1 => endCallWith (nestedHangUp depth)

/-- How many hang-ups inside each other the usual limit of recursion has room for. It is a measure of
the call stack that runs are simulated on, and no rule of theirs. -/
def deepest : Nat := 246

def emit (s : Session) (n : Notice) : Session := s.post (nestedHangUp deepest) n

def hangUp (s : Session) : Session := s.hangUpWith (nestedHangUp deepest)

/-- Hangs up a voice run at any point. Anything else is refused. -/
def endCall (s : Session) : Session × Bool :=
  (s.endCallWith (nestedHangUp deepest), s.canHangUp)

end Session

end Dialogue
