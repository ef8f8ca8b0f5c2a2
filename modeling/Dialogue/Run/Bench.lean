-- The test bench: a session, and the tasks that walk through its runs. A task that waits for time
-- to pass sleeps. Sleepers wake by the time they are due, and those due at one time in the order in
-- which they fell asleep.
import Dialogue.Run.Late

namespace Dialogue

/-- What a task is for. -/
inductive Errand where
  | start
  | answer
  deriving DecidableEq

/-- How a task ended. An answer tells whether it was accepted. -/
inductive Ending where
  | started
  | answered (accepted : Bool)
  | failed (fault : Fault)

structure Sleeper where
  task : Nat
  errand : Errand
  /-- The generation of the session under which the task began. -/
  generation : Nat
  due : Int
  stage : Stage

structure Bench where
  session : Session := {}
  sleepers : List Sleeper := []
  /-- The tasks that have ended, in that order. -/
  endings : List (Nat × Ending) := []
  /-- How many tasks there have been. -/
  tasks : Nat := 0

namespace Bench

/-- Puts a sleeper behind all that are due no later. -/
def lieDown (x : Sleeper) : List Sleeper → List Sleeper
  | [] => [x]
  | y :: rest => if y.due ≤ x.due then y :: lieDown x rest else x :: y :: rest

def endingOf : Errand → Ending
  | .start => .started
  | .answer => .answered true

/-- Files what a stretch of a task's walk came to. -/
def file (b : Bench) (task : Nat) (errand : Errand) (generation : Nat) (r : Stretch) : Bench :=
  let b := { b with session := r.1 }
  match r.2 with
  | .asleep span stage =>
    { b with sleepers := lieDown ⟨task, errand, generation, r.1.now + span, stage⟩ b.sleepers }
  | .done => { b with endings := b.endings ++ [(task, endingOf errand)] }
  | .failed fault => { b with endings := b.endings ++ [(task, .failed fault)] }

/-- Wakes the first sleeper, at the time it is due or now. -/
def wakeFirst (lab : Lab) (b : Bench) : Bench :=
  match b.sleepers with
  | [] => b
  | x :: rest =>
    let s := { b.session with now := max b.session.now x.due }
    { b with session := s, sleepers := rest }.file x.task x.errand x.generation
      (s.tryResume lab x.generation x.stage)

def isAsleep (b : Bench) (task : Nat) : Bool := b.sleepers.any (·.task == task)

/-- Wakes sleepers until the task has ended, at most so many times. -/
def finishTask (lab : Lab) (task : Nat) : Nat → Bench → Bench
  | 0, b => b
  | times + 1, b => if b.isAsleep task then finishTask lab task times (b.wakeFirst lab) else b

/-- Wakes all sleepers that are due by a time, at most so many times. -/
def wakeDue (lab : Lab) (time : Int) : Nat → Bench → Bench
  | 0, b => b
  | times + 1, b =>
    match b.sleepers with
    | [] => b
    | x :: _ => if x.due ≤ time then wakeDue lab time times (b.wakeFirst lab) else b

/-- How often sleepers can wake before all tasks have ended: a task sleeps at most twice at each
node it comes to, once before the first and once at a node it comes to after a reset. -/
def patience (lab : Lab) (b : Bench) : Nat :=
  (b.sleepers.length + 1) * (2 * lab.settings.maxSteps + 4)

/-! ## Controls -/

/-- Begins a new task with the stretch it has walked already. -/
def begin (lab : Lab) (b : Bench) (errand : Errand) (generation : Nat) (wait : Bool) (r : Stretch) :
    Bench :=
  let task := b.tasks + 1
  let b := { b with tasks := task }.file task errand generation r
  if wait then finishTask lab task (b.patience lab) b else b

def start (lab : Lab) (b : Bench) (f : Flow) (channel : Channel) (wait : Bool) : Bench :=
  b.begin lab .start (b.session.generation + 1) wait (b.session.tryStart lab f channel)

/-- A task that gives an answer. If nothing waits for it the task ends at once. -/
def submit (lab : Lab) (b : Bench) (wait : Bool) (r : Option Stretch) : Bench :=
  match b.session.tryAnswer r with
  | some r => b.begin lab .answer b.session.generation wait r
  | none =>
    { b with
      tasks := b.tasks + 1
      endings := b.endings ++ [(b.tasks + 1, .answered false)] }

/-- A task that ends at once, because it cannot do anything with what it is given. -/
def turnDown (b : Bench) (fault : Fault) : Bench :=
  { b with
    tasks := b.tasks + 1
    endings := b.endings ++ [(b.tasks + 1, .failed fault)] }

/-- An answer in words must be a text. -/
def submitText (lab : Lab) (b : Bench) (said : Json) (wait : Bool) : Bench :=
  match said with
  | .str text => b.submit lab wait (b.session.submitText lab text)
  | _ => b.turnDown .noSuchPart

def submitKeys (lab : Lab) (b : Bench) (digits : String) (wait : Bool) : Bench :=
  b.submit lab wait (b.session.submitKeys lab digits)

/-- Moves the time on, or back. -/
def advance (lab : Lab) (b : Bench) (us : Int) : Bench :=
  let target := b.session.now + us
  let b := wakeDue lab target (b.patience lab) b
  { b with session := { b.session with now := target } }

/-- Changes the session from outside. -/
def onSession (b : Bench) (change : Session → Session) : Bench :=
  { b with session := change b.session }

end Bench

end Dialogue
