-- What a test run tells: its log of events, and its running totals.
import Dialogue.Flow

namespace Dialogue

/-! ## Logs

A log only grows. It is kept the latest entry first, so that a new one costs the same however long
the log is. -/

structure Log (α : Type) where
  latestFirst : List α := []

namespace Log

variable {α : Type}

/-- The entries in the order in which they came. -/
def toList (l : Log α) : List α := l.latestFirst.reverse

/-- The log with one more entry at its end. -/
def push (l : Log α) (a : α) : Log α := ⟨a :: l.latestFirst⟩

def size (l : Log α) : Nat := l.latestFirst.length

/-- The entries from a place on. -/
def since (l : Log α) (place : Nat) : List α := (l.latestFirst.take (l.size - place)).reverse

@[simp]
theorem toList_push (l : Log α) (a : α) : (l.push a).toList = l.toList ++ [a] := by
  simp [toList, push]

@[simp]
theorem length_toList (l : Log α) : l.toList.length = l.size := by
  simp [toList, size]

theorem since_eq_drop (l : Log α) (place : Nat) : l.since place = l.toList.drop place := by
  simp [since, toList, size, List.drop_reverse]

end Log

/-! ## Channels -/

/-- The channel that a run simulates. -/
inductive Channel where
  | chat
  | voice
  deriving DecidableEq

def Channel.word : Channel → String
  | .chat => "chat"
  | .voice => "voice"

def Channel.ofWord? (s : String) : Option Channel := [Channel.chat, .voice].find? (·.word == s)

def Channel.ofJson : Json → Outcome Channel := listed "Channel" ofWord?

/-! ## Events -/

/-- Who or what an event comes from. -/
inductive Speaker where
  | bot
  | user
  | system
  | voice
  | keypad
  | error
  deriving DecidableEq

def Speaker.word : Speaker → String
  | .bot => "bot"
  | .user => "user"
  | .system => "system"
  | .voice => "voice"
  | .keypad => "dtmf"
  | .error => "error"

inductive Mark where
  | success
  | error
  | pending
  | processing
  deriving DecidableEq

def Mark.word : Mark → String
  | .success => "success"
  | .error => "error"
  | .pending => "pending"
  | .processing => "processing"

/-- What is said, before it has its place in a log. -/
structure Notice where
  speaker : Speaker
  /-- A text, or what an effect tells instead. -/
  content : Json
  /-- The node it is about, or null. -/
  node : Json := .null
  mark : Option Mark := none

/-- A notice in a log. -/
structure Event where
  id : String
  time : Int
  notice : Notice

def markJson (m : Option Mark) : Json := Json.ofOption (m.map Mark.word)

def Event.toJson (e : Event) : Json :=
  .obj [("id", .str e.id), ("category", .str e.notice.speaker.word),
    ("content", e.notice.content), ("node_id", e.notice.node),
    ("timestamp", .str (Clock.stamp e.time)), ("status", markJson e.notice.mark)]

/-! ## Totals -/

structure Stats where
  totalNodes : Nat := 0
  visited : Nat := 0
  apiCalls : Nat := 0
  integrationCalls : Nat := 0
  errors : Nat := 0
  startedAt : Option Int := none
  endedAt : Option Int := none

namespace Stats

/-- The time since the start, which stands still once the run has ended. -/
def elapsed (s : Stats) (now : Int) : Int :=
  match s.startedAt with
  | none => 0
  | some start => s.endedAt.getD now - start

/-- The verdict on a run that has ended. -/
def outcome? (s : Stats) : Option String :=
  s.endedAt.map fun _ => if s.errors == 0 then "passed" else "completed_with_errors"

def toJson (s : Stats) (now : Int) : Json :=
  .obj [("nodes_visited", .int s.visited), ("total_nodes", .int s.totalNodes),
    ("api_calls", .int s.apiCalls), ("integration_calls", .int s.integrationCalls),
    ("errors", .int s.errors), ("elapsed_time", .float (Clock.seconds (s.elapsed now))),
    ("outcome", .ofOption s.outcome?)]

end Stats

end Dialogue
