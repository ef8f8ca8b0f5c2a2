-- What is done to a run, one deed at a time, and the phases that a run goes through. What every deed
-- keeps is kept by all of them.
import Dialogue.Proofs.Run.Quiet
import Dialogue.Proofs.Run.Walks
import Mathlib.Logic.Relation

namespace Dialogue

namespace Run

variable {r r' : Run}

/-! ## Changes of a run -/

/-- The run with one more event. -/
def told (r : Run) (e : Event) : Run := { r with events := r.events.push e }

def hungUp (r : Run) (id : String) (now : Int) : Run :=
  { r with callLength := r.callSpan now, onCall := false }.told
    ⟨id, now, Session.callEnded (r.callSpan now)⟩

def hungUpIfOn (r : Run) (id : String) (now : Int) : Run := if r.onCall then r.hungUp id now else r

def finished (r : Run) (now : Int) (result : RunResult) : Run :=
  { r with state := .ended, result := some result, stats.endedAt := some now }

/-- How many requests were made and integrations used. -/
def calls (r : Run) : Nat := r.stats.apiCalls + r.stats.integrationCalls

/-- The node is one of the flow that is run. -/
def Has (r : Run) (n : Node) : Prop := ∃ f, r.flow = some f ∧ n ∈ f.nodes

/-! ## Phases of a run -/

/-- The call is being connected. -/
structure IsDialing (r : Run) : Prop where
  state : r.state = .running
  channel : r.channel = some .voice
  onCall : r.onCall = false
  callLength : r.callLength = 0
  waiting : r.waiting = none
  calls : r.calls ≤ r.stats.visited

/-- The run is under way, and on the phone it is on a call. -/
structure IsGoing (r : Run) : Prop where
  state : r.isOver = false
  onCall : r.onCall = (r.channel == some .voice)
  waiting : ∀ n, r.waiting = some n → r.Has n
  calls : r.calls ≤ r.stats.visited

/-- The run is over. -/
structure IsClosed (r : Run) : Prop where
  state : r.state = .ended
  calls : r.calls ≤ r.stats.visited

inductive IsInPhase (r : Run) : Prop
  | blank (h : r = {})
  | dialing (h : r.IsDialing)
  | going (h : r.IsGoing)
  | closed (h : r.IsClosed)

end Run

/-- What a run must be like when a task that may go on sleeps at the stage. A node that has been
announced has not had its call counted yet. -/
def Stage.Suits (r : Run) : Stage → Prop
  | connecting n => r.IsDialing ∧ r.Has n
  | announced n => (r.IsGoing ∧ r.Has n) ∧ r.calls < r.stats.visited
  | spoken n | inEffect n _ | weighing n _ | keyed n _ => r.IsGoing ∧ r.Has n
  | closing => r.IsGoing ∧ r.onCall = true

/-- The run is in one of its phases, and in the right one for the tasks that may go on. -/
structure Run.Fits (r : Run) (stages : List Stage) : Prop where
  phase : r.IsInPhase
  suits : ∀ stage ∈ stages, stage.Suits r

/-! ## Deeds -/

/-- It can be an effect's own words, at a transfer whose node is named by no id. -/
def Run.Echoes (r : Run) (lab : Lab) (n : Notice) : Prop :=
  ∃ node, r.Has node ∧ node.kind = .transfer ∧ node.id = .null ∧ lab.Tells node n.content

/-- What is said while a run is under way. Only on the phone it is said by voice, and only the words
of an effect can read like the end of the call. -/
structure Notice.IsTalk (lab : Lab) (r : Run) (n : Notice) : Prop where
  speaker : n.speaker ≠ .error
  voice : n.speaker = .voice → r.channel = some .voice
  hangUp : n.IsHangUp → r.Echoes lab n

theorem Notice.IsLine.isTalk {lab : Lab} {stage : Stage} {r : Run} {notice : Notice}
    (h : notice.IsLine lab stage r) (hhas : ∀ n, stage.node? = some n → r.Has n) :
    notice.IsTalk lab r := by
  refine ⟨h.speaker, h.voice, fun hended => ?_⟩
  obtain ⟨n, hn, hkind, hid, htells⟩ := h.hangUp hended
  exact ⟨n, hhas n hn, hkind, hid, htells⟩

namespace Run

/-- One deed. What is done at once, with nothing told in between, is one. -/
inductive Deed (lab : Lab) : Run → Run → Prop
  | tells {r : Run} (hgoing : r.IsGoing) {e : Event} (he : e.notice.IsTalk lab r) :
      Deed lab r (r.told e)
  | fails {r : Run} (hgoing : r.IsGoing) {e : Event} (he : e.notice.speaker = .error) :
      Deed lab r (r.countError.told e)
  | arrives {r : Run} (hgoing : r.IsGoing) (n : Node) (hmore : r.steps < lab.settings.maxSteps)
      {e : Event} (he : e.notice.speaker = .system) : Deed lab r ((Session.countVisit n r).told e)
  | counts {r : Run} (hgoing : r.IsGoing) {api integration : Nat}
      (hroom : api + integration ≤ r.stats.visited) :
      Deed lab r { r with stats.apiCalls := api, stats.integrationCalls := integration }
  | turns {r : Run} (hgoing : r.IsGoing) (waiting : Option Node) {state : RunState}
      (hstate : state ≠ .idle ∧ state ≠ .ended) : Deed lab r { r with waiting, state }
  | ends {r : Run} (hgoing : r.IsGoing) (id : String) (now : Int) {result : RunResult}
      (hresult : result = .error → 0 < r.stats.errors) :
      Deed lab r ((r.hungUpIfOn id now).finished now result)
  | hangsUp {r : Run} (hphase : r.IsDialing ∨ r.IsGoing) (hvoice : r.channel = some .voice)
      (id : String) (now : Int) :
      Deed lab r (({ r with waiting := none }.hungUp id now).finished now .success)
  | clears (r : Run) : Deed lab r {}
  | loses (r : Run) {f : Flow} (hnone : f.startNode? = none) (channel : Channel) (id : String)
      (now : Int) :
      Deed lab r
        (((Session.begun f channel now).countError.told ⟨id, now, Session.noStartFound⟩).finished
          now .error)
  | dials (r : Run) {f : Flow} (hstart : f.startNode?.isSome = true) (id : String) (now : Int) :
      Deed lab r ((Session.begun f .voice now).told ⟨id, now, Session.callStarted⟩)
  | opens (r : Run) {f : Flow} (hstart : f.startNode?.isSome = true) (id : String) (now : Int) :
      Deed lab r ((Session.begun f .chat now).told ⟨id, now, Session.sessionStarted⟩)
  | connects {r : Run} (hdialing : r.IsDialing) (id : String) (now : Int) :
      Deed lab r
        { r.told ⟨id, now, Session.callConnected⟩ with onCall := true, connectedAt := some now }

abbrev Deeds (lab : Lab) : Run → Run → Prop := Relation.ReflTransGen (Deed lab)

/-- What every deed keeps is kept by all of them. -/
theorem Deeds.keep {lab : Lab} {r r' : Run} (h : Deeds lab r r') {P : Run → Prop}
    (hkeep : ∀ {r r' : Run}, Deed lab r r' → P r → P r') (hr : P r) : P r' := by
  induction h with
  | refl => exact hr
  | tail hdeeds hdeed ih => exact hkeep hdeed ih

end Run

/-! ## Sessions -/

namespace Session

variable {s t u : Session} {lab : Lab}

theorem run_emit (h : s.IsPassive) (n : Notice) :
    (s.emit n).run = s.run.told ⟨Ids.full s.nextEvent, s.now, n⟩ := by
  unfold emit
  rw [(heard_post h _ n).run]
  rfl

theorem run_hangUp (h : s.IsPassive) : s.hangUp.run = s.run.hungUp (Ids.full s.nextEvent) s.now := by
  unfold hangUp hangUpWith
  dsimp only
  have hpassive : IsPassive (s.setRun fun r =>
      { r with callLength := s.run.callSpan s.now, onCall := false }) := h
  rw [(heard_post hpassive _ _).run]
  rfl

theorem run_hangUpIfOn (h : s.IsPassive) :
    s.hangUpIfOn.run = s.run.hungUpIfOn (Ids.full s.nextEvent) s.now := by
  unfold hangUpIfOn Run.hungUpIfOn
  split
  · exact run_hangUp h
  · rfl

/-! ### What is said -/

/-- Things were said and counted by deeds, and the run is under way where it was. -/
structure Says (lab : Lab) (s t : Session) : Prop where
  quiet : Quiet s t
  deeds : s.run.Deeds lab t.run
  going : t.run.IsGoing
  onCall : t.run.onCall = s.run.onCall

theorem Says.refl (h : s.IsPassive) (hgoing : s.run.IsGoing) : Says lab s s :=
  ⟨.refl h, .refl, hgoing, rfl⟩

theorem Says.trans (h : Says lab s t) (h' : Says lab t u) : Says lab s u :=
  ⟨h.quiet.trans h'.quiet, h.deeds.trans h'.deeds, h'.going, h'.onCall.trans h.onCall⟩

theorem says_emit (h : s.IsPassive) (hgoing : s.run.IsGoing) {n : Notice}
    (hn : n.IsTalk lab s.run) : Says lab s (s.emit n) := by
  have hrun := run_emit h n
  refine ⟨quiet_emit h n, ?_, ?_, ?_⟩
  · rw [hrun]
    exact .single (.tells hgoing hn)
  · rw [hrun]
    exact ⟨hgoing.state, hgoing.onCall, hgoing.waiting, hgoing.calls⟩
  · rw [hrun]
    rfl

theorem says_error (h : s.IsPassive) (hgoing : s.run.IsGoing) {n : Notice}
    (hn : n.speaker = .error) : Says lab s ((s.setRun Run.countError).emit n) := by
  have herror := quiet_countError h
  have hrun := run_emit herror.passive n
  refine ⟨herror.trans (quiet_emit herror.passive n), ?_, ?_, ?_⟩
  · rw [hrun]
    exact .single (.fails hgoing hn)
  · rw [hrun]
    exact ⟨hgoing.state, hgoing.onCall, hgoing.waiting, hgoing.calls⟩
  · rw [hrun]
    rfl

/-- A request or an integration is counted. -/
theorem says_counted (h : s.IsPassive) (hgoing : s.run.IsGoing)
    (hroom : s.run.calls < s.run.stats.visited) {count : Session → Session}
    (hcount : count = countCall ∨ count = countIntegration) : Says lab s (count s) := by
  unfold Run.calls at hroom
  rcases hcount with rfl | rfl
  · have hroom : s.run.stats.apiCalls + 1 + s.run.stats.integrationCalls ≤ s.run.stats.visited := by
      omega
    exact ⟨quiet_countCall h, .single (.counts hgoing hroom),
      ⟨hgoing.state, hgoing.onCall, hgoing.waiting, hroom⟩, rfl⟩
  · have hroom : s.run.stats.apiCalls + (s.run.stats.integrationCalls + 1) ≤
        s.run.stats.visited := hroom
    exact ⟨quiet_countIntegration h, .single (.counts hgoing hroom),
      ⟨hgoing.state, hgoing.onCall, hgoing.waiting, hroom⟩, rfl⟩

end Session

end Dialogue
