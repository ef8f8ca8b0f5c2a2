-- Sessions whose listeners do not call back into them. There an event is appended and heard, and
-- nothing else comes of it: what is said at a node leaves the run where it is.
import Dialogue.Proofs.Run.Listeners
import Dialogue.Proofs.Run.SideBySide

namespace Dialogue

/-- A listener that does not call back into the session. It may fail, and listeners may leave. -/
def Listener.IsPassive (l : Listener) : Prop :=
  l.reaction ≠ some .hangUp ∧ l.reaction ≠ some .reset

/-- Where a run is: all that its further way hangs on but the call. -/
structure Stance where
  state : RunState
  result : Option RunResult
  current : Json
  flow : Option Flow
  waiting : Option Node
  steps : Nat
  visited : Nat

def Run.stance (r : Run) : Stance :=
  ⟨r.state, r.result, r.current, r.flow, r.waiting, r.steps, r.stats.visited⟩

namespace Session

variable {s t u : Session}

def IsPassive (s : Session) : Prop := ∀ l ∈ s.listeners, l.IsPassive

/-! ## Events -/

/-- The same session but for what was heard, and for listeners that have left. -/
structure Heard (s t : Session) : Prop where
  run : t.run = s.run
  generation : t.generation = s.generation
  runs : t.runs = s.runs
  nextEvent : t.nextEvent = s.nextEvent
  now : t.now = s.now
  dice : t.dice = s.dice
  listeners : ∀ l ∈ t.listeners, l ∈ s.listeners

theorem Heard.refl (s : Session) : Heard s s := ⟨rfl, rfl, rfl, rfl, rfl, rfl, fun _ h => h⟩

theorem Heard.trans (h : Heard s t) (h' : Heard t u) : Heard s u :=
  ⟨h'.run.trans h.run, h'.generation.trans h.generation, h'.runs.trans h.runs,
    h'.nextEvent.trans h.nextEvent, h'.now.trans h.now, h'.dice.trans h.dice,
    fun l hl => h.listeners l (h'.listeners l hl)⟩

theorem heard_dismiss (s : Session) (name : String) : Heard s (s.dismiss name) :=
  ⟨rfl, rfl, rfl, rfl, rfl, rfl, fun _ hl => List.mem_of_mem_eraseP hl⟩

theorem heard_hear (hang : Session → Session) (e : Event) (s : Session) {l : Listener}
    (hl : l.IsPassive) : Heard s (hear hang e s l) := by
  have hpush : Heard s { s with heard := s.heard.push (l.name, e) } :=
    ⟨rfl, rfl, rfl, rfl, rfl, rfl, fun _ h => h⟩
  unfold hear
  dsimp only
  split
  · refine hpush.trans ?_
    unfold react
    split
    · exact .refl _
    · exact .refl _
    · rename_i hhang
      exact absurd hhang hl.1
    · rename_i hreset
      exact absurd hreset hl.2
    · exact heard_dismiss _ _
  · exact hpush

theorem heard_foldl (hang : Session → Session) (e : Event) (ls : List Listener) (s : Session)
    (hls : ∀ l ∈ ls, l.IsPassive) : Heard s (ls.foldl (hear hang e) s) := by
  induction ls generalizing s with
  | nil => exact .refl s
  | cons l rest ih =>
    rw [List.foldl_cons]
    exact (heard_hear hang e s (hls l (by simp))).trans (ih _ fun x hx => hls x (by simp [hx]))

theorem heard_post (h : s.IsPassive) (hang : Session → Session) (n : Notice) :
    Heard (s.logged n) (s.post hang n) :=
  heard_foldl hang _ _ _ h

/-! ## Quiet changes -/

/-- The second session comes after the first under the same generation, at the same time. -/
structure Calm (s t : Session) : Prop where
  passive : t.IsPassive
  generation : t.generation = s.generation
  now : t.now = s.now

/-- And its run is where it was. -/
structure Quiet (s t : Session) : Prop extends Calm s t where
  stance : t.run.stance = s.run.stance

theorem Calm.trans (h : Calm s t) (h' : Calm t u) : Calm s u :=
  ⟨h'.passive, h'.generation.trans h.generation, h'.now.trans h.now⟩

theorem Quiet.refl (h : s.IsPassive) : Quiet s s := ⟨⟨h, rfl, rfl⟩, rfl⟩

theorem Quiet.trans (h : Quiet s t) (h' : Quiet t u) : Quiet s u :=
  ⟨h.toCalm.trans h'.toCalm, h'.stance.trans h.stance⟩

theorem quiet_setRun (h : s.IsPassive) {change : Run → Run}
    (hstance : (change s.run).stance = s.run.stance) : Quiet s (s.setRun change) :=
  ⟨⟨h, rfl, rfl⟩, hstance⟩

theorem quiet_dice (h : s.IsPassive) (dice : Dice) : Quiet s { s with dice } :=
  ⟨⟨h, rfl, rfl⟩, rfl⟩

theorem quiet_post (h : s.IsPassive) (hang : Session → Session) (n : Notice) :
    Quiet s (s.post hang n) := by
  have hpost := heard_post h hang n
  refine ⟨⟨fun l hl => h l (hpost.listeners l hl), hpost.generation, hpost.now⟩, ?_⟩
  rw [hpost.run]
  rfl

theorem quiet_emit (h : s.IsPassive) (n : Notice) : Quiet s (s.emit n) := quiet_post h _ n

theorem quiet_hangUp (h : s.IsPassive) : Quiet s s.hangUp := by
  unfold hangUp hangUpWith
  have hrun : Quiet s (s.setRun fun r =>
      { r with callLength := s.run.callSpan s.now, onCall := false }) := quiet_setRun h rfl
  exact hrun.trans (quiet_post hrun.passive _ _)

theorem quiet_hangUpIfOn (h : s.IsPassive) : Quiet s s.hangUpIfOn := by
  unfold hangUpIfOn
  split
  · exact quiet_hangUp h
  · exact .refl h

theorem quiet_countError (h : s.IsPassive) : Quiet s (s.setRun Run.countError) :=
  quiet_setRun h rfl

theorem quiet_countCall (h : s.IsPassive) : Quiet s s.countCall := quiet_setRun h rfl

theorem quiet_countIntegration (h : s.IsPassive) : Quiet s s.countIntegration := quiet_setRun h rfl

theorem quiet_connected (h : s.IsPassive) : Quiet s s.connected := by
  have hsaid := quiet_emit h callConnected
  exact hsaid.trans (quiet_setRun hsaid.passive rfl)

end Session

end Dialogue
