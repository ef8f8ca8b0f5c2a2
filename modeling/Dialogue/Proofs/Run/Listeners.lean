-- What listeners leave as it is. A notice is told to one after the other, and each may call back into
-- the session. A property that none of their reactions takes away holds after all have heard it.
import Dialogue.Run.Session

namespace Dialogue

namespace Session

/-- The session with one more event, before anyone hears it. -/
def logged (s : Session) (n : Notice) : Session :=
  { s with
    run := { s.run with events := s.run.events.push ⟨Ids.full s.nextEvent, s.now, n⟩ }
    nextEvent := s.nextEvent + 1 }

/-! ## What withstands listeners -/

/-- A property of sessions that no listener who hears of the notice takes away but one that hangs
up. -/
structure Robust (n : Notice) (P : Session → Prop) : Prop where
  heard : ∀ {s : Session} {name : String} {e : Event}, e.notice = n → P s →
    P { s with heard := s.heard.push (name, e) }
  reset : ∀ {s : Session}, P s → P s.reset
  dismiss : ∀ {s : Session} (name : String), P s → P (s.dismiss name)

/-- Nobody among the listeners hangs up when the notice is heard. -/
def SpareAt (ls : List Listener) (n : Notice) : Prop :=
  ∀ l ∈ ls, l.reaction = some .hangUp → n.holds l.cue = false

namespace Robust

variable {n : Notice} {P : Session → Prop} (hP : Robust n P) {s : Session}
  {hang : Session → Session}

include hP

theorem hear (h : P s) {e : Event} (he : e.notice = n) (l : Listener)
    (hhang : l.reaction = some .hangUp → n.holds l.cue = true → ∀ t, P t → P (hang t)) :
    P (Session.hear hang e s l) := by
  have hheard : P { s with heard := s.heard.push (l.name, e) } := hP.heard he h
  unfold Session.hear
  dsimp only
  split
  · rename_i hholds
    unfold react
    split
    · exact hheard
    · exact hheard
    · rename_i hreaction
      exact hhang hreaction (he ▸ hholds) _ hheard
    · exact hP.reset hheard
    · exact hP.dismiss _ hheard
  · exact hheard

theorem foldl_hear (h : P s) {e : Event} (he : e.notice = n) (ls : List Listener)
    (hhang : SpareAt ls n ∨ ∀ t, P t → P (hang t)) : P (ls.foldl (Session.hear hang e) s) := by
  induction ls generalizing s with
  | nil => exact h
  | cons l rest ih =>
    rcases hhang with hspare | hhang
    · have hnot := hspare l List.mem_cons_self
      refine ih (hP.hear h he l fun hreaction hholds => ?_)
        (Or.inl fun m hm => hspare m (List.mem_cons_of_mem l hm))
      rw [hnot hreaction] at hholds
      cases hholds
    · exact ih (hP.hear h he l fun _ _ => hhang) (Or.inr hhang)

theorem post (h : P (s.logged n)) (hhang : SpareAt s.listeners n ∨ ∀ t, P t → P (hang t)) :
    P (s.post hang n) :=
  hP.foldl_hear h rfl s.listeners hhang

end Robust

variable {s t u : Session}

/-! ## Hang-ups inside each other -/

theorem endCallWith_of_not_canHangUp (hang : Session → Session) (h : s.canHangUp = false) :
    s.endCallWith hang = s := by
  unfold endCallWith
  rw [h, if_neg Bool.false_ne_true]

/-- What a hang-up keeps that is accepted, if those inside it do, is kept however deep they go. -/
theorem nestedHangUp_keeps {P : Session → Prop}
    (hP : ∀ {hang : Session → Session} {s : Session}, (∀ t, P t → P (hang t)) →
      s.canHangUp = true → P s → P (s.endCallWith hang)) (depth : Nat) :
    ∀ s : Session, P s → P (nestedHangUp depth s) := by
  induction depth with
  | zero => exact fun _ h => h
  | succ depth ih =>
    intro s h
    rw [nestedHangUp]
    cases hcan : s.canHangUp with
    | true => exact hP ih hcan h
    | false =>
      rw [endCallWith_of_not_canHangUp _ hcan]
      exact h

/-! ## What cannot be taken back -/

/-- No counter falls, and no time passes. -/
structure Advances (s t : Session) : Prop where
  generation : s.generation ≤ t.generation
  runs : s.runs ≤ t.runs
  now : t.now = s.now

theorem Advances.refl (s : Session) : Advances s s := ⟨Nat.le_refl _, Nat.le_refl _, rfl⟩

theorem Advances.trans (h : Advances s t) (h' : Advances t u) : Advances s u :=
  ⟨Nat.le_trans h.generation h'.generation, Nat.le_trans h.runs h'.runs, h'.now.trans h.now⟩

theorem robust_advances (s : Session) (n : Notice) : Robust n (Advances s) where
  heard _ h := ⟨h.generation, h.runs, h.now⟩
  reset h := ⟨Nat.le_succ_of_le h.generation, Nat.le_succ_of_le h.runs, h.now⟩
  dismiss _ h := ⟨h.generation, h.runs, h.now⟩

theorem advances_post {hang : Session → Session} (hhang : ∀ s, Advances s (hang s)) (s : Session)
    (n : Notice) : Advances s (s.post hang n) :=
  (robust_advances s n).post ⟨Nat.le_refl _, Nat.le_refl _, rfl⟩
    (Or.inr fun t ht => ht.trans (hhang t))

/-- A hang-up that is accepted raises the generation. -/
theorem advances_endCallWith {hang : Session → Session} (hhang : ∀ s, Advances s (hang s))
    (hcan : s.canHangUp = true) :
    Advances { s with generation := s.generation + 1 } (s.endCallWith hang) := by
  unfold endCallWith hangUpWith
  rw [if_pos hcan]
  have hpost := advances_post hhang
    { (s.setRun fun r => { r with waiting := none }).setRun fun r =>
        { r with callLength := r.callSpan s.now, onCall := false } with
      generation := s.generation + 1 } (callEnded (s.run.callSpan s.now))
  exact ⟨hpost.generation, hpost.runs, hpost.now⟩

theorem advances_nestedHangUp (depth : Nat) (s : Session) : Advances s (nestedHangUp depth s) := by
  induction depth generalizing s with
  | zero => exact .refl s
  | succ depth ih =>
    cases hcan : s.canHangUp with
    | true =>
      have h := advances_endCallWith ih hcan
      exact ⟨Nat.le_trans (Nat.le_succ _) h.generation, h.runs, h.now⟩
    | false =>
      rw [nestedHangUp, endCallWith_of_not_canHangUp _ hcan]
      exact .refl s

theorem advances_emit (s : Session) (n : Notice) : Advances s (s.emit n) :=
  advances_post (advances_nestedHangUp deepest) s n

end Session

end Dialogue
