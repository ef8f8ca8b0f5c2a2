-- The tasks that may go on with the run of a bench, by the stages at which they sleep. What a
-- stride makes of them does not hang on where they lie among the sleepers.
import Dialogue.Proofs.Run.History

namespace Dialogue

/-- Where the task sleeps after a stretch, if it does. -/
def Halt.stages : Halt → List Stage
  | .asleep _ stage => [stage]
  | _ => []

namespace Bench

/-- The stages of the tasks that may go on. -/
def stages (b : Bench) : List Stage := b.current.map (·.stage)

variable {lab : Lab} {b b' : Bench}

/-! ## Among the sleepers -/

theorem filter_eraseIdx {p : Sleeper → Bool} {xs : List Sleeper} {place : Nat} {x : Sleeper}
    (hx : xs[place]? = some x) (hp : ¬ p x = true) :
    (xs.eraseIdx place).filter p = xs.filter p := by
  induction xs generalizing place with
  | nil => rfl
  | cons y rest ih =>
    cases place with
    | zero =>
      rw [List.getElem?_cons_zero, Option.some.injEq] at hx
      rw [List.eraseIdx_cons_zero, List.filter_cons, hx, if_neg hp]
    | succ place =>
      rw [List.getElem?_cons_succ] at hx
      rw [List.eraseIdx_cons_succ, List.filter_cons, List.filter_cons, ih hx]

theorem stages_eq_nil_iff :
    b.stages = [] ↔ ∀ x ∈ b.sleepers, x.generation ≠ b.session.generation := by
  unfold stages current
  rw [List.map_eq_nil_iff, List.filter_eq_nil_iff]
  simp

/-- Where the generation has risen, no old task may go on. -/
theorem stages_of_rise (haged : b.IsAged) (hsleepers : b'.sleepers = b.sleepers)
    (hrise : b.session.generation < b'.session.generation) : b'.stages = [] := by
  rw [stages_eq_nil_iff, hsleepers]
  intro x hx
  have hold := haged.old x hx
  omega

/-- Where an old task is gone, those that may go on are the same. -/
theorem stages_drop {place : Nat} {x : Sleeper} (hx : b.sleepers[place]? = some x)
    (hstale : x.generation ≠ b.session.generation)
    (hgeneration : b'.session.generation = b.session.generation)
    (hsleepers : b'.sleepers = b.sleepers.eraseIdx place) : b'.stages = b.stages := by
  unfold stages current
  rw [hsleepers, hgeneration, filter_eraseIdx hx (by simpa using hstale)]

/-- The one task that may go on is woken, and only old ones are left asleep. -/
theorem others_old {place : Nat} {x : Sleeper} (hx : b.sleepers[place]? = some x)
    (hcurrent : x.generation = b.session.generation) (hone : b.stages.length ≤ 1) :
    b.stages = [x.stage] ∧
      ∀ y ∈ b.sleepers.eraseIdx place, y.generation ≠ b.session.generation := by
  obtain ⟨hlt, rfl⟩ := List.getElem?_eq_some_iff.mp hx
  -- With the sleeper in front of the others, it is the only one that the filter leaves.
  have hperm := (List.getElem_cons_eraseIdx_perm hlt).filter
    (·.generation == b.session.generation)
  rw [List.filter_cons, if_pos (by simpa using hcurrent)] at hperm
  have hlength := hperm.length_eq
  rw [List.length_cons] at hlength
  unfold stages current at hone ⊢
  rw [List.length_map] at hone
  have hnone : (b.sleepers.eraseIdx place).filter (·.generation == b.session.generation) = [] := by
    rw [← List.length_eq_zero_iff]
    omega
  refine ⟨?_, ?_⟩
  · rw [hnone] at hperm
    rw [List.perm_singleton.mp hperm.symm, List.map_singleton]
  · intro y hy heq
    exact List.filter_eq_nil_iff.mp hnone y hy (by simpa using heq)

/-! ## A filed stretch -/

/-- What a stretch came to is all that may go on. -/
structure Files (r : Stretch) (b : Bench) : Prop where
  session : b.session = r.1
  stages : b.stages = r.2.stages

/-- Where no other task may go on, the one that was just filed is the only one that may. -/
theorem files_file (task : Nat) (errand : Errand) {r : Stretch}
    (hothers : ∀ x ∈ b.sleepers, x.generation ≠ r.1.generation) :
    Files r (b.file task errand r.1.generation r) := by
  refine ⟨file_session _ _ _ _ _, ?_⟩
  have hnone : ∀ x ∈ b.sleepers, ¬ (x.generation == r.1.generation) = true := by
    intro x hx
    rw [beq_iff_eq]
    exact hothers x hx
  unfold stages current
  rw [file_session]
  unfold file
  dsimp only
  split
  · -- The new sleeper may lie anywhere among the old ones, so they are compared up to order.
    rename_i span stage hhalt
    let x : Sleeper := ⟨task, errand, r.1.generation, r.1.now + span, stage⟩
    have hperm := (lieDown_perm x b.sleepers).filter (·.generation == r.1.generation)
    have hself : (x.generation == r.1.generation) = true := beq_self_eq_true _
    rw [List.filter_cons, if_pos hself, List.filter_eq_nil_iff.mpr hnone] at hperm
    dsimp only
    rw [List.perm_singleton.mp hperm, hhalt]
    rfl
  · rename_i hhalt
    rw [List.filter_eq_nil_iff.mpr hnone, hhalt]
    rfl
  · rename_i hhalt
    rw [List.filter_eq_nil_iff.mpr hnone, hhalt]
    rfl

/-! ## Strides -/

/-- What a stride makes of a run beside the tasks that may go on with it. -/
inductive Advances (lab : Lab) (b : Bench) : Bearing → Bench → Prop
  | rests {b' : Bench} (hstance : b'.session.run.stance = b.session.run.stance)
      (hstages : b'.stages = b.stages) : Advances lab b .nothing b'
  | answers {b' : Bench} {n : Node} {text : String} {stage : Stage} {r : Stretch}
      (hanswers : Session.Answers lab b.session n stage r)
      (hat : stage.IsAnswerAt n text b.session.run.state) (hstages : b.stages = [])
      (hfiles : Files r b') : Advances lab b (.answer text) b'
  | goesOn {b' : Bench} {stage : Stage} {r : Stretch}
      (hmoves : Session.Moves lab b.session stage r) (hstages : b.stages = [stage])
      (hfiles : Files r b') : Advances lab b .step b'

theorem Strides.advances {bearing : Bearing} (h : Strides lab b bearing b')
    (hone : b.stages.length ≤ 1)
    (hnone : ∀ n, b.session.run.waiting = some n → b.stages = []) :
    Advances lab b bearing b' := by
  cases h with
  | rests hquiet hsleepers =>
    refine .rests hquiet.stance ?_
    unfold stages current
    rw [hsleepers, hquiet.generation]
  | drops hx hstale hquiet hsleepers =>
    exact .rests hquiet.stance (stages_drop hx hstale hquiet.generation hsleepers)
  | @answers n text stage r hanswers hat tasks task =>
    have hstages := hnone n hanswers.waiting
    have hothers : ∀ x ∈ b.sleepers, x.generation ≠ r.1.generation := by
      rw [hanswers.quiet.generation]
      exact stages_eq_nil_iff.mp hstages
    have hfiles : Files r _ := files_file (b := { b with tasks }) task .answer hothers
    exact .answers hanswers hat hstages hfiles
  | @goesOn place x r hx hcurrent hmoves =>
    obtain ⟨hstages, hothers⟩ := others_old hx hcurrent hone
    rw [← hmoves.calm.generation] at hothers
    have hfiles : Files r _ := files_file (b := { b with sleepers := b.sleepers.eraseIdx place })
      x.task x.errand hothers
    exact .goesOn hmoves hstages hfiles

end Bench

end Dialogue
