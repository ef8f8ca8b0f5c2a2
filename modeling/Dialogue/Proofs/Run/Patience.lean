-- How often the tasks of a bench can still wake. Where nobody listens each wake leaves fewer to come,
-- and there are never more than the bench has patience for.
import Dialogue.Proofs.Run.Course
import Dialogue.Proofs.Run.InStep
import Mathlib.Algebra.Order.BigOperators.Group.List
import Mathlib.Algebra.Order.Ring.Nat

namespace Dialogue

/-! ## Late stretches -/

/-- Off the calendar a stretch stops for good, under the same generation. -/
structure Session.BreaksOff (s : Session) (r : Stretch) : Prop where
  generation : r.1.generation = s.generation
  steps : s.run.steps ≤ r.1.run.steps
  halt : ∀ span stage, r.2 ≠ .asleep span stage

namespace Session

variable {lab : Lab} {s t : Session} {r : Stretch}

theorem BreaksOff.after (h : t.BreaksOff r) (hgeneration : t.generation = s.generation)
    (hsteps : s.run.steps ≤ t.run.steps) : s.BreaksOff r :=
  ⟨h.generation.trans hgeneration, Nat.le_trans hsteps h.steps, h.halt⟩

variable (s) in
theorem breaksOff_here {halt : Halt} (h : ∀ span stage, halt ≠ .asleep span stage) :
    s.BreaksOff (s, halt) :=
  ⟨rfl, Nat.le_refl _, h⟩

variable (s) in
theorem breaksOff_done : s.BreaksOff (s, .done) := breaksOff_here s fun _ _ h => by cases h

variable (s) in
theorem breaksOff_failed (fault : Fault) : s.BreaksOff (s, .failed fault) :=
  breaksOff_here s fun _ _ h => by cases h

variable (s) in
theorem breaksOff_emitLate : s.BreaksOff s.emitLate :=
  (breaksOff_failed { s with nextEvent := s.nextEvent + 1 } _).after rfl (Nat.le_refl _)

theorem breaksOff_hangUpLate : s.BreaksOff s.hangUpLate := by
  unfold hangUpLate
  split
  · exact breaksOff_failed s _
  · exact breaksOff_emitLate s

theorem breaksOff_deadEndLate : s.BreaksOff s.deadEndLate := by
  unfold deadEndLate
  split
  · exact breaksOff_failed s _
  · exact (breaksOff_failed _ _).after rfl (Nat.le_refl _)

theorem breaksOff_enterLate (n : Node) : s.BreaksOff (s.enterLate lab n) := by
  unfold enterLate
  dsimp only
  split
  · exact (breaksOff_emitLate _).after rfl (Nat.le_refl _)
  · exact (breaksOff_emitLate _).after rfl (Nat.le_succ _)

theorem breaksOff_leaveLate (generation : Nat) (next : Flow → Option Node) :
    s.BreaksOff (s.leaveLate lab generation next) := by
  unfold leaveLate
  split
  · exact breaksOff_failed s _
  · split
    · split
      · exact breaksOff_enterLate _
      · exact breaksOff_deadEndLate
    · exact breaksOff_done s

theorem breaksOff_visitLate (generation : Nat) (n : Node) :
    s.BreaksOff (s.visitLate lab generation n) := by
  unfold visitLate
  split
  · exact breaksOff_leaveLate _ _
  · exact (breaksOff_emitLate _).after rfl (Nat.le_refl _)
  · exact (breaksOff_emitLate _).after rfl (Nat.le_refl _)
  · exact (breaksOff_emitLate _).after rfl (Nat.le_refl _)
  · exact (breaksOff_emitLate _).after rfl (Nat.le_refl _)
  all_goals exact breaksOff_emitLate s

theorem breaksOff_afterEffectLate (generation : Nat) (n : Node) (channel : Option Channel) :
    s.BreaksOff (s.afterEffectLate lab generation n channel) := by
  unfold afterEffectLate
  rcases (lab.effects n.kind).act n channel s.dice with ⟨outcome, dice⟩
  cases outcome with
  | error fault => exact (breaksOff_failed { s with dice } fault).after rfl (Nat.le_refl _)
  | ok r =>
    dsimp only
    split
    · split
      · exact (breaksOff_emitLate { s with dice }).after rfl (Nat.le_refl _)
      · exact (breaksOff_emitLate _).after rfl (Nat.le_refl _)
    · exact (breaksOff_done { s with dice }).after rfl (Nat.le_refl _)

theorem breaksOff_resumeLate (generation : Nat) (stage : Stage) :
    s.BreaksOff (s.resumeLate lab generation stage) := by
  unfold resumeLate
  split
  · exact breaksOff_afterEffectLate _ _ _
  · split
    · exact breaksOff_done s
    · split
      · exact breaksOff_visitLate _ _
      · exact breaksOff_leaveLate _ _
      · exact breaksOff_hangUpLate
      · exact breaksOff_emitLate s
      · exact breaksOff_emitLate s
      · exact breaksOff_emitLate s
      · exact breaksOff_done s

variable (lab s) in
/-- Off the calendar, too, a task of another generation stops. -/
theorem tryResume_stale {generation : Nat} (hstale : s.generation ≠ generation) (stage : Stage) :
    s.tryResume lab generation stage =
      ({ s with dice := stage.diceAfter lab s.dice }, .stopped (stage.fault? lab s.dice)) := by
  unfold tryResume
  split
  · unfold resumeLate
    cases stage with
    | inEffect n channel =>
      rw [Stage.diceAfter, Stage.fault?]
      dsimp only
      unfold afterEffectLate
      rcases (lab.effects n.kind).act n channel s.dice with ⟨outcome, dice⟩
      cases outcome with
      | error fault => rfl
      | ok r =>
        dsimp only
        rw [if_neg (by simp [isCurrent, hstale])]
        rfl
    | _ =>
      dsimp only
      rw [if_pos (by simp [isCurrent, hstale])]
      rfl
  · exact resume_stale lab hstale stage

end Session

theorem Halt.stopped_ne_asleep (fault : Option Fault) (span : Nat) (stage : Stage) :
    Halt.stopped fault ≠ .asleep span stage := by
  cases fault <;> exact fun h => by cases h

/-! ## The wakes to come -/

/-- How often a task that sleeps at the stage can still wake before it is done or waits. -/
def Session.wakesFrom (lab : Lab) (s : Session) (stage : Stage) : Nat :=
  2 * (lab.settings.maxSteps - s.run.steps) + stage.weight

/-- How often the sleeper can still wake. One that may not go on wakes once. -/
def Session.wakesOf (lab : Lab) (s : Session) (x : Sleeper) : Nat :=
  if x.generation = s.generation then s.wakesFrom lab x.stage else 1

/-- How often sleepers can still wake. -/
def Bench.wakes (lab : Lab) (b : Bench) : Nat := (b.sleepers.map (b.session.wakesOf lab)).sum

namespace Session

variable {lab : Lab} {s : Session}

/-- What a stretch takes from the wakes to come. -/
structure Spends (lab : Lab) (s : Session) (x : Sleeper) (r : Stretch) : Prop where
  generation : r.1.generation = s.generation
  steps : s.run.steps ≤ r.1.run.steps
  fewer : ∀ span stage, r.2 = .asleep span stage →
    x.generation = s.generation ∧ r.1.wakesFrom lab stage < s.wakesFrom lab x.stage

theorem BreaksOff.spends {r : Stretch} (h : s.BreaksOff r) (x : Sleeper) : Spends lab s x r :=
  ⟨h.generation, h.steps, fun span stage hasleep => absurd hasleep (h.halt span stage)⟩

theorem Calm.breaksOff {t : Session} (h : Calm s t) (hsteps : t.run.steps = s.run.steps)
    {halt : Halt} (hhalt : ∀ span stage, halt ≠ .asleep span stage) : s.BreaksOff (t, halt) :=
  ⟨h.generation, Nat.le_of_eq hsteps.symm, hhalt⟩

theorem Moves.spends {x : Sleeper} {r : Stretch} (h : Moves lab s x.stage r)
    (hcurrent : x.generation = s.generation) : Spends lab s x r := by
  have hweight := x.stage.weight_pos
  have hover : ∀ span stage, Halt.done ≠ .asleep span stage := fun _ _ h => by cases h
  cases h with
  | @arrives t halt n hleaves hn hmore hcalm hstance hhalt =>
    have hsteps : t.run.steps = s.run.steps + 1 := congrArg Stance.steps hstance
    refine ⟨hcalm.generation, Nat.le_of_lt (Nat.le_of_eq hsteps.symm), fun span stage hasleep =>
      ⟨hcurrent, ?_⟩⟩
    cases hhalt with
    | asleep us =>
      cases hasleep
      dsimp only [wakesFrom]
      rw [Stage.weight, hsteps]
      omega
    | failed => cases hasleep
  | @stays t halt n later hstage hlater hquiet hhalt =>
    have hsteps := stance_steps hquiet
    refine ⟨hquiet.generation, Nat.le_of_eq hsteps.symm, fun span stage hasleep => ⟨hcurrent, ?_⟩⟩
    cases hhalt with
    | asleep us =>
      cases hasleep
      dsimp only [wakesFrom]
      rw [hstage, hlater.weight_eq, Stage.weight, hsteps]
      omega
    | failed => cases hasleep
  | cut hleaves hn hmost hcalm hstance =>
    exact (hcalm.breaksOff (congrArg Stance.steps hstance) hover).spends x
  | ends hleaves hnone hcalm hstance =>
    exact (hcalm.breaksOff (congrArg Stance.steps hstance) hover).spends x
  | closes hcloses hcalm hstance =>
    exact (hcalm.breaksOff (congrArg Stance.steps hstance) hover).spends x
  | waits hstage hkind hcalm hstance =>
    exact (hcalm.breaksOff (congrArg Stance.steps hstance) hover).spends x
  | breaks hwhy hquiet =>
    exact (hquiet.toCalm.breaksOff (stance_steps hquiet) fun _ _ h => by cases h).spends x
  | idles hidle hquiet => exact (hquiet.toCalm.breaksOff (stance_steps hquiet) hover).spends x

variable (lab) in
/-- Where nobody listens, a sleeper that wakes has fewer wakes to come than it had. -/
theorem spends_tryResume (h : s.listeners = []) (x : Sleeper) :
    Spends lab s x (s.tryResume lab x.generation x.stage) := by
  by_cases hcurrent : x.generation = s.generation
  · unfold tryResume
    split
    · exact (breaksOff_resumeLate x.generation x.stage).spends x
    · exact (moves_resume (passive_of_alone h) hcurrent.symm x.stage).spends hcurrent
  · rw [tryResume_stale lab s (Ne.symm hcurrent)]
    exact ⟨rfl, Nat.le_refl _, fun span stage hasleep =>
      absurd hasleep (Halt.stopped_ne_asleep _ span stage)⟩

theorem Spends.wakesOf_le {x : Sleeper} {r : Stretch} (h : Spends lab s x r) (y : Sleeper) :
    r.1.wakesOf lab y ≤ s.wakesOf lab y := by
  have hsteps := h.steps
  unfold wakesOf wakesFrom
  rw [h.generation]
  split <;> omega

theorem wakesOf_pos (y : Sleeper) : 0 < s.wakesOf lab y := by
  have hweight := y.stage.weight_pos
  unfold wakesOf wakesFrom
  split <;> omega

theorem wakesOf_le (y : Sleeper) : s.wakesOf lab y ≤ 2 * lab.settings.maxSteps + 2 := by
  have hweight := y.stage.weight_le
  unfold wakesOf wakesFrom
  split <;> omega

end Session

namespace Bench

variable {lab : Lab} {b : Bench}

/-- Filing a stretch that a sleeper has walked leaves fewer wakes to come than there were with the
sleeper. -/
theorem wakes_file {x : Sleeper} {r : Stretch} (h : b.session.Spends lab x r) :
    (b.file x.task x.errand x.generation r).wakes lab < b.session.wakesOf lab x + b.wakes lab := by
  have hothers : (b.sleepers.map (r.1.wakesOf lab)).sum ≤ b.wakes lab :=
    List.sum_le_sum fun y _ => h.wakesOf_le y
  have hself : 0 < b.session.wakesOf lab x := Session.wakesOf_pos x
  unfold wakes
  rw [file_session]
  unfold file
  dsimp only
  split
  · rename_i span stage hhalt
    obtain ⟨hcurrent, hfewer⟩ := h.fewer span stage hhalt
    let y : Sleeper := ⟨x.task, x.errand, x.generation, r.1.now + span, stage⟩
    have hnew : r.1.wakesOf lab y < b.session.wakesOf lab x := by
      unfold Session.wakesOf
      rw [if_pos (hcurrent.trans h.generation.symm), if_pos hcurrent]
      exact hfewer
    have hperm := ((lieDown_perm y b.sleepers).map (r.1.wakesOf lab)).sum_eq
    rw [List.map_cons, List.sum_cons] at hperm
    dsimp only
    change ((lieDown y b.sleepers).map _).sum < _
    unfold wakes at hothers
    omega
  · unfold wakes at hothers
    dsimp only
    omega
  · unfold wakes at hothers
    dsimp only
    omega

/-- Each wake is one of those to come. -/
theorem wakes_wakeFirst (h : b.session.listeners = []) (hsleeps : b.sleepers ≠ []) :
    (b.wakeFirst lab).wakes lab < b.wakes lab := by
  obtain ⟨x, rest, hrest⟩ := List.exists_cons_of_ne_nil hsleeps
  unfold wakeFirst
  rw [hrest]
  dsimp only
  refine Nat.lt_of_lt_of_eq (wakes_file (Session.spends_tryResume lab ?_ x)) ?_
  · exact h
  · unfold wakes
    rw [hrest, List.map_cons, List.sum_cons]
    rfl

theorem wakes_pos (hsleeps : b.sleepers ≠ []) : 0 < b.wakes lab := by
  obtain ⟨x, rest, hrest⟩ := List.exists_cons_of_ne_nil hsleeps
  unfold wakes
  rw [hrest, List.map_cons, List.sum_cons]
  exact Nat.add_pos_left (Session.wakesOf_pos x) _

variable (lab b) in
/-- The bench is patient enough for all wakes to come. -/
theorem wakes_le_patience : b.wakes lab ≤ b.patience lab := by
  have hall := List.sum_le_card_nsmul (b.sleepers.map (b.session.wakesOf lab))
    (2 * lab.settings.maxSteps + 2) (by simp [Session.wakesOf_le])
  unfold wakes patience
  rw [List.length_map, Nat.nsmul_eq_mul] at hall
  refine Nat.le_trans hall (Nat.mul_le_mul (Nat.le_succ _) ?_)
  omega

end Bench

end Dialogue
