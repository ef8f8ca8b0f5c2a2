-- The order that every history keeps. A run that is going on has one task that may go on, a run
-- that waits has none and knows its node, and an old task never counts.
import Dialogue.Proofs.Run.Tasks

namespace Dialogue

/-! ## Where a run can stand -/

/-- Whether a task can be at the stage while the run is at a node. -/
def Stage.IsAt (current : Json) : Stage → Prop
  | announced n | spoken n | inEffect n _ | weighing n _ | keyed n _ => current = n.id
  | connecting _ | closing => True

theorem Stage.IsAnswerAt.isAt {n : Node} {text : String} {state : RunState} {stage : Stage}
    (h : stage.IsAnswerAt n text state) : stage.IsAt n.id := by
  cases h <;> rfl

/-- The stance of a run beside the stages of the tasks that may go on with it. A run can be adrift
for want of a task only where an effect or a pause may break one off. -/
inductive Stance.Stands (lab : Lab) (a : Stance) : List Stage → Prop
  | idle (hstate : a.state = .idle) (hwaiting : a.waiting = none) (hresult : a.result = none) :
      Stands lab a []
  | walks {f : Flow} {stage : Stage} (hstate : a.state = .running) (hwaiting : a.waiting = none)
      (hresult : a.result = none) (hflow : a.flow = some f) (hat : stage.IsAt a.current) :
      Stands lab a [stage]
  | waits {f : Flow} {n : Node} (hkind : n.kind = .condition ∨ n.kind = .dtmf)
      (hstate : a.state = if n.kind = .condition then .waitingForText else .waitingForKeys)
      (hwaiting : a.waiting = some n) (hresult : a.result = none) (hflow : a.flow = some f)
      (hcurrent : a.current = n.id) : Stands lab a []
  | ended (hstate : a.state = .ended) (hwaiting : a.waiting = none)
      (hresult : a.result.isSome = true) : Stands lab a []
  | adrift (hwhy : ¬ lab.EffectsReturn ∨ ¬ lab.PausesReturn) (hstate : a.state = .running)
      (hwaiting : a.waiting = none) (hresult : a.result = none) : Stands lab a []

namespace Stance.Stands

variable {lab : Lab} {a : Stance} {stages : List Stage}

theorem length_le (h : a.Stands lab stages) : stages.length ≤ 1 := by
  cases h <;> simp

/-- Where a node waits, no task may go on. -/
theorem none_of_waiting (h : a.Stands lab stages) {n : Node} (hn : a.waiting = some n) :
    stages = [] := by
  cases h with
  | walks hstate hwaiting => cases hwaiting.symm.trans hn
  | _ => rfl

/-- A task that rests keeps the run going, unless its pause is no span of time. -/
theorem of_rests {f : Flow} {stage : Stage} {halt : Halt} (hstate : a.state = .running)
    (hwaiting : a.waiting = none) (hresult : a.result = none) (hflow : a.flow = some f)
    (hat : stage.IsAt a.current) (hhalt : halt.RestsUntil lab stage) :
    a.Stands lab halt.stages := by
  cases hhalt with
  | asleep span => exact .walks hstate hwaiting hresult hflow hat
  | failed hpause => exact .adrift (Or.inr hpause) hstate hwaiting hresult

end Stance.Stands

/-- What a task that may go on comes to leaves the run in order. -/
theorem Session.Moves.stands {lab : Lab} {s : Session} {stage : Stage} {r : Stretch}
    (hr : Moves lab s stage r) (h : s.run.stance.Stands lab [stage]) :
    r.1.run.stance.Stands lab r.2.stages := by
  cases h with
  | walks hstate hwaiting hresult hflow hat =>
    cases hr with
    | arrives hleaves hn hmore hcalm hstance hhalt =>
      dsimp only
      rw [hstance]
      refine .of_rests hstate hwaiting hresult hflow ?_ hhalt
      rfl
    | cut hleaves hn hmost hcalm hstance =>
      dsimp only
      rw [hstance]
      exact .ended rfl hwaiting rfl
    | ends hleaves hnone hcalm hstance =>
      dsimp only
      rw [hstance]
      exact .ended rfl hwaiting rfl
    | closes hcloses hcalm hstance =>
      dsimp only
      rw [hstance]
      exact .ended rfl hwaiting rfl
    | stays hstage hlater hquiet hhalt =>
      dsimp only
      rw [hquiet.stance]
      subst hstage
      refine .of_rests hstate hwaiting hresult hflow ?_ hhalt
      cases hlater with
      | spoken => exact hat
      | inEffect => exact hat
      | closing => trivial
    | waits hstage hkind hcalm hstance =>
      dsimp only
      rw [hstance]
      subst hstage
      exact .waits hkind rfl rfl hresult hflow hat
    | breaks hwhy hquiet =>
      dsimp only
      rw [hquiet.stance]
      rcases hwhy with hwhy | hwhy
      · exact .adrift (Or.inl hwhy) hstate hwaiting hresult
      · cases hflow.symm.trans hwhy
    | idles hidle hquiet => exact absurd hstate hidle

theorem Session.Starts.stands {lab : Lab} {s : Session} {f : Flow} {channel : Channel} {r : Stretch}
    (hr : Starts lab s f channel r) : r.1.run.stance.Stands lab r.2.stages := by
  cases hr with
  | lost hnone hcalm hstance =>
    dsimp only
    rw [hstance]
    exact .ended rfl rfl rfl
  | calls hstart hquiet hhalt =>
    dsimp only
    rw [hquiet.stance]
    refine .of_rests rfl rfl rfl rfl ?_ hhalt
    trivial
  | goes hstart hmoves => exact hmoves.stands (.walks rfl rfl rfl rfl trivial)

theorem Session.Answers.stands {lab : Lab} {s : Session} {n : Node} {stage : Stage} {r : Stretch}
    (hr : Answers lab s n stage r) (h : s.run.stance.Stands lab []) (hat : stage.IsAt n.id) :
    r.1.run.stance.Stands lab r.2.stages := by
  have hwaits : s.run.stance.waiting = some n := hr.waiting
  rw [hr.quiet.stance]
  cases h with
  | idle hstate hwaiting hresult => cases hwaiting.symm.trans hwaits
  | waits hkind hstate hwaiting hresult hflow hcurrent =>
    cases hwaiting.symm.trans hwaits
    exact .of_rests rfl rfl hresult hflow (hcurrent ▸ hat) hr.halt
  | ended hstate hwaiting hresult => cases hwaiting.symm.trans hwaits
  | adrift hwhy hstate hwaiting hresult => cases hwaiting.symm.trans hwaits

/-! ## Where a bench can stand -/

namespace Bench

structure Stands (lab : Lab) (b : Bench) : Prop where
  aged : b.IsAged
  run : b.session.run.stance.Stands lab b.stages

variable {lab : Lab} {b b' : Bench}

theorem Strides.stands {bearing : Bearing} (h : Strides lab b bearing b') (hb : b.Stands lab) :
    b'.Stands lab := by
  obtain ⟨haged, -⟩ := h.ages hb.aged
  have hrun := hb.run
  have hadvances := h.advances hrun.length_le fun n hn => hrun.none_of_waiting hn
  refine ⟨haged, ?_⟩
  cases hadvances with
  | rests hstance hstages =>
    rw [hstance, hstages]
    exact hrun
  | answers hanswers hat hstages hfiles =>
    rw [hstages] at hrun
    rw [hfiles.session, hfiles.stages]
    exact hanswers.stands hrun hat.isAt
  | goesOn hmoves hstages hfiles =>
    rw [hstages] at hrun
    rw [hfiles.session, hfiles.stages]
    exact hmoves.stands hrun

theorem Turns.stands (h : Turns lab b b') (hb : b.Stands lab) : b'.Stands lab := by
  obtain ⟨haged, -⟩ := h.ages hb.aged
  cases h with
  | strides h => exact h.stands hb
  | clears hsession hsleepers =>
    have hnone : b'.stages = [] := by
      refine stages_of_rise hb.aged hsleepers ?_
      rw [hsession]
      exact Nat.lt_succ_self _
    refine ⟨haged, ?_⟩
    rw [hnone, hsession]
    exact .idle rfl rfl rfl
  | hangsUp hcan hcalm hstance hsleepers =>
    have hnone : b'.stages = [] := by
      refine stages_of_rise hb.aged hsleepers ?_
      rw [hcalm.generation]
      exact Nat.lt_succ_self _
    refine ⟨haged, ?_⟩
    rw [hnone, hstance]
    exact .ended rfl rfl rfl
  | @begins f channel r hstarts tasks task =>
    have hfiles : Files r (file { b with tasks } task .start r.1.generation r) := by
      refine files_file (b := { b with tasks }) task .start fun x hx => ?_
      have hold := hb.aged.old x hx
      have hrise : r.1.generation = b.session.generation + 1 := hstarts.calm.generation
      omega
    refine ⟨haged, ?_⟩
    rw [hfiles.session, hfiles.stages]
    exact hstarts.stands

theorem stands_fresh (lab : Lab) (dice : Dice) : (fresh dice).Stands lab :=
  ⟨isAged_fresh dice, .idle rfl rfl rfl⟩

theorem happen_stands (hb : b.Stands lab) (now : Moment) (h : Happening) :
    (b.happen lab now h).Stands lab :=
  (turns_happen hb.aged.passive now h).stands ⟨⟨hb.aged.passive, hb.aged.old⟩, hb.run⟩

theorem replay_stands (hb : b.Stands lab) (history : List (Moment × Happening)) :
    (b.replay lab history).Stands lab := by
  induction history generalizing b with
  | nil => exact hb
  | cons h rest ih => exact ih (happen_stands hb h.1 h.2)

/-! ## The order -/

/-- How the state of the run, the waiting node, the result and the sleepers go together. -/
structure IsInOrder (b : Bench) : Prop where
  running : b.session.run.state = .running ↔ b.current.length = 1
  resting : b.session.run.state ≠ .running → b.current = []
  text : b.session.run.state = .waitingForText ↔
    ∃ n, b.session.run.waiting = some n ∧ n.kind = .condition
  keys : b.session.run.state = .waitingForKeys ↔
    ∃ n, b.session.run.waiting = some n ∧ n.kind = .dtmf
  waiting : ∀ n, b.session.run.waiting = some n →
    (b.session.run.state = .waitingForText ∨ b.session.run.state = .waitingForKeys) ∧
      n.id = b.session.run.current
  result : b.session.run.result.isSome = true ↔ b.session.run.state = .ended

theorem Stands.isInOrder (hb : b.Stands lab) (heffects : lab.EffectsReturn)
    (hpauses : lab.PausesReturn) : b.IsInOrder := by
  obtain ⟨-, hrun⟩ := hb
  have hlength : b.current.length = b.stages.length := (List.length_map _).symm
  have hnone : b.current = [] ↔ b.stages = [] := List.map_eq_nil_iff.symm
  have hstance : b.session.run.stance = ⟨b.session.run.state, b.session.run.result,
    b.session.run.current, b.session.run.flow, b.session.run.waiting, b.session.run.steps,
    b.session.run.stats.visited⟩ := rfl
  rw [hstance] at hrun
  generalize b.stages = stages at hrun hlength hnone
  cases hrun with
  | idle hstate hwaiting hresult =>
    dsimp only at hstate hwaiting hresult
    constructor <;> simp [hstate, hwaiting, hresult, hlength, hnone]
  | walks hstate hwaiting hresult hflow hat =>
    dsimp only at hstate hwaiting hresult
    constructor <;> simp [hstate, hwaiting, hresult, hlength]
  | waits hkind hstate hwaiting hresult hflow hcurrent =>
    dsimp only at hstate hwaiting hresult hcurrent
    rcases hkind with hkind | hkind <;> rw [hkind] at hstate <;>
      constructor <;> simp [hstate, hwaiting, hresult, hcurrent, hkind, hlength, hnone]
  | ended hstate hwaiting hresult =>
    dsimp only at hstate hwaiting hresult
    constructor <;> simp [hstate, hwaiting, hresult, hlength, hnone]
  | adrift hwhy => exact absurd hwhy (not_or.mpr ⟨not_not.mpr heffects, not_not.mpr hpauses⟩)

/-- At every point of every history the run is in order. Left out are the settings with which a pause
has no end: where a latency times the scale of latencies is infinite or no number at all, as with an
infinite latency at a scale of zero. There the task fails, and its run is left as it was. -/
theorem every_history_keeps_order (lab : Lab) (dice : Dice) (history : List (Moment × Happening))
    (heffects : lab.EffectsReturn) (hpauses : lab.PausesReturn) :
    ((fresh dice).replay lab history).IsInOrder :=
  (replay_stands (stands_fresh lab dice) history).isInOrder heffects hpauses

/-- A call is being connected when a chat takes its place and comes to its question. -/
theorem an_asked_question_keeps_order :
    let b := (fresh {}).replay usualLab
      [(newYear, .start askingFlow .voice), (newYear, .start askingFlow .chat),
        (newYear, .wake 0), (newYear, .wake 0)]
    b.session.run.state = .waitingForText ∧ b.sleepers.length = 1 ∧
      usualLab.EffectsReturn ∧ usualLab.PausesReturn ∧ b.IsInOrder := by
  intro b
  exact ⟨by decide +kernel, by decide +kernel, usualLab_returns, usualLab_pauses,
    every_history_keeps_order usualLab {} _ usualLab_returns usualLab_pauses⟩

end Bench

end Dialogue
