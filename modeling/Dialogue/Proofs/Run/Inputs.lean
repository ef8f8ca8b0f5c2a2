-- What a run accepts from outside. An answer is taken up where a node waits for one, and the task that
-- has taken it up says so when it ends. What is refused leaves the session as it was.
import Dialogue.Proofs.Run.Order
import Dialogue.Proofs.Run.Naps

namespace Dialogue

/-! ## How tasks end -/

/-- An effect may fail, or a pause may be no span of time. -/
def Lab.MayFail (lab : Lab) : Prop := ¬ lab.EffectsReturn ∨ ¬ lab.PausesReturn

/-- How a task ends that has gone on the errand. It fails only where the lab may. -/
inductive Errand.EndsIn (lab : Lab) (errand : Errand) : Ending → Prop
  | done : EndsIn lab errand (Bench.endingOf errand)
  | failed {fault : Fault} (h : lab.MayFail) : EndsIn lab errand (.failed fault)

/-- The stretch has not failed, or it has where the lab may. -/
def Halt.IsSound (lab : Lab) (halt : Halt) : Prop := ∀ fault, halt = .failed fault → lab.MayFail

theorem Halt.RestsUntil.isSound {lab : Lab} {stage : Stage} {halt : Halt}
    (h : halt.RestsUntil lab stage) : halt.IsSound lab := by
  intro fault hfault
  cases h with
  | asleep span => cases hfault
  | failed hpauses => exact Or.inr hpauses

/-- A run that has its flow does not fail on its own. -/
theorem Session.Moves.isSound {lab : Lab} {s : Session} {stage : Stage} {r : Stretch}
    (h : Moves lab s stage r) (hflow : s.run.flow ≠ none) : r.2.IsSound lab := by
  cases h with
  | arrives hleaves hn hmore hcalm hstance hhalt => exact hhalt.isSound
  | stays hstage hlater hquiet hhalt => exact hhalt.isSound
  | breaks hwhy hquiet => exact fun _ _ => Or.inl (hwhy.resolve_right hflow)
  | _ => exact fun _ hfault => nomatch hfault

namespace Bench

variable {lab : Lab} {b b' : Bench}

/-- A sleeper that wakes fails only where the lab may. One that may not go on still has its effect
act. -/
theorem Stands.isSound_resume (hb : b.Stands lab) {place : Nat} {x : Sleeper}
    (hx : b.sleepers[place]? = some x) :
    (b.session.resume lab x.generation x.stage).2.IsSound lab := by
  by_cases hcurrent : x.generation = b.session.generation
  · have hmoves : Session.Moves lab b.session x.stage _ :=
      Session.moves_resume hb.aged.passive hcurrent.symm x.stage
    refine hmoves.isSound ?_
    have hrun := hb.run
    obtain ⟨hstages, -⟩ := others_old hx hcurrent hrun.length_le
    rw [hstages] at hrun
    cases hrun with
    | walks hstate hwaiting hresult hflow hat => exact Option.ne_none_iff_exists'.mpr ⟨_, hflow⟩
  · rw [Session.resume_stale lab (Ne.symm hcurrent)]
    intro fault hfault
    refine Or.inl fun hreturn => ?_
    cases hstage : x.stage with
    | inEffect n channel =>
      obtain ⟨result, dice, hact⟩ := hreturn.act n.kind n channel b.session.dice
      rw [hstage, Stage.fault?, hact] at hfault
      cases hfault
    | _ =>
      rw [hstage] at hfault
      cases hfault

/-! ## From one happening to the next -/

/-- What becomes of tasks. One that sleeps slept before, on the same errand, or it is new. One that has
ended had ended before, or it was asleep, or it is new. -/
structure Carries (lab : Lab) (b b' : Bench) : Prop where
  tasks : b.tasks ≤ b'.tasks
  asleep : ∀ y ∈ b'.sleepers, (∃ x ∈ b.sleepers, x.task = y.task ∧ x.errand = y.errand) ∨
    b.tasks < y.task ∧ y.task ≤ b'.tasks
  ended : ∀ e ∈ b'.endings, e ∈ b.endings ∨
    (∃ x ∈ b.sleepers, x.task = e.1 ∧ x.errand.EndsIn lab e.2) ∨
    b.tasks < e.1 ∧ e.1 ≤ b'.tasks

theorem carries_of_same (hsleepers : b'.sleepers = b.sleepers) (hendings : b'.endings = b.endings)
    (htasks : b'.tasks = b.tasks) : Carries lab b b' where
  tasks := Nat.le_of_eq htasks.symm
  asleep y hy := Or.inl ⟨y, hsleepers ▸ hy, rfl, rfl⟩
  ended _ he := Or.inl (hendings ▸ he)

/-- A new task that ends at once. -/
theorem carries_ends (ending : Ending) :
    Carries lab b { b with
      tasks := b.tasks + 1
      endings := b.endings ++ [(b.tasks + 1, ending)] } where
  tasks := Nat.le_succ _
  asleep y hy := Or.inl ⟨y, hy, rfl, rfl⟩
  ended e he := by
    rcases List.mem_append.mp he with he | he
    · exact Or.inl he
    · obtain rfl := List.mem_singleton.mp he
      exact Or.inr (Or.inr ⟨Nat.lt_succ_self _, Nat.le_refl _⟩)

section File

variable {task generation : Nat} {errand : Errand} {r : Stretch}

theorem mem_sleepers_file {y : Sleeper} (hy : y ∈ (b.file task errand generation r).sleepers) :
    y ∈ b.sleepers ∨ y.task = task ∧ y.errand = errand := by
  unfold file at hy
  rcases r with ⟨t, halt⟩
  cases halt with
  | asleep span stage =>
    rcases List.mem_cons.mp ((lieDown_perm _ _).subset hy) with rfl | hy
    · exact Or.inr ⟨rfl, rfl⟩
    · exact Or.inl hy
  | _ => exact Or.inl hy

variable (lab) in
theorem mem_endings_file {e : Nat × Ending} (he : e ∈ (b.file task errand generation r).endings) :
    e ∈ b.endings ∨ e.1 = task ∧ (r.2.IsSound lab → errand.EndsIn lab e.2) := by
  unfold file at he
  rcases r with ⟨t, halt⟩
  cases halt with
  | asleep span stage => exact Or.inl he
  | done =>
    rcases List.mem_append.mp he with he | he
    · exact Or.inl he
    · obtain rfl := List.mem_singleton.mp he
      exact Or.inr ⟨rfl, fun _ => .done⟩
  | failed fault =>
    rcases List.mem_append.mp he with he | he
    · exact Or.inl he
    · obtain rfl := List.mem_singleton.mp he
      exact Or.inr ⟨rfl, fun hsound => .failed (hsound fault rfl)⟩

variable (lab b) in
/-- A new task, whose first stretch is filed. -/
theorem carries_begin (errand : Errand) (generation : Nat) (r : Stretch) :
    Carries lab b ({ b with tasks := b.tasks + 1 }.file (b.tasks + 1) errand generation r) where
  tasks := by
    rw [tasks_file]
    exact Nat.le_succ _
  asleep y hy := by
    rw [tasks_file]
    rcases mem_sleepers_file hy with hy | ⟨htask, -⟩
    · exact Or.inl ⟨y, hy, rfl, rfl⟩
    · exact Or.inr ⟨htask ▸ Nat.lt_succ_self _, Nat.le_of_eq htask⟩
  ended e he := by
    rw [tasks_file]
    rcases mem_endings_file lab he with he | ⟨htask, -⟩
    · exact Or.inl he
    · exact Or.inr (Or.inr ⟨htask ▸ Nat.lt_succ_self _, Nat.le_of_eq htask⟩)

end File

theorem carries_submit (r : Option Stretch) : Carries lab b (b.submit lab false r) := by
  unfold submit
  split
  · exact carries_begin lab b .answer _ _
  · exact carries_ends _

theorem Stands.carries_wake (hb : b.Stands lab) (hdated : Clock.isDated b.session.now = true)
    (place : Nat) : Carries lab b (b.wake lab place) := by
  unfold wake
  split
  · exact carries_of_same rfl rfl rfl
  · rename_i x hx
    rw [Session.tryResume_eq hdated]
    have hmem := List.mem_of_getElem? hx
    refine ⟨?_, fun y hy => Or.inl ?_, fun e he => ?_⟩
    · rw [tasks_file]
    · rcases mem_sleepers_file hy with hy | ⟨htask, herrand⟩
      · exact ⟨y, List.mem_of_mem_eraseIdx hy, rfl, rfl⟩
      · exact ⟨x, hmem, htask.symm, herrand.symm⟩
    · rcases mem_endings_file lab he with he | ⟨htask, hends⟩
      · exact Or.inl he
      · exact Or.inr (Or.inl ⟨x, hmem, htask.symm, hends (hb.isSound_resume hx)⟩)

theorem Stands.atMoment (hb : b.Stands lab) (now : Moment) : (b.atMoment now).Stands lab :=
  ⟨⟨hb.aged.passive, hb.aged.old⟩, hb.run⟩

theorem Stands.carries (hb : b.Stands lab) (now : Moment) (h : Happening) :
    Carries lab b (b.happen lab now h) := by
  have hcarries : Carries lab (b.atMoment now) (b.happen lab now h) := by
    cases h with
    | start f channel => exact carries_begin lab _ .start _ _
    | say said =>
      cases said with
      | str text => exact carries_submit _
      | _ => exact carries_ends _
    | press digits => exact carries_submit _
    | wake place => exact (hb.atMoment now).carries_wake now.2 place
    | _ => exact carries_of_same rfl rfl rfl
  exact ⟨hcarries.tasks, hcarries.asleep, hcarries.ended⟩

/-! ## Errands -/

/-- No task sleeps or has ended that has not begun. -/
structure IsNumbered (b : Bench) : Prop where
  asleep : ∀ x ∈ b.sleepers, x.task ≤ b.tasks
  ended : ∀ e ∈ b.endings, e.1 ≤ b.tasks

/-- The task has gone on the errand and on no other. -/
structure Serves (lab : Lab) (b : Bench) (task : Nat) (errand : Errand) : Prop where
  begun : task ≤ b.tasks
  asleep : ∀ x ∈ b.sleepers, x.task = task → x.errand = errand
  ended : ∀ e ∈ b.endings, e.1 = task → errand.EndsIn lab e.2

theorem isNumbered_fresh (dice : Dice) : (fresh dice).IsNumbered :=
  ⟨fun _ hx => absurd hx List.not_mem_nil, fun _ he => absurd he List.not_mem_nil⟩

theorem Carries.isNumbered (h : Carries lab b b') (hb : b.IsNumbered) : b'.IsNumbered where
  asleep y hy := by
    rcases h.asleep y hy with ⟨x, hx, htask, -⟩ | ⟨-, hle⟩
    · exact htask ▸ Nat.le_trans (hb.asleep x hx) h.tasks
    · exact hle
  ended e he := by
    rcases h.ended e he with he | ⟨x, hx, htask, -⟩ | ⟨-, hle⟩
    · exact Nat.le_trans (hb.ended e he) h.tasks
    · exact htask ▸ Nat.le_trans (hb.asleep x hx) h.tasks
    · exact hle

theorem Carries.serves {task : Nat} {errand : Errand} (h : Carries lab b b')
    (hb : b.Serves lab task errand) : b'.Serves lab task errand where
  begun := Nat.le_trans hb.begun h.tasks
  asleep y hy hy' := by
    rcases h.asleep y hy with ⟨x, hx, htask, herrand⟩ | ⟨hnew, -⟩
    · exact herrand ▸ hb.asleep x hx (htask.trans hy')
    · exact absurd hb.begun (Nat.not_le.mpr (hy' ▸ hnew))
  ended e he he' := by
    rcases h.ended e he with he | ⟨x, hx, htask, hends⟩ | ⟨hnew, -⟩
    · exact hb.ended e he he'
    · exact hb.asleep x hx (htask.trans he') ▸ hends
    · exact absurd hb.begun (Nat.not_le.mpr (he' ▸ hnew))

/-- A task that begins with a sound stretch serves the errand it begins with. -/
theorem IsNumbered.serves_begin (hb : b.IsNumbered) {errand : Errand} {r : Stretch}
    (hr : r.2.IsSound lab) (generation : Nat) :
    ({ b with tasks := b.tasks + 1 }.file (b.tasks + 1) errand generation r).Serves lab
      (b.tasks + 1) errand where
  begun := by rw [tasks_file]
  asleep x hx hx' := by
    rcases mem_sleepers_file hx with hx | ⟨-, herrand⟩
    · exact absurd (hx' ▸ hb.asleep x hx) (Nat.not_succ_le_self _)
    · exact herrand
  ended e he he' := by
    rcases mem_endings_file lab he with he | ⟨-, hends⟩
    · exact absurd (he' ▸ hb.ended e he) (Nat.not_succ_le_self _)
    · exact hends hr

theorem Stands.isNumbered_replay (hb : b.Stands lab) (h : b.IsNumbered)
    (history : List (Moment × Happening)) : (b.replay lab history).IsNumbered := by
  induction history generalizing b with
  | nil => exact h
  | cons first rest ih =>
    exact ih (happen_stands hb first.1 first.2) ((hb.carries first.1 first.2).isNumbered h)

theorem Stands.serves_replay (hb : b.Stands lab) {task : Nat} {errand : Errand}
    (h : b.Serves lab task errand) (later : List (Moment × Happening)) :
    (b.replay lab later).Serves lab task errand := by
  induction later generalizing b with
  | nil => exact h
  | cons first rest ih =>
    exact ih (happen_stands hb first.1 first.2) ((hb.carries first.1 first.2).serves h)

/-! ## Accepted and refused -/

/-- A new task has taken up the answer that a node waited for. It sleeps only so often, and whatever
happens meanwhile, when it ends it says that the answer was accepted. -/
structure TakesUp (lab : Lab) (b b' : Bench) : Prop where
  tasks : b'.tasks = b.tasks + 1
  waiting : b'.session.run.waiting = none
  running : b'.session.run.state = .running
  naps : ∀ later, b'.suspensions lab (b.tasks + 1) later ≤
    2 * (lab.settings.maxSteps - b.session.run.steps) + 1
  ends : ∀ later, (b'.replay lab later).isAsleep (b.tasks + 1) = false →
    ∃ ending, (b.tasks + 1, ending) ∈ (b'.replay lab later).endings
  told : ∀ later ending, (b.tasks + 1, ending) ∈ (b'.replay lab later).endings →
    Errand.answer.EndsIn lab ending

/-- A new task has said at once that it was not accepted, and that is all. -/
def refusing (b : Bench) : Bench :=
  { b with
    tasks := b.tasks + 1
    endings := b.endings ++ [(b.tasks + 1, .answered false)] }

theorem not_takesUp_refusing (lab : Lab) (b : Bench) : ¬ TakesUp lab b b.refusing := by
  intro h
  have htold := h.told [] (.answered false)
  cases htold (List.mem_append_right _ (List.mem_singleton.mpr rfl))

/-- The answer is taken up exactly where the condition holds. Where it does not, it is refused and the
session stays as it was, whether the task is waited for or not. -/
structure Decides (lab : Lab) (b : Bench) (answer : Bool → Bench) (condition : Prop) : Prop where
  accepted : TakesUp lab b (answer false) ↔ condition
  refused : ¬ condition → ∀ wait, answer wait = b.refusing

theorem decides_submit (hdated : Clock.isDated b.session.now = true) {r : Option Stretch}
    {condition : Prop} (hiff : r.isSome = true ↔ condition)
    (htakes : ∀ r', r = some r' → TakesUp lab b (b.submit lab false r)) :
    Decides lab b (fun wait => b.submit lab wait r) condition := by
  have hrefused : ¬ condition → ∀ wait, b.submit lab wait r = b.refusing := by
    intro hnot wait
    rw [← hiff, Bool.not_eq_true, Option.isSome_eq_false_iff, Option.isNone_iff_eq_none] at hnot
    unfold submit
    rw [Session.tryAnswer_eq hdated, hnot]
    rfl
  refine ⟨⟨fun htaken => ?_, fun hcondition => ?_⟩, hrefused⟩
  · -- a refusal is told at once, and a task that has taken an answer up never tells one
    by_contra hnot
    exact not_takesUp_refusing lab b (hrefused hnot false ▸ htaken)
  · obtain ⟨r', hr'⟩ := Option.isSome_iff_exists.mp (hiff.mpr hcondition)
    exact htakes r' hr'

/-- What is kept in the course of every history. -/
structure IsKept (lab : Lab) (b : Bench) : Prop where
  stands : b.Stands lab
  keeps : b.KeepsTasks
  numbered : b.IsNumbered

theorem isKept_replay (lab : Lab) (dice : Dice) (history : List (Moment × Happening)) :
    ((fresh dice).replay lab history).IsKept lab where
  stands := replay_stands (stands_fresh lab dice) history
  keeps := (KeepsTasks.replay lab (keepsTasks_fresh dice) history).1
  numbered := (stands_fresh lab dice).isNumbered_replay (isNumbered_fresh dice) history

theorem IsKept.atMoment (hb : b.IsKept lab) (now : Moment) : (b.atMoment now).IsKept lab where
  stands := hb.stands.atMoment now
  keeps := ⟨hb.keeps.begun, hb.keeps.known⟩
  numbered := ⟨hb.numbered.asleep, hb.numbered.ended⟩

theorem submit_some (hdated : Clock.isDated b.session.now = true) (r : Stretch) :
    b.submit lab false (some r) = { b with tasks := b.tasks + 1 }.file (b.tasks + 1) .answer
      b.session.generation r := by
  unfold submit
  rw [Session.tryAnswer_eq hdated]
  rfl

/-- An answer for the node that waits is taken up. -/
theorem IsKept.takesUp (hb : b.IsKept lab) (hdated : Clock.isDated b.session.now = true) {n : Node}
    {stage : Stage} {r : Stretch} (hanswers : Session.Answers lab b.session n stage r)
    (hweight : stage.weight = 1) (hstands : (b.submit lab false (some r)).Stands lab) :
    TakesUp lab b (b.submit lab false (some r)) := by
  obtain ⟨hkept, htasks⟩ : (b.submit lab false (some r)).KeepsTasks ∧
      (b.submit lab false (some r)).tasks = b.tasks + 1 := hb.keeps.submit (some r)
  have hnaps := naps_answer hb.keeps hdated (r := some r) fun r' hr' => by
    obtain rfl := Option.some.inj hr'
    exact ⟨n, stage, hanswers, hweight⟩
  have hserves : (b.submit lab false (some r)).Serves lab (b.tasks + 1) .answer := by
    rw [submit_some hdated]
    exact hb.numbered.serves_begin hanswers.halt.isSound _
  have hstance : (b.submit lab false (some r)).session.run.stance =
      b.session.run.stance.takeUp := by
    rw [submit_some hdated, file_session]
    exact hanswers.quiet.stance
  constructor
  case tasks => exact htasks
  case waiting => exact congrArg Stance.waiting hstance
  case running => exact congrArg Stance.state hstance
  case naps =>
    intro later
    exact Nat.le_trans (suspensions_le hstands.aged hkept (Nat.le_of_eq htasks.symm) later) hnaps
  case ends =>
    intro later hawake
    obtain ⟨hend, hle⟩ := KeepsTasks.replay lab hkept later
    rcases hend.known _ (Nat.succ_pos _) (htasks ▸ hle) with hasleep | hended
    · rw [hawake] at hasleep
      cases hasleep
    · exact hended
  case told =>
    intro later ending hending
    exact (hstands.serves_replay hserves later).ended _ hending rfl

end Bench

/-! ## What a run waits for -/

/-- The node that waits is a question or a menu, and the state tells which. -/
theorem Stance.Stands.state_of_waiting {lab : Lab} {a : Stance} {stages : List Stage}
    (h : a.Stands lab stages) {n : Node} (hn : a.waiting = some n) :
    (n.kind = .condition ∧ a.state = .waitingForText) ∨
      n.kind = .dtmf ∧ a.state = .waitingForKeys := by
  cases h with
  | waits hkind hstate hwaiting hresult hflow hcurrent =>
    obtain rfl := Option.some.inj (hwaiting.symm.trans hn)
    rcases hkind with hkind | hkind
    · exact Or.inl ⟨hkind, by rw [hstate, if_pos hkind]⟩
    · exact Or.inr ⟨hkind, by rw [hstate, if_neg (by simp [hkind])]⟩
  | idle hstate hwaiting hresult => cases hwaiting.symm.trans hn
  | walks hstate hwaiting hresult hflow hat => cases hwaiting.symm.trans hn
  | ended hstate hwaiting hresult => cases hwaiting.symm.trans hn
  | adrift hwhy hstate hwaiting hresult => cases hwaiting.symm.trans hn

namespace Run

variable {lab : Lab} {r : Run} {stages : List Stage}

theorem takesText_iff (h : r.stance.Stands lab stages) (text : String) :
    r.takesText text = true ↔ Text.isBlankText text = false ∧ ∃ n, r.waiting = some n := by
  unfold takesText
  cases hn : r.waiting with
  | none => simp
  | some n =>
    have hstate : r.state = .waitingForText ∨ r.state = .waitingForKeys :=
      (h.state_of_waiting hn).imp And.right And.right
    simp [hstate]

theorem takesKeys_iff (h : r.stance.Stands lab stages) (digits : String) :
    r.takesKeys digits = true ↔ digits ≠ "" ∧ ∃ n, r.waiting = some n ∧ n.kind = .dtmf := by
  unfold takesKeys
  cases hn : r.waiting with
  | none => simp
  | some n =>
    rcases h.state_of_waiting hn with ⟨hkind, hstate⟩ | ⟨hkind, hstate⟩
    · change r.state = .waitingForText at hstate
      simp [hkind, hstate]
    · change r.state = .waitingForKeys at hstate
      simp [hkind, hstate]

theorem not_isOver_iff (r : Run) : r.isOver = false ↔ r.state ≠ .idle ∧ r.state ≠ .ended := by
  simp [isOver]

end Run

namespace Session

variable {s : Session}

theorem canHangUp_iff (s : Session) : s.canHangUp = true ↔
    s.run.channel = some .voice ∧ s.run.state ≠ .idle ∧ s.run.state ≠ .ended := by
  simp [canHangUp, Run.not_isOver_iff]

theorem tryEndCall_of_passive (h : s.IsPassive) (hdated : Clock.isDated s.now = true) :
    s.tryEndCall.2 = .ok s.canHangUp ∧ (s.canHangUp = false → s.tryEndCall = (s, .ok false)) := by
  unfold tryEndCall
  rw [not_late hdated, if_neg Bool.false_ne_true]
  rcases endCall_spec h with ⟨hcannot, hsame⟩ | ⟨hcan, haccepted, -, -⟩
  · simp [hcannot, hsame]
  · simp [hcan, haccepted]

/-- While keys are waited for, a text is its keys. -/
theorem submitText_eq_submitKeys (lab : Lab) (hstate : s.run.state = .waitingForKeys)
    {text : String} (htext : Text.isBlankText text = false) :
    s.submitText lab text = s.submitKeys lab (Text.strip text) := by
  unfold submitText
  rw [htext, if_neg Bool.false_ne_true, hstate]
  rfl

end Session

namespace Bench

variable {lab : Lab} {b : Bench}

theorem IsKept.decides_text (hb : b.IsKept lab) (hdated : Clock.isDated b.session.now = true)
    (text : String) : Decides lab b (b.submitText lab (.str text))
      (Text.isBlankText text = false ∧ ∃ n, b.session.run.waiting = some n) := by
  have hpassive := hb.stands.aged.passive
  have hstands : (b.submit lab false (b.session.submitText lab text)).Stands lab :=
    (strides_submitText hpassive hdated (.str text)).stands hb.stands
  refine decides_submit hdated ?_ fun r hr => ?_
  · rw [Session.isSome_submitText]
    exact Run.takesText_iff hb.stands.run text
  · rw [hr] at hstands ⊢
    rcases Session.submitText_spec hpassive hr with ⟨-, n, hanswers⟩ | ⟨-, n, hanswers⟩
    · exact hb.takesUp hdated hanswers rfl hstands
    · exact hb.takesUp hdated hanswers rfl hstands

theorem IsKept.decides_keys (hb : b.IsKept lab) (hdated : Clock.isDated b.session.now = true)
    (digits : String) : Decides lab b (b.submitKeys lab digits)
      (digits ≠ "" ∧ ∃ n, b.session.run.waiting = some n ∧ n.kind = .dtmf) := by
  have hpassive := hb.stands.aged.passive
  have hstands : (b.submit lab false (b.session.submitKeys lab digits)).Stands lab :=
    (strides_submitKeys hpassive hdated digits).stands hb.stands
  refine decides_submit hdated ?_ fun r hr => ?_
  · rw [Session.isSome_submitKeys]
    exact Run.takesKeys_iff hb.stands.run digits
  · rw [hr] at hstands ⊢
    obtain ⟨-, n, hanswers⟩ := Session.submitKeys_spec hpassive hr
    exact hb.takesUp hdated hanswers rfl hstands

/-! ## What is accepted -/

/-- What is accepted from outside, and what is refused and leaves no trace. -/
structure AcceptsWhatFits (lab : Lab) (b : Bench) : Prop where
  text : ∀ text, Decides lab b (b.submitText lab (.str text))
    (Text.isBlankText text = false ∧ ∃ n, b.session.run.waiting = some n)
  keys : ∀ digits, Decides lab b (b.submitKeys lab digits)
    (digits ≠ "" ∧ ∃ n, b.session.run.waiting = some n ∧ n.kind = .dtmf)
  hangUp : b.session.tryEndCall.2 = .ok true ↔ b.session.run.channel = some .voice ∧
    b.session.run.state ≠ .idle ∧ b.session.run.state ≠ .ended
  hangUpRefused : b.session.tryEndCall.2 ≠ .ok true →
    b.session.tryEndCall = (b.session, .ok false)
  /-- A menu takes a text as keys: all that comes of it is the same. -/
  textAsKeys : ∀ n, b.session.run.waiting = some n → n.kind = .dtmf →
    ∀ text, Text.isBlankText text = false → ∀ wait,
      b.submitText lab (.str text) wait = b.submitKeys lab (Text.strip text) wait

theorem IsKept.acceptsWhatFits (hb : b.IsKept lab) (hdated : Clock.isDated b.session.now = true) :
    b.AcceptsWhatFits lab := by
  obtain ⟨hreply, hrefused⟩ := Session.tryEndCall_of_passive hb.stands.aged.passive hdated
  constructor
  case text => exact hb.decides_text hdated
  case keys => exact hb.decides_keys hdated
  case hangUp =>
    rw [hreply, Except.ok.injEq]
    exact b.session.canHangUp_iff
  case hangUpRefused =>
    intro hnot
    rw [hreply, ne_eq, Except.ok.injEq, Bool.not_eq_true] at hnot
    exact hrefused hnot
  case textAsKeys =>
    intro n hn hkind text htext wait
    have hstate : b.session.run.state = .waitingForKeys := by
      rcases hb.stands.run.state_of_waiting hn with ⟨hother, -⟩ | ⟨-, hstate⟩
      · rw [hkind] at hother
        cases hother
      · exact hstate
    unfold submitText submitKeys
    dsimp only
    rw [Session.submitText_eq_submitKeys lab hstate htext]

/-- At every point of every history what is accepted is what fits the run. -/
theorem a_run_accepts_what_it_waits_for (lab : Lab) (dice : Dice)
    (history : List (Moment × Happening)) (now : Moment) :
    (((fresh dice).replay lab history).atMoment now).AcceptsWhatFits lab :=
  ((isKept_replay lab dice history).atMoment now).acceptsWhatFits now.2

/-- A start node, a menu, and an end node. -/
def menuFlow : Flow :=
  { askingFlow with
    nodes :=
      [⟨.str "start", .start {}, [], [.str "menu"]⟩,
        ⟨.str "menu", .dtmf {}, [], [.str "end"]⟩,
        ⟨.str "end", .finish {}, [], []⟩]
    edges :=
      [⟨.str "first", .str "start", .str "menu", .null⟩,
        ⟨.str "second", .str "menu", .str "end", .null⟩] }

/-- A call has come to a menu. A text is taken as keys, a blank one is refused, and the call can be
hung up. -/
theorem a_menu_accepts_a_text :
    let b := ((fresh {}).replay usualLab
      [(newYear, .start menuFlow .voice), (newYear, .wake 0), (newYear, .wake 0),
        (newYear, .wake 0)]).atMoment newYear
    ¬ usualLab.MayFail ∧ (∃ n, b.session.run.waiting = some n ∧ n.kind = .dtmf) ∧
      TakesUp usualLab b (b.submitText usualLab (.str " 3 ") false) ∧
      b.submitText usualLab (.str " 3 ") true = b.submitKeys usualLab "3" true ∧
      b.submitText usualLab (.str "  ") true = b.refusing ∧
      b.session.tryEndCall.2 = .ok true := by
  intro b
  have hfits : b.AcceptsWhatFits usualLab := a_run_accepts_what_it_waits_for usualLab {} _ newYear
  have hmenu : ∃ n, b.session.run.waiting = some n ∧ n.kind = .dtmf := by
    have hany : b.session.run.waiting.any (·.kind == .dtmf) = true := by decide +kernel
    obtain ⟨n, hn, hkind⟩ := (Option.any_eq_true _ _).mp hany
    exact ⟨n, hn, by simpa using hkind⟩
  have hreturn : ¬ usualLab.MayFail :=
    not_or.mpr ⟨not_not.mpr usualLab_returns, not_not.mpr usualLab_pauses⟩
  obtain ⟨n, hn, hkind⟩ := hmenu
  have hstrip : Text.strip " 3 " = "3" := by decide +kernel
  refine ⟨hreturn, ⟨n, hn, hkind⟩, ?_, ?_, ?_, ?_⟩
  · exact (hfits.text " 3 ").accepted.mpr ⟨by decide +kernel, n, hn⟩
  · rw [hfits.textAsKeys n hn hkind " 3 " (by decide +kernel) true, hstrip]
  · exact (hfits.text "  ").refused (fun h => absurd h.1 (by decide +kernel)) true
  · exact hfits.hangUp.mpr ⟨by decide +kernel, by decide +kernel, by decide +kernel⟩

end Bench

end Dialogue
