-- The naps of a task. A task that begins sleeps no more often than the steps that are left to the run
-- allow, whatever else happens meanwhile, and a task that no longer sleeps has ended.
import Dialogue.Proofs.Run.Patience

namespace Dialogue

/-! ## Naps of a task -/

/-- How often a task can still sleep that has just walked the stretch. -/
def Stretch.naps (lab : Lab) (generation : Nat) (r : Stretch) : Nat :=
  match r.2 with
  | .asleep _ stage => if generation = r.1.generation then r.1.wakesFrom lab stage else 1
  | _ => 0

namespace Session

variable {lab : Lab} {s t : Session}

/-- No sleeper has more wakes to come than before. -/
def Eases (lab : Lab) (s t : Session) : Prop :=
  ∀ y : Sleeper, y.generation ≤ s.generation → t.wakesOf lab y ≤ s.wakesOf lab y

theorem eases_of_steps (hgeneration : t.generation = s.generation)
    (hsteps : s.run.steps ≤ t.run.steps) : Eases lab s t := by
  intro y hy
  unfold wakesOf wakesFrom
  rw [hgeneration]
  split <;> omega

/-- Where the generation rises, whoever sleeps wakes but once. -/
theorem eases_of_rise (hrise : s.generation < t.generation) : Eases lab s t := by
  intro y hy
  have hone : t.wakesOf lab y = 1 := if_neg (by omega)
  have hpos : 0 < s.wakesOf lab y := wakesOf_pos y
  omega

theorem Moves.steps_le {stage : Stage} {r : Stretch} (h : Moves lab s stage r) :
    s.run.steps ≤ r.1.run.steps := by
  cases h with
  | arrives hleaves hn hmore hcalm hstance =>
    exact Nat.le_trans (Nat.le_succ _) (Nat.le_of_eq (congrArg Stance.steps hstance).symm)
  | cut hleaves hn hmost hcalm hstance => exact Nat.le_of_eq (congrArg Stance.steps hstance).symm
  | ends hleaves hnone hcalm hstance => exact Nat.le_of_eq (congrArg Stance.steps hstance).symm
  | closes hcloses hcalm hstance => exact Nat.le_of_eq (congrArg Stance.steps hstance).symm
  | stays hstage hlater hquiet => exact Nat.le_of_eq (stance_steps hquiet).symm
  | waits hstage hkind hcalm hstance => exact Nat.le_of_eq (congrArg Stance.steps hstance).symm
  | breaks hwhy hquiet => exact Nat.le_of_eq (stance_steps hquiet).symm
  | idles hidle hquiet => exact Nat.le_of_eq (stance_steps hquiet).symm

end Session

/-- Whether a happening gives rise to a task, which may end at once. -/
def Happening.begins : Happening → Bool
  | start _ _ | say _ | press _ => true
  | _ => false

namespace Bench

variable {lab : Lab} {b b' : Bench} {task : Nat}

theorem Turns.eases (h : Turns lab b b') : Session.Eases lab b.session b'.session := by
  cases h with
  | strides h =>
    cases h with
    | rests hquiet hsleepers =>
      exact Session.eases_of_steps hquiet.generation (Nat.le_of_eq (Session.stance_steps hquiet).symm)
    | drops hx hstale hquiet hsleepers =>
      exact Session.eases_of_steps hquiet.generation (Nat.le_of_eq (Session.stance_steps hquiet).symm)
    | answers hanswers hat tasks task =>
      rw [file_session]
      exact Session.eases_of_steps hanswers.quiet.generation
        (Nat.le_of_eq (Session.stance_steps hanswers.quiet).symm)
    | goesOn hx hcurrent hmoves =>
      rw [file_session]
      exact Session.eases_of_steps hmoves.calm.generation hmoves.steps_le
  | clears hsession hsleepers =>
    refine Session.eases_of_rise ?_
    rw [hsession]
    exact Nat.lt_succ_self _
  | hangsUp hcan hcalm hstance hsleepers =>
    refine Session.eases_of_rise ?_
    rw [hcalm.generation]
    exact Nat.lt_succ_self _
  | begins hstarts tasks task =>
    refine Session.eases_of_rise ?_
    rw [file_session, hstarts.calm.generation]
    exact Nat.lt_succ_self _

theorem happen_eases (h : b.session.IsPassive) (now : Moment) (happening : Happening) :
    Session.Eases lab b.session (b.happen lab now happening).session :=
  (turns_happen h now happening).eases

/-! ### The sleepers of a task -/

/-- The sleepers of a task. -/
def sleepersOf (b : Bench) (task : Nat) : List Sleeper := b.sleepers.filter (·.task == task)

/-- How often a task can still sleep. -/
def napsLeft (lab : Lab) (b : Bench) (task : Nat) : Nat :=
  ((b.sleepersOf task).map (b.session.wakesOf lab)).sum

theorem isAsleep_iff : b.isAsleep task = true ↔ ∃ x ∈ b.sleepers, x.task = task := by
  simp [isAsleep]

theorem napsLeft_pos (h : b.isAsleep task = true) : 0 < b.napsLeft lab task := by
  obtain ⟨x, hx, hxtask⟩ := isAsleep_iff.mp h
  have hmem : x ∈ b.sleepersOf task := List.mem_filter.mpr ⟨hx, by simpa using hxtask⟩
  have hle : b.session.wakesOf lab x ≤ b.napsLeft lab task :=
    List.single_le_sum (fun _ _ => Nat.zero_le _) _ (List.mem_map_of_mem hmem)
  exact Nat.lt_of_lt_of_le (Session.wakesOf_pos x) hle

/-- The sleepers after a stretch has been filed are those from before, and the task if it sleeps. -/
theorem naps_file (errand : Errand) (generation other : Nat) (r : Stretch) :
    (b.file other errand generation r).napsLeft lab task =
      ((b.sleepersOf task).map (r.1.wakesOf lab)).sum +
        if other = task then r.naps lab generation else 0 := by
  unfold napsLeft
  rw [file_session]
  unfold sleepersOf file Stretch.naps
  rcases r with ⟨t, halt⟩
  cases halt with
  | asleep span stage =>
    let x : Sleeper := ⟨other, errand, generation, t.now + span, stage⟩
    have hperm := (((lieDown_perm x b.sleepers).filter (·.task == task)).map
      (t.wakesOf lab)).sum_eq
    dsimp only
    rw [hperm, List.filter_cons]
    by_cases htask : other = task
    · rw [if_pos (by simpa [x] using htask), if_pos htask, List.map_cons, List.sum_cons, Nat.add_comm]
      rfl
    · rw [if_neg (by simpa [x] using htask), if_neg htask, Nat.add_zero]
  | done => simp
  | failed fault => simp

theorem sum_eases {s t : Session} (h : Session.Eases lab s t) {xs : List Sleeper}
    (hxs : ∀ x ∈ xs, x.generation ≤ s.generation) :
    (xs.map (t.wakesOf lab)).sum ≤ (xs.map (s.wakesOf lab)).sum := by
  apply List.sum_le_sum
  intro x hx
  exact h x (hxs x hx)

/-- The sleepers of a task are as old as any. -/
theorem IsAged.sleepersOf (h : b.IsAged) (task : Nat) :
    ∀ x ∈ b.sleepersOf task, x.generation ≤ b.session.generation := by
  intro x hx
  exact h.old x (List.mem_filter.mp hx).1

/-- A happening that leaves a task asleep leaves it no more naps than it had. -/
theorem naps_of_same (haged : b.IsAged) (heases : Session.Eases lab b.session b'.session)
    (hsame : b'.sleepersOf task = b.sleepersOf task) :
    b'.napsLeft lab task ≤ b.napsLeft lab task := by
  unfold napsLeft
  rw [hsame]
  exact sum_eases heases (haged.sleepersOf task)

/-- Another task's stretch is filed. -/
theorem naps_file_other {r : Stretch} (hold : ∀ x ∈ b.sleepersOf task,
    x.generation ≤ b.session.generation) (heases : Session.Eases lab b.session r.1) {other : Nat}
    (hother : other ≠ task) (errand : Errand) (generation : Nat) :
    (b.file other errand generation r).napsLeft lab task ≤ b.napsLeft lab task := by
  rw [naps_file, if_neg hother, Nat.add_zero]
  exact sum_eases heases hold

/-! ### One happening -/

/-- Whether the happening wakes the task. -/
def wakesTask (b : Bench) (task : Nat) : Happening → Bool
  | .wake place => b.sleepers[place]?.any (·.task == task)
  | _ => false

/-- The stretch of a sleeper that wakes leaves it fewer naps than it had. -/
theorem naps_resume (haged : b.IsAged) (x : Sleeper) :
    (b.session.resume lab x.generation x.stage).naps lab x.generation <
      b.session.wakesOf lab x := by
  by_cases hcurrent : x.generation = b.session.generation
  · have hmoves : Session.Moves lab b.session x.stage _ :=
      Session.moves_resume haged.passive hcurrent.symm x.stage
    have hspends := hmoves.spends hcurrent
    unfold Stretch.naps
    split
    · rename_i span stage hasleep
      obtain ⟨-, hfewer⟩ := hspends.fewer span stage hasleep
      rw [if_pos (hcurrent.trans hspends.generation.symm)]
      unfold Session.wakesOf
      rw [if_pos hcurrent]
      exact hfewer
    · exact Session.wakesOf_pos x
  · rw [Session.resume_stale lab (Ne.symm hcurrent)]
    have hpos : 0 < b.session.wakesOf lab x := Session.wakesOf_pos x
    cases x.stage.fault? lab b.session.dice with
    | none => exact hpos
    | some fault => exact hpos

theorem naps_wake (haged : b.IsAged) (hdated : Clock.isDated b.session.now = true)
    (heases : ∀ place, Session.Eases lab b.session (b.wake lab place).session) (place : Nat) :
    (b.wake lab place).napsLeft lab task + (b.wakesTask task (.wake place)).toNat ≤
      b.napsLeft lab task := by
  have heases := heases place
  dsimp only [wakesTask]
  unfold wake at heases ⊢
  cases hx : b.sleepers[place]? with
  | none => simp
  | some x =>
    rw [hx] at heases
    dsimp only [Option.any_some] at heases ⊢
    rw [file_session, Session.tryResume_eq hdated] at heases
    rw [Session.tryResume_eq hdated, naps_file]
    obtain ⟨hlt, hget⟩ := List.getElem?_eq_some_iff.mp hx
    have hperm := List.getElem_cons_eraseIdx_perm hlt
    rw [hget] at hperm
    -- The sleeper is set apart from the others of its task, who have no more naps than before.
    have hsum := ((hperm.filter (·.task == task)).map (b.session.wakesOf lab)).sum_eq
    have hothers : (((b.sleepers.eraseIdx place).filter (·.task == task)).map
        ((b.session.resume lab x.generation x.stage).1.wakesOf lab)).sum ≤
        (((b.sleepers.eraseIdx place).filter (·.task == task)).map (b.session.wakesOf lab)).sum := by
      apply sum_eases heases
      intro y hy
      exact haged.old y (List.mem_of_mem_eraseIdx (List.mem_filter.mp hy).1)
    unfold napsLeft sleepersOf
    dsimp only
    rw [List.filter_cons] at hsum
    by_cases htask : x.task = task
    · have hfewer : (b.session.resume lab x.generation x.stage).naps lab x.generation <
          b.session.wakesOf lab x := naps_resume haged x
      rw [if_pos (by simpa using htask), List.map_cons, List.sum_cons] at hsum
      rw [if_pos htask, beq_iff_eq.mpr htask, Bool.toNat_true]
      omega
    · rw [if_neg (by simpa using htask)] at hsum
      rw [if_neg htask, beq_eq_false_iff_ne.mpr htask, Bool.toNat_false]
      omega

theorem naps_submit (haged : b.IsAged) (hdated : Clock.isDated b.session.now = true)
    (htask : task ≤ b.tasks) {r : Option Stretch}
    (heases : Session.Eases lab b.session (b.submit lab false r).session) :
    (b.submit lab false r).napsLeft lab task ≤ b.napsLeft lab task := by
  unfold submit at heases ⊢
  rw [Session.tryAnswer_eq hdated] at heases ⊢
  cases r with
  | none => exact naps_of_same haged heases rfl
  | some r =>
    unfold begin at heases ⊢
    dsimp only at heases ⊢
    rw [if_neg Bool.false_ne_true] at heases ⊢
    rw [file_session] at heases
    refine naps_file_other (b := { b with tasks := b.tasks + 1 }) ?_ heases ?_ _ _
    · exact haged.sleepersOf task
    · omega

variable (lab) in
/-- Whatever happens, a task has no more naps left than before, and fewer if it is woken. -/
theorem naps_happen (haged : b.IsAged) (htask : task ≤ b.tasks) (now : Moment) (h : Happening) :
    (b.happen lab now h).napsLeft lab task + (b.wakesTask task h).toNat ≤
      b.napsLeft lab task := by
  have haged : (b.atMoment now).IsAged := ⟨haged.passive, haged.old⟩
  have htask : task ≤ (b.atMoment now).tasks := htask
  have hdated : Clock.isDated (b.atMoment now).session.now = true := now.2
  have heases : ∀ h : Happening,
      Session.Eases lab (b.atMoment now).session (b.happen lab now h).session :=
    fun h => happen_eases haged.passive now h
  change _ ≤ (b.atMoment now).napsLeft lab task
  cases h with
  | start f channel =>
    have heases := heases (.start f channel)
    change Session.Eases lab _ (file _ _ _ _ _).session at heases
    rw [file_session] at heases
    refine naps_file_other (b := { b.atMoment now with tasks := b.tasks + 1 }) ?_ heases ?_ _ _
    · exact haged.sleepersOf task
    · exact Nat.ne_of_gt (Nat.lt_succ_of_le htask)
  | say said =>
    cases said with
    | str text => exact naps_submit haged hdated htask (heases (.say (.str text)))
    | _ => exact naps_of_same haged (heases (.say _)) rfl
  | press digits => exact naps_submit haged hdated htask (heases (.press digits))
  | endCall => exact naps_of_same haged (heases .endCall) rfl
  | reset => exact naps_of_same haged (heases .reset) rfl
  | subscribe l => exact naps_of_same haged (heases (.subscribe l)) rfl
  | unsubscribe name => exact naps_of_same haged (heases (.unsubscribe name)) rfl
  | wake place => exact naps_wake haged hdated (fun place => heases (.wake place)) place

/-! ### Histories -/

/-- How often the task sleeps in the course of a history. Where it still sleeps at the end, that
counts, too. -/
def suspensions (lab : Lab) (b : Bench) (task : Nat) : List (Moment × Happening) → Nat
  | [] => (b.isAsleep task).toNat
  | h :: rest =>
    (b.wakesTask task h.2).toNat + (b.happen lab h.1 h.2).suspensions lab task rest

/-- The task sleeps, or it has ended. -/
def Knows (b : Bench) (task : Nat) : Prop :=
  b.isAsleep task = true ∨ ∃ ending, (task, ending) ∈ b.endings

/-- No task sleeps before it has begun, and each that has begun sleeps or has ended. -/
structure KeepsTasks (b : Bench) : Prop where
  begun : ∀ x ∈ b.sleepers, x.task ≤ b.tasks
  known : ∀ task, 0 < task → task ≤ b.tasks → b.Knows task

theorem keepsTasks_fresh (dice : Dice) : (fresh dice).KeepsTasks where
  begun _ hx := absurd hx List.not_mem_nil
  known _ hpos hle := absurd (Nat.lt_of_lt_of_le hpos hle) (Nat.lt_irrefl 0)

theorem tasks_file (errand : Errand) (generation other : Nat) (r : Stretch) :
    (b.file other errand generation r).tasks = b.tasks := by
  unfold file
  dsimp only
  split <;> rfl

/-- One task ends, and all others sleep or have ended as before. -/
theorem Knows.ended {other : Nat} {ending : Ending} (h : task ≠ other → b.Knows task)
    (hsleepers : b'.sleepers = b.sleepers) (hendings : b'.endings = b.endings ++ [(other, ending)]) :
    b'.Knows task := by
  unfold Knows isAsleep at h ⊢
  rw [hsleepers, hendings]
  by_cases htask : task = other
  · exact Or.inr ⟨ending, by simp [htask]⟩
  · rcases h htask with hasleep | ⟨earlier, hended⟩
    · exact Or.inl hasleep
    · exact Or.inr ⟨earlier, by simp [hended]⟩

/-- A task whose stretch has been filed is known, and so are all that were known before. -/
theorem knows_file (errand : Errand) (generation other : Nat) (r : Stretch)
    (h : task ≠ other → b.Knows task) : (b.file other errand generation r).Knows task := by
  unfold file
  rcases r with ⟨t, halt⟩
  cases halt with
  | asleep span stage =>
    let x : Sleeper := ⟨other, errand, generation, t.now + span, stage⟩
    have hperm := lieDown_perm x b.sleepers
    by_cases htask : task = other
    · exact Or.inl (isAsleep_iff.mpr ⟨x, hperm.symm.subset List.mem_cons_self, htask.symm⟩)
    · rcases h htask with hasleep | hended
      · obtain ⟨y, hy, hytask⟩ := isAsleep_iff.mp hasleep
        have hmem := hperm.symm.subset (List.mem_cons_of_mem x hy)
        exact Or.inl (isAsleep_iff.mpr ⟨y, hmem, hytask⟩)
      · exact Or.inr hended
  | done => exact Knows.ended h rfl rfl
  | failed fault => exact Knows.ended h rfl rfl

theorem keepsTasks_file (errand : Errand) (generation : Nat) {other : Nat} (r : Stretch)
    (hother : other ≤ b.tasks) (hbegun : ∀ x ∈ b.sleepers, x.task ≤ b.tasks)
    (hknown : ∀ task, 0 < task → task ≤ b.tasks → task ≠ other → b.Knows task) :
    (b.file other errand generation r).KeepsTasks := by
  constructor
  · intro x hx
    rw [tasks_file]
    unfold file at hx
    rcases r with ⟨t, halt⟩
    cases halt with
    | asleep span stage =>
      rcases List.mem_cons.mp ((lieDown_perm _ _).subset hx) with rfl | hx
      · exact hother
      · exact hbegun x hx
    | done => exact hbegun x hx
    | failed fault => exact hbegun x hx
  · intro task hpos hle
    rw [tasks_file] at hle
    exact knows_file errand generation other r (hknown task hpos hle)

/-- A new task, whose first stretch is filed. -/
theorem KeepsTasks.begin (h : b.KeepsTasks) (errand : Errand) (generation : Nat) (r : Stretch) :
    ({ b with tasks := b.tasks + 1 }.file (b.tasks + 1) errand generation r).KeepsTasks := by
  apply keepsTasks_file
  · exact Nat.le_refl _
  · intro x hx
    exact Nat.le_succ_of_le (h.begun x hx)
  · intro task hpos hle hne
    exact h.known task hpos (Nat.le_of_lt_succ (Nat.lt_of_le_of_ne hle hne))

/-- A new task that ends at once. -/
theorem KeepsTasks.ends (h : b.KeepsTasks) (ending : Ending) :
    KeepsTasks { b with
      tasks := b.tasks + 1
      endings := b.endings ++ [(b.tasks + 1, ending)] } := by
  constructor
  · intro x hx
    exact Nat.le_succ_of_le (h.begun x hx)
  · intro task hpos hle
    refine Knows.ended (b := b) (fun hnew => ?_) rfl rfl
    exact h.known task hpos (Nat.le_of_lt_succ (Nat.lt_of_le_of_ne hle hnew))

theorem KeepsTasks.submit (h : b.KeepsTasks) (r : Option Stretch) :
    (b.submit lab false r).KeepsTasks ∧ (b.submit lab false r).tasks = b.tasks + 1 := by
  unfold Bench.submit
  split
  · exact ⟨h.begin .answer _ _, tasks_file _ _ _ _⟩
  · exact ⟨h.ends (.answered false), rfl⟩

theorem KeepsTasks.wake (h : b.KeepsTasks) (place : Nat) :
    (b.wake lab place).KeepsTasks ∧ (b.wake lab place).tasks = b.tasks := by
  unfold Bench.wake
  split
  · exact ⟨h, rfl⟩
  · rename_i x hx
    obtain ⟨hlt, hget⟩ := List.getElem?_eq_some_iff.mp hx
    have hperm := List.getElem_cons_eraseIdx_perm hlt
    rw [hget] at hperm
    refine ⟨?_, tasks_file _ _ _ _⟩
    apply keepsTasks_file
    · exact h.begun x (List.mem_of_getElem? hx)
    · intro y hy
      exact h.begun y (List.mem_of_mem_eraseIdx hy)
    · intro task hpos hle hne
      rcases h.known task hpos hle with hasleep | hended
      · obtain ⟨y, hy, hytask⟩ := isAsleep_iff.mp hasleep
        rcases List.mem_cons.mp (hperm.symm.subset hy) with rfl | hy
        · exact absurd hytask.symm hne
        · exact Or.inl (isAsleep_iff.mpr ⟨y, hy, hytask⟩)
      · exact Or.inr hended

variable (lab) in
/-- Whatever happens, all tasks are kept, and there is one more if one begins. -/
theorem KeepsTasks.happen (h : b.KeepsTasks) (now : Moment) (happening : Happening) :
    (b.happen lab now happening).KeepsTasks ∧
      (b.happen lab now happening).tasks = b.tasks + happening.begins.toNat := by
  have h : (b.atMoment now).KeepsTasks := ⟨h.begun, h.known⟩
  cases happening with
  | start f channel => exact ⟨h.begin .start _ _, tasks_file _ _ _ _⟩
  | say said =>
    cases said with
    | str text => exact h.submit _
    | _ => exact ⟨h.ends (.failed .noSuchPart), rfl⟩
  | press digits => exact h.submit _
  | wake place => exact h.wake place
  | _ => exact ⟨⟨h.begun, h.known⟩, rfl⟩

variable (lab) in
theorem KeepsTasks.replay (h : b.KeepsTasks) (history : List (Moment × Happening)) :
    (b.replay lab history).KeepsTasks ∧ b.tasks ≤ (b.replay lab history).tasks := by
  induction history generalizing b with
  | nil => exact ⟨h, Nat.le_refl _⟩
  | cons first rest ih =>
    obtain ⟨hkeeps, htasks⟩ := KeepsTasks.happen lab h first.1 first.2
    obtain ⟨hrest, hle⟩ := ih hkeeps
    have hstep : b.tasks ≤ (b.happen lab first.1 first.2).tasks := by omega
    exact ⟨hrest, Nat.le_trans hstep hle⟩

/-- A task never sleeps more often than its naps allow. -/
theorem suspensions_le (haged : b.IsAged) (hkeeps : b.KeepsTasks) (htask : task ≤ b.tasks)
    (history : List (Moment × Happening)) :
    b.suspensions lab task history ≤ b.napsLeft lab task := by
  induction history generalizing b with
  | nil =>
    unfold suspensions
    cases hasleep : b.isAsleep task with
    | false => exact Nat.zero_le _
    | true => exact napsLeft_pos hasleep
  | cons h rest ih =>
    obtain ⟨hstep, -⟩ := happen_ages lab haged h.1 h.2
    obtain ⟨hkept, htasks⟩ := KeepsTasks.happen lab hkeeps h.1 h.2
    have hrest := ih hstep hkept (by omega)
    have hnaps := naps_happen lab haged htask h.1 h.2
    unfold suspensions
    omega

/-! ### The naps of a new task -/

theorem naps_of_rests {r : Stretch} {stage : Stage} (hhalt : r.2.RestsUntil lab stage)
    (hweight : stage.weight = 1) {steps : Nat} (hsteps : r.1.run.steps = steps) :
    r.naps lab r.1.generation ≤ 2 * (lab.settings.maxSteps - steps) + 1 := by
  rcases r with ⟨t, halt⟩
  cases hhalt with
  | asleep span =>
    unfold Stretch.naps Session.wakesFrom
    dsimp only at hsteps ⊢
    rw [if_pos rfl, hweight, hsteps]
  | failed hfails => exact Nat.zero_le _

theorem naps_start (h : b.session.IsPassive) (f : Flow) (channel : Channel) :
    (b.session.start lab f channel).naps lab (b.session.generation + 1) ≤
      2 * lab.settings.maxSteps + 1 := by
  have hstarts : Session.Starts lab b.session f channel _ := Session.starts_start h f channel
  have hgeneration : (b.session.start lab f channel).1.generation = b.session.generation + 1 :=
    hstarts.calm.generation
  rw [← hgeneration]
  generalize b.session.start lab f channel = r at hstarts hgeneration ⊢
  cases hstarts with
  | lost hnone hcalm hstance => exact Nat.zero_le _
  | @calls t halt start hstart hquiet hhalt =>
    have hsteps : t.run.steps = 0 := Session.stance_steps hquiet
    exact naps_of_rests (r := (t, halt)) hhalt rfl hsteps
  | @goes _ start hstart hmoves =>
    let x : Sleeper := ⟨0, .start, b.session.generation + 1, 0, .connecting start⟩
    have hspends := Session.Moves.spends (x := x) hmoves rfl
    unfold Stretch.naps
    split
    · rename_i span stage hasleep
      obtain ⟨-, hfewer⟩ := hspends.fewer span stage hasleep
      rw [if_pos rfl]
      exact Nat.le_of_lt hfewer
    · exact Nat.zero_le _

variable (lab) in
/-- A task that has not begun has no sleepers. -/
theorem KeepsTasks.naps_new (h : b.KeepsTasks) (errand : Errand) (generation : Nat) (r : Stretch) :
    ({ b with tasks := b.tasks + 1 }.file (b.tasks + 1) errand generation r).napsLeft lab
      (b.tasks + 1) = r.naps lab generation := by
  have hnone : sleepersOf { b with tasks := b.tasks + 1 } (b.tasks + 1) = [] := by
    apply List.filter_eq_nil_iff.mpr
    intro x hx htask
    have hbegun := h.begun x hx
    rw [beq_iff_eq.mp htask] at hbegun
    exact absurd hbegun (Nat.not_succ_le_self _)
  rw [naps_file, hnone, if_pos rfl, List.map_nil, List.sum_nil, Nat.zero_add]

theorem naps_refused (h : b.KeepsTasks) (endings : List (Nat × Ending)) :
    napsLeft lab { b with tasks := b.tasks + 1, endings } (b.tasks + 1) = 0 := by
  have hnone := KeepsTasks.naps_new lab h .answer 0 (b.session, .done)
  unfold file at hnone
  exact hnone

theorem naps_answer (h : b.KeepsTasks) (hdated : Clock.isDated b.session.now = true)
    {r : Option Stretch} (hr : ∀ r', r = some r' → ∃ n stage,
      Session.Answers lab b.session n stage r' ∧ stage.weight = 1) :
    (b.submit lab false r).napsLeft lab (b.tasks + 1) ≤
      2 * (lab.settings.maxSteps - b.session.run.steps) + 1 := by
  unfold submit
  rw [Session.tryAnswer_eq hdated]
  cases r with
  | none =>
    dsimp only
    rw [naps_refused h]
    exact Nat.zero_le _
  | some r =>
    obtain ⟨n, stage, hanswers, hweight⟩ := hr r rfl
    have hgeneration : r.1.generation = b.session.generation := hanswers.quiet.generation
    have hsteps : r.1.run.steps = b.session.takeUp.run.steps :=
      Session.stance_steps hanswers.quiet
    unfold begin
    dsimp only
    rw [if_neg Bool.false_ne_true, KeepsTasks.naps_new lab h, ← hgeneration]
    exact naps_of_rests hanswers.halt hweight hsteps

end Bench

/-- How many nodes a run has visited when a task begins with the happening. A start begins a run
anew. -/
def Happening.spent (r : Run) : Happening → Nat
  | start _ _ => 0
  | _ => r.stats.visited

namespace Bench

variable {lab : Lab} {b : Bench}

variable (lab) in
/-- A task that begins has no more naps ahead of it than the steps that are left allow. -/
theorem naps_begun (hpassive : b.session.IsPassive) (h : b.KeepsTasks)
    (hvisited : b.session.run.stats.visited = b.session.run.steps) (now : Moment)
    {happening : Happening} (hbegins : happening.begins = true) :
    (b.happen lab now happening).napsLeft lab (b.tasks + 1) ≤
      2 * (lab.settings.maxSteps - happening.spent b.session.run) + 1 := by
  have hpassive : (b.atMoment now).session.IsPassive := hpassive
  have h : (b.atMoment now).KeepsTasks := ⟨h.begun, h.known⟩
  have hdated : Clock.isDated (b.atMoment now).session.now = true := now.2
  cases happening with
  | start f channel =>
    have hnew := KeepsTasks.naps_new lab h .start ((b.atMoment now).session.generation + 1)
      ((b.atMoment now).session.tryStart lab f channel)
    refine Nat.le_trans (Nat.le_of_eq hnew) ?_
    rw [Session.tryStart_eq hdated]
    split
    · exact Nat.zero_le _
    · exact naps_start hpassive f channel
  | say said =>
    unfold Happening.spent
    rw [hvisited]
    cases said with
    | str text =>
      refine naps_answer h hdated fun r hr => ?_
      rcases Session.submitText_spec hpassive hr with ⟨-, n, hanswers⟩ | ⟨-, n, hanswers⟩
      · exact ⟨n, _, hanswers, rfl⟩
      · exact ⟨n, _, hanswers, rfl⟩
    | _ => exact Nat.le_trans (Nat.le_of_eq (naps_refused h _)) (Nat.zero_le _)
  | press digits =>
    unfold Happening.spent
    rw [hvisited]
    refine naps_answer h hdated fun r hr => ?_
    obtain ⟨-, n, hanswers⟩ := Session.submitKeys_spec hpassive hr
    exact ⟨n, _, hanswers, rfl⟩
  | _ => cases hbegins

end Bench

end Dialogue
