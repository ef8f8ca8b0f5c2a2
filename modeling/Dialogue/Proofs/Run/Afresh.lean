-- Benches on which a run is started afresh. A bench that has seen other runs may still have their
-- tasks asleep. Beside a new bench it shows the same from the start of a run on: its old tasks wake
-- in between, and nothing is seen of them.
import Dialogue.Proofs.Run.Alike
import Dialogue.Proofs.Run.Controls

namespace Dialogue

/-! ## Old and new sleepers -/

/-- The sleeper as one of a bench that has seen so many more generations and tasks. -/
def Sleeper.shift (older others : Nat) (x : Sleeper) : Sleeper :=
  { x with generation := x.generation + older, task := x.task + others }

/-- Among the first sleepers, those of the later generations are the second ones. The others are of
earlier tasks. -/
structure SleepersAlike (older others : Nat) (xs xs' : List Sleeper) : Prop where
  sorted : xs.Pairwise (·.due ≤ ·.due)
  common : xs.filter (older < ·.generation) = xs'.map (.shift older others)
  bygone : ∀ x ∈ xs, x.generation ≤ older → x.task ≤ others

variable {older others : Nat}

namespace Bench

/-- In a sorted list it does not matter whether the others are dropped before or after. -/
theorem filter_lieDown {p : Sleeper → Bool} {x : Sleeper} (hx : p x = true) {ys : List Sleeper}
    (h : ys.Pairwise (·.due ≤ ·.due)) :
    (lieDown x ys).filter p = lieDown x (ys.filter p) := by
  induction ys with
  | nil => simp [lieDown, hx]
  | cons y rest ih =>
    obtain ⟨hfirst, hrest⟩ := List.pairwise_cons.mp h
    by_cases hle : y.due ≤ x.due
    · rw [lieDown, if_pos hle, List.filter_cons, List.filter_cons, ih hrest]
      split
      · rw [lieDown, if_pos hle]
      · rfl
    · -- All that follow are due later than the new one, so it comes first in both.
      have hlater : ∀ z ∈ (y :: rest).filter p, ¬ z.due ≤ x.due := by
        intro z hz
        rcases List.mem_cons.mp (List.mem_of_mem_filter hz) with rfl | hz
        · exact hle
        · have hyz := hfirst z hz
          omega
      rw [lieDown, if_neg hle, List.filter_cons, if_pos hx]
      generalize (y :: rest).filter p = zs at hlater ⊢
      cases zs with
      | nil => rfl
      | cons z zs => rw [lieDown, if_neg (hlater z (by simp))]

theorem map_shift_lieDown (x : Sleeper) (ys : List Sleeper) :
    (lieDown x ys).map (.shift older others) =
      lieDown (x.shift older others) (ys.map (.shift older others)) := by
  induction ys with
  | nil => rfl
  | cons y rest ih =>
    rw [List.map_cons, lieDown, lieDown]
    change _ = if y.due ≤ x.due then _ else _
    split
    · rw [List.map_cons, ih]
    · rfl

end Bench

namespace SleepersAlike

variable {xs xs' : List Sleeper}

theorem lieDown (h : SleepersAlike older others xs xs') {x : Sleeper} (hx : 0 < x.generation) :
    SleepersAlike older others (Bench.lieDown (x.shift older others) xs)
      (Bench.lieDown x xs') := by
  have hlater : older < (x.shift older others).generation := Nat.lt_add_of_pos_left hx
  constructor
  case sorted => exact Bench.sorted_lieDown _ h.sorted
  case common =>
    rw [Bench.filter_lieDown (by simpa using hlater) h.sorted, h.common, Bench.map_shift_lieDown]
  case bygone =>
    intro y hy hold
    rcases List.mem_cons.mp ((Bench.lieDown_perm _ _).subset hy) with rfl | hy
    · omega
    · exact h.bygone y hy hold

theorem tail {x : Sleeper} (h : SleepersAlike older others (x :: xs) xs')
    (hold : x.generation ≤ older) : SleepersAlike older others xs xs' where
  sorted := (List.pairwise_cons.mp h.sorted).2
  common := by
    have hcommon := h.common
    rwa [List.filter_cons, if_neg (by simpa using hold)] at hcommon
  bygone y hy := h.bygone y (List.mem_cons_of_mem x hy)

/-- A sleeper of a later generation that is first is the first of both. -/
theorem tails {x : Sleeper} (h : SleepersAlike older others (x :: xs) xs')
    (hnew : older < x.generation) : ∃ x' rest', xs' = x' :: rest' ∧ x = x'.shift older others ∧
      SleepersAlike older others xs rest' := by
  have hcommon := h.common
  rw [List.filter_cons, if_pos (by simpa using hnew)] at hcommon
  obtain ⟨x', rest', hxs', hx, hrest⟩ := List.map_eq_cons_iff.mp hcommon.symm
  exact ⟨x', rest', hxs', hx.symm, (List.pairwise_cons.mp h.sorted).2, hrest.symm,
    fun y hy => h.bygone y (List.mem_cons_of_mem x hy)⟩

theorem mem_of_mem (h : SleepersAlike older others xs xs') {x' : Sleeper} (hx' : x' ∈ xs') :
    x'.shift older others ∈ xs := by
  have hmem : x'.shift older others ∈ xs'.map (.shift older others) := List.mem_map_of_mem hx'
  rw [← h.common] at hmem
  exact List.mem_of_mem_filter hmem

/-- A later task sleeps among the first if it sleeps among the second. -/
theorem any_task (h : SleepersAlike older others xs xs') {task : Nat} (htask : 0 < task) :
    xs.any (·.task == task + others) = xs'.any (·.task == task) := by
  rw [Bool.eq_iff_iff, List.any_eq_true, List.any_eq_true]
  constructor
  · rintro ⟨x, hx, hxtask⟩
    rw [beq_iff_eq] at hxtask
    have hnew : older < x.generation := by
      by_contra hold
      have hle := h.bygone x hx (Nat.le_of_not_lt hold)
      omega
    have hmem : x ∈ xs.filter (older < ·.generation) := List.mem_filter.mpr ⟨hx, by simpa⟩
    rw [h.common] at hmem
    obtain ⟨x', hx', rfl⟩ := List.mem_map.mp hmem
    exact ⟨x', hx', beq_iff_eq.mpr (Nat.add_right_cancel hxtask)⟩
  · rintro ⟨x', hx', hxtask⟩
    rw [beq_iff_eq] at hxtask
    exact ⟨_, h.mem_of_mem hx', by simp [Sleeper.shift, hxtask]⟩

end SleepersAlike

/-! ## Benches alike -/

namespace Bench

/-- The first bench has seen so many more generations and tasks, and shows the same as the second but
that its clock may have gone on already to wake an old task. -/
structure Shadows (older others : Nat) (b b' : Bench) : Prop where
  session : ∀ now, (b.standing now).session.Alike older (b'.standing now).session
  tasks : b.tasks = b'.tasks + others
  sleepers : SleepersAlike older others b.sleepers b'.sleepers
  clock : ∀ x ∈ b.sleepers, max b.session.now x.due = max b'.session.now x.due

/-- And the clocks agree. -/
structure Agree (older others : Nat) (b b' : Bench) : Prop extends Shadows older others b b' where
  now : b.session.now = b'.session.now

variable {lab : Lab} {b b' : Bench}

theorem Agree.alike (h : Agree older others b b') : b.session.Alike older b'.session := by
  have hsession := h.session b.session.now
  have hnow := h.now
  unfold standing onSession at hsession
  rw [hnow] at hsession
  exact ⟨hsession.run, hnow, hsession.alone, hsession.alone', hsession.generation, hsession.begun⟩

theorem agree_of_alike (hsession : b.session.Alike older b'.session)
    (htasks : b.tasks = b'.tasks + others)
    (hsleepers : SleepersAlike older others b.sleepers b'.sleepers) :
    Agree older others b b' :=
  ⟨⟨fun now => hsession.at_moment now, htasks, hsleepers, fun x _ => by rw [hsession.now]⟩,
    hsession.now⟩

variable (b b') in
/-- Stretches that come to the same are filed alike. -/
theorem agree_file {r r' : Stretch} (hr : r.Alike older r') (htasks : b.tasks = b'.tasks + others)
    (hsleepers : SleepersAlike older others b.sleepers b'.sleepers) {generation : Nat}
    (hgeneration : 0 < generation) (task : Nat) (errand : Errand) :
    Agree older others (b.file (task + others) errand (generation + older) r)
      (b'.file task errand generation r') := by
  obtain ⟨s, halt⟩ := r
  obtain ⟨s', halt'⟩ := r'
  obtain ⟨hsession, hhalt⟩ := hr
  obtain rfl : halt = halt' := hhalt
  unfold file
  cases halt with
  | asleep span stage =>
    let x' : Sleeper := ⟨task, errand, generation, s'.now + span, stage⟩
    have hnow : s.now = s'.now := hsession.now
    have hlie : SleepersAlike older others (lieDown (x'.shift older others) b.sleepers)
        (lieDown x' b'.sleepers) := hsleepers.lieDown hgeneration
    refine agree_of_alike hsession htasks ?_
    dsimp only
    rw [hnow]
    exact hlie
  | done => exact agree_of_alike hsession htasks hsleepers
  | failed fault => exact agree_of_alike hsession htasks hsleepers

/-! ## Waking -/

/-- A task that may not go on wakes and ends. The clock has gone on, and draws may be used up. -/
theorem wakeFirst_stale (lab : Lab) {x : Sleeper} {rest : List Sleeper}
    (hrest : b.sleepers = x :: rest) (hstale : b.session.generation ≠ x.generation) :
    ∃ dice endings, b.wakeFirst lab = { b with
      session := { b.session with now := max b.session.now x.due, dice }
      sleepers := rest
      endings } := by
  have hresume := Session.tryResume_stale lab
    { b.session with now := max b.session.now x.due } hstale x.stage
  unfold wakeFirst
  rw [hrest]
  dsimp only
  rw [hresume]
  cases x.stage.fault? lab b.session.dice with
  | none => exact ⟨_, _, rfl⟩
  | some fault => exact ⟨_, _, rfl⟩

/-- An old task that wakes ends, and the second bench does nothing. -/
theorem Shadows.wake_old (h : Shadows older others b b') {x : Sleeper} {rest : List Sleeper}
    (hrest : b.sleepers = x :: rest) (hold : x.generation ≤ older) :
    Shadows older others (b.wakeFirst lab) b' := by
  have hsleepers := h.sleepers
  rw [hrest] at hsleepers
  have hstale : b.session.generation ≠ x.generation := by
    have hgeneration : b.session.generation = b'.session.generation + older :=
      (h.session 0).generation
    have hbegun : 0 < b'.session.generation := (h.session 0).begun
    omega
  obtain ⟨dice, endings, hwake⟩ := wakeFirst_stale lab hrest hstale
  rw [hwake]
  refine ⟨fun now => (h.session now).dice dice b'.session.dice, h.tasks, hsleepers.tail hold,
    fun y hy => ?_⟩
  have hclock := h.clock y (hrest ▸ List.mem_cons_of_mem x hy)
  have hlater := (List.pairwise_cons.mp hsleepers.sorted).1 y hy
  change max (max b.session.now x.due) y.due = max b'.session.now y.due
  omega

/-- A later task wakes at both benches at the same time, and comes to the same. -/
theorem Shadows.wake_new (hlab : lab.IsPlanned) (h : Shadows older others b b') {x' : Sleeper}
    {rest rest' : List Sleeper} (hrest : b.sleepers = x'.shift older others :: rest)
    (hrest' : b'.sleepers = x' :: rest') (hnew : 0 < x'.generation)
    (halike : SleepersAlike older others rest rest') :
    Agree older others (b.wakeFirst lab) (b'.wakeFirst lab) := by
  have hclock := h.clock (x'.shift older others) (by simp [hrest])
  have hdue : (x'.shift older others).due = x'.due := rfl
  rw [hdue] at hclock
  have hresume := (h.session (max b.session.now x'.due)).tryResume hlab x'.generation x'.stage
  unfold wakeFirst
  rw [hrest, hrest']
  dsimp only
  rw [← hclock]
  exact agree_file { b.standing (max b.session.now x'.due) with sleepers := rest }
    { b'.standing (max b.session.now x'.due) with sleepers := rest' } hresume h.tasks halike hnew
    x'.task x'.errand

theorem Shadows.alone (h : Shadows older others b b') : b.session.listeners = [] :=
  (h.session 0).alone

theorem Shadows.alone' (h : Shadows older others b b') : b'.session.listeners = [] :=
  (h.session 0).alone'

/-- A later task that is first wakes at both benches, if the second has a wake left. -/
theorem Shadows.both_wake (hlab : lab.IsPlanned) (h : Shadows older others b b') {x : Sleeper}
    {rest : List Sleeper} (hrest : b.sleepers = x :: rest) (hnew : ¬ x.generation ≤ older) :
    ∃ x' rest', b'.sleepers = x' :: rest' ∧ x = x'.shift older others ∧
      Agree older others (b.wakeFirst lab) (b'.wakeFirst lab) ∧
      (b'.wakeFirst lab).wakes lab < b'.wakes lab := by
  have hsleepers := h.sleepers
  rw [hrest] at hsleepers
  obtain ⟨x', rest', hrest', rfl, hothers⟩ := hsleepers.tails (Nat.lt_of_not_le hnew)
  have hlater : 0 < x'.generation := Nat.pos_of_lt_add_left (Nat.lt_of_not_le hnew)
  have hfewer' : (b'.wakeFirst lab).wakes lab < b'.wakes lab :=
    wakes_wakeFirst h.alone' (by simp [hrest'])
  exact ⟨x', rest', hrest', rfl, h.wake_new hlab hrest hrest' hlater hothers, hfewer'⟩

/-- A later task sleeps at both benches or at neither. -/
theorem Shadows.isAsleep (h : Shadows older others b b') {task : Nat} (htask : 0 < task) :
    b.isAsleep (task + others) = b'.isAsleep task :=
  h.sleepers.any_task htask

theorem ne_nil_of_isAsleep {task : Nat} (h : b.isAsleep task = true) : b.sleepers ≠ [] := by
  rintro hnone
  unfold Bench.isAsleep at h
  rw [hnone] at h
  cases h

variable (lab) in
theorem finishTask_awake {task : Nat} (h : b.isAsleep task = false) (times : Nat) :
    b.finishTask lab task times = b := by
  cases times with
  | zero => rfl
  | succ times =>
    unfold finishTask
    rw [if_neg (by simp [h])]

/-- Benches that wait for a task long enough agree when it has ended, however many old tasks wake
before it does. -/
theorem Shadows.finishTask (hlab : lab.IsPlanned) (h : Shadows older others b b') {task : Nat}
    (htask : 0 < task) (hclock : b.isAsleep (task + others) = false → b.session.now = b'.session.now)
    {times times' : Nat} (htimes : b.wakes lab ≤ times) (htimes' : b'.wakes lab ≤ times') :
    Agree older others (b.finishTask lab (task + others) times)
      (b'.finishTask lab task times') := by
  induction times generalizing b b' times' with
  | zero =>
    have hawake : b.isAsleep (task + others) = false := by
      by_contra hasleep
      have hpos : 0 < b.wakes lab := wakes_pos (ne_nil_of_isAsleep (by simpa using hasleep))
      omega
    rw [finishTask_awake lab hawake, finishTask_awake lab (h.isAsleep htask ▸ hawake)]
    exact ⟨h, hclock hawake⟩
  | succ times ih =>
    cases hasleep : b.isAsleep (task + others) with
    | false =>
      rw [finishTask_awake lab hasleep, finishTask_awake lab (h.isAsleep htask ▸ hasleep)]
      exact ⟨h, hclock hasleep⟩
    | true =>
      have hsleeps := ne_nil_of_isAsleep hasleep
      have hfewer : (b.wakeFirst lab).wakes lab < b.wakes lab := wakes_wakeFirst h.alone hsleeps
      obtain ⟨x, rest, hrest⟩ := List.exists_cons_of_ne_nil hsleeps
      rw [Bench.finishTask, if_pos hasleep]
      by_cases hold : x.generation ≤ older
      · -- An old task wakes. The later one still sleeps, so the clocks need not agree.
        have hwoken : Shadows older others (b.wakeFirst lab) b' := h.wake_old hrest hold
        refine ih hwoken (fun hawake => ?_) (by omega) htimes'
        have hstill := hwoken.isAsleep htask
        rw [hawake, ← h.isAsleep htask, hasleep] at hstill
        cases hstill
      · obtain ⟨x', rest', hrest', rfl, hagree, hfewer'⟩ := h.both_wake hlab hrest hold
        cases times' with
        | zero => omega
        | succ times' =>
          rw [Bench.finishTask, if_pos (h.isAsleep htask ▸ hasleep)]
          exact ih hagree.toShadows (fun _ => hagree.now) (by omega) (by omega)

/-- Where nobody is due, nobody wakes. -/
theorem wakeDue_none {time : Int} (h : ∀ x ∈ b.sleepers, time < x.due) (times : Nat) :
    b.wakeDue lab time times = b := by
  cases times with
  | zero => rfl
  | succ times =>
    unfold wakeDue
    split
    · rfl
    · rename_i x rest hrest
      rw [if_neg (Int.not_le.mpr (h x (by simp [hrest])))]

theorem wakeDue_first {time : Int} {x : Sleeper} {rest : List Sleeper}
    (hrest : b.sleepers = x :: rest) (hdue : x.due ≤ time) (times : Nat) :
    b.wakeDue lab time (times + 1) = (b.wakeFirst lab).wakeDue lab time times := by
  rw [wakeDue, hrest]
  dsimp only
  rw [if_pos hdue]

theorem Shadows.wakeDue_none (h : Shadows older others b b') {time : Int}
    (hnone : ∀ x ∈ b.sleepers, time < x.due) (times times' : Nat) :
    Shadows older others (b.wakeDue lab time times) (b'.wakeDue lab time times') := by
  have hnone' : ∀ x' ∈ b'.sleepers, time < x'.due := fun x' hx' =>
    hnone (x'.shift older others) (h.sleepers.mem_of_mem hx')
  rw [Bench.wakeDue_none hnone, Bench.wakeDue_none hnone']
  exact h

/-- Benches that let time pass for long enough show the same in the end. -/
theorem Shadows.wakeDue (hlab : lab.IsPlanned) (h : Shadows older others b b') (time : Int)
    {times times' : Nat} (htimes : b.wakes lab ≤ times) (htimes' : b'.wakes lab ≤ times') :
    Shadows older others (b.wakeDue lab time times) (b'.wakeDue lab time times') := by
  induction times generalizing b b' times' with
  | zero =>
    refine h.wakeDue_none (fun x hx => ?_) 0 times'
    have hpos : 0 < b.wakes lab := wakes_pos (List.ne_nil_of_mem hx)
    omega
  | succ times ih =>
    cases hrest : b.sleepers with
    | nil => exact h.wakeDue_none (by simp [hrest]) _ _
    | cons x rest =>
      have hfewer : (b.wakeFirst lab).wakes lab < b.wakes lab :=
        wakes_wakeFirst h.alone (by simp [hrest])
      by_cases hdue : x.due ≤ time
      · rw [wakeDue_first hrest hdue]
        by_cases hold : x.generation ≤ older
        · exact ih (h.wake_old hrest hold) (by omega) htimes'
        · obtain ⟨x', rest', hrest', rfl, hagree, hfewer'⟩ := h.both_wake hlab hrest hold
          cases times' with
          | zero => omega
          | succ times' =>
            rw [wakeDue_first hrest' hdue]
            exact ih hagree.toShadows (by omega) (by omega)
      · refine h.wakeDue_none (fun y hy => ?_) _ _
        have hsorted := h.sleepers.sorted
        rw [hrest] at hsorted hy
        rcases List.mem_cons.mp hy with rfl | hy
        · omega
        · have hfirst := (List.pairwise_cons.mp hsorted).1 y hy
          omega

/-! ## Controls -/

/-- A bench waits long enough for a task that has just begun. -/
theorem agree_begin (hlab : lab.IsPlanned) {r r' : Stretch} (hr : r.Alike older r')
    (htasks : b.tasks = b'.tasks + others)
    (hsleepers : SleepersAlike older others b.sleepers b'.sleepers) {generation : Nat}
    (hgeneration : 0 < generation) (errand : Errand) (wait : Bool) :
    Agree older others (b.begin lab errand (generation + older) wait r)
      (b'.begin lab errand generation wait r') := by
  have htask : b.tasks + 1 = b'.tasks + 1 + others := by omega
  have hfiled := agree_file { b with tasks := b'.tasks + 1 + others }
    { b' with tasks := b'.tasks + 1 } hr rfl hsleepers hgeneration (b'.tasks + 1) errand
  unfold begin
  rw [htask]
  dsimp only
  split
  · exact hfiled.toShadows.finishTask hlab (Nat.succ_pos b'.tasks) (fun _ => hfiled.now)
      (wakes_le_patience lab _) (wakes_le_patience lab _)
  · exact hfiled

/-- Where a task is only counted, nothing else comes of it. -/
theorem Agree.count (h : Agree older others b b') (endings endings' : List (Nat × Ending)) :
    Agree older others { b with tasks := b.tasks + 1, endings }
      { b' with tasks := b'.tasks + 1, endings := endings' } := by
  have htask : b.tasks + 1 = b'.tasks + 1 + others := by
    have htasks := h.tasks
    omega
  exact agree_of_alike h.alike htask h.sleepers

theorem Agree.submit (hlab : lab.IsPlanned) (h : Agree older others b b')
    {r r' : Option Stretch} (hr : Option.Rel (Stretch.Alike older) r r') (wait : Bool) :
    Agree older others (b.submit lab wait r) (b'.submit lab wait r') := by
  have htried := h.alike.tryAnswer hr
  unfold Bench.submit
  rw [h.alike.generation]
  generalize b.session.tryAnswer r = t at htried ⊢
  generalize b'.session.tryAnswer r' = t' at htried ⊢
  cases htried with
  | none => exact h.count _ _
  | some ht => exact agree_begin hlab ht h.tasks h.sleepers h.alike.begun .answer wait

/-- Where runs are discarded alike, a run starts alike. -/
theorem agree_start (hlab : lab.IsPlanned)
    (hreset : b.session.reset.Alike older b'.session.reset) (htasks : b.tasks = b'.tasks + others)
    (hsleepers : SleepersAlike older others b.sleepers b'.sleepers) (f : Flow) (channel : Channel)
    (wait : Bool) :
    Agree older others (b.start lab f channel wait) (b'.start lab f channel wait) := by
  have hstart := Session.alike_tryStart lab hreset f channel
  have hgeneration : b.session.generation + 1 = b'.session.generation + 1 + older :=
    hreset.generation
  unfold start
  rw [hgeneration]
  exact agree_begin hlab hstart htasks hsleepers (Nat.succ_pos _) .start wait

theorem Agree.onSession (h : Agree older others b b') (change : Session → Session)
    (hchange : (change b.session).Alike older (change b'.session)) :
    Agree older others (b.onSession change) (b'.onSession change) :=
  agree_of_alike hchange h.tasks h.sleepers

theorem Agree.advance (hlab : lab.IsPlanned) (h : Agree older others b b') (us : Int) :
    Agree older others (b.advance lab us) (b'.advance lab us) := by
  have hdue := h.toShadows.wakeDue hlab (b.session.now + us) (wakes_le_patience lab b)
    (wakes_le_patience lab b')
  unfold Bench.advance
  rw [← h.now]
  exact agree_of_alike (hdue.session (b.session.now + us)) hdue.tasks hdue.sleepers

/-- Benches that agree do so after any control. -/
theorem Agree.control (hlab : lab.IsPlanned) (h : Agree older others b b') (c : Control) :
    Agree older others (b.control lab c) (b'.control lab c) := by
  cases c with
  | start f channel wait => exact agree_start hlab h.alike.reset h.tasks h.sleepers f channel wait
  | say said wait =>
    cases said with
    | str text => exact h.submit hlab (h.alike.submitText lab text) wait
    | _ => exact h.count _ _
  | press digits wait => exact h.submit hlab (h.alike.submitKeys lab digits) wait
  | endCall => exact h.onSession (·.tryEndCall.1) h.alike.tryEndCall
  | reset => exact h.onSession .reset h.alike.reset
  | advance us => exact h.advance hlab us

theorem Agree.controls (hlab : lab.IsPlanned) (h : Agree older others b b')
    (later : List Control) : Agree older others (b.controls lab later) (b'.controls lab later) := by
  induction later generalizing b b' with
  | nil => exact h
  | cons c later ih => exact ih (h.control hlab c)

/-! ## Whatever was before -/

/-- A new bench whose clock stands at a time. -/
def freshAt (now : Int) (dice : Dice) : Bench := (fresh dice).standing now

/-- On a bench that was used in whatever way, a run starts as on a new one. -/
theorem agree_afresh (hlab : lab.IsPlanned) (hb : b.IsOrderly) (halone : b.session.listeners = [])
    (dice : Dice) (f : Flow) (channel : Channel) (wait : Bool) :
    Agree b.session.generation b.tasks (b.start lab f channel wait)
      ((freshAt b.session.now dice).start lab f channel wait) := by
  have hold : ∀ x ∈ b.sleepers, ¬ b.session.generation < x.generation := fun x hx =>
    Nat.not_lt_of_le (hb.old x hx)
  have hsleepers : SleepersAlike b.session.generation b.tasks b.sleepers [] :=
    ⟨hb.sorted, List.filter_eq_nil_iff.mpr (by simpa using hold), fun x hx _ => hb.counted x hx⟩
  have hreset := Session.alike_reset b.session (freshAt b.session.now dice).session rfl halone rfl
    rfl
  exact agree_start hlab hreset (Nat.zero_add _).symm hsleepers f channel wait

/-- What was tried on a bench before cannot be told from a run that is started on it, nor from any
that follow: where nobody listens and no effect consults the dice, the bench gives the same account
of them as a new one, whatever is done from then on. -/
theorem earlier_runs_leave_no_trace (lab : Lab) (hlab : lab.IsPlanned) {b : Bench}
    (hb : Reached lab b) (halone : b.session.listeners = []) (dice : Dice) (f : Flow)
    (channel : Channel) (wait : Bool) (later : List Control) :
    ((b.start lab f channel wait).controls lab later).session.account =
      (((freshAt b.session.now dice).start lab f channel wait).controls lab
        later).session.account :=
  ((agree_afresh hlab hb.isOrderly halone dice f channel wait).controls hlab later).alike.account

/-- A call that was replaced while it was being connected, and a run in the middle of a request, are
still asleep when a question is asked anew. The request takes longer than the new run. -/
theorem a_replaced_call_leaves_no_trace :
    let lab := { usualLab with
      effects := fun _ => .fixed (some (.ok 60000000)) (.ok ⟨true, .str "done"⟩) }
    let requesting := { askingFlow with
      nodes := [⟨.str "start", .start {}, [], []⟩, ⟨.str "ask", .apiCall {}, [], []⟩] }
    let b := (fresh {}).controls lab [.start requesting .chat false, .advance 2000000,
      .start askingFlow .voice false, .advance 1000]
    let later : List Control := [.advance 5000000, .say (.str "yes") true]
    let b' := (b.start lab askingFlow .chat false).controls lab later
    lab.IsPlanned ∧ Reached lab b ∧ b.session.listeners = [] ∧ b.sleepers.length = 2 ∧
      b'.sleepers.length = 1 ∧ b'.session.run.state = .ended ∧
      b'.session.account = (((freshAt b.session.now {}).start lab askingFlow .chat false).controls
        lab later).session.account := by
  intro lab requesting b later b'
  have hlab : lab.IsPlanned := fun _ _ _ _ _ => rfl
  have hb : Reached lab b := (Reached.fresh {}).controls _
  have halone : b.session.listeners = [] := by decide +kernel
  exact ⟨hlab, hb, halone, by decide +kernel, by decide +kernel, by decide +kernel,
    earlier_runs_leave_no_trace lab hlab hb halone {} askingFlow .chat false later⟩

end Bench

end Dialogue
