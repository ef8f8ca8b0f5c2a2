-- The controls of a bench, with its clock, and all that can become of a bench. In whatever order its
-- tasks have woken, and whoever has listened, its tasks are in good order.
import Dialogue.Proofs.Run.Ground
import Dialogue.Proofs.Run.Patience

namespace Dialogue

/-- What is done to a bench from outside, or with its clock. -/
inductive Control where
  | start (f : Flow) (channel : Channel) (wait : Bool)
  | say (said : Json) (wait : Bool)
  | press (digits : String) (wait : Bool)
  | endCall
  | reset
  | advance (us : Int)

namespace Bench

def control (lab : Lab) (b : Bench) : Control → Bench
  | .start f channel wait => b.start lab f channel wait
  | .say said wait => b.submitText lab said wait
  | .press digits wait => b.submitKeys lab digits wait
  | .endCall => b.onSession fun s => s.tryEndCall.1
  | .reset => b.onSession .reset
  | .advance us => b.advance lab us

/-- What has become of a bench after some controls. -/
def controls (lab : Lab) (b : Bench) (later : List Control) : Bench := later.foldl (control lab) b

/-- A bench that stands at a moment, which need not be one of the calendar. -/
def standing (b : Bench) (now : Int) : Bench := b.onSession fun s => { s with now }

/-- All that can become of a bench. Anyone may listen, and any sleeper may wake at any time. -/
inductive Reached (lab : Lab) : Bench → Prop
  | fresh (dice : Dice) : Reached lab (fresh dice)
  | control {b : Bench} (h : Reached lab b) (c : Control) : Reached lab (b.control lab c)
  | joins {b : Bench} (h : Reached lab b) (l : Listener) :
      Reached lab (b.onSession fun s => s.subscribe l)
  | leaves {b : Bench} (h : Reached lab b) (name : String) :
      Reached lab (b.onSession fun s => s.dismiss name)
  | wakes {b : Bench} (h : Reached lab b) (now : Int) (place : Nat) :
      Reached lab ((b.standing now).wake lab place)

theorem Reached.controls {lab : Lab} {b : Bench} (h : Reached lab b) (later : List Control) :
    Reached lab (b.controls lab later) := by
  induction later generalizing b with
  | nil => exact h
  | cons c later ih => exact ih (h.control c)

end Bench

/-! ## Generations -/

namespace Session

variable (lab : Lab) (s : Session)

theorem isOn_everywhere : s.IsOn .everywhere 0 s.generation :=
  ⟨⟨fun f _ => f.liesOn_everywhere, fun _ => trivial, fun _ _ => trivial, fun _ _ _ => trivial⟩,
    fun _ _ _ => trivial, Nat.le_refl _⟩

/-- The generation never falls, whoever listens. -/
theorem generation_le_tryResume (generation : Nat) (stage : Stage) :
    s.generation ≤ (s.tryResume lab generation stage).1.generation := by
  unfold tryResume
  split
  · exact Nat.le_of_eq (breaksOff_resumeLate generation stage).generation.symm
  · have hstage : stage.IsOn .everywhere := by cases stage <;> trivial
    exact (s.isOn_everywhere.resume generation hstage).session.least

theorem generation_lt_tryStart (f : Flow) (channel : Channel) :
    s.generation < (s.tryStart lab f channel).1.generation := by
  unfold tryStart
  split
  · exact Nat.lt_succ_self _
  · split
    · exact Nat.lt_succ_self _
    · have hstart : (s.start lab f channel).IsOn .everywhere 0 (s.generation + 1) :=
        isOn_start f.liesOn_everywhere (fun _ _ _ => trivial) (Nat.le_refl _) channel
      exact hstart.session.least

theorem generation_le_tryAnswer {r : Option Stretch}
    (hr : ∀ t, r = some t → s.generation ≤ t.1.generation) {t : Stretch}
    (ht : s.tryAnswer r = some t) : s.generation ≤ t.1.generation := by
  unfold tryAnswer at ht
  split at ht
  · obtain ⟨_, -, rfl⟩ := Option.map_eq_some_iff.mp ht
    exact Nat.le_refl _
  · exact hr t ht

theorem generation_le_tryEndCall : s.generation ≤ s.tryEndCall.1.generation := by
  unfold tryEndCall
  split
  · unfold endCallLate
    split
    · dsimp only
      rw [breaksOff_hangUpLate.generation]
      exact Nat.le_succ _
    · exact Nat.le_refl _
  · exact s.isOn_everywhere.endCall.least

end Session

/-! ## Sleepers in order -/

namespace Bench

/-- The sleepers are in the order in which they are due. None is of a task that has not come yet, and
none is younger than the session. -/
structure IsOrderly (b : Bench) : Prop where
  sorted : b.sleepers.Pairwise (·.due ≤ ·.due)
  counted : ∀ x ∈ b.sleepers, x.task ≤ b.tasks
  old : ∀ x ∈ b.sleepers, x.generation ≤ b.session.generation

theorem sorted_lieDown (x : Sleeper) {ys : List Sleeper} (h : ys.Pairwise (·.due ≤ ·.due)) :
    (lieDown x ys).Pairwise (·.due ≤ ·.due) := by
  induction ys with
  | nil => exact List.pairwise_singleton _ x
  | cons y rest ih =>
    obtain ⟨hfirst, hrest⟩ := List.pairwise_cons.mp h
    unfold lieDown
    split
    · rename_i hle
      refine List.pairwise_cons.mpr ⟨fun z hz => ?_, ih hrest⟩
      rcases List.mem_cons.mp ((lieDown_perm x rest).subset hz) with rfl | hz
      · exact hle
      · exact hfirst z hz
    · rename_i hgt
      refine List.pairwise_cons.mpr ⟨fun z hz => ?_, h⟩
      rcases List.mem_cons.mp hz with rfl | hz
      · omega
      · have hle := hfirst z hz
        omega

variable {lab : Lab} {b : Bench}

theorem IsOrderly.file (h : b.IsOrderly) {task generation : Nat} {errand : Errand} {r : Stretch}
    (htask : task ≤ b.tasks) (hgeneration : generation ≤ r.1.generation)
    (hrise : b.session.generation ≤ r.1.generation) :
    (b.file task errand generation r).IsOrderly := by
  have hold : ∀ x ∈ b.sleepers, x.generation ≤ r.1.generation := fun x hx =>
    Nat.le_trans (h.old x hx) hrise
  unfold Bench.file
  dsimp only
  split
  · refine ⟨sorted_lieDown _ h.sorted, fun x hx => ?_, fun x hx => ?_⟩
    · rcases List.mem_cons.mp ((lieDown_perm _ _).subset hx) with rfl | hx
      · exact htask
      · exact h.counted x hx
    · rcases List.mem_cons.mp ((lieDown_perm _ _).subset hx) with rfl | hx
      · exact hgeneration
      · exact hold x hx
  · exact ⟨h.sorted, h.counted, hold⟩
  · exact ⟨h.sorted, h.counted, hold⟩

theorem IsOrderly.onSession (h : b.IsOrderly) (change : Session → Session)
    (hrise : b.session.generation ≤ (change b.session).generation) :
    (b.onSession change).IsOrderly :=
  ⟨h.sorted, h.counted, fun x hx => Nat.le_trans (h.old x hx) hrise⟩

theorem IsOrderly.standing (h : b.IsOrderly) (now : Int) : (b.standing now).IsOrderly :=
  h.onSession _ (Nat.le_refl _)

theorem IsOrderly.wake (h : b.IsOrderly) (place : Nat) : (b.wake lab place).IsOrderly := by
  unfold Bench.wake
  split
  · exact h
  · rename_i x hx
    have hmem := List.mem_of_getElem? hx
    have hrise := b.session.generation_le_tryResume lab x.generation x.stage
    have hrest : { b with sleepers := b.sleepers.eraseIdx place }.IsOrderly :=
      ⟨h.sorted.sublist (List.eraseIdx_sublist _ _),
        fun y hy => h.counted y (List.mem_of_mem_eraseIdx hy),
        fun y hy => h.old y (List.mem_of_mem_eraseIdx hy)⟩
    exact hrest.file (h.counted x hmem) (Nat.le_trans (h.old x hmem) hrise) hrise

/-- The first sleeper wakes like any other, at the time it is due or now. -/
theorem wakeFirst_eq_wake (lab : Lab) (b : Bench) {x : Sleeper} {rest : List Sleeper}
    (h : b.sleepers = x :: rest) :
    b.wakeFirst lab = (b.standing (max b.session.now x.due)).wake lab 0 := by
  unfold wakeFirst Bench.wake standing onSession
  simp only [h, List.getElem?_cons_zero, List.eraseIdx_cons_zero]

theorem IsOrderly.wakeFirst (h : b.IsOrderly) : (b.wakeFirst lab).IsOrderly := by
  cases hsleepers : b.sleepers with
  | nil =>
    unfold Bench.wakeFirst
    rw [hsleepers]
    exact h
  | cons x rest =>
    rw [wakeFirst_eq_wake lab b hsleepers]
    exact (h.standing _).wake 0

theorem IsOrderly.finishTask (h : b.IsOrderly) (task times : Nat) :
    (b.finishTask lab task times).IsOrderly := by
  induction times generalizing b with
  | zero => exact h
  | succ times ih =>
    unfold Bench.finishTask
    split
    · exact ih h.wakeFirst
    · exact h

theorem IsOrderly.wakeDue (h : b.IsOrderly) (time : Int) (times : Nat) :
    (b.wakeDue lab time times).IsOrderly := by
  induction times generalizing b with
  | zero => exact h
  | succ times ih =>
    unfold Bench.wakeDue
    split
    · exact h
    · split
      · exact ih h.wakeFirst
      · exact h

theorem IsOrderly.begin (h : b.IsOrderly) {errand : Errand} {generation : Nat} {r : Stretch}
    (hgeneration : generation ≤ r.1.generation) (hrise : b.session.generation ≤ r.1.generation)
    (wait : Bool) : (b.begin lab errand generation wait r).IsOrderly := by
  have hcounted : { b with tasks := b.tasks + 1 }.IsOrderly :=
    ⟨h.sorted, fun x hx => Nat.le_succ_of_le (h.counted x hx), h.old⟩
  have hfiled : ({ b with tasks := b.tasks + 1 }.file (b.tasks + 1) errand generation
      r).IsOrderly := hcounted.file (Nat.le_refl _) hgeneration hrise
  unfold Bench.begin
  dsimp only
  split
  · exact hfiled.finishTask _ _
  · exact hfiled

theorem IsOrderly.submit (h : b.IsOrderly) {r : Option Stretch}
    (hr : ∀ t, r = some t → b.session.generation ≤ t.1.generation) (wait : Bool) :
    (b.submit lab wait r).IsOrderly := by
  unfold Bench.submit
  split
  · rename_i t ht
    have hrise := b.session.generation_le_tryAnswer hr ht
    exact h.begin hrise hrise wait
  · exact ⟨h.sorted, fun x hx => Nat.le_succ_of_le (h.counted x hx), h.old⟩

theorem IsOrderly.control (h : b.IsOrderly) (c : Control) : (b.control lab c).IsOrderly := by
  cases c with
  | start f channel wait =>
    have hrise := b.session.generation_lt_tryStart lab f channel
    exact h.begin hrise (Nat.le_of_lt hrise) wait
  | say said wait =>
    cases said with
    | str text =>
      refine h.submit (fun t ht => ?_) wait
      exact (b.session.isOn_everywhere.taken (Session.isTaken_submitText ht)).session.least
    | _ => exact ⟨h.sorted, fun x hx => Nat.le_succ_of_le (h.counted x hx), h.old⟩
  | press digits wait =>
    refine h.submit (fun t ht => ?_) wait
    exact (b.session.isOn_everywhere.taken (Session.isTaken_submitKeys ht)).session.least
  | endCall => exact h.onSession (·.tryEndCall.1) b.session.generation_le_tryEndCall
  | reset => exact h.onSession .reset (Nat.le_succ _)
  | advance us => exact (h.wakeDue _ _).standing _

/-- However a bench was used, its tasks are in good order. -/
theorem Reached.isOrderly (h : Reached lab b) : b.IsOrderly := by
  induction h with
  | fresh dice =>
    exact ⟨.nil, fun _ hx => absurd hx List.not_mem_nil, fun _ hx => absurd hx List.not_mem_nil⟩
  | control h c ih => exact ih.control c
  | joins h l ih => exact ih.onSession (·.subscribe l) (Nat.le_refl _)
  | leaves h name ih => exact ih.onSession (·.dismiss name) (Nat.le_refl _)
  | wakes h now place ih => exact (ih.standing now).wake place

end Bench

end Dialogue
