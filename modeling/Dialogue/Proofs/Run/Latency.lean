-- Histories at two paces. A run that is given the same answers says the same and ends the same way,
-- however long its steps take.
import Dialogue.Proofs.Run.History
import Dialogue.Proofs.Run.InStep

namespace Dialogue

/-- What happens to a run to which nobody listens and which is left to its end: answers are given,
and tasks wake. -/
def Happening.IsPlain : Happening → Prop
  | say _ | press _ | wake _ => True
  | _ => False

namespace Bench

/-- Whether the happening is an answer that the run waits for. -/
def accepts (b : Bench) : Happening → Bool
  | .say (.str text) => b.session.run.takesText text
  | .press digits => b.session.run.takesKeys digits
  | _ => false

/-- The answers of a history that the run was waiting for. -/
def accepted (lab : Lab) (b : Bench) : List (Moment × Happening) → List Happening
  | [] => []
  | (now, h) :: rest =>
    if b.accepts h then h :: accepted lab (b.happen lab now h) rest
    else accepted lab (b.happen lab now h) rest

/-- Nobody listens to the session, and no task sleeps. -/
structure IsVacant (b : Bench) : Prop where
  alone : b.session.listeners = []
  unused : b.sleepers = []

variable {lab lab' : Lab} {b b' c : Bench}

/-! ## Idle happenings -/

/-- Nothing has come of it but that time has passed. -/
structure Idles (b c : Bench) : Prop where
  session : ∃ now, c.session = { b.session with now }
  sleepers : c.sleepers = b.sleepers

theorem Idles.refl (b : Bench) : b.Idles b := ⟨⟨b.session.now, rfl⟩, rfl⟩

theorem Idles.trans (h : b.Idles c) {d : Bench} (h' : c.Idles d) : b.Idles d := by
  obtain ⟨now, hnow⟩ := h.session
  obtain ⟨now', hnow'⟩ := h'.session
  exact ⟨⟨now', by rw [hnow', hnow]⟩, h'.sleepers.trans h.sleepers⟩

theorem Idles.run (h : b.Idles c) : c.session.run = b.session.run := by
  obtain ⟨now, hnow⟩ := h.session
  rw [hnow]

theorem Idles.accepts (h : b.Idles c) (i : Happening) : c.accepts i = b.accepts i := by
  unfold Bench.accepts
  rw [h.run]

/-- An answer that is not accepted does nothing, and neither does a wake where nobody sleeps. -/
theorem idles_happen (now : Moment) {i : Happening} (hplain : i.IsPlain)
    (hrefused : b.accepts i = false)
    (hwake : ∀ place, i = .wake place → b.sleepers[place]? = none) :
    b.Idles (b.happen lab now i) := by
  have hdated : Clock.isDated (b.atMoment now).session.now = true := now.2
  have hsubmit : ∀ r : Option Stretch, r.isSome = false →
      b.Idles ((b.atMoment now).submit lab false r) := by
    intro r hr
    unfold submit
    rw [Session.tryAnswer_eq hdated]
    cases r with
    | some r => cases hr
    | none => exact ⟨⟨now.1, rfl⟩, rfl⟩
  cases i with
  | say said =>
    cases said with
    | str text =>
      exact hsubmit _ ((Session.isSome_submitText lab _ text).trans hrefused)
    | _ => exact ⟨⟨now.1, rfl⟩, rfl⟩
  | press digits =>
    exact hsubmit _ ((Session.isSome_submitKeys lab _ digits).trans hrefused)
  | wake place =>
    have hnone : (b.atMoment now).sleepers[place]? = none := hwake place rfl
    have hsame : b.happen lab now (.wake place) = b.atMoment now := by
      change (b.atMoment now).wake lab place = _
      unfold wake
      rw [hnone]
    rw [hsame]
    exact ⟨⟨now.1, rfl⟩, rfl⟩
  | _ => exact hplain.elim

/-! ## Up to the next that matters -/

/-- The rest of a history once the bench has idled: what happens next, and what comes after it. -/
structure Resumes (lab : Lab) (b : Bench) (later : List (Moment × Happening)) (c : Bench)
    (now : Moment) (i : Happening) (rest : List (Moment × Happening)) : Prop where
  idles : b.Idles c
  plain : ∀ h ∈ rest, h.2.IsPlain
  replay : b.replay lab later = (c.happen lab now i).replay lab rest
  accepted : b.accepted lab later =
    if b.accepts i then i :: (c.happen lab now i).accepted lab rest
    else (c.happen lab now i).accepted lab rest

/-- An idle happening at the front does not change what resumes. -/
theorem Resumes.after_idle {later rest : List (Moment × Happening)} {now now' : Moment}
    {i i' : Happening} {d : Bench} (hidles : b.Idles (b.happen lab now i))
    (hrefused : b.accepts i = false)
    (h : Resumes lab (b.happen lab now i) later d now' i' rest) :
    Resumes lab b ((now, i) :: later) d now' i' rest where
  idles := hidles.trans h.idles
  plain := h.plain
  replay := h.replay
  accepted := by
    rw [Bench.accepted, if_neg (by simp [hrefused]), h.accepted, hidles.accepts]

theorem resumes_now {later : List (Moment × Happening)} (now : Moment) (i : Happening)
    (hplain : ∀ h ∈ later, h.2.IsPlain) : Resumes lab b ((now, i) :: later) b now i later :=
  ⟨.refl b, hplain, rfl, rfl⟩

/-- Where nobody sleeps, the next that matters is the next answer. -/
theorem resumes_at_answer {later : List (Moment × Happening)}
    (hplain : ∀ h ∈ later, h.2.IsPlain) (hnone : b.sleepers = []) {a : Happening}
    {answers : List Happening} (haccepted : b.accepted lab later = a :: answers) :
    ∃ c now rest, Resumes lab b later c now a rest ∧ b.accepts a = true := by
  induction later generalizing b with
  | nil => cases haccepted
  | cons h later ih =>
    obtain ⟨now, i⟩ := h
    obtain ⟨hi, hrest⟩ := List.forall_mem_cons.mp hplain
    cases haccepts : b.accepts i with
    | true =>
      rw [accepted, if_pos haccepts] at haccepted
      obtain ⟨rfl, -⟩ := List.cons.inj haccepted
      exact ⟨b, now, later, resumes_now now i hrest, haccepts⟩
    | false =>
      have hidles : b.Idles (b.happen lab now i) :=
        idles_happen now hi haccepts fun place _ => by simp [hnone]
      rw [accepted, if_neg (by simp [haccepts])] at haccepted
      obtain ⟨c, now', rest, hresumes, haccepts'⟩ :=
        ih hrest (hidles.sleepers.trans hnone) haccepted
      exact ⟨c, now', rest, hresumes.after_idle hidles haccepts, hidles.accepts a ▸ haccepts'⟩

/-- Where one task sleeps and no answer is waited for, the next that matters is its wake, if it is
to wake at all. -/
theorem resumes_at_wake {later : List (Moment × Happening)} (hplain : ∀ h ∈ later, h.2.IsPlain)
    {x : Sleeper} (hone : b.sleepers = [x]) (hrefused : ∀ i, b.accepts i = false)
    (hend : (b.replay lab later).sleepers = []) :
    ∃ c now rest, Resumes lab b later c now (.wake 0) rest := by
  induction later generalizing b with
  | nil =>
    rw [replay, List.foldl_nil, hone] at hend
    cases hend
  | cons h later ih =>
    obtain ⟨now, i⟩ := h
    obtain ⟨hi, hrest⟩ := List.forall_mem_cons.mp hplain
    by_cases hwake : i = .wake 0
    · subst hwake
      exact ⟨b, now, later, resumes_now now _ hrest⟩
    · have hnone : ∀ place, i = .wake place → b.sleepers[place]? = none := by
        intro place hplace
        cases place with
        | zero => exact absurd hplace hwake
        | succ place => simp [hone]
      have hidles : b.Idles (b.happen lab now i) := idles_happen now hi (hrefused i) hnone
      obtain ⟨c, now', rest, hresumes⟩ := ih hrest (hidles.sleepers.trans hone)
        (fun i => (hidles.accepts i).trans (hrefused i)) hend
      exact ⟨c, now', rest, hresumes.after_idle hidles (hrefused i)⟩

/-- Where nobody sleeps and no more answers are accepted, nothing comes any more. -/
theorem idles_replay {later : List (Moment × Happening)} (hplain : ∀ h ∈ later, h.2.IsPlain)
    (hnone : b.sleepers = []) (haccepted : b.accepted lab later = []) :
    b.Idles (b.replay lab later) := by
  induction later generalizing b with
  | nil => exact .refl b
  | cons h later ih =>
    obtain ⟨now, i⟩ := h
    obtain ⟨hi, hrest⟩ := List.forall_mem_cons.mp hplain
    cases haccepts : b.accepts i with
    | true =>
      rw [accepted, if_pos haccepts] at haccepted
      cases haccepted
    | false =>
      have hidles : b.Idles (b.happen lab now i) :=
        idles_happen now hi haccepts fun place _ => by simp [hnone]
      rw [accepted, if_neg (by simp [haccepts])] at haccepted
      exact hidles.trans (ih hrest (hidles.sleepers.trans hnone) haccepted)

/-! ## Two benches in step -/

/-- No task sleeps at either bench, or one does at each, at the same stage of a run that goes on. -/
inductive TasksInStep (b b' : Bench) : Prop
  | none (hnone : b.sleepers = []) (hnone' : b'.sleepers = []) : TasksInStep b b'
  | one {x x' : Sleeper} (hone : b.sleepers = [x]) (hone' : b'.sleepers = [x'])
      (hstage : x'.stage = x.stage) (hcurrent : x.generation = b.session.generation)
      (hcurrent' : x'.generation = b'.session.generation)
      (hrunning : b.session.run.state = .running)
      (hcall : x.stage.IsOfCall → b.session.run.channel = some .voice) : TasksInStep b b'

structure InStep (b b' : Bench) : Prop where
  session : b.session.InStep b.session.generation b'.session.generation b'.session
  tasks : TasksInStep b b'

theorem InStep.idle (h : b.InStep b') (hidles : b.Idles c) : c.InStep b' := by
  obtain ⟨now, hnow⟩ := hidles.session
  constructor
  case session =>
    rw [hnow]
    exact h.session.at_moments now b'.session.now
  case tasks =>
    cases h.tasks with
    | none hnone hnone' => exact .none (hidles.sleepers.trans hnone) hnone'
    | one hone hone' hstage hcurrent hcurrent' hrunning hcall =>
      refine .one (hidles.sleepers.trans hone) hone' hstage ?_ hcurrent' ?_ ?_
      · rw [hnow]
        exact hcurrent
      · rw [hidles.run]
        exact hrunning
      · rw [hidles.run]
        exact hcall

theorem InStep.idle' (h : b.InStep b') (hidles : b'.Idles c) : b.InStep c := by
  obtain ⟨now, hnow⟩ := hidles.session
  constructor
  case session =>
    rw [hnow]
    exact h.session.at_moments b.session.now now
  case tasks =>
    cases h.tasks with
    | none hnone hnone' => exact .none hnone (hidles.sleepers.trans hnone')
    | one hone hone' hstage hcurrent hcurrent' hrunning hcall =>
      refine .one hone (hidles.sleepers.trans hone') hstage hcurrent ?_ hrunning hcall
      rw [hnow]
      exact hcurrent'

/-- A run that goes on waits for no answer. -/
theorem not_accepts_of_running (h : b.session.run.state = .running) (i : Happening) :
    b.accepts i = false := by
  unfold accepts
  split
  · simp [Run.takesText, h]
  · simp [Run.takesKeys, h]
  · rfl

/-- Stretches that keep step are filed in step, where nobody else sleeps. -/
theorem inStep_file {r r' : Stretch} {g g' : Nat} (hnone : b.sleepers = [])
    (hnone' : b'.sleepers = []) (hr : r.InStep g g' r')
    (hrunning : ∀ span stage, r.2 = .asleep span stage → r.1.run.state = .running)
    (task task' : Nat) (errand errand' : Errand) :
    (b.file task errand g r).InStep (b'.file task' errand' g' r') := by
  obtain ⟨s, halt⟩ := r
  obtain ⟨s', halt'⟩ := r'
  obtain ⟨hsession, hhalt, hcall⟩ := hr
  have hg : s.generation = g := hsession.generation
  have hg' : s'.generation = g' := hsession.generation'
  subst hg hg'
  cases hhalt with
  | asleep span span' stage =>
    have hone : (b.file task errand s.generation (s, .asleep span stage)).sleepers =
        [⟨task, errand, s.generation, s.now + span, stage⟩] := by
      unfold file
      dsimp only
      rw [hnone]
      rfl
    have hone' : (b'.file task' errand' s'.generation (s', .asleep span' stage)).sleepers =
        [⟨task', errand', s'.generation, s'.now + span', stage⟩] := by
      unfold file
      dsimp only
      rw [hnone']
      rfl
    exact ⟨hsession, .one hone hone' rfl rfl rfl (hrunning span stage rfl) (hcall span stage rfl)⟩
  | done => exact ⟨hsession, .none hnone hnone'⟩
  | failed fault fault' => exact ⟨hsession, .none hnone hnone'⟩

/-- Where nobody sleeps, nothing but that has to be known of the tasks. -/
theorem TasksInStep.none_of_accepts (h : TasksInStep b b') {i : Happening}
    (haccepts : b.accepts i = true) : b.sleepers = [] ∧ b'.sleepers = [] := by
  cases h with
  | none hnone hnone' => exact ⟨hnone, hnone'⟩
  | one hone hone' hstage hcurrent hcurrent' hrunning hcall =>
    rw [not_accepts_of_running hrunning i] at haccepts
    cases haccepts

/-- Whether something comes of a happening where at most one task sleeps: it is an answer that is
waited for, or the wake of that task. -/
def Matters (b : Bench) (i : Happening) : Prop :=
  b.accepts i = true ∨ i = .wake 0 ∧ b.sleepers ≠ []

theorem TasksInStep.idles_happen (h : TasksInStep b b') (now : Moment) {i : Happening}
    (hplain : i.IsPlain) (hidle : ¬ b.Matters i) : b.Idles (b.happen lab now i) := by
  refine Bench.idles_happen now hplain ?_ ?_
  · exact Bool.eq_false_iff.mpr fun haccepts => hidle (Or.inl haccepts)
  · rintro place rfl
    cases h with
    | none hnone => simp [hnone]
    | one hone =>
      cases place with
      | zero => exact absurd (Or.inr ⟨rfl, by simp [hone]⟩) hidle
      | succ place => simp [hone]

section Labs

variable (hlab : lab.DifferInPace lab')

include hlab

/-- An answer that is accepted is accepted at the other bench too, with the same outcome. -/
theorem InStep.answer (h : b.InStep b') {a : Happening} (haccepts : b.accepts a = true)
    (now now' : Moment) : (b.happen lab now a).InStep (b'.happen lab' now' a) := by
  obtain ⟨hnone, hnone'⟩ := h.tasks.none_of_accepts haccepts
  have hdated : Clock.isDated (b.atMoment now).session.now = true := now.2
  have hdated' : Clock.isDated (b'.atMoment now').session.now = true := now'.2
  have hsession : (b.atMoment now).session.InStep b.session.generation b'.session.generation
      (b'.atMoment now').session := h.session.at_moments now.1 now'.1
  have hpassive := Session.passive_of_alone hsession.alone
  -- Both answers are taken up in step, and what comes of them is filed.
  have hsubmit : ∀ r r' : Option Stretch,
      Option.Rel (Stretch.InStep b.session.generation b'.session.generation) r r' →
      r.isSome = true → (∀ t, r = some t → t.1.run.state = .running) →
      ((b.atMoment now).submit lab false r).InStep ((b'.atMoment now').submit lab' false r') := by
    intro r r' hrel hsome hrunning
    unfold submit
    rw [Session.tryAnswer_eq hdated, Session.tryAnswer_eq hdated']
    cases hrel with
    | none => cases hsome
    | @some t t' hstretch =>
      have hnone : { b.atMoment now with tasks := b.tasks + 1 }.sleepers = [] := hnone
      have hnone' : { b'.atMoment now' with tasks := b'.tasks + 1 }.sleepers = [] := hnone'
      exact inStep_file hnone hnone' hstretch (fun _ _ _ => hrunning t rfl) _ _ _ _
  cases a with
  | say said =>
    cases said with
    | str text =>
      refine hsubmit _ _ (hsession.submitText hlab text) ?_ fun t ht => ?_
      · exact (Session.isSome_submitText lab _ text).trans haccepts
      · rcases Session.submitText_spec hpassive ht with ⟨-, n, hn⟩ | ⟨-, n, hn⟩
        · exact hn.running
        · exact hn.running
    | _ => cases haccepts
  | press digits =>
    refine hsubmit _ _ (hsession.submitKeys hlab digits) ?_ fun t ht => ?_
    · exact (Session.isSome_submitKeys lab _ digits).trans haccepts
    · obtain ⟨-, n, hn⟩ := Session.submitKeys_spec hpassive ht
      exact hn.running
  | _ => cases haccepts

/-- Where one task sleeps at each bench, both come to the same when they wake. -/
theorem InStep.wake (h : b.InStep b') {x : Sleeper} (hone : b.sleepers = [x]) (now now' : Moment) :
    (b.happen lab now (.wake 0)).InStep (b'.happen lab' now' (.wake 0)) := by
  have hdated : Clock.isDated (b.atMoment now).session.now = true := now.2
  have hdated' : Clock.isDated (b'.atMoment now').session.now = true := now'.2
  have hsession : (b.atMoment now).session.InStep b.session.generation b'.session.generation
      (b'.atMoment now').session := h.session.at_moments now.1 now'.1
  cases h.tasks with
  | none hnone hnone' =>
    rw [hone] at hnone
    cases hnone
  | @one y y' hy hy' hstage hcurrent hcurrent' hrunning hcall =>
    have hstretch := hsession.resume hlab hcall
    have hmoves : Session.Moves lab (b.atMoment now).session y.stage _ :=
      Session.moves_resume (Session.passive_of_alone hsession.alone) hsession.generation y.stage
    have hfirst : (b.atMoment now).sleepers[0]? = some y := by
      change b.sleepers[0]? = some y
      simp [hy]
    have hfirst' : (b'.atMoment now').sleepers[0]? = some y' := by
      change b'.sleepers[0]? = some y'
      simp [hy']
    change ((b.atMoment now).wake lab 0).InStep ((b'.atMoment now').wake lab' 0)
    unfold Bench.wake
    rw [hfirst, hfirst']
    dsimp only
    rw [Session.tryResume_eq hdated, Session.tryResume_eq hdated', hcurrent, hcurrent', hstage]
    refine inStep_file ?_ ?_ hstretch (fun _ _ hr => hmoves.running hrunning hr) _ _ _ _
    · change b.sleepers.eraseIdx 0 = []
      simp [hy]
    · change b'.sleepers.eraseIdx 0 = []
      simp [hy']

/-- Vacant benches start a flow in step, whatever was before. -/
theorem inStep_start (h : b.IsVacant) (h' : b'.IsVacant) (hdice : b'.session.dice = b.session.dice)
    (f : Flow) (channel : Channel) (now now' : Moment) :
    (b.happen lab now (.start f channel)).InStep (b'.happen lab' now' (.start f channel)) := by
  have hdated : Clock.isDated (b.atMoment now).session.now = true := now.2
  have hdated' : Clock.isDated (b'.atMoment now').session.now = true := now'.2
  have halone : (b.atMoment now).session.listeners = [] := h.alone
  have halone' : (b'.atMoment now').session.listeners = [] := h'.alone
  have hpassive := Session.passive_of_alone halone
  have hstretch : Stretch.InStep (b.session.generation + 1) (b'.session.generation + 1)
      ((b.atMoment now).session.tryStart lab f channel)
      ((b'.atMoment now').session.tryStart lab' f channel) := by
    rw [Session.tryStart_eq hdated, Session.tryStart_eq hdated', hlab.room]
    split
    · exact Stretch.inStep_failed (Session.inStep_reset halone halone' hdice) _ _
    · exact Session.inStep_start hlab halone halone' hdice f channel
  have hrunning : ∀ span stage, ((b.atMoment now).session.tryStart lab f channel).2 =
      .asleep span stage →
        ((b.atMoment now).session.tryStart lab f channel).1.run.state = .running := by
    intro span stage hr
    rw [Session.tryStart_eq hdated] at hr ⊢
    split at hr
    · cases hr
    · rename_i hroom
      rw [if_neg hroom]
      exact (Session.starts_start hpassive f channel).running hr
  have hnone : { b.atMoment now with tasks := b.tasks + 1 }.sleepers = [] := h.unused
  have hnone' : { b'.atMoment now' with tasks := b'.tasks + 1 }.sleepers = [] := h'.unused
  exact inStep_file hnone hnone' hstretch hrunning _ _ _ _

/-- What matters at one bench comes at the other one too, some time later, and then they are in step
again. -/
theorem InStep.catch_up (h : b.InStep b') {now : Moment} {i : Happening} (hmatters : b.Matters i)
    {later later' : List (Moment × Happening)} (hplain' : ∀ h ∈ later', h.2.IsPlain)
    (hanswers : b'.accepted lab' later' = b.accepted lab ((now, i) :: later))
    (hend' : (b'.replay lab' later').sleepers = []) :
    ∃ c now' rest, Resumes lab' b' later' c now' i rest ∧
      (b.happen lab now i).InStep (c.happen lab' now' i) ∧
      (c.happen lab' now' i).accepted lab' rest = (b.happen lab now i).accepted lab later := by
  rcases hmatters with haccepts | ⟨rfl, hsleeps⟩
  · obtain ⟨-, hnone'⟩ := h.tasks.none_of_accepts haccepts
    rw [accepted, if_pos haccepts] at hanswers
    obtain ⟨c, now', rest, hresumes, haccepts'⟩ := resumes_at_answer hplain' hnone' hanswers
    rw [hresumes.accepted, if_pos haccepts'] at hanswers
    have hstep := (h.idle' hresumes.idles).answer hlab haccepts now now'
    exact ⟨c, now', rest, hresumes, hstep, (List.cons.inj hanswers).2⟩
  · cases h.tasks with
    | none hnone => exact absurd hnone hsleeps
    | one hone hone' hstage hcurrent hcurrent' hrunning hcall =>
      have hrefused := not_accepts_of_running hrunning
      have hrefused' := not_accepts_of_running (h.session.run.state.trans hrunning)
      obtain ⟨c, now', rest, hresumes⟩ := resumes_at_wake hplain' hone' hrefused' hend'
      rw [accepted, if_neg (by simp [hrefused]), hresumes.accepted,
        if_neg (by simp [hrefused'])] at hanswers
      have hstep := (h.idle' hresumes.idles).wake hlab hone now now'
      exact ⟨c, now', rest, hresumes, hstep, hanswers⟩

/-- Benches in step stay so in the course of two histories with the same answers, if no task is
left asleep at the end. -/
theorem InStep.replay (h : b.InStep b') {later later' : List (Moment × Happening)}
    (hplain : ∀ h ∈ later, h.2.IsPlain) (hplain' : ∀ h ∈ later', h.2.IsPlain)
    (hanswers : b'.accepted lab' later' = b.accepted lab later)
    (hend : (b.replay lab later).sleepers = []) (hend' : (b'.replay lab' later').sleepers = []) :
    (b.replay lab later).InStep (b'.replay lab' later') := by
  induction later generalizing b b' later' with
  | nil =>
    cases h.tasks with
    | none hnone hnone' => exact h.idle' (idles_replay hplain' hnone' hanswers)
    | one hone =>
      rw [Bench.replay, List.foldl_nil, hone] at hend
      cases hend
  | cons i later ih =>
    obtain ⟨now, i⟩ := i
    obtain ⟨hi, hrest⟩ := List.forall_mem_cons.mp hplain
    by_cases hmatters : b.Matters i
    · obtain ⟨c, now', rest, hresumes, hstep, hsame⟩ :=
        h.catch_up hlab hmatters hplain' hanswers hend'
      rw [hresumes.replay] at hend' ⊢
      exact ih hstep hrest hresumes.plain hsame hend hend'
    · have hidles : b.Idles (b.happen lab now i) := h.tasks.idles_happen now hi hmatters
      rw [accepted, if_neg fun haccepts => hmatters (Or.inl haccepts)] at hanswers
      exact ih (h.idle hidles) hrest hplain' hanswers hend hend'

end Labs

/-- Latencies make no difference: a run of a flow to which nobody listens, and which is given the
same answers, says the same, goes the same way and ends alike, however long its steps take. All
that may differ is what tells of the time. -/
theorem latencies_make_no_difference {settings settings' : Settings}
    (hpace : settings.simulation.DifferInPace settings'.simulation) (palette : Palette)
    (effects : List (NodeKind × Effect)) (dice : Dice) (room : Room) (h : b.IsVacant)
    (h' : b'.IsVacant) (hdice : b'.session.dice = b.session.dice) (f : Flow) (channel : Channel)
    (now now' : Moment) {later later' : List (Moment × Happening)}
    (hplain : ∀ h ∈ later, h.2.IsPlain) (hplain' : ∀ h ∈ later', h.2.IsPlain) :
    let lab := (Studio.fresh settings palette effects dice room).lab
    let lab' := (Studio.fresh settings' palette effects dice room).lab
    let c := b.happen lab now (.start f channel)
    let c' := b'.happen lab' now' (.start f channel)
    c'.accepted lab' later' = c.accepted lab later →
    (c.replay lab later).sleepers = [] → (c'.replay lab' later').sleepers = [] →
    (c.replay lab later).session.run.InStep (c'.replay lab' later').session.run := by
  intro lab lab' c c' hanswers hend hend'
  have hlab : lab.DifferInPace lab' := Studio.differInPace hpace palette effects dice room
  have hstart : c.InStep c' :=
    inStep_start hlab h h' hdice f channel now now'
  exact (hstart.replay hlab hplain hplain' hanswers hend hend').session.run

/-- The usual settings, but that nothing takes any time. -/
def hastySettings : Settings := { simulation := { latencyScale := 0.0 } }

theorem hastySettings_differInPace :
    ({} : Settings).simulation.DifferInPace hastySettings.simulation where
  apiFailureRate := rfl
  maxSteps := rfl
  pauses l := by
    cases l <;> exact .spans _ _

/-- A call on which the question is answered, once at the usual pace and once without latencies. The
second run is also sent keys that it does not wait for, and it is hung up after another time. -/
theorem a_hasty_call_says_the_same :
    let later : List (Moment × Happening) :=
      [(newYear, .wake 0), (newYear, .wake 0), (newYear, .wake 0), (newYear, .say (.str "Yes")),
        (newYear, .wake 0), (newYear, .wake 0), (newYear, .wake 0)]
    let minuteLater : Moment := ⟨65000000, by decide⟩
    let later' : List (Moment × Happening) :=
      [(newYear, .wake 0), (newYear, .press "1"), (newYear, .wake 0), (newYear, .wake 0),
        (minuteLater, .say (.str "Yes")), (minuteLater, .wake 0), (minuteLater, .wake 0),
        (minuteLater, .wake 0)]
    let lab := (Studio.fresh {} .standard [] {} ⟨1000, by decide⟩).lab
    let lab' := (Studio.fresh hastySettings .standard [] {} ⟨1000, by decide⟩).lab
    let c := (fresh {}).happen lab newYear (.start askingFlow .voice)
    let c' := (fresh {}).happen lab' newYear (.start askingFlow .voice)
    ({} : Settings).simulation.DifferInPace hastySettings.simulation ∧
      (∀ h ∈ later, h.2.IsPlain) ∧ (∀ h ∈ later', h.2.IsPlain) ∧
      c'.accepted lab' later' = c.accepted lab later ∧
      (c.replay lab later).sleepers = [] ∧ (c'.replay lab' later').sleepers = [] ∧
      (c.replay lab later).session.run.state = .ended ∧
      (c.replay lab later).session.run.InStep (c'.replay lab' later').session.run := by
  intro later minuteLater later' lab lab' c c'
  have hplain : ∀ h ∈ later, h.2.IsPlain := by simp [later, Happening.IsPlain]
  have hplain' : ∀ h ∈ later', h.2.IsPlain := by simp [later', Happening.IsPlain]
  have hanswers : c.accepted lab later = [.say (.str "Yes")] := by
    subst c lab later
    rfl
  have hanswers' : c'.accepted lab' later' = [.say (.str "Yes")] := by
    subst c' lab' later'
    rfl
  have hend : (c.replay lab later).sleepers = [] :=
    List.eq_nil_of_length_eq_zero (by decide +kernel)
  have hend' : (c'.replay lab' later').sleepers = [] :=
    List.eq_nil_of_length_eq_zero (by decide +kernel)
  have hsame := hanswers'.trans hanswers.symm
  exact ⟨hastySettings_differInPace, hplain, hplain', hsame, hend, hend', by decide +kernel,
    latencies_make_no_difference hastySettings_differInPace .standard [] {} ⟨1000, by decide⟩
      ⟨rfl, rfl⟩ ⟨rfl, rfl⟩ rfl askingFlow .voice newYear newYear hplain hplain' hsame hend hend'⟩

end Bench

end Dialogue
