-- Histories of a test bench. Whatever is done from outside, and whichever task wakes next, happens
-- at a moment of the calendar, and the listeners that come are passive.
import Dialogue.Run.Bench
import Dialogue.Proofs.Run.Moves
import Mathlib.Data.List.Perm.Basic
import Mathlib.Data.List.TakeWhile

namespace Dialogue

/-! ## Happenings -/

/-- A moment that the calendar has. -/
abbrev Moment := { now : Int // Clock.isDated now = true }

inductive Happening where
  | start (f : Flow) (channel : Channel)
  | say (said : Json)
  | press (digits : String)
  | endCall
  | reset
  | subscribe (l : { l : Listener // l.IsPassive })
  | unsubscribe (name : String)
  /-- Any sleeper may be the next to wake. -/
  | wake (place : Nat)

namespace Bench

/-- Wakes the sleeper at a place, if there is one. -/
def wake (lab : Lab) (b : Bench) (place : Nat) : Bench :=
  match b.sleepers[place]? with
  | none => b
  | some x =>
    { b with sleepers := b.sleepers.eraseIdx place }.file x.task x.errand x.generation
      (b.session.tryResume lab x.generation x.stage)

def atMoment (b : Bench) (now : Moment) : Bench := b.onSession fun s => { s with now := now.1 }

/-- A task that walks is left asleep at its first pause. -/
def happen (lab : Lab) (b : Bench) (now : Moment) (h : Happening) : Bench :=
  let b := b.atMoment now
  match h with
  | .start f channel => b.start lab f channel false
  | .say said => b.submitText lab said false
  | .press digits => b.submitKeys lab digits false
  | .endCall => b.onSession fun s => s.tryEndCall.1
  | .reset => b.onSession .reset
  | .subscribe l => b.onSession fun s => s.subscribe l
  | .unsubscribe name => b.onSession fun s => s.dismiss name
  | .wake place => b.wake lab place

/-- What has become of a bench in the course of a history. -/
def replay (lab : Lab) (b : Bench) (history : List (Moment × Happening)) : Bench :=
  history.foldl (fun b h => b.happen lab h.1 h.2) b

/-- A bench on which nothing has been tried yet. -/
def fresh (dice : Dice) : Bench := { session := { dice } }

/-- The sleepers whose tasks may go on. -/
def current (b : Bench) : List Sleeper := b.sleepers.filter (·.generation == b.session.generation)

/-- Where the bench itself wakes its first sleeper, that is one of the happenings. -/
theorem wakeFirst_eq_happen (lab : Lab) (b : Bench) {x : Sleeper} {rest : List Sleeper}
    (h : b.sleepers = x :: rest) (hdated : Clock.isDated (max b.session.now x.due) = true) :
    b.wakeFirst lab = b.happen lab ⟨max b.session.now x.due, hdated⟩ (.wake 0) := by
  unfold wakeFirst happen wake atMoment onSession
  simp only [h, List.getElem?_cons_zero, List.eraseIdx_cons_zero]

/-! ## Filing a stretch -/

theorem lieDown_perm (x : Sleeper) (ys : List Sleeper) : (lieDown x ys).Perm (x :: ys) := by
  induction ys with
  | nil => exact .refl _
  | cons y rest ih =>
    unfold lieDown
    split
    · exact (ih.cons y).trans (.swap x y rest)
    · exact .refl _

variable (b : Bench) (task : Nat) (errand : Errand) (generation : Nat) (r : Stretch)

@[simp]
theorem file_session : (b.file task errand generation r).session = r.1 := by
  unfold file
  dsimp only
  split <;> rfl

/-- The new sleeper is as old as its task and sleeps where the stretch stopped, and the others are
those from before. -/
theorem mem_file_sleepers {x : Sleeper} (hx : x ∈ (b.file task errand generation r).sleepers) :
    x ∈ b.sleepers ∨ x.generation = generation ∧ ∃ span, r.2 = .asleep span x.stage := by
  unfold file at hx
  dsimp only at hx
  split at hx
  · rename_i span stage hhalt
    rcases List.mem_cons.mp ((lieDown_perm _ _).subset hx) with rfl | hx
    · exact Or.inr ⟨rfl, span, hhalt⟩
    · exact Or.inl hx
  · exact Or.inl hx
  · exact Or.inl hx

end Bench

/-! ## On the calendar -/

namespace Session

variable {s : Session}

theorem not_late (h : Clock.isDated s.now = true) : s.isLate = false := by
  unfold isLate
  rw [h]
  rfl

theorem tryResume_eq (h : Clock.isDated s.now = true) (lab : Lab) (generation : Nat)
    (stage : Stage) : s.tryResume lab generation stage = s.resume lab generation stage := by
  unfold tryResume
  rw [not_late h, if_neg Bool.false_ne_true]

theorem tryStart_eq (h : Clock.isDated s.now = true) (lab : Lab) (f : Flow) (channel : Channel) :
    s.tryStart lab f channel =
      if lab.room.steps < f.copyDepth + 1 then (s.reset, .failed .tooDeep)
      else s.start lab f channel := by
  unfold tryStart
  rw [not_late h, if_neg Bool.false_ne_true]

theorem tryAnswer_eq (h : Clock.isDated s.now = true) (r : Option Stretch) :
    s.tryAnswer r = r := by
  unfold tryAnswer
  rw [not_late h, if_neg Bool.false_ne_true]

theorem tryEndCall_eq (h : Clock.isDated s.now = true) : s.tryEndCall.1 = s.endCall.1 := by
  unfold tryEndCall
  rw [not_late h, if_neg Bool.false_ne_true]

end Session

/-! ## Answers -/

theorem Text.strip_ne_empty {s : String} (h : isBlankText s = false) : strip s ≠ "" := by
  intro hempty
  have htrim : trimBy isBlank s.toList = [] := by
    have hlist := congrArg String.toList hempty
    simpa [strip] using hlist
  unfold trimBy at htrim
  rw [List.reverse_eq_nil_iff, List.dropWhile_eq_nil_iff] at htrim
  have hrest : s.toList.dropWhile isBlank = [] := by
    by_contra hne
    have hhead := List.head_dropWhile_not isBlank hne
    have hblank := htrim _ (List.mem_reverse.mpr (List.head_mem hne))
    rw [hblank] at hhead
    cases hhead
  have hall : isBlankText s = true := List.all_eq_true.mpr (List.dropWhile_eq_nil_iff.mp hrest)
  rw [hall] at h
  cases h

namespace Run

/-- Whether keys answer the node that waits. -/
def takesKeys (r : Run) (digits : String) : Bool :=
  r.waiting.isSome && r.state == .waitingForKeys && digits != ""

/-- Whether a text answers the node that waits. Blank text never does. -/
def takesText (r : Run) (text : String) : Bool :=
  r.waiting.isSome && (r.state == .waitingForText || r.state == .waitingForKeys)
    && !Text.isBlankText text

end Run

namespace Session

variable (lab : Lab) (s : Session)

theorem isSome_submitKeys (digits : String) :
    (s.submitKeys lab digits).isSome = s.run.takesKeys digits := by
  unfold submitKeys Run.takesKeys
  by_cases hempty : digits = ""
  · simp [hempty]
  · by_cases hstate : s.run.state = .waitingForKeys
    · simp [hempty, hstate]
    · simp [hstate]

theorem isSome_submitText (text : String) :
    (s.submitText lab text).isSome = s.run.takesText text := by
  unfold submitText Run.takesText
  cases hblank : Text.isBlankText text with
  | true => simp
  | false =>
    by_cases hkeys : s.run.state = .waitingForKeys
    · simp [hkeys, isSome_submitKeys, Run.takesKeys, Text.strip_ne_empty hblank]
    · by_cases htext : s.run.state = .waitingForText
      · simp [htext]
      · simp [hkeys, htext]

end Session

/-! ## What a happening is to the run -/

inductive Bearing where
  | nothing
  /-- It answers the node that waits. -/
  | answer (text : String)
  /-- It wakes a task that may go on. -/
  | step

namespace Bench

def bearing (b : Bench) : Happening → Bearing
  | .say (.str text) => if b.session.run.takesText text then .answer text else .nothing
  | .press digits => if b.session.run.takesKeys digits then .answer digits else .nothing
  | .wake place =>
    if b.sleepers[place]?.any (·.generation == b.session.generation) then .step else .nothing
  | _ => .nothing

/-- What can become of a bench while no run is started, hung up or discarded. Where a task walks,
its stretch is filed under the generation of the session after it. -/
inductive Strides (lab : Lab) (b : Bench) : Bearing → Bench → Prop
  | rests {b' : Bench} (hquiet : Session.Quiet b.session b'.session)
      (hsleepers : b'.sleepers = b.sleepers) : Strides lab b .nothing b'
  | drops {b' : Bench} {place : Nat} {x : Sleeper} (hx : b.sleepers[place]? = some x)
      (hstale : x.generation ≠ b.session.generation)
      (hquiet : Session.Quiet b.session b'.session)
      (hsleepers : b'.sleepers = b.sleepers.eraseIdx place) : Strides lab b .nothing b'
  | answers {n : Node} {text : String} {stage : Stage} {r : Stretch}
      (hanswers : Session.Answers lab b.session n stage r)
      (hat : stage.IsAnswerAt n text b.session.run.state) (tasks task : Nat) :
      Strides lab b (.answer text) ({ b with tasks }.file task .answer r.1.generation r)
  | goesOn {place : Nat} {x : Sleeper} {r : Stretch} (hx : b.sleepers[place]? = some x)
      (hcurrent : x.generation = b.session.generation)
      (hmoves : Session.Moves lab b.session x.stage r) :
      Strides lab b .step ({ b with sleepers := b.sleepers.eraseIdx place }.file x.task x.errand
        r.1.generation r)

/-- What can become of a bench at all. -/
inductive Turns (lab : Lab) (b : Bench) : Bench → Prop
  | strides {bearing : Bearing} {b' : Bench} (h : Strides lab b bearing b') : Turns lab b b'
  | clears {b' : Bench} (hsession : b'.session = b.session.reset)
      (hsleepers : b'.sleepers = b.sleepers) : Turns lab b b'
  | hangsUp {b' : Bench} (hcan : b.session.canHangUp = true)
      (hcalm : Session.Calm { b.session with generation := b.session.generation + 1 } b'.session)
      (hstance : b'.session.run.stance =
        { b.session.run.stance.finished .success with waiting := none })
      (hsleepers : b'.sleepers = b.sleepers) : Turns lab b b'
  | begins {f : Flow} {channel : Channel} {r : Stretch}
      (hstarts : Session.Starts lab b.session f channel r) (tasks task : Nat) :
      Turns lab b ({ b with tasks }.file task .start r.1.generation r)

end Bench

theorem Session.Moves.calm {lab : Lab} {s : Session} {stage : Stage} {r : Stretch}
    (h : Moves lab s stage r) : Calm s r.1 := by
  cases h with
  | arrives hleaves hn hmore hcalm => exact hcalm
  | cut hleaves hn hmost hcalm => exact hcalm
  | ends hleaves hnone hcalm => exact hcalm
  | closes hcloses hcalm => exact hcalm
  | stays hstage hlater hquiet => exact hquiet.toCalm
  | waits hstage hkind hcalm => exact hcalm
  | breaks hwhy hquiet => exact hquiet.toCalm
  | idles hidle hquiet => exact hquiet.toCalm

theorem Session.Starts.calm {lab : Lab} {s : Session} {f : Flow} {channel : Channel} {r : Stretch}
    (h : Starts lab s f channel r) : Calm (s.atOutset f channel) r.1 := by
  cases h with
  | lost hnone hcalm => exact hcalm
  | calls hstart hquiet => exact hquiet.toCalm
  | goes hstart hmoves => exact hmoves.calm

namespace Bench

variable {lab : Lab} {b : Bench}

theorem strides_wake (h : b.session.IsPassive) (hdated : Clock.isDated b.session.now = true)
    (place : Nat) : Strides lab b (b.bearing (.wake place)) (b.wake lab place) := by
  dsimp only [bearing, wake]
  cases hx : b.sleepers[place]? with
  | none => exact .rests (.refl h) rfl
  | some x =>
    dsimp only [Option.any_some]
    rw [Session.tryResume_eq hdated]
    by_cases hcurrent : x.generation = b.session.generation
    · rw [if_pos (by simpa using hcurrent)]
      have hmoves : Session.Moves lab b.session x.stage _ :=
        Session.moves_resume h hcurrent.symm x.stage
      have hstride := Strides.goesOn hx hcurrent hmoves
      rw [hmoves.calm.generation, ← hcurrent] at hstride
      exact hstride
    · rw [if_neg (by simpa using hcurrent), Session.resume_stale lab (Ne.symm hcurrent)]
      refine .drops hx hcurrent ?_ ?_
      · rw [file_session]
        exact Session.quiet_dice h _
      · cases x.stage.fault? lab b.session.dice <;> rfl

theorem strides_submit (h : b.session.IsPassive) (hdated : Clock.isDated b.session.now = true)
    {r : Option Stretch} {text : String} {takes : Bool} (htakes : r.isSome = takes)
    (hr : ∀ r', r = some r' → ∃ n stage, Session.Answers lab b.session n stage r' ∧
      stage.IsAnswerAt n text b.session.run.state) :
    Strides lab b (if takes then .answer text else .nothing) (b.submit lab false r) := by
  subst htakes
  unfold submit
  rw [Session.tryAnswer_eq hdated]
  cases r with
  | none => exact .rests (.refl h) rfl
  | some r =>
    obtain ⟨n, stage, hanswers, hstage⟩ := hr r rfl
    have hstride : Strides lab b (.answer text) _ :=
      .answers hanswers hstage (b.tasks + 1) (b.tasks + 1)
    rw [hanswers.quiet.generation] at hstride
    exact hstride

theorem strides_submitKeys (h : b.session.IsPassive) (hdated : Clock.isDated b.session.now = true)
    (digits : String) :
    Strides lab b (b.bearing (.press digits)) (b.submitKeys lab digits false) := by
  refine strides_submit h hdated (Session.isSome_submitKeys lab b.session digits) fun r hr => ?_
  obtain ⟨hstate, n, hanswers⟩ := Session.submitKeys_spec h hr
  rw [hstate]
  exact ⟨n, _, hanswers, .keyed digits⟩

theorem strides_submitText (h : b.session.IsPassive) (hdated : Clock.isDated b.session.now = true)
    (said : Json) : Strides lab b (b.bearing (.say said)) (b.submitText lab said false) := by
  cases said with
  | str text =>
    refine strides_submit h hdated (Session.isSome_submitText lab b.session text) fun r hr => ?_
    rcases Session.submitText_spec h hr with ⟨hstate, n, hanswers⟩ | ⟨hstate, n, hanswers⟩
    · rw [hstate]
      exact ⟨n, _, hanswers, .weighing⟩
    · rw [hstate]
      exact ⟨n, _, hanswers, .keyed _⟩
  | _ => exact .rests (.refl h) rfl

variable (lab) in
/-- A run of a flow for which there is no room only discards the run before. -/
theorem start_spec (h : b.session.IsPassive) (hdated : Clock.isDated b.session.now = true)
    (f : Flow) (channel : Channel) :
    (lab.room.steps ≤ f.copyDepth ∧ (b.start lab f channel false).session = b.session.reset ∧
        (b.start lab f channel false).sleepers = b.sleepers) ∨
      f.copyDepth < lab.room.steps ∧ ∃ r, Session.Starts lab b.session f channel r ∧
        b.start lab f channel false =
          { b with tasks := b.tasks + 1 }.file (b.tasks + 1) .start r.1.generation r := by
  unfold start begin
  rw [Session.tryStart_eq hdated]
  dsimp only
  rw [if_neg Bool.false_ne_true]
  split
  · rename_i hdeep
    exact Or.inl ⟨Nat.le_of_lt_succ hdeep, rfl, rfl⟩
  · rename_i hroom
    have hstarts : Session.Starts lab b.session f channel _ := Session.starts_start h f channel
    refine Or.inr ⟨by omega, _, hstarts, ?_⟩
    rw [hstarts.calm.generation]
    rfl

theorem turns_start (h : b.session.IsPassive) (hdated : Clock.isDated b.session.now = true)
    (f : Flow) (channel : Channel) : Turns lab b (b.start lab f channel false) := by
  rcases start_spec lab h hdated f channel with ⟨-, hsession, hsleepers⟩ | ⟨-, r, hr, hstart⟩
  · exact .clears hsession hsleepers
  · rw [hstart]
    exact .begins hr _ _

theorem turns_endCall (h : b.session.IsPassive) (hdated : Clock.isDated b.session.now = true) :
    Turns lab b (b.onSession fun s => s.tryEndCall.1) := by
  unfold onSession
  dsimp only
  rw [Session.tryEndCall_eq hdated]
  rcases Session.endCall_spec h with ⟨-, hsame⟩ | ⟨hcan, -, hcalm, hstance⟩
  · rw [hsame]
    exact .strides (.rests (.refl h) rfl)
  · exact .hangsUp hcan hcalm hstance rfl

theorem passive_subscribe {s : Session} (h : s.IsPassive) {l : Listener} (hl : l.IsPassive) :
    (s.subscribe l).IsPassive := by
  refine List.forall_mem_append.mpr ⟨?_, by simpa using hl⟩
  intro o ho
  obtain ⟨o', ho', rfl⟩ := List.mem_map.mp ho
  split
  · exact h o' ho'
  · exact h o' ho'

end Bench

/-- Whether a happening starts, hangs up or discards no run. -/
def Happening.IsWithin : Happening → Prop
  | start _ _ | endCall | reset => False
  | _ => True

namespace Bench

variable {lab : Lab} {b : Bench}

/-- What happens within a run is one of the strides. -/
theorem strides_happen (h : b.session.IsPassive) (now : Moment) {happening : Happening}
    (hwithin : happening.IsWithin) :
    Strides lab (b.atMoment now) (b.bearing happening) (b.happen lab now happening) := by
  have h : (b.atMoment now).session.IsPassive := h
  have hdated : Clock.isDated (b.atMoment now).session.now = true := now.2
  cases happening with
  | start f channel => exact hwithin.elim
  | endCall => exact hwithin.elim
  | reset => exact hwithin.elim
  | say said => exact strides_submitText h hdated said
  | press digits => exact strides_submitKeys h hdated digits
  | subscribe l =>
    exact .rests ⟨⟨passive_subscribe h l.2, rfl, rfl⟩, rfl⟩ rfl
  | unsubscribe name =>
    have hheard := Session.heard_dismiss (b.atMoment now).session name
    exact .rests ⟨⟨fun l hl => h l (hheard.listeners l hl), rfl, rfl⟩, rfl⟩ rfl
  | wake place => exact strides_wake h hdated place

/-- Whatever happens is one of the turns. -/
theorem turns_happen (h : b.session.IsPassive) (now : Moment) (happening : Happening) :
    Turns lab (b.atMoment now) (b.happen lab now happening) := by
  have hpassive : (b.atMoment now).session.IsPassive := h
  have hdated : Clock.isDated (b.atMoment now).session.now = true := now.2
  cases happening with
  | start f channel => exact turns_start hpassive hdated f channel
  | endCall => exact turns_endCall hpassive hdated
  | reset => exact .clears rfl rfl
  | _ => exact .strides (strides_happen h now trivial)

/-! ## Generations -/

/-- The listeners are passive, and no sleeper is younger than the session. -/
structure IsAged (b : Bench) : Prop where
  passive : b.session.IsPassive
  old : ∀ x ∈ b.sleepers, x.generation ≤ b.session.generation

theorem isAged_fresh (dice : Dice) : (fresh dice).IsAged :=
  ⟨fun _ hl => absurd hl List.not_mem_nil, fun _ hx => absurd hx List.not_mem_nil⟩

theorem isAged_file {b : Bench} {task : Nat} {errand : Errand} {r : Stretch}
    (hpassive : r.1.IsPassive) (hold : ∀ x ∈ b.sleepers, x.generation ≤ r.1.generation) :
    (b.file task errand r.1.generation r).IsAged := by
  refine ⟨by rwa [file_session], fun x hx => ?_⟩
  rw [file_session]
  rcases mem_file_sleepers b task errand r.1.generation r hx with hx | ⟨hx, -⟩
  · exact hold x hx
  · exact Nat.le_of_eq hx

theorem Strides.ages {lab : Lab} {b b' : Bench} {bearing : Bearing}
    (h : Strides lab b bearing b') (haged : b.IsAged) :
    b'.IsAged ∧ b.session.generation ≤ b'.session.generation := by
  obtain ⟨hpassive, hold⟩ := haged
  cases h with
  | rests hquiet hsleepers =>
    have hrise := Nat.le_of_eq hquiet.generation.symm
    exact ⟨⟨hquiet.passive, fun x hx => Nat.le_trans (hold x (hsleepers ▸ hx)) hrise⟩, hrise⟩
  | drops hx hstale hquiet hsleepers =>
    have hrise := Nat.le_of_eq hquiet.generation.symm
    refine ⟨⟨hquiet.passive, fun x hx => ?_⟩, hrise⟩
    rw [hsleepers] at hx
    exact Nat.le_trans (hold x (List.mem_of_mem_eraseIdx hx)) hrise
  | answers hanswers hat tasks task =>
    have hrise := Nat.le_of_eq hanswers.quiet.generation.symm
    rw [file_session]
    exact ⟨isAged_file hanswers.quiet.passive fun x hx => Nat.le_trans (hold x hx) hrise, hrise⟩
  | goesOn hx hcurrent hmoves =>
    have hrise := Nat.le_of_eq hmoves.calm.generation.symm
    rw [file_session]
    exact ⟨isAged_file hmoves.calm.passive fun x hx =>
      Nat.le_trans (hold x (List.mem_of_mem_eraseIdx hx)) hrise, hrise⟩

/-- The generation never falls, and no task is younger than the session. -/
theorem Turns.ages {lab : Lab} {b b' : Bench} (h : Turns lab b b') (haged : b.IsAged) :
    b'.IsAged ∧ b.session.generation ≤ b'.session.generation := by
  cases h with
  | strides h => exact h.ages haged
  | clears hsession hsleepers =>
    have hrise : b.session.generation ≤ b'.session.generation := by
      rw [hsession]
      exact Nat.le_succ _
    refine ⟨⟨?_, fun x hx => Nat.le_trans (haged.old x (hsleepers ▸ hx)) hrise⟩, hrise⟩
    rw [hsession]
    exact haged.passive
  | hangsUp hcan hcalm hstance hsleepers =>
    have hrise : b.session.generation ≤ b'.session.generation := by
      rw [hcalm.generation]
      exact Nat.le_succ _
    exact ⟨⟨hcalm.passive, fun x hx => Nat.le_trans (haged.old x (hsleepers ▸ hx)) hrise⟩, hrise⟩
  | begins hstarts tasks task =>
    have hrise := Nat.le_trans (Nat.le_succ _) (Nat.le_of_eq hstarts.calm.generation.symm)
    rw [file_session]
    exact ⟨isAged_file hstarts.calm.passive fun x hx => Nat.le_trans (haged.old x hx) hrise, hrise⟩

theorem happen_ages (lab : Lab) {b : Bench} (haged : b.IsAged) (now : Moment) (h : Happening) :
    (b.happen lab now h).IsAged ∧
      b.session.generation ≤ (b.happen lab now h).session.generation :=
  (turns_happen haged.passive now h).ages ⟨haged.passive, haged.old⟩

theorem replay_ages (lab : Lab) {b : Bench} (haged : b.IsAged)
    (history : List (Moment × Happening)) :
    (b.replay lab history).IsAged ∧
      b.session.generation ≤ (b.replay lab history).session.generation := by
  induction history generalizing b with
  | nil => exact ⟨haged, Nat.le_refl _⟩
  | cons h rest ih =>
    obtain ⟨hstep, hrise⟩ := happen_ages lab haged h.1 h.2
    obtain ⟨hrest, hrises⟩ := ih hstep
    exact ⟨hrest, Nat.le_trans hrise hrises⟩

end Bench

/-! ## A trial

A start node, a question, and an end node for those who say yes. -/

def askingFlow : Flow where
  id := .str "asking"
  name := .str "Asking"
  description := .str ""
  category := .str ""
  status := .draft
  label := .str firstLabel
  nodes :=
    [⟨.str "start", .start {}, [], [.str "ask"]⟩,
      ⟨.str "ask", .condition { value := "yes" }, [], [.str "end"]⟩,
      ⟨.str "end", .finish {}, [], []⟩]
  edges :=
    [⟨.str "first", .str "start", .str "ask", .null⟩,
      ⟨.str "second", .str "ask", .str "end", .str "Yes"⟩]
  createdAt := 0
  updatedAt := 0

/-- Runs with the usual settings and the simulated effects. -/
def usualLab : Lab where
  settings := {}
  palette := .standard
  effects := .simulated {} .standard
  room := ⟨1000, by decide⟩

theorem usualLab_returns : usualLab.EffectsReturn := by
  refine Lab.simulated_return rfl fun seconds h => ?_
  simp only [List.mem_cons, List.not_mem_nil, or_false] at h
  rcases h with rfl | rfl | rfl | rfl | rfl | rfl | rfl <;> exact ⟨_, rfl⟩

theorem usualLab_pauses : usualLab.PausesReturn :=
  ⟨⟨_, rfl⟩, ⟨_, rfl⟩, ⟨_, rfl⟩, ⟨_, rfl⟩, ⟨_, rfl⟩⟩

/-- The first moment of the year 2024. -/
def newYear : Moment := ⟨0, by decide⟩

end Dialogue
