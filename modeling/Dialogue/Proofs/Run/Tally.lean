-- The totals of a run beside its log. Whatever happens in the course of a history, the errors that
-- were counted are those that were told, and the visits are the nodes that were dispatched.
import Dialogue.Proofs.Run.Treads

namespace Dialogue

/-! ## Totals -/

/-- How many errors the log of a run tells. -/
def Run.errorsTold (r : Run) : Nat := r.events.toList.countP (·.notice.speaker == .error)

/-- The totals of a run agree with one another and with its log. -/
structure Run.Tallies (lab : Lab) (r : Run) : Prop where
  errors : r.stats.errors = r.errorsTold
  result : r.result = some .error → 0 < r.stats.errors
  ended : r.state = .ended ↔ r.stats.endedAt.isSome = true
  visited : r.stats.visited = r.steps
  most : r.steps ≤ lab.settings.maxSteps
  calls : r.calls ≤ r.stats.visited

namespace Run

variable {lab : Lab} {r r' : Run}

theorem errorsTold_told (r : Run) (e : Event) :
    (r.told e).errorsTold = r.errorsTold + if e.notice.speaker == .error then 1 else 0 := by
  unfold errorsTold told
  dsimp only
  rw [Log.toList_push, List.countP_append, List.countP_singleton]

theorem errorsTold_hungUp (r : Run) (id : String) (now : Int) :
    (r.hungUp id now).errorsTold = r.errorsTold :=
  errorsTold_told { r with callLength := r.callSpan now, onCall := false } _

theorem tallies_blank (lab : Lab) : Tallies lab {} where
  errors := rfl
  result h := by cases h
  ended := by simp
  visited := rfl
  most := Nat.zero_le _
  calls := Nat.le_refl _

theorem tallies_begun (f : Flow) (channel : Channel) (now : Int) :
    (Session.begun f channel now).Tallies lab where
  errors := rfl
  result h := by cases h
  ended := by simp [Session.begun]
  visited := rfl
  most := Nat.zero_le _
  calls := Nat.le_refl _

/-- Something that is no error is told. -/
theorem Tallies.told (h : r.Tallies lab) {e : Event} (he : e.notice.speaker ≠ .error) :
    (r.told e).Tallies lab := by
  refine ⟨?_, h.result, h.ended, h.visited, h.most, h.calls⟩
  rw [errorsTold_told, if_neg (by simpa using he)]
  exact h.errors

/-- An error is counted, and told at once. -/
theorem Tallies.failed (h : r.Tallies lab) {e : Event} (he : e.notice.speaker = .error) :
    (r.countError.told e).Tallies lab := by
  refine ⟨?_, fun _ => Nat.succ_pos _, h.ended, h.visited, h.most, h.calls⟩
  rw [errorsTold_told, if_pos (by simpa using he)]
  exact congrArg (· + 1) h.errors

/-- A run may end in error only after one was counted. -/
theorem Tallies.finished (h : r.Tallies lab) (now : Int) {result : RunResult}
    (hresult : result = .error → 0 < r.stats.errors) : (r.finished now result).Tallies lab where
  errors := h.errors
  result hr := hresult (Option.some.inj hr)
  ended := by simp [Run.finished]
  visited := h.visited
  most := h.most
  calls := h.calls

theorem Tallies.hungUp (h : r.Tallies lab) (id : String) (now : Int) :
    (r.hungUp id now).Tallies lab :=
  ⟨h.errors.trans (errorsTold_hungUp r id now).symm, h.result, h.ended, h.visited, h.most, h.calls⟩

theorem Tallies.hungUpIfOn (h : r.Tallies lab) (id : String) (now : Int) :
    (r.hungUpIfOn id now).Tallies lab := by
  unfold Run.hungUpIfOn
  split
  · exact h.hungUp id now
  · exact h

theorem errors_hungUpIfOn (r : Run) (id : String) (now : Int) :
    (r.hungUpIfOn id now).stats.errors = r.stats.errors := by
  unfold Run.hungUpIfOn
  split <;> rfl

theorem ne_ended_of_isOver (h : r.isOver = false) : r.state ≠ .ended := by
  intro hended
  rw [isOver, hended] at h
  cases h

/-- Every deed keeps the totals in agreement. -/
theorem Deed.tallies (hdeed : Deed lab r r') (h : r.Tallies lab) : r'.Tallies lab := by
  cases hdeed with
  | tells hgoing he => exact h.told he.speaker
  | fails hgoing he => exact h.failed he
  | arrives hgoing n hmore he =>
    have hcame : (Session.countVisit n r).Tallies lab := by
      refine ⟨h.errors, h.result, h.ended, congrArg (· + 1) h.visited, hmore, ?_⟩
      exact Nat.le_succ_of_le h.calls
    exact hcame.told (by simp [he])
  | counts hgoing hroom => exact ⟨h.errors, h.result, h.ended, h.visited, h.most, hroom⟩
  | turns hgoing waiting hstate =>
    refine ⟨h.errors, h.result, ?_, h.visited, h.most, h.calls⟩
    have hopen := ne_ended_of_isOver hgoing.state
    exact ⟨fun hended => absurd hended hstate.2, fun hsome => absurd (h.ended.mpr hsome) hopen⟩
  | ends hgoing id now hresult =>
    refine (h.hungUpIfOn id now).finished now fun herror => ?_
    rw [errors_hungUpIfOn]
    exact hresult herror
  | hangsUp hphase hvoice id now =>
    have hidle : Tallies lab { r with waiting := none } :=
      ⟨h.errors, h.result, h.ended, h.visited, h.most, h.calls⟩
    exact (hidle.hungUp id now).finished now (by simp)
  | clears => exact tallies_blank lab
  | loses hnone channel id now =>
    exact ((tallies_begun _ channel now).failed rfl).finished now fun _ => Nat.succ_pos _
  | dials hstart id now => exact (tallies_begun _ .voice now).told (by simp [Session.callStarted])
  | opens hstart id now => exact (tallies_begun _ .chat now).told (by simp [Session.sessionStarted])
  | connects hdialing id now =>
    have hsaid := h.told (e := ⟨id, now, Session.callConnected⟩) (by simp [Session.callConnected])
    exact ⟨hsaid.errors, hsaid.result, hsaid.ended, hsaid.visited, hsaid.most, hsaid.calls⟩

/-- A run has passed exactly if it is over and its log tells of no error. -/
theorem Tallies.passed_iff (h : r.Tallies lab) :
    r.stats.outcome? = some "passed" ↔
      r.state = .ended ∧ ∀ e ∈ r.events.toList, e.notice.speaker ≠ .error := by
  have hnone : r.stats.errors = 0 ↔ ∀ e ∈ r.events.toList, e.notice.speaker ≠ .error := by
    rw [h.errors, errorsTold, List.countP_eq_zero]
    simp
  rw [h.ended, ← hnone]
  unfold Stats.outcome?
  cases r.stats.endedAt with
  | none => simp
  | some time => by_cases hzero : r.stats.errors = 0 <;> simp [hzero]

end Run

/-! ## Dispatches -/

/-- Whether the run is given up, or another one takes its place. -/
def Happening.discards : Happening → Bool
  | start _ _ | reset => true
  | _ => false

/-- How many nodes a stretch has dispatched. A node has been dispatched where its announcement is
followed by a pause, and there the stretch stops. -/
def Stretch.dispatches (r : Stretch) : Nat :=
  match r.2 with
  | .asleep _ (.announced _) => 1
  | _ => 0

namespace Bench

/-- The stretch that a happening has a task walk, if it has one walk. -/
def walk (lab : Lab) (b : Bench) (now : Moment) (h : Happening) : Option Stretch :=
  let b := b.atMoment now
  match h with
  | .start f channel => some (b.session.tryStart lab f channel)
  | .say (.str text) => b.session.tryAnswer (b.session.submitText lab text)
  | .press digits => b.session.tryAnswer (b.session.submitKeys lab digits)
  | .wake place =>
    b.sleepers[place]?.map fun x => b.session.tryResume lab x.generation x.stage
  | _ => none

/-- How many nodes of the current run have been dispatched in the course of a history, after so many
before it. -/
def dispatched (lab : Lab) (b : Bench) (before : Nat) : List (Moment × Happening) → Nat
  | [] => before
  | h :: rest =>
    dispatched lab (b.happen lab h.1 h.2)
      ((if h.2.discards then 0 else before) + ((b.walk lab h.1 h.2).elim 0 Stretch.dispatches)) rest

end Bench

namespace Session

variable {lab : Lab} {s : Session} {stage : Stage} {r : Stretch}

theorem dispatches_of_rests {t : Session} {halt : Halt} (hpauses : lab.PausesReturn)
    (h : halt.RestsUntil lab stage) :
    Stretch.dispatches (t, halt) = match stage with | .announced _ => 1 | _ => 0 := by
  cases h with
  | asleep span => cases stage <;> rfl
  | failed hfails => exact absurd hpauses hfails

/-- A node counts as visited exactly if it was dispatched. -/
theorem Moves.dispatches (h : Moves lab s stage r) (hpauses : lab.PausesReturn) :
    r.1.run.stats.visited = s.run.stats.visited + r.dispatches := by
  cases h with
  | arrives hleaves hn hmore hcalm hstance hhalt =>
    rw [dispatches_of_rests hpauses hhalt]
    exact congrArg Stance.visited hstance
  | stays hstage hlater hquiet hhalt =>
    rw [dispatches_of_rests hpauses hhalt]
    cases hlater <;> exact congrArg Stance.visited hquiet.stance
  | cut hleaves hn hmost hcalm hstance => exact congrArg Stance.visited hstance
  | ends hleaves hnone hcalm hstance => exact congrArg Stance.visited hstance
  | closes hcloses hcalm hstance => exact congrArg Stance.visited hstance
  | waits hstage hkind hcalm hstance => exact congrArg Stance.visited hstance
  | breaks hwhy hquiet => exact congrArg Stance.visited hquiet.stance
  | idles hidle hquiet => exact congrArg Stance.visited hquiet.stance

theorem Starts.dispatches {f : Flow} {channel : Channel} (h : Starts lab s f channel r)
    (hpauses : lab.PausesReturn) : r.1.run.stats.visited = r.dispatches := by
  cases h with
  | lost hnone hcalm hstance => exact congrArg Stance.visited hstance
  | calls hstart hquiet hhalt =>
    rw [dispatches_of_rests hpauses hhalt]
    exact congrArg Stance.visited hquiet.stance
  | goes hstart hmoves => exact (hmoves.dispatches hpauses).trans (Nat.zero_add _)

/-- An answer dispatches no node before it is taken in. -/
theorem Answers.dispatches {n : Node} (h : Answers lab s n stage r) {text : String}
    {state : RunState} (hat : stage.IsAnswerAt n text state) (hpauses : lab.PausesReturn) :
    r.1.run.stats.visited = s.run.stats.visited + r.dispatches := by
  obtain ⟨t, halt⟩ := r
  rw [dispatches_of_rests hpauses h.halt]
  cases hat <;> exact congrArg Stance.visited h.quiet.stance

theorem dispatches_stopped (t : Session) (fault : Option Fault) :
    Stretch.dispatches (t, .stopped fault) = 0 := by
  cases fault <;> rfl

end Session

namespace Bench

variable {lab : Lab} {b : Bench}

theorem visited_submit (hdated : Clock.isDated b.session.now = true) {r : Option Stretch}
    (hr : ∀ r', r = some r' →
      r'.1.run.stats.visited = b.session.run.stats.visited + r'.dispatches) :
    (b.submit lab false r).session.run.stats.visited =
      b.session.run.stats.visited + (b.session.tryAnswer r).elim 0 Stretch.dispatches := by
  unfold submit
  rw [Session.tryAnswer_eq hdated]
  cases r with
  | none => rfl
  | some r =>
    unfold begin
    dsimp only
    rw [if_neg Bool.false_ne_true, file_session]
    exact hr r rfl

theorem visited_wake (h : b.session.IsPassive) (hdated : Clock.isDated b.session.now = true)
    (hpauses : lab.PausesReturn) (place : Nat) :
    (b.wake lab place).session.run.stats.visited = b.session.run.stats.visited +
      (b.sleepers[place]?.map fun x =>
        b.session.tryResume lab x.generation x.stage).elim 0 Stretch.dispatches := by
  unfold wake
  cases b.sleepers[place]? with
  | none => rfl
  | some x =>
    dsimp only [Option.map_some, Option.elim_some]
    rw [file_session, Session.tryResume_eq hdated]
    by_cases hcurrent : b.session.generation = x.generation
    · exact (Session.moves_resume h hcurrent x.stage).dispatches hpauses
    · rw [Session.resume_stale lab hcurrent, Session.dispatches_stopped]
      rfl

/-- Whatever happens, the visits of the run are those from before, unless the run is discarded, and
the node that was dispatched. -/
theorem visited_happen (h : b.session.IsPassive) (hpauses : lab.PausesReturn) (now : Moment)
    (happening : Happening) :
    (b.happen lab now happening).session.run.stats.visited =
      (if happening.discards then 0 else b.session.run.stats.visited)
        + (b.walk lab now happening).elim 0 Stretch.dispatches := by
  have hpassive : (b.atMoment now).session.IsPassive := h
  have hdated : Clock.isDated (b.atMoment now).session.now = true := now.2
  cases happening with
  | start f channel =>
    change ((b.atMoment now).start lab f channel false).session.run.stats.visited =
      0 + ((b.atMoment now).session.tryStart lab f channel).dispatches
    unfold start begin
    rw [if_neg Bool.false_ne_true, file_session, Session.tryStart_eq hdated, Nat.zero_add]
    split
    · rfl
    · exact (Session.starts_start hpassive f channel).dispatches hpauses
  | say said =>
    cases said with
    | str text =>
      refine visited_submit hdated fun r hr => ?_
      rcases Session.submitText_spec hpassive hr with ⟨-, n, hanswers⟩ | ⟨-, n, hanswers⟩
      · exact hanswers.dispatches .weighing hpauses
      · have hat : (Stage.keyed n (Text.strip text)).IsAnswerAt n text .waitingForKeys := .keyed _
        exact hanswers.dispatches hat hpauses
    | _ => rfl
  | press digits =>
    refine visited_submit hdated fun r hr => ?_
    obtain ⟨-, n, hanswers⟩ := Session.submitKeys_spec hpassive hr
    have hat : (Stage.keyed n digits).IsAnswerAt n digits .waitingForKeys := .keyed digits
    exact hanswers.dispatches hat hpauses
  | endCall =>
    change ((b.atMoment now).session.tryEndCall.1).run.stats.visited = _
    rw [Session.tryEndCall_eq hdated]
    rcases Session.endCall_spec hpassive with ⟨-, hsame⟩ | ⟨-, -, -, hstance⟩
    · rw [hsame]
      rfl
    · exact congrArg Stance.visited hstance
  | reset => rfl
  | subscribe l => rfl
  | unsubscribe name => rfl
  | wake place => exact visited_wake hpassive hdated hpauses place

theorem visited_replay (haged : b.IsAged) (hpauses : lab.PausesReturn)
    (history : List (Moment × Happening)) :
    (b.replay lab history).session.run.stats.visited =
      b.dispatched lab b.session.run.stats.visited history := by
  induction history generalizing b with
  | nil => rfl
  | cons h rest ih =>
    obtain ⟨hstep, -⟩ := happen_ages lab haged h.1 h.2
    have hrest := ih hstep
    rw [visited_happen haged.passive hpauses] at hrest
    exact hrest

/-! ## The totals of a run -/

/-- How the totals of the run and its log go together at a point of a history. -/
structure IsTallied (lab : Lab) (dice : Dice) (history : List (Moment × Happening)) (r : Run) :
    Prop where
  errors : r.stats.errors = r.errorsTold
  result : r.result = some .error → 1 ≤ r.stats.errors
  passed : r.stats.outcome? = some "passed" ↔
    r.state = .ended ∧ ∀ e ∈ r.events.toList, e.notice.speaker ≠ .error
  visited : lab.PausesReturn → r.stats.visited = (fresh dice).dispatched lab 0 history
  calls : r.stats.apiCalls + r.stats.integrationCalls ≤ r.stats.visited

theorem tallies_replay (lab : Lab) (dice : Dice) (history : List (Moment × Happening)) :
    ((fresh dice).replay lab history).session.run.Tallies lab := by
  obtain ⟨hdeeds, -⟩ := replay_does (fits_fresh lab dice) history
  exact hdeeds.keep (fun hdeed h => hdeed.tallies h) (Run.tallies_blank lab)

/-- At every point of every history the totals of the run agree with its log. -/
theorem every_total_agrees_with_the_log (lab : Lab) (dice : Dice)
    (history : List (Moment × Happening)) :
    IsTallied lab dice history ((fresh dice).replay lab history).session.run := by
  have htallies := tallies_replay lab dice history
  refine ⟨htallies.errors, htallies.result, htallies.passed_iff, fun hpauses => ?_, htallies.calls⟩
  exact visited_replay (isAged_fresh dice) hpauses history

/-- A chat in which a question is answered. -/
theorem an_answered_question_is_tallied :
    let history : List (Moment × Happening) :=
      [(newYear, .start askingFlow .chat), (newYear, .wake 0), (newYear, .wake 0),
        (newYear, .say (.str "yes")), (newYear, .wake 0), (newYear, .wake 0)]
    let r := ((fresh {}).replay usualLab history).session.run
    r.stats.visited = 3 ∧ r.stats.outcome? = some "passed" ∧
      (fresh {}).dispatched usualLab 0 history = 3 ∧ IsTallied usualLab {} history r := by
  intro history r
  exact ⟨by decide +kernel, by decide +kernel, by decide +kernel,
    every_total_agrees_with_the_log usualLab {} history⟩

end Bench

end Dialogue
