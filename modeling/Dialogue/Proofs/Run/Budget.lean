-- The budget of steps. However its flow goes round, no run visits more nodes than it may, no task
-- sleeps more often than the steps that are left allow, and a run that would go too far is cut off.
import Dialogue.Proofs.Run.Naps
import Dialogue.Proofs.Run.Tally

namespace Dialogue

/-! ## The limit -/

/-- The same with room for one step more. -/
def Lab.longer (lab : Lab) : Lab :=
  { lab with settings := { lab.settings with maxSteps := lab.settings.maxSteps + 1 } }

namespace Session

variable {lab : Lab} {s t : Session} {n : Node} {generation : Nat}

/-- With room for one step more a stretch would have been the first one, and it is the second one.
They differ only where the stretch comes to a node that is one too many. -/
inductive Cuts (lab : Lab) : Stretch → Stretch → Prop
  | same (r : Stretch) : Cuts lab r r
  | cut {t : Session} (hpassive : t.IsPassive) (n : Node)
      (hmost : t.run.steps = lab.settings.maxSteps) :
      Cuts lab (t.enter lab.longer n) (t.stopAtLimit lab n, .done)

theorem cuts_enter (h : s.IsPassive) (hsteps : s.run.steps ≤ lab.settings.maxSteps) (n : Node) :
    Cuts lab (s.enter lab.longer n) (s.enter lab n) := by
  by_cases hmost : lab.settings.maxSteps ≤ s.run.steps
  · have hcut : s.enter lab n = (s.stopAtLimit lab n, .done) := by
      unfold enter
      rw [if_pos hmost]
    rw [hcut]
    exact .cut h n (Nat.le_antisymm hsteps hmost)
  · have hsame : s.enter lab.longer n = s.enter lab n := by
      have hlonger : ¬ lab.longer.settings.maxSteps ≤ s.run.steps := by
        intro hle
        exact hmost (Nat.le_trans (Nat.le_succ _) hle)
      unfold enter
      rw [if_neg hmost, if_neg hlonger]
      rfl
    rw [hsame]
    exact .same _

/-- Nothing but the limit makes a difference to a walk on the way. -/
theorem sideBySide_longer (h : s.IsPassive) (hsteps : s.run.steps ≤ lab.settings.maxSteps)
    (stage : Stage) :
    SideBySide lab lab.longer s.generation s.generation stage s s
      (fun t t' => t' = t ∧ Talks lab s stage t) (fun r r' => Cuts lab r' r) where
  toAlongside := alongside_self lab lab.longer rfl rfl s stage
  pauses := by
    rintro t _ n later span span' ⟨rfl, -⟩ - hlater hlater'
    have hsame : span' = span :=
      hlater.compare (R := fun x y => y = x) hlater' rfl rfl fun _ _ _ hspan hspan' =>
        Option.some.inj (hspan'.symm.trans hspan)
    rw [hsame]
    exact .same _
  breaks := by
    rintro t _ fault ⟨rfl, -⟩ -
    exact .same _
  stops := by
    rintro t _ ⟨rfl, -⟩ -
    exact .same _
  enters := by
    rintro t _ n ⟨rfl, ht⟩ - - -
    have hquiet := quiet_talks h ht
    exact cuts_enter hquiet.passive ((stance_steps hquiet).symm ▸ hsteps) n
  ends := by
    rintro t _ ⟨rfl, -⟩ - - -
    exact .same _
  connects := by
    intro start _
    have hon := quiet_connected h
    exact cuts_enter hon.passive ((stance_steps hon).symm ▸ hsteps) start
  closes _ := .same _
  finishes _ _ _ := .same _
  asksForText _ _ := .same _
  asksForKeys _ _ := .same _

theorem cuts_resume (h : s.IsPassive) (hsteps : s.run.steps ≤ lab.settings.maxSteps)
    (stage : Stage) :
    Cuts lab (s.resume lab.longer generation stage) (s.resume lab generation stage) := by
  by_cases hcurrent : s.generation = generation
  · exact (hcurrent ▸ sideBySide_longer h hsteps stage).resume hcurrent hcurrent
  · rw [resume_stale lab hcurrent, resume_stale lab.longer hcurrent]
    exact .same _

theorem cuts_start (h : s.IsPassive) (f : Flow) (channel : Channel) :
    Cuts lab (s.start lab.longer f channel) (s.start lab f channel) := by
  have hbegun : IsPassive (s.atOutset f channel) := h
  refine rel_start lab lab.longer s s (Q := fun r r' => Cuts lab r' r) (fun _ => .same _)
    (fun start _ _ => .same _) fun start _ _ => ?_
  have hsaid := quiet_emit hbegun sessionStarted
  have hnone : ((s.atOutset f channel).emit sessionStarted).run.steps = 0 := stance_steps hsaid
  exact cuts_enter hsaid.passive (hnone ▸ Nat.zero_le _) start

theorem submitKeys_longer (s : Session) (digits : String) :
    s.submitKeys lab.longer digits = s.submitKeys lab digits := rfl

theorem submitText_longer (s : Session) (text : String) :
    s.submitText lab.longer text = s.submitText lab text := rfl

end Session

/-- The run was cut off. Uncut it would have come to one more node. -/
structure Run.IsCutOff (r uncut : Run) : Prop where
  state : r.state = .ended
  result : r.result = some .error
  errors : r.stats.errors = uncut.stats.errors + 1
  off : r.onCall = false
  hungUp : uncut.onCall = true → ∃ before last span,
    r.events.toList = before ++ [last] ∧ last.notice = Session.callEnded span

namespace Run

/-- Whether a call was on or not, none is on after a hang-up. -/
theorem onCall_hungUpIfOn (r : Run) (id : String) (now : Int) :
    (r.hungUpIfOn id now).onCall = false := by
  by_cases hon : r.onCall = true
  · rw [hungUpIfOn, if_pos hon]
    rfl
  · rw [hungUpIfOn, if_neg hon]
    exact Bool.not_eq_true _ ▸ hon

theorem events_hungUpIfOn {r : Run} (hon : r.onCall = true) (id : String) (now : Int) :
    (r.hungUpIfOn id now).events.toList =
      r.events.toList ++ [⟨id, now, Session.callEnded (r.callSpan now)⟩] := by
  rw [hungUpIfOn, if_pos hon]
  exact Log.toList_push _ _

end Run

namespace Session

variable {lab : Lab} {s t : Session}

/-- Where the first stretch comes to a node too many, the second one cuts the run off. -/
theorem Cuts.isCutOff {r r' : Stretch} (h : Cuts lab r' r)
    (hmore : lab.settings.maxSteps < r'.1.run.stats.visited)
    (hmost : r.1.run.stats.visited ≤ lab.settings.maxSteps) : r.1.run.IsCutOff r'.1.run := by
  cases h with
  | same => exact absurd hmost (Nat.not_le.mpr hmore)
  | @cut t hpassive n hlast =>
    have hlonger : ¬ lab.longer.settings.maxSteps ≤ t.run.steps := by
      rw [hlast]
      exact Nat.not_succ_le_self _
    have hcount : IsPassive (t.setRun (countVisit n)) := hpassive
    have huncut : (t.enter lab.longer n).1.run = (countVisit n t.run).told
        ⟨Ids.full t.nextEvent, t.now, announcement lab.palette n⟩ := by
      unfold enter
      rw [if_neg hlonger]
      exact run_emit hcount _
    have herror := quiet_countError hpassive
    have hsaid := run_emit herror.passive (limitReached lab.settings.maxSteps n)
    have hcut := run_finish (quiet_emit herror.passive (limitReached lab.settings.maxSteps n)).passive
      .error
    rw [hsaid] at hcut
    change Run.IsCutOff (t.stopAtLimit lab n).run _
    unfold stopAtLimit
    rw [hcut, huncut]
    constructor
    case state => rfl
    case result => rfl
    case errors => exact Run.errors_hungUpIfOn _ _ _
    case off => exact Run.onCall_hungUpIfOn _ _ _
    case hungUp =>
      intro hon
      have hstill : ((t.setRun Run.countError).run.told
        ⟨Ids.full t.nextEvent, t.now, limitReached lab.settings.maxSteps n⟩).onCall = true := hon
      exact ⟨_, _, _, Run.events_hungUpIfOn hstill _ _, rfl⟩

end Session

namespace Bench

variable {lab : Lab} {b : Bench}

/-- An answer that is left at its first pause does not come to any node. -/
theorem submit_longer (r : Option Stretch) : b.submit lab.longer false r = b.submit lab false r := by
  unfold submit
  cases b.session.tryAnswer r with
  | none => rfl
  | some r =>
    unfold begin
    dsimp only
    rw [if_neg Bool.false_ne_true, if_neg Bool.false_ne_true]

/-- With room for one step more the same would have happened, but that the run would not have been
cut off. -/
theorem cuts_happen (h : b.session.IsPassive)
    (hsteps : b.session.run.steps ≤ lab.settings.maxSteps) (now : Moment) (happening : Happening) :
    (b.happen lab.longer now happening).session.run = (b.happen lab now happening).session.run ∨
      ∃ r r', Session.Cuts lab r' r ∧ (b.happen lab now happening).session = r.1 ∧
        (b.happen lab.longer now happening).session = r'.1 := by
  have hpassive : (b.atMoment now).session.IsPassive := h
  have hsteps : (b.atMoment now).session.run.steps ≤ lab.settings.maxSteps := hsteps
  have hdated : Clock.isDated (b.atMoment now).session.now = true := now.2
  have hroom : lab.longer.room = lab.room := rfl
  cases happening with
  | start f channel =>
    by_cases hdeep : lab.room.steps < f.copyDepth + 1
    · refine Or.inl ?_
      change (file _ _ _ _ _).session.run = (file _ _ _ _ _).session.run
      rw [file_session, file_session, Session.tryStart_eq hdated, Session.tryStart_eq hdated, hroom,
        if_pos hdeep, if_pos hdeep]
    · refine Or.inr ⟨_, _, Session.cuts_start hpassive f channel, ?_, ?_⟩
      · change (file _ _ _ _ _).session = _
        rw [file_session, Session.tryStart_eq hdated, if_neg hdeep]
      · change (file _ _ _ _ _).session = _
        rw [file_session, Session.tryStart_eq hdated, hroom, if_neg hdeep]
  | wake place =>
    change ((b.atMoment now).wake lab.longer place).session.run =
      ((b.atMoment now).wake lab place).session.run ∨ ∃ r r', Session.Cuts lab r' r ∧
        ((b.atMoment now).wake lab place).session = r.1 ∧
        ((b.atMoment now).wake lab.longer place).session = r'.1
    unfold wake
    cases (b.atMoment now).sleepers[place]? with
    | none => exact Or.inl rfl
    | some x =>
      dsimp only
      rw [file_session, file_session, Session.tryResume_eq hdated, Session.tryResume_eq hdated]
      exact Or.inr ⟨_, _, Session.cuts_resume hpassive hsteps x.stage, rfl, rfl⟩
  | say said =>
    cases said with
    | str text =>
      refine Or.inl ?_
      change ((b.atMoment now).submit lab.longer false
        ((b.atMoment now).session.submitText lab.longer text)).session.run = _
      rw [Session.submitText_longer, submit_longer]
      rfl
    | _ => exact Or.inl rfl
  | press digits =>
    refine Or.inl ?_
    change ((b.atMoment now).submit lab.longer false
      ((b.atMoment now).session.submitKeys lab.longer digits)).session.run = _
    rw [Session.submitKeys_longer, submit_longer]
    rfl
  | _ => exact Or.inl rfl

/-! ## The budget -/

/-- What the limit of steps means for a bench and for what happens next. -/
structure KeepsBudget (lab : Lab) (b : Bench) (now : Moment) (h : Happening) : Prop where
  visited : b.session.run.stats.visited ≤ lab.settings.maxSteps
  naps : h.begins = true → ∀ later, (b.happen lab now h).suspensions lab (b.tasks + 1) later ≤
    2 * (lab.settings.maxSteps - h.spent b.session.run) + 1
  ends : h.begins = true → ∀ later,
    ((b.happen lab now h).replay lab later).isAsleep (b.tasks + 1) = false →
      ∃ ending, (b.tasks + 1, ending) ∈ ((b.happen lab now h).replay lab later).endings
  limit : lab.settings.maxSteps < (b.happen lab.longer now h).session.run.stats.visited →
    (b.happen lab now h).session.run.IsCutOff (b.happen lab.longer now h).session.run

/-- At every point of every history the budget of steps is kept. -/
theorem every_walk_keeps_its_budget (lab : Lab) (dice : Dice) (before : List (Moment × Happening))
    (now : Moment) (h : Happening) :
    KeepsBudget lab ((fresh dice).replay lab before) now h := by
  obtain ⟨haged, -⟩ := replay_ages lab (isAged_fresh dice) before
  obtain ⟨hkeeps, -⟩ := KeepsTasks.replay lab (keepsTasks_fresh dice) before
  have htallies := tallies_replay lab dice before
  have hthen := tallies_replay lab dice (before ++ [(now, h)])
  rw [replay, List.foldl_append] at hthen
  change (((fresh dice).replay lab before).happen lab now h).session.run.Tallies lab at hthen
  generalize (fresh dice).replay lab before = b at haged hkeeps htallies hthen
  have hvisited : b.session.run.stats.visited ≤ lab.settings.maxSteps := by
    rw [htallies.visited]
    exact htallies.most
  obtain ⟨hafter, -⟩ := happen_ages lab haged now h
  obtain ⟨hkept, htasks⟩ := KeepsTasks.happen lab hkeeps now h
  constructor
  case visited => exact hvisited
  case naps =>
    intro hbegins later
    have hnaps := naps_begun lab haged.passive hkeeps htallies.visited now hbegins
    have hnew : b.tasks + 1 ≤ (b.happen lab now h).tasks := by
      rw [htasks, hbegins]
      exact Nat.le_refl _
    exact Nat.le_trans (suspensions_le hafter hkept hnew later) hnaps
  case ends =>
    intro hbegins later hawake
    obtain ⟨hend, hle⟩ := KeepsTasks.replay lab hkept later
    rw [htasks, hbegins] at hle
    rcases hend.known (b.tasks + 1) (Nat.succ_pos _) hle with hasleep | hended
    · rw [hawake] at hasleep
      cases hasleep
    · exact hended
  case limit =>
    intro hmore
    have hmost : (b.happen lab now h).session.run.stats.visited ≤ lab.settings.maxSteps := by
      rw [hthen.visited]
      exact hthen.most
    rcases cuts_happen haged.passive htallies.most now h with hsame | ⟨r, r', hcuts, hr, hr'⟩
    · rw [hsame] at hmore
      exact absurd hmost (Nat.not_le.mpr hmore)
    · rw [hr] at hmost ⊢
      rw [hr'] at hmore ⊢
      exact hcuts.isCutOff hmore hmost

/-- A call is cut off where the answer to the question leads to a third node. -/
theorem a_third_node_is_one_too_many :
    let lab := { usualLab with settings := { maxSteps := 2 } }
    let before : List (Moment × Happening) :=
      [(newYear, .start askingFlow .voice), (newYear, .wake 0), (newYear, .wake 0),
        (newYear, .wake 0), (newYear, .say (.str "yes"))]
    let b := (fresh {}).replay lab before
    b.session.run.stats.visited = 2 ∧ KeepsBudget lab b newYear (.wake 0) ∧
      (b.happen lab newYear (.wake 0)).session.run.IsCutOff
        (b.happen lab.longer newYear (.wake 0)).session.run := by
  intro lab before b
  have hbudget := every_walk_keeps_its_budget lab {} before newYear (.wake 0)
  exact ⟨by decide +kernel, hbudget, hbudget.limit (by decide +kernel)⟩

end Bench

end Dialogue
