-- Tasks whose run is over: it was discarded, hung up, or replaced by another. Such a task may still
-- sleep at any stage. When it wakes it ends, and nothing else comes of it.
import Dialogue.Proofs.Run.History

namespace Dialogue

/-- How a task ends that may not go on: as its errand does, unless its effect breaks off. -/
def Sleeper.lastEnding (lab : Lab) (dice : Dice) (x : Sleeper) : Ending :=
  match x.stage.fault? lab dice with
  | none => Bench.endingOf x.errand
  | some fault => .failed fault

namespace Bench

/-- No task that slept before may go on after. -/
def Abandons (b b' : Bench) : Prop := ∀ x ∈ b.sleepers, x.generation ≠ b'.session.generation

/-- A sleeper has ended and nothing else has happened. The clock has gone on, and an effect may have
used up draws. -/
def afterLast (lab : Lab) (b : Bench) (now : Moment) (place : Nat) (x : Sleeper) : Bench :=
  { b with
    session := { b.session with now := now.1, dice := x.stage.diceAfter lab b.session.dice }
    sleepers := b.sleepers.eraseIdx place
    endings := b.endings ++ [(x.task, x.lastEnding lab b.session.dice)] }

variable {lab : Lab} {b : Bench}

/-! ## How a task is abandoned -/

/-- Where the generation rises, all that sleep are left behind. -/
theorem abandons_of_lt {b' : Bench} (hb : b.IsAged)
    (h : b.session.generation < b'.session.generation) : b.Abandons b' := by
  intro x hx
  have hold := hb.old x hx
  omega

theorem abandons_reset (hb : b.IsAged) (now : Moment) :
    b.Abandons (b.happen lab now .reset) :=
  abandons_of_lt hb (Nat.lt_succ_self _)

theorem abandons_endCall (hb : b.IsAged) (now : Moment) (hcan : b.session.canHangUp = true) :
    b.Abandons (b.happen lab now .endCall) := by
  refine abandons_of_lt hb ?_
  have hpassive : (b.atMoment now).session.IsPassive := hb.passive
  have hdated : Clock.isDated (b.atMoment now).session.now = true := now.2
  have hcan : (b.atMoment now).session.canHangUp = true := hcan
  unfold happen onSession
  dsimp only
  rw [Session.tryEndCall_eq hdated]
  rcases Session.endCall_spec hpassive with ⟨hcannot, -⟩ | ⟨-, -, hcalm, -⟩
  · simp [hcan] at hcannot
  · rw [hcalm.generation]
    exact Nat.lt_succ_self b.session.generation

theorem abandons_start (hb : b.IsAged) (now : Moment) (f : Flow) (channel : Channel) :
    b.Abandons (b.happen lab now (.start f channel)) := by
  refine abandons_of_lt hb ?_
  have hpassive : (b.atMoment now).session.IsPassive := hb.passive
  have hdated : Clock.isDated (b.atMoment now).session.now = true := now.2
  change _ < ((b.atMoment now).start lab f channel false).session.generation
  rcases start_spec lab hpassive hdated f channel with ⟨-, hsession, -⟩ | ⟨-, r, hr, hstart⟩
  · rw [hsession]
    exact Nat.lt_succ_self b.session.generation
  · rw [hstart, file_session, hr.calm.generation]
    exact Nat.lt_succ_self b.session.generation

/-- A task that is abandoned stays so. -/
theorem abandoned_replay (hb : b.IsAged) {x : Sleeper} (hx : x ∈ b.sleepers)
    (habandoned : x.generation ≠ b.session.generation) (later : List (Moment × Happening)) :
    x.generation ≠ (b.replay lab later).session.generation := by
  have hold := hb.old x hx
  obtain ⟨-, hrise⟩ := replay_ages lab hb later
  omega

/-! ## What comes of it -/

theorem wake_abandoned {place : Nat} {x : Sleeper} (hx : b.sleepers[place]? = some x)
    (habandoned : x.generation ≠ b.session.generation) (now : Moment) :
    b.happen lab now (.wake place) = b.afterLast lab now place x := by
  have hx : (b.atMoment now).sleepers[place]? = some x := hx
  have hstale : (b.atMoment now).session.generation ≠ x.generation := Ne.symm habandoned
  have hdated : Clock.isDated (b.atMoment now).session.now = true := now.2
  unfold happen wake
  simp only [hx]
  rw [Session.tryResume_eq hdated, Session.resume_stale lab hstale]
  have hdice : (b.atMoment now).session.dice = b.session.dice := rfl
  rw [hdice]
  unfold afterLast Sleeper.lastEnding
  cases x.stage.fault? lab b.session.dice <;> rfl

/-- A task is abandoned when its run is discarded, hung up or replaced. Whenever it wakes after that
it ends, though its effect may break off, and no field of the session changes. -/
theorem an_abandoned_task_changes_nothing (lab : Lab) (dice : Dice)
    (history : List (Moment × Happening)) :
    let b := (fresh dice).replay lab history
    (∀ now : Moment, b.Abandons (b.happen lab now .reset) ∧
      (b.session.canHangUp = true → b.Abandons (b.happen lab now .endCall)) ∧
      ∀ f channel, b.Abandons (b.happen lab now (.start f channel))) ∧
    ∀ x ∈ b.sleepers, x.generation ≠ b.session.generation →
      ∀ later place, (b.replay lab later).sleepers[place]? = some x →
        ∀ now : Moment, (b.replay lab later).happen lab now (.wake place) =
          (b.replay lab later).afterLast lab now place x := by
  intro b
  obtain ⟨hb, -⟩ := replay_ages lab (isAged_fresh dice) history
  refine ⟨fun now => ?_, fun x hx habandoned later place hplace now => ?_⟩
  · exact ⟨abandons_reset hb now, abandons_endCall hb now, abandons_start hb now⟩
  · exact wake_abandoned hplace (abandoned_replay hb hx habandoned later) now

/-- A call takes the place of a run in the middle of a request, and is hung up. Then the request
breaks off. -/
theorem an_abandoned_request_changes_nothing :
    let lab := { usualLab with
      effects := usualLab.effects.replace .apiCall
        (.fixed (some (.ok 10)) (.error (.brokeOff "no route"))) }
    let requesting := { askingFlow with
      nodes := [⟨.str "start", .start {}, [], []⟩, ⟨.str "ask", .apiCall {}, [], []⟩] }
    let b := (fresh {}).replay lab [(newYear, .start requesting .chat), (newYear, .wake 0),
      (newYear, .wake 0), (newYear, .start requesting .voice)]
    let b' := b.replay lab [(newYear, .endCall)]
    ∃ x ∈ b.sleepers, x.generation ≠ b.session.generation ∧ b'.sleepers[0]? = some x ∧
      (x.stage.fault? lab b'.session.dice).isSome = true ∧
      b'.happen lab newYear (.wake 0) = b'.afterLast lab newYear 0 x := by
  intro lab requesting b b'
  have hkept : ∀ b : Bench, (b.replay lab [(newYear, .endCall)]).sleepers = b.sleepers :=
    fun _ => rfl
  let x : Sleeper := b.sleepers[0]?.get (by decide +kernel)
  have hfirst : b.sleepers[0]? = some x := (Option.some_get _).symm
  have hx : x ∈ b.sleepers := List.mem_of_getElem? hfirst
  have habandoned : x.generation ≠ b.session.generation := by decide +kernel
  have hplace : b'.sleepers[0]? = some x := by
    rw [hkept b]
    exact hfirst
  exact ⟨x, hx, habandoned, hplace, by decide +kernel,
    (an_abandoned_task_changes_nothing lab {} _).2 x hx habandoned _ 0 hplace newYear⟩

end Bench

end Dialogue
