-- What a stretch of a walk makes of a run to which only passive listeners listen. A task that may go
-- on comes to a node, ends the run, stays at its node, waits for an answer there, or breaks off.
import Dialogue.Proofs.Run.Quiet
import Dialogue.Proofs.Run.Walks

namespace Dialogue

/-! ## Where a stage leads -/

namespace Stage

/-- Whether a run ends at the stage as the flow says. -/
def Closes : Stage → Prop
  | announced n => n.kind = .finish
  | closing => True
  | _ => False

end Stage

namespace Stance

def arrive (a : Stance) (n : Node) : Stance :=
  { a with current := n.id, steps := a.steps + 1, visited := a.visited + 1 }

def finished (a : Stance) (result : RunResult) : Stance :=
  { a with state := .ended, result := some result }

/-- The run waits for an answer at a node. -/
def waitAt (a : Stance) (n : Node) : Stance :=
  { a with
    waiting := some n
    state := if n.kind = .condition then .waitingForText else .waitingForKeys }

/-- The answer that the run was waiting for has been given. -/
def takeUp (a : Stance) : Stance := { a with waiting := none, state := .running }

end Stance

/-- The run of a flow that has come to no node yet. -/
def Flow.outset (f : Flow) : Stance := ⟨.running, none, .null, some f, none, 0, 0⟩

/-! ## Pauses -/

/-- A later stage at a node that has been announced. -/
inductive Stage.IsLater (n : Node) : Stage → Prop
  | spoken (h : (announced n).Leaves) : IsLater n (spoken n)
  | inEffect (h : (announced n).Leaves) (channel : Option Channel) : IsLater n (inEffect n channel)
  | closing (h : n.kind = .finish) : IsLater n closing

/-- The pauses that a run itself makes are spans of time. None is where a latency times the scale of
latencies is infinite or no number. -/
structure Lab.PausesReturn (lab : Lab) : Prop where
  callConnect : ∃ us, lab.settings.span lab.settings.callConnect = .ok us
  stepDelay : ∃ us, lab.settings.span lab.settings.stepDelay = .ok us
  message : ∃ us, lab.settings.span lab.settings.message = .ok us
  inputEval : ∃ us, lab.settings.span lab.settings.inputEval = .ok us
  callEnd : ∃ us, lab.settings.span lab.settings.callEnd = .ok us

/-- The stretch stopped to wait until the stage, or failed because the pause is no span of time. -/
inductive Halt.RestsUntil (lab : Lab) (stage : Stage) : Halt → Prop
  | asleep (span : Nat) : RestsUntil lab stage (.asleep span stage)
  | failed {fault : Fault} (h : ¬ lab.PausesReturn) : RestsUntil lab stage (.failed fault)

theorem Halt.restsUntil_pause {lab : Lab} {span : Outcome Nat}
    (h : lab.PausesReturn → ∃ us, span = .ok us) (stage : Stage) :
    (Halt.pause span stage).RestsUntil lab stage := by
  cases span with
  | ok us => exact .asleep us
  | error fault =>
    refine .failed fun hreturn => ?_
    obtain ⟨us, hus⟩ := h hreturn
    cases hus

/-- The simulated effects come to an end where each of their pauses is a span of time. -/
theorem Lab.simulated_return {lab : Lab} {s : SimulationSettings} {p : Palette}
    (h : lab.effects = .simulated s p)
    (hspans : ∀ seconds ∈ [s.apiCall, s.assistant, s.voiceTransfer, s.chatTransfer, s.channelSend,
      s.ticket, s.crm], ∃ us, s.span seconds = .ok us) : lab.EffectsReturn := by
  refine ⟨fun k n c span hspan => ?_, fun k n c d => ?_⟩
  · rw [h] at hspan
    cases k with
    | transfer =>
      obtain rfl := Option.some.inj hspan
      split
      · exact hspans _ (by simp)
      · exact hspans _ (by simp)
    | start | message | condition | dtmf | finish => cases hspan
    | _ =>
      obtain rfl := Option.some.inj hspan
      exact hspans _ (by simp)
  · rw [h]
    cases k <;> exact ⟨_, _, rfl⟩

/-! ## All moves -/

namespace Session

/-- What a task of the session's generation can come to from a stage. -/
inductive Moves (lab : Lab) (s : Session) (stage : Stage) : Stretch → Prop
  | arrives {t : Session} {halt : Halt} {n : Node} (hleaves : stage.Leaves)
      (hn : stage.onward s.run.flow = some n) (hmore : s.run.steps < lab.settings.maxSteps)
      (hcalm : Calm s t) (hstance : t.run.stance = s.run.stance.arrive n)
      (hhalt : halt.RestsUntil lab (.announced n)) : Moves lab s stage (t, halt)
  | cut {t : Session} {n : Node} (hleaves : stage.Leaves)
      (hn : stage.onward s.run.flow = some n) (hmost : lab.settings.maxSteps ≤ s.run.steps)
      (hcalm : Calm s t) (hstance : t.run.stance = s.run.stance.finished .error) :
      Moves lab s stage (t, .done)
  | ends {t : Session} (hleaves : stage.Leaves) (hnone : stage.onward s.run.flow = none)
      (hcalm : Calm s t) (hstance : t.run.stance = s.run.stance.finished .success) :
      Moves lab s stage (t, .done)
  | closes {t : Session} (hcloses : stage.Closes) (hcalm : Calm s t)
      (hstance : t.run.stance = s.run.stance.finished .success) : Moves lab s stage (t, .done)
  | stays {t : Session} {halt : Halt} {n : Node} {later : Stage} (hstage : stage = .announced n)
      (hlater : later.IsLater n) (hquiet : Quiet s t) (hhalt : halt.RestsUntil lab later) :
      Moves lab s stage (t, halt)
  | waits {t : Session} {n : Node} (hstage : stage = .announced n)
      (hkind : n.kind = .condition ∨ n.kind = .dtmf) (hcalm : Calm s t)
      (hstance : t.run.stance = s.run.stance.waitAt n) : Moves lab s stage (t, .done)
  | breaks {t : Session} {fault : Fault} (hwhy : ¬ lab.EffectsReturn ∨ s.run.flow = none)
      (hquiet : Quiet s t) : Moves lab s stage (t, .failed fault)
  | idles {t : Session} (hidle : s.run.state ≠ .running) (hquiet : Quiet s t) :
      Moves lab s stage (t, .done)

variable {lab : Lab} {s t : Session} {stage : Stage}

theorem calm_finish (h : s.IsPassive) (r : RunResult) : Calm s (s.finish r) := ⟨h, rfl, rfl⟩

theorem stance_finish (s : Session) (r : RunResult) :
    (s.finish r).run.stance = s.run.stance.finished r := rfl

theorem stance_flow (h : Quiet s t) : t.run.flow = s.run.flow := congrArg Stance.flow h.stance

theorem stance_steps (h : Quiet s t) : t.run.steps = s.run.steps := congrArg Stance.steps h.stance

theorem stance_state (h : Quiet s t) : t.run.state = s.run.state := congrArg Stance.state h.stance

/-- What is said before a move does not change what the move is. -/
theorem Moves.after {r : Stretch} (h : Quiet s t) (hr : Moves lab t stage r) :
    Moves lab s stage r := by
  cases hr with
  | arrives hleaves hn hmore hcalm hstance hhalt =>
    exact .arrives hleaves (stance_flow h ▸ hn) (stance_steps h ▸ hmore) (h.toCalm.trans hcalm)
      (h.stance ▸ hstance) hhalt
  | cut hleaves hn hmost hcalm hstance =>
    exact .cut hleaves (stance_flow h ▸ hn) (stance_steps h ▸ hmost) (h.toCalm.trans hcalm)
      (h.stance ▸ hstance)
  | ends hleaves hnone hcalm hstance =>
    exact .ends hleaves (stance_flow h ▸ hnone) (h.toCalm.trans hcalm) (h.stance ▸ hstance)
  | closes hcloses hcalm hstance =>
    exact .closes hcloses (h.toCalm.trans hcalm) (h.stance ▸ hstance)
  | stays hstage hlater hquiet hhalt => exact .stays hstage hlater (h.trans hquiet) hhalt
  | waits hstage hkind hcalm hstance =>
    exact .waits hstage hkind (h.toCalm.trans hcalm) (h.stance ▸ hstance)
  | breaks hwhy hquiet => exact .breaks (stance_flow h ▸ hwhy) (h.trans hquiet)
  | idles hidle hquiet => exact .idles (stance_state h ▸ hidle) (h.trans hquiet)

/-! ## Coming to a node -/

theorem moves_enter (h : s.IsPassive) (hleaves : stage.Leaves) {n : Node}
    (hn : stage.onward s.run.flow = some n) : Moves lab s stage (s.enter lab n) := by
  unfold enter
  split
  · rename_i hmost
    have herror := quiet_countError h
    have hsaid := herror.trans (quiet_emit herror.passive (limitReached lab.settings.maxSteps n))
    have hquiet := hsaid.trans (quiet_hangUpIfOn hsaid.passive)
    refine .cut hleaves hn hmost (hquiet.toCalm.trans (calm_finish hquiet.passive _)) ?_
    rw [← hquiet.stance]
    rfl
  · rename_i hmore
    have hcount : Calm s (s.setRun (countVisit n)) := ⟨h, rfl, rfl⟩
    have hsaid := quiet_emit hcount.passive (announcement lab.palette n)
    refine .arrives hleaves hn (Nat.lt_of_not_le hmore) (hcount.trans hsaid.toCalm) ?_
      (Halt.restsUntil_pause (·.stepDelay) _)
    rw [hsaid.stance]
    rfl

/-- A run for which there is no way on ends. -/
theorem moves_deadEnd (h : s.IsPassive) (hleaves : stage.Leaves)
    (hnone : stage.onward s.run.flow = none) : Moves lab s stage (s.deadEnd, .done) := by
  have hquiet := quiet_hangUpIfOn h
  refine .ends hleaves hnone (hquiet.toCalm.trans (calm_finish hquiet.passive _)) ?_
  rw [← hquiet.stance]
  rfl

/-! ## All walks -/

/-- What a task tells leaves the run where it is. -/
theorem quiet_talks (h : s.IsPassive) (ht : Talks lab s stage t) : Quiet s t := by
  induction ht with
  | silent hstage => exact .refl h
  | tells ht hcurrent hline ih => exact ih.trans (quiet_emit ih.passive _)
  | @counts n notice count hstage hcount hline =>
    have hcounted : Quiet s (count s) := by
      rcases hcount with rfl | rfl
      · exact quiet_countCall h
      · exact quiet_countIntegration h
    exact hcounted.trans (quiet_emit hcounted.passive _)
  | fails ht hcurrent hn detail ih =>
    have herror := ih.trans (quiet_countError ih.passive)
    exact herror.trans (quiet_emit herror.passive _)
  | draws ht dice ih => exact ih.trans (quiet_dice ih.passive dice)

/-- Only where an effect takes a time without end is a pause at a node no pause. -/
theorem moves_pause (h : Quiet s t) {n : Node} {later : Stage} {span : Outcome Nat}
    (hlater : later.Pauses lab s.run n span) :
    Moves lab s (.announced n) (t, .pause span later) := by
  cases hlater with
  | spoken hleaves => exact .stays rfl (.spoken hleaves) h (Halt.restsUntil_pause (·.message) _)
  | closing hkind => exact .stays rfl (.closing hkind) h (Halt.restsUntil_pause (·.callEnd) _)
  | @inEffect hleaves channel span hspan =>
    cases span with
    | ok us => exact .stays rfl (.inEffect hleaves channel) h (.asleep us)
    | error fault =>
      refine .breaks (Or.inl fun hreturn => ?_) h
      obtain ⟨us, hus⟩ := hreturn.span n.kind n _ _ hspan
      cases hus

theorem moves_walks (h : s.IsPassive) {r : Stretch} (hr : Walks lab s stage r) :
    Moves lab s stage r := by
  cases hr with
  | pauses ht hstage hlater =>
    subst hstage
    exact moves_pause (quiet_talks h ht) hlater
  | breaks ht hwhy =>
    have hquiet := quiet_talks h ht
    exact .breaks (stance_flow hquiet ▸ hwhy.why) hquiet
  | stops ht hstays =>
    have hquiet := quiet_talks h ht
    exact .idles (stance_state hquiet ▸ hstays hquiet.generation) hquiet
  | enters ht hcurrent hleaves hn =>
    have hquiet := quiet_talks h ht
    exact (moves_enter hquiet.passive hleaves hn).after hquiet
  | ends ht hcurrent hleaves hnone =>
    have hquiet := quiet_talks h ht
    exact (moves_deadEnd hquiet.passive hleaves hnone).after hquiet
  | @connects start hstage =>
    subst hstage
    have hleaves : (Stage.connecting start).Leaves := trivial
    have hon := quiet_connected h
    exact (moves_enter hon.passive hleaves rfl).after hon
  | closes hstage =>
    subst hstage
    have hquiet := quiet_hangUp h
    refine .closes trivial (hquiet.toCalm.trans (calm_finish hquiet.passive _)) ?_
    rw [← hquiet.stance]
    rfl
  | @finishes n hstage hkind =>
    subst hstage
    have hsaid : Quiet s (s.tell n .success "Test completed") := quiet_emit h _
    refine .closes hkind (hsaid.toCalm.trans (calm_finish hsaid.passive _)) ?_
    rw [← hsaid.stance]
    rfl
  | @asksForText n d hstage hdata =>
    have hkind : n.kind = .condition := by rw [Node.kind, hdata]; rfl
    have hsaid := quiet_emit h (question n d)
    refine .waits hstage (Or.inl hkind) (hsaid.toCalm.trans ⟨hsaid.passive, rfl, rfl⟩) ?_
    rw [Stance.waitAt, if_pos hkind, ← hsaid.stance]
    rfl
  | @asksForKeys n d hstage hdata =>
    have hkind : n.kind = .dtmf := by rw [Node.kind, hdata]; rfl
    have hspoken := quiet_emit h (s.prompt n d)
    have hsaid := hspoken.trans (quiet_emit hspoken.passive (keysQuestion n d))
    refine .waits hstage (Or.inr hkind) (hsaid.toCalm.trans ⟨hsaid.passive, rfl, rfl⟩) ?_
    rw [Stance.waitAt, if_neg (by simp [hkind]), ← hsaid.stance]
    rfl

theorem moves_resume (h : s.IsPassive) {generation : Nat} (hcurrent : s.generation = generation)
    (stage : Stage) : Moves lab s stage (s.resume lab generation stage) := by
  subst hcurrent
  exact moves_walks h (walks_resume lab s stage)

/-! ## Controls -/

theorem stance_atOutset (s : Session) (f : Flow) (channel : Channel) :
    (s.atOutset f channel).run.stance = f.outset := rfl

/-- What the start of a run can come to. On a call the start node comes later. -/
inductive Starts (lab : Lab) (s : Session) (f : Flow) (channel : Channel) : Stretch → Prop
  | lost {t : Session} (hnone : f.startNode? = none) (hcalm : Calm (s.atOutset f channel) t)
      (hstance : t.run.stance = f.outset.finished .error) : Starts lab s f channel (t, .done)
  | calls {t : Session} {halt : Halt} {start : Node} (hstart : f.startNode? = some start)
      (hquiet : Quiet (s.atOutset f channel) t) (hhalt : halt.RestsUntil lab (.connecting start)) :
      Starts lab s f channel (t, halt)
  | goes {r : Stretch} {start : Node} (hstart : f.startNode? = some start)
      (hmoves : Moves lab (s.atOutset f channel) (.connecting start) r) : Starts lab s f channel r

theorem starts_opens (h : s.IsPassive) {f : Flow} {channel : Channel} {r : Stretch}
    (hr : Opens lab s f channel r) : Starts lab s f channel r := by
  have hbegun : IsPassive (s.atOutset f channel) := h
  cases hr with
  | lost hnone =>
    have herror := quiet_countError hbegun
    have hsaid := herror.trans (quiet_emit herror.passive noStartFound)
    refine .lost hnone (hsaid.toCalm.trans (calm_finish hsaid.passive _)) ?_
    rw [← stance_atOutset s f channel, ← hsaid.stance]
    rfl
  | calls hstart =>
    exact .calls hstart (quiet_emit hbegun _) (Halt.restsUntil_pause (·.callConnect) _)
  | @enters start hstart =>
    have hleaves : (Stage.connecting start).Leaves := trivial
    have hsaid := quiet_emit hbegun sessionStarted
    exact .goes hstart ((moves_enter hsaid.passive hleaves rfl).after hsaid)

theorem starts_start (h : s.IsPassive) (f : Flow) (channel : Channel) :
    Starts lab s f channel (s.start lab f channel) :=
  starts_opens h (opens_start lab s f channel)

/-- The answer that the node was waiting for is taken up, and the stage comes next. -/
structure Answers (lab : Lab) (s : Session) (n : Node) (stage : Stage) (r : Stretch) : Prop where
  waiting : s.run.waiting = some n
  quiet : Quiet s.takeUp r.1
  halt : r.2.RestsUntil lab stage

theorem TakesUp.answers (h : s.IsPassive) {n : Node} {text : String} {r : Stretch}
    (hr : TakesUp lab s n text stage r) : Answers lab s n stage r := by
  have htaken : s.takeUp.IsPassive := h
  obtain ⟨-, hn, notice, -, rfl⟩ := hr
  exact ⟨hn, quiet_emit htaken notice, Halt.restsUntil_pause (·.inputEval) _⟩

theorem submitKeys_spec (h : s.IsPassive) {digits : String} {r : Stretch}
    (hr : s.submitKeys lab digits = some r) :
    s.run.state = .waitingForKeys ∧ ∃ n, Answers lab s n (.keyed n digits) r := by
  obtain ⟨hstate, n, hr⟩ := takesUp_submitKeys hr
  exact ⟨hstate, n, hr.answers h⟩

theorem submitText_spec (h : s.IsPassive) {text : String} {r : Stretch}
    (hr : s.submitText lab text = some r) :
    (s.run.state = .waitingForText ∧ ∃ n, Answers lab s n (.weighing n text) r) ∨
      s.run.state = .waitingForKeys ∧ ∃ n, Answers lab s n (.keyed n (Text.strip text)) r := by
  rcases takesUp_submitText hr with ⟨hstate, n, hr⟩ | ⟨hstate, n, hr⟩
  · exact Or.inl ⟨hstate, n, hr.answers h⟩
  · exact Or.inr ⟨hstate, n, hr.answers h⟩

/-- Hanging up ends the run under a new generation, if there is a voice run to hang up. -/
theorem endCall_spec (h : s.IsPassive) :
    (s.canHangUp = false ∧ s.endCall = (s, false)) ∨
      s.canHangUp = true ∧ s.endCall.2 = true ∧
        Calm { s with generation := s.generation + 1 } s.endCall.1 ∧
        s.endCall.1.run.stance = { s.run.stance.finished .success with waiting := none } := by
  unfold endCall endCallWith
  cases hcan : s.canHangUp with
  | false => exact Or.inl ⟨rfl, rfl⟩
  | true =>
    let s0 := { s.setRun fun r => { r with waiting := none } with generation := s.generation + 1 }
    have hpassive : IsPassive s0 := h
    have hquiet : Quiet s0 s0.hangUp := quiet_hangUp hpassive
    refine Or.inr ⟨rfl, rfl, ?_, ?_⟩
    · exact ⟨hquiet.passive, hquiet.generation, hquiet.now⟩
    · change (s0.hangUp.finish .success).run.stance = _
      rw [stance_finish, hquiet.stance]
      rfl

end Session

end Dialogue
