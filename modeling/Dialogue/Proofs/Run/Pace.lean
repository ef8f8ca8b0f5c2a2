-- Labs that differ in pace. Everything goes the same way in both, but it may take another time.
import Dialogue.Service
import Mathlib.Data.Option.Basic

namespace Dialogue

/-! ## Settings that differ in pace -/

/-- Both pauses are spans of time, or neither is. -/
inductive SamePause : Outcome Nat → Outcome Nat → Prop
  | spans (us us' : Nat) : SamePause (.ok us) (.ok us')
  | none (fault fault' : Fault) : SamePause (.error fault) (.error fault')

/-- What takes its time in a run. -/
inductive Latency where
  | stepDelay
  | callConnect
  | message
  | inputEval
  | apiCall
  | assistant
  | voiceTransfer
  | chatTransfer
  | channelSend
  | ticket
  | crm
  | callEnd

namespace SimulationSettings

/-- How long it takes, before it is scaled. -/
def latency (s : SimulationSettings) : Latency → Float
  | .stepDelay => s.stepDelay
  | .callConnect => s.callConnect
  | .message => s.message
  | .inputEval => s.inputEval
  | .apiCall => s.apiCall
  | .assistant => s.assistant
  | .voiceTransfer => s.voiceTransfer
  | .chatTransfer => s.chatTransfer
  | .channelSend => s.channelSend
  | .ticket => s.ticket
  | .crm => s.crm
  | .callEnd => s.callEnd

/-- The settings differ only in their scale and in how long things take. What is a span of time in
one is a span of time in the other. -/
structure DifferInPace (s s' : SimulationSettings) : Prop where
  apiFailureRate : s'.apiFailureRate = s.apiFailureRate
  maxSteps : s'.maxSteps = s.maxSteps
  pauses : ∀ l, SamePause (s.span (s.latency l)) (s'.span (s'.latency l))

end SimulationSettings

theorem SamePause.refl (x : Outcome Nat) : SamePause x x := by
  cases x with
  | ok us => exact .spans us us
  | error fault => exact .none fault fault

/-- The effects go the same way but for how long they take. -/
structure Effect.DifferInPace (e e' : Effect) : Prop where
  span : ∀ n c, Option.Rel SamePause (e.span n c) (e'.span n c)
  act : e'.act = e.act

/-- Labs in which all goes the same way but for how long it takes. -/
structure Lab.DifferInPace (lab lab' : Lab) : Prop where
  settings : lab.settings.DifferInPace lab'.settings
  palette : lab'.palette = lab.palette
  room : lab'.room = lab.room
  effects : ∀ k, (lab.effects k).DifferInPace (lab'.effects k)

namespace Effect.DifferInPace

theorem refl (e : Effect) : e.DifferInPace e where
  span n c := by
    cases e.span n c with
    | none => exact .none
    | some span => exact .some (.refl span)
  act := rfl

theorem pauses {e e' : Effect} (h : e.DifferInPace e') {n : Node} {c : Option Channel}
    {span span' : Outcome Nat} (hspan : e.span n c = some span)
    (hspan' : e'.span n c = some span') : SamePause span span' := by
  have hrel := h.span n c
  rw [hspan, hspan'] at hrel
  cases hrel with
  | some hpause => exact hpause

theorem after {span span' : Outcome Nat} (h : SamePause span span')
    (act : Node → Option Channel → Dice → Bool × String × Dice) :
    (Effect.after span act).DifferInPace (Effect.after span' act) :=
  ⟨fun _ _ => .some h, rfl⟩

end Effect.DifferInPace

namespace SimulationSettings.DifferInPace

variable {s s' : SimulationSettings} (h : s.DifferInPace s')

include h

theorem transfer : (Effect.transfer s).DifferInPace (Effect.transfer s') where
  span n c := by
    refine .some ?_
    split
    · exact h.pauses .voiceTransfer
    · exact h.pauses .chatTransfer
  act := rfl

theorem apiCall : (Effect.apiCall s).DifferInPace (Effect.apiCall s') := by
  unfold Effect.apiCall
  rw [h.apiFailureRate]
  exact .after (h.pauses .apiCall) _

theorem assistant : (Effect.assistant s).DifferInPace (Effect.assistant s') := by
  unfold Effect.assistant
  exact .after (h.pauses .assistant) _

theorem channelSend (p : Palette) :
    (Effect.channelSend s p).DifferInPace (Effect.channelSend s' p) := by
  unfold Effect.channelSend
  exact .after (h.pauses .channelSend) _

theorem ticket : (Effect.ticket s).DifferInPace (Effect.ticket s') := by
  unfold Effect.ticket
  exact .after (h.pauses .ticket) _

theorem crm : (Effect.crm s).DifferInPace (Effect.crm s') := by
  unfold Effect.crm
  exact .after (h.pauses .crm) _

theorem simulated (p : Palette) (k : NodeKind) :
    (Effects.simulated s p k).DifferInPace (Effects.simulated s' p k) := by
  cases k with
  | apiCall => exact h.apiCall
  | assistant => exact h.assistant
  | transfer => exact h.transfer
  | channel app => exact h.channelSend p
  | ticket desk => exact h.ticket
  | crm base => exact h.crm
  | start | message | condition | dtmf | finish => exact .refl _

end SimulationSettings.DifferInPace

theorem Effects.differInPace_foldl (given : List (NodeKind × Effect)) {effects effects' : Effects}
    (h : ∀ k, (effects k).DifferInPace (effects' k)) (k : NodeKind) :
    (given.foldl (fun all e => Effects.replace all e.1 e.2) effects k).DifferInPace
      (given.foldl (fun all e => Effects.replace all e.1 e.2) effects' k) := by
  induction given generalizing effects effects' with
  | nil => exact h k
  | cons e rest ih =>
    refine ih fun k => ?_
    unfold Effects.replace
    dsimp only
    split
    · exact .refl e.2
    · exact h k

/-- Studios that differ only in the pace of their settings have labs that differ only in pace. -/
theorem Studio.differInPace {settings settings' : Settings}
    (h : settings.simulation.DifferInPace settings'.simulation) (palette : Palette)
    (effects : List (NodeKind × Effect)) (dice : Dice) (room : Room) :
    (Studio.fresh settings palette effects dice room).lab.DifferInPace
      (Studio.fresh settings' palette effects dice room).lab :=
  ⟨h, rfl, rfl, Effects.differInPace_foldl effects (h.simulated palette)⟩

end Dialogue
