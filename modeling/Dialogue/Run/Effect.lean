-- What a node does outside the conversation. In a test run nothing is really done: an effect takes
-- some time, and then it tells how it went.
import Dialogue.Run.Event
import Dialogue.Settings

namespace Dialogue

/-! ## Chance -/

/-- Numbers drawn in turn from a list, again from the front when it is used up. -/
structure Dice where
  draws : List Int := [5000]
  used : Nat := 0

namespace Dice

/-- Dice with the given draws. Where none are given, every draw is the usual one. -/
def ofDraws (draws : List Int) : Dice := if draws.isEmpty then {} else { draws }

def roll (d : Dice) : Int × Dice :=
  (d.draws.getD (d.used % d.draws.length) 0, { d with used := d.used + 1 })

/-- A share between zero and one. -/
def share (d : Dice) : Float × Dice :=
  let (n, d) := d.roll
  (floatOfInt (n.emod 10000) / 10000.0, d)

/-- A number from a first one on, out of so many. -/
def number (d : Dice) (first count : Nat) : Nat × Dice :=
  let (n, d) := d.roll
  (first + (n.emod count).toNat, d)

/-- So many characters of an alphabet, each from a draw of its own. -/
def letters (alphabet : List Char) : Nat → Dice → List Char × Dice
  | 0, d => ([], d)
  | count + 1, d =>
    let (k, d) := d.number 0 alphabet.length
    let (rest, d) := letters alphabet count d
    (alphabet.getD k 'A' :: rest, d)

end Dice

/-! ## Effects -/

/-- How an effect went. -/
structure EffectResult where
  success : Bool
  /-- What is told of it, which need not be a text. -/
  detail : Json

/-- An effect sees nothing of a run but its node and its channel, and it touches nothing of it before it
has come to its result. One that sleeps several times leaves all as it is in between, so its sleeps
stand here as a single span, whose end is the end of the last one. -/
structure Effect where
  /-- How long it takes, in microseconds, if it takes any time. -/
  span : Node → Option Channel → Option (Outcome Nat)
  /-- How it goes when its time is over: a result, or the reason why there is none. -/
  act : Node → Option Channel → Dice → Outcome EffectResult × Dice

/-- The effect of each kind of node that has one. -/
abbrev Effects := NodeKind → Effect

namespace SimulationSettings

/-- The length of a pause. -/
def span (s : SimulationSettings) (seconds : Float) : Outcome Nat :=
  Clock.spanOf (seconds * s.latencyScale)

end SimulationSettings

/-- The target of a transfer that names none. -/
def defaultTarget : String := "Agent"

/-- The text, or another one if it is empty. -/
def orElse (s other : String) : String := if s == "" then other else s

def NodeData.transferTarget : NodeData → String
  | .transfer d => orElse d.transferTo defaultTarget
  | _ => defaultTarget

def assistantLines : List String :=
  ["I understand your concern. Let me help you with that right away.",
    "Based on your account information, I can see the details you need.",
    "I've reviewed your request and here's what I found.",
    "Thank you for your patience. I have the information ready for you."]

def recordAlphabet : List Char := "ABCDEFGHIJKLMNOPQRSTUVWXYZ0123456789".toList

namespace Effect

/-- An effect that takes some time and then tells of a success or a failure. -/
def after (span : Outcome Nat) (act : Node → Option Channel → Dice → Bool × String × Dice) :
    Effect where
  span _ _ := some span
  act n c d :=
    let (success, detail, d) := act n c d
    (.ok ⟨success, .str detail⟩, d)

/-- A request that fails as often as the settings say. -/
def apiCall (s : SimulationSettings) : Effect :=
  after (s.span s.apiCall) fun _ _ d =>
    let (share, d) := d.share
    if share < s.apiFailureRate then
      let (ms, d) := d.number 500 1000
      (false, "API Response: 500 Internal Server Error (" ++ toString ms ++ "ms)", d)
    else
      let (ms, d) := d.number 50 300
      (true, "API Response: 200 OK (" ++ toString ms
        ++ "ms)\nResponse: \x7b\"status\": \"success\", \"data\": \x7b\x7d\x7d", d)

def assistant (s : SimulationSettings) : Effect :=
  after (s.span s.assistant) fun _ _ d =>
    let (k, d) := d.number 0 assistantLines.length
    (true, assistantLines.getD k "", d)

def transfer (s : SimulationSettings) : Effect where
  span _ c := some (s.span (if c == some .voice then s.voiceTransfer else s.chatTransfer))
  act n c d :=
    let target := n.data.transferTarget
    (.ok ⟨true, .str ((if c == some .voice then "Call transferred to " else "Transferred to ")
      ++ target)⟩, d)

def channelSend (s : SimulationSettings) (p : Palette) : Effect :=
  after (s.span s.channelSend) fun n _ d =>
    (true, (p.current n.kind).name.text ++ " message delivered", d)

def ticket (s : SimulationSettings) : Effect :=
  after (s.span s.ticket) fun _ _ d =>
    let (number, d) := d.number 10000 90000
    (true, "Ticket #" ++ toString number ++ " created successfully", d)

def crm (s : SimulationSettings) : Effect :=
  after (s.span s.crm) fun _ _ d =>
    let (record, d) := d.letters recordAlphabet 8
    (true, "CRM record updated (ID: " ++ String.ofList record ++ ")", d)

/-- An effect that always goes the same way. -/
def fixed (span : Option (Outcome Nat)) (result : Outcome EffectResult) : Effect where
  span _ _ := span
  act _ _ d := (result, d)

/-- The time that an effect takes by its plan, if it takes any. It is not scaled. -/
def plannedSpan (plan : Fields) : Option (Outcome Nat) :=
  (plan.lookup "delay").map Clock.spanOfNumber

/-- How an effect goes by its plan. It breaks off if the plan says so, and else the plan must say
whether it succeeds, and what it tells. -/
def plannedResult (plan : Fields) : Outcome EffectResult :=
  match plan.lookup "raise" with
  | some reason => .error (.brokeOff reason.text)
  | none => do
    let success ← Json.need plan "success"
    let detail ← Json.need plan "detail"
    return ⟨success.isPresent, detail⟩

/-- An effect that goes by a plan. What is no plan is found out when the effect should act. -/
def planned : Json → Effect
  | .obj plan => fixed (plannedSpan plan) (plannedResult plan)
  | _ => fixed none (.error .wrongKind)

end Effect

/-- The simulated effects. A kind without an effect of its own does nothing and takes no time. -/
def Effects.simulated (s : SimulationSettings) (p : Palette) : Effects
  | .apiCall => .apiCall s
  | .assistant => .assistant s
  | .transfer => .transfer s
  | .channel _ => .channelSend s p
  | .ticket _ => .ticket s
  | .crm _ => .crm s
  | .start | .message | .condition | .dtmf | .finish => .fixed none (.ok ⟨true, .str ""⟩)

/-- Another effect for one kind. -/
def Effects.replace (effects : Effects) (kind : NodeKind) (effect : Effect) : Effects :=
  fun k => if k == kind then effect else effects k

end Dialogue
