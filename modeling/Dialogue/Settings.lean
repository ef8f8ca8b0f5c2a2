-- What can be set: how new flows look, how versions are labelled, and how a test run behaves.
import Dialogue.Checked

namespace Dialogue

structure CanvasSettings where
  /-- Where the start node of a new flow stands. -/
  startPosition : List (String × Float) := [("x", 400.0), ("y", 50.0)]
  /-- How far a duplicate stands from its node, in both directions. -/
  duplicateOffset : Float := 40.0
  maxNodes : Int := 500

structure VersioningSettings where
  initialVersion : String := "0.1"
  defaultAuthor : String := "system"

/-- Pauses are in seconds, before they are scaled. -/
structure SimulationSettings where
  latencyScale : Float := 1.0
  stepDelay : Float := 0.4
  callConnect : Float := 1.5
  message : Float := 0.8
  inputEval : Float := 0.3
  apiCall : Float := 1.2
  assistant : Float := 1.8
  voiceTransfer : Float := 1.5
  chatTransfer : Float := 0.8
  channelSend : Float := 0.8
  ticket : Float := 1.0
  crm : Float := 1.0
  callEnd : Float := 0.5
  /-- How often a simulated request fails, from never (0) to always (1). -/
  apiFailureRate : Float := 0.1
  /-- The most nodes that one run visits. -/
  maxSteps : Nat := 1000

structure Settings where
  serviceName : String := "flow-builder"
  host : String := "0.0.0.0"
  port : Int := 8091
  debug : Bool := false
  logLevel : String := "info"
  corsOrigins : List String := ["http://localhost:3000", "http://127.0.0.1:3000"]
  canvas : CanvasSettings := {}
  versioning : VersioningSettings := {}
  simulation : SimulationSettings := {}

/-! ## Writing -/

def CanvasSettings.toJson (s : CanvasSettings) : Json :=
  .obj [("start_position", .obj (s.startPosition.map fun p => (p.1, .float p.2))),
    ("duplicate_offset", .float s.duplicateOffset), ("max_nodes_per_flow", .int s.maxNodes)]

def VersioningSettings.toJson (s : VersioningSettings) : Json :=
  .obj [("initial_version", .str s.initialVersion), ("default_author", .str s.defaultAuthor)]

def SimulationSettings.toJson (s : SimulationSettings) : Json :=
  .obj [("latency_scale", .float s.latencyScale), ("step_delay_s", .float s.stepDelay),
    ("call_connect_s", .float s.callConnect), ("message_s", .float s.message),
    ("input_eval_s", .float s.inputEval), ("api_call_s", .float s.apiCall),
    ("assistant_s", .float s.assistant), ("voice_transfer_s", .float s.voiceTransfer),
    ("chat_transfer_s", .float s.chatTransfer), ("channel_send_s", .float s.channelSend),
    ("ticket_s", .float s.ticket), ("crm_s", .float s.crm), ("call_end_s", .float s.callEnd),
    ("api_failure_rate", .float s.apiFailureRate), ("max_steps", .int s.maxSteps)]

def Settings.toJson (s : Settings) : Json :=
  .obj [("service_name", .str s.serviceName), ("host", .str s.host), ("port", .int s.port),
    ("debug", .bool s.debug), ("log_level", .str s.logLevel),
    ("cors_origins", .arr (s.corsOrigins.map .str)), ("canvas", s.canvas.toJson),
    ("versioning", s.versioning.toJson), ("simulation", s.simulation.toJson)]

/-! ## Checking -/

/-- A number from zero to one. What is no number at all counts as above. -/
def Json.checkShare (j : Json) : Checked Float :=
  j.checkFloat.andThen fun x =>
    if x <= 1.0 then if x >= 0.0 then .good x else .refuse .belowLeast else .refuse .aboveMost

def Json.checkScale (j : Json) : Checked Float :=
  j.checkFloat.andThen fun x => if x >= 0.0 then .good x else .refuse .belowLeast

def Json.checkPort (j : Json) : Checked Int :=
  j.checkWhole.andThen fun n =>
    if n > 65535 then .refuse .aboveMost else if n < 1024 then .refuse .belowLeast else .good n

namespace CanvasSettings

def names : List String := ["start_position", "duplicate_offset", "max_nodes_per_flow"]

def check (fs : Fields) : Checked CanvasSettings :=
  let base : CanvasSettings := {}
  (fun startPosition duplicateOffset maxNodes _ => { startPosition, duplicateOffset, maxNodes })
    <$> Fields.optional fs "start_position" base.startPosition (Json.checkObject Json.checkFloat)
    <*> Fields.optional fs "duplicate_offset" base.duplicateOffset Json.checkFloat
    <*> Fields.optional fs "max_nodes_per_flow" base.maxNodes Json.checkWhole
    <*> Fields.onlyKnown fs names

end CanvasSettings

namespace VersioningSettings

def names : List String := ["initial_version", "default_author"]

def check (fs : Fields) : Checked VersioningSettings :=
  let base : VersioningSettings := {}
  (fun initialVersion defaultAuthor _ => { initialVersion, defaultAuthor })
    <$> Fields.optional fs "initial_version" base.initialVersion Json.checkText
    <*> Fields.optional fs "default_author" base.defaultAuthor Json.checkText
    <*> Fields.onlyKnown fs names

end VersioningSettings

namespace SimulationSettings

def names : List String :=
  ["latency_scale", "step_delay_s", "call_connect_s", "message_s", "input_eval_s", "api_call_s",
    "assistant_s", "voice_transfer_s", "chat_transfer_s", "channel_send_s", "ticket_s", "crm_s",
    "call_end_s", "api_failure_rate", "max_steps"]

def check (fs : Fields) : Checked SimulationSettings :=
  let base : SimulationSettings := {}
  let pause (key : String) (default : Float) : Checked Float :=
    Fields.optional fs key default Json.checkFloat
  (fun latencyScale stepDelay callConnect message inputEval apiCall assistant voiceTransfer
      chatTransfer channelSend ticket crm callEnd apiFailureRate (maxSteps : Int) _ =>
    { latencyScale, stepDelay, callConnect, message, inputEval, apiCall, assistant, voiceTransfer,
      chatTransfer, channelSend, ticket, crm, callEnd, apiFailureRate, maxSteps := maxSteps.toNat })
    <$> Fields.optional fs "latency_scale" base.latencyScale Json.checkScale
    <*> pause "step_delay_s" base.stepDelay
    <*> pause "call_connect_s" base.callConnect
    <*> pause "message_s" base.message
    <*> pause "input_eval_s" base.inputEval
    <*> pause "api_call_s" base.apiCall
    <*> pause "assistant_s" base.assistant
    <*> pause "voice_transfer_s" base.voiceTransfer
    <*> pause "chat_transfer_s" base.chatTransfer
    <*> pause "channel_send_s" base.channelSend
    <*> pause "ticket_s" base.ticket
    <*> pause "crm_s" base.crm
    <*> pause "call_end_s" base.callEnd
    <*> Fields.optional fs "api_failure_rate" base.apiFailureRate Json.checkShare
    <*> Fields.optional fs "max_steps" base.maxSteps (Json.checkAtLeast 1)
    <*> Fields.onlyKnown fs names

end SimulationSettings

end Dialogue
