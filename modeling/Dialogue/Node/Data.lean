-- What each kind of node holds. Kinds of one family hold the same fields, and every kind has a
-- label.
import Dialogue.Json.Depth
import Dialogue.Node.Kind

namespace Dialogue

/-! ## Shapes -/

structure PlainData where
  label : String := ""
  deriving DecidableEq

structure MessageData where
  label : String := ""
  content : String := ""
  deriving DecidableEq

/-- The two targets are taken where no edge bears the branch. -/
structure ConditionData where
  label : String := ""
  subject : String := ""
  operator : String := "equals"
  value : String := ""
  yesTo : Option String := none
  noTo : Option String := none
  deriving DecidableEq

structure ApiCallData where
  label : String := ""
  method : String := "GET"
  url : String := ""
  headers : List (String × String) := []
  body : Option String := none
  deriving DecidableEq

/-- A choice on the keypad. -/
structure KeyBranch where
  key : String
  label : String
  target : Option String := none
  deriving DecidableEq

structure DtmfData where
  label : String := ""
  prompt : String := ""
  timeout : Int := 10
  maxDigits : Int := 1
  branches : List KeyBranch := []
  deriving DecidableEq

structure AssistantData where
  label : String := ""
  personaId : String := ""
  personaName : String := ""
  handoff : Option String := none
  deriving DecidableEq

structure TransferData where
  label : String := ""
  transferTo : String := ""
  deriving DecidableEq

structure ChannelData where
  label : String := ""
  recipient : String := ""
  template : String := ""
  channel : String := ""
  deriving DecidableEq

structure TicketData where
  label : String := ""
  action : String := "create"
  subject : String := ""
  priority : String := "medium"
  assignee : Option String := none
  tags : Option String := none
  deriving DecidableEq

structure CrmData where
  label : String := ""
  action : String := "create_contact"
  objectType : String := "contact"
  fieldMapping : Option String := none
  deriving DecidableEq

/-- The data of a node, which also says of which kind the node is. -/
inductive NodeData where
  | start (d : PlainData)
  | finish (d : PlainData)
  | message (d : MessageData)
  | condition (d : ConditionData)
  | apiCall (d : ApiCallData)
  | dtmf (d : DtmfData)
  | assistant (d : AssistantData)
  | transfer (d : TransferData)
  | channel (app : ChatApp) (d : ChannelData)
  | ticket (desk : HelpDesk) (d : TicketData)
  | crm (base : CustomerBase) (d : CrmData)
  deriving DecidableEq

namespace NodeData

def kind : NodeData → NodeKind
  | start _ => .start
  | finish _ => .finish
  | message _ => .message
  | condition _ => .condition
  | apiCall _ => .apiCall
  | dtmf _ => .dtmf
  | assistant _ => .assistant
  | transfer _ => .transfer
  | channel app _ => .channel app
  | ticket desk _ => .ticket desk
  | crm base _ => .crm base

def label : NodeData → String
  | start d | finish d => d.label
  | message d => d.label
  | condition d => d.label
  | apiCall d => d.label
  | dtmf d => d.label
  | assistant d => d.label
  | transfer d => d.label
  | channel _ d => d.label
  | ticket _ d => d.label
  | crm _ d => d.label

end NodeData

/-! ## Writing -/

def KeyBranch.toJson (b : KeyBranch) : Json :=
  .obj [("key", .str b.key), ("label", .str b.label), ("target_node_id", .ofOption b.target)]

/-- All fields of the data, each once. -/
def NodeData.fields : NodeData → Fields
  | .start d | .finish d => [("label", .str d.label)]
  | .message d => [("label", .str d.label), ("content", .str d.content)]
  | .condition d =>
    [("label", .str d.label), ("variable", .str d.subject), ("operator", .str d.operator),
      ("value", .str d.value), ("yes_connection", .ofOption d.yesTo),
      ("no_connection", .ofOption d.noTo)]
  | .apiCall d =>
    [("label", .str d.label), ("method", .str d.method), ("url", .str d.url),
      ("headers", .obj (d.headers.map fun h => (h.1, .str h.2))), ("body", .ofOption d.body)]
  | .dtmf d =>
    [("label", .str d.label), ("prompt", .str d.prompt), ("timeout", .int d.timeout),
      ("max_digits", .int d.maxDigits), ("branches", .arr (d.branches.map KeyBranch.toJson))]
  | .assistant d =>
    [("label", .str d.label), ("persona_id", .str d.personaId),
      ("persona_name", .str d.personaName), ("handoff_condition", .ofOption d.handoff)]
  | .transfer d => [("label", .str d.label), ("transfer_to", .str d.transferTo)]
  | .channel _ d =>
    [("label", .str d.label), ("recipient_id", .str d.recipient),
      ("message_template", .str d.template), ("channel", .str d.channel)]
  | .ticket _ d =>
    [("label", .str d.label), ("action", .str d.action), ("subject", .str d.subject),
      ("priority", .str d.priority), ("assignee", .ofOption d.assignee), ("tags", .ofOption d.tags)]
  | .crm _ d =>
    [("label", .str d.label), ("action", .str d.action), ("object_type", .str d.objectType),
      ("field_mapping", .ofOption d.fieldMapping)]

def NodeData.toJson (d : NodeData) : Json := .obj d.fields

/-! ## Reading -/

namespace Fields

def text (fields : Fields) (key : String) (default : String := "") : Checked String :=
  optional fields key default Json.checkText

def optionalText (fields : Fields) (key : String) : Checked (Option String) :=
  optional fields key none Json.checkOptionalText

end Fields

def KeyBranch.check : Json → Checked KeyBranch
  | .obj fs =>
    (fun key label target _ => ⟨key, label, target⟩)
      <$> Fields.required fs "key" Json.checkText
      <*> Fields.required fs "label" Json.checkText
      <*> Fields.optionalText fs "target_node_id"
      <*> Fields.onlyKnown fs ["key", "label", "target_node_id"]
  | _ => .refuse .notRecord

def PlainData.check (fs : Fields) : Checked PlainData := PlainData.mk <$> Fields.text fs "label"

def MessageData.check (fs : Fields) : Checked MessageData :=
  MessageData.mk <$> Fields.text fs "label" <*> Fields.text fs "content"

def ConditionData.check (fs : Fields) : Checked ConditionData :=
  ConditionData.mk <$> Fields.text fs "label" <*> Fields.text fs "variable"
    <*> Fields.text fs "operator" "equals" <*> Fields.text fs "value"
    <*> Fields.optionalText fs "yes_connection" <*> Fields.optionalText fs "no_connection"

def ApiCallData.check (fs : Fields) : Checked ApiCallData :=
  ApiCallData.mk <$> Fields.text fs "label" <*> Fields.text fs "method" "GET"
    <*> Fields.text fs "url" <*> Fields.optional fs "headers" [] (Json.checkObject Json.checkText)
    <*> Fields.optionalText fs "body"

def DtmfData.check (fs : Fields) : Checked DtmfData :=
  DtmfData.mk <$> Fields.text fs "label" <*> Fields.text fs "prompt"
    <*> Fields.optional fs "timeout" 10 (Json.checkAtLeast 1)
    <*> Fields.optional fs "max_digits" 1 (Json.checkAtLeast 1)
    <*> Fields.optional fs "branches" [] (Json.checkList KeyBranch.check)

def AssistantData.check (fs : Fields) : Checked AssistantData :=
  AssistantData.mk <$> Fields.text fs "label" <*> Fields.text fs "persona_id"
    <*> Fields.text fs "persona_name" <*> Fields.optionalText fs "handoff_condition"

def TransferData.check (fs : Fields) : Checked TransferData :=
  TransferData.mk <$> Fields.text fs "label" <*> Fields.text fs "transfer_to"

def ChannelData.check (fs : Fields) : Checked ChannelData :=
  ChannelData.mk <$> Fields.text fs "label" <*> Fields.text fs "recipient_id"
    <*> Fields.text fs "message_template" <*> Fields.text fs "channel"

def TicketData.check (fs : Fields) : Checked TicketData :=
  TicketData.mk <$> Fields.text fs "label" <*> Fields.text fs "action" "create"
    <*> Fields.text fs "subject" <*> Fields.text fs "priority" "medium"
    <*> Fields.optionalText fs "assignee" <*> Fields.optionalText fs "tags"

def CrmData.check (fs : Fields) : Checked CrmData :=
  CrmData.mk <$> Fields.text fs "label" <*> Fields.text fs "action" "create_contact"
    <*> Fields.text fs "object_type" "contact" <*> Fields.optionalText fs "field_mapping"

namespace NodeKind

/-- The name of the shape that the kind's data has. -/
def shape : NodeKind → String
  | start | finish => "NodeData"
  | message => "MessageData"
  | condition => "ConditionData"
  | apiCall => "ApiCallData"
  | dtmf => "DtmfData"
  | assistant => "AssistantData"
  | transfer => "TransferData"
  | channel _ => "ChannelData"
  | ticket _ => "TicketData"
  | crm _ => "CrmData"

/-- The data of a kind with every field at its default. -/
def emptyData : NodeKind → NodeData
  | start => .start ⟨""⟩
  | finish => .finish ⟨""⟩
  | message => .message ⟨"", ""⟩
  | condition => .condition ⟨"", "", "equals", "", none, none⟩
  | apiCall => .apiCall ⟨"", "GET", "", [], none⟩
  | dtmf => .dtmf ⟨"", "", 10, 1, []⟩
  | assistant => .assistant ⟨"", "", "", none⟩
  | transfer => .transfer ⟨"", ""⟩
  | channel app => .channel app ⟨"", "", "", ""⟩
  | ticket desk => .ticket desk ⟨"", "create", "", "medium", none, none⟩
  | crm base => .crm base ⟨"", "create_contact", "contact", none⟩

/-- The names of the fields of a kind. -/
def fieldNames (k : NodeKind) : List String := k.emptyData.fields.map (·.1)

/-- The fields checked against the shape of the kind. -/
def checkData (k : NodeKind) (fs : Fields) : Checked NodeData :=
  match k with
  | start => NodeData.start <$> PlainData.check fs
  | finish => NodeData.finish <$> PlainData.check fs
  | message => NodeData.message <$> MessageData.check fs
  | condition => NodeData.condition <$> ConditionData.check fs
  | apiCall => NodeData.apiCall <$> ApiCallData.check fs
  | dtmf => NodeData.dtmf <$> DtmfData.check fs
  | assistant => NodeData.assistant <$> AssistantData.check fs
  | transfer => NodeData.transfer <$> TransferData.check fs
  | channel app => NodeData.channel app <$> ChannelData.check fs
  | ticket desk => NodeData.ticket desk <$> TicketData.check fs
  | crm base => NodeData.crm base <$> CrmData.check fs

end NodeKind

/-- The names in order, each once. -/
def sortedNames (names : List String) : List String :=
  names.eraseDups.mergeSort (fun a b => !(b < a))

def invalidData (k : NodeKind) (complaints : List Complaint) : Fault :=
  .badValue ("Invalid " ++ k.shape ++ ": " ++ "; ".intercalate (reported complaints))

/-- Reads the data of a kind of node. Names that the kind does not know are refused first, and they
are looked for in whatever can be gone through. Then a copy is made, for which there must be room,
and only after that is anything else checked. -/
def NodeData.ofJson (room : Nat) (k : NodeKind) (j : Json) : Outcome NodeData :=
  match j.elements? with
  | none => .error .wrongKind
  | some names =>
    if names.any (fun n => !n.isKey) then .error .wrongKind
    else
      let unknown := names.filter fun n => !(n.str?.any k.fieldNames.contains)
      if unknown.any (fun n => n.str?.isNone) then .error .wrongKind
      else if !unknown.isEmpty then
        .error (.badValue ("Unknown field(s) for " ++ k.shape ++ ": "
          ++ ", ".intercalate (sortedNames (unknown.filterMap Json.str?))))
      else if room < j.copyDepth + 1 then .error .tooDeep
      else
        match j with
        | .obj fs =>
          match k.checkData fs with
          | .good d => .ok d
          | .bad complaints => .error (invalidData k complaints)
        | _ => .error (invalidData k [⟨[], .notRecord⟩])

end Dialogue
