-- The kinds of nodes a flow is built from, and the categories they are listed under.
import Dialogue.Fault

namespace Dialogue

inductive Category where
  | flow
  | channels
  | ticketing
  | crm
  deriving DecidableEq

namespace Category

def all : List Category := [flow, channels, ticketing, crm]

def word : Category → String
  | flow => "flow"
  | channels => "channels"
  | ticketing => "ticketing"
  | crm => "crm"

def ofWord? (s : String) : Option Category := all.find? (·.word == s)

def ofJson : Json → Outcome Category := listed "NodeCategory" ofWord?

end Category

/-- The chat applications a message can be sent through. -/
inductive ChatApp where
  | whatsapp
  | slack
  | telegram
  | teams
  deriving DecidableEq

/-- The help desks a ticket can be opened at. -/
inductive HelpDesk where
  | zendesk
  | freshdesk
  deriving DecidableEq

/-- The customer records that can be written to. -/
inductive CustomerBase where
  | salesforce
  | hubspot
  | zoho
  deriving DecidableEq

inductive NodeKind where
  | start
  | message
  | condition
  | apiCall
  | dtmf
  | assistant
  | transfer
  | finish
  | channel (app : ChatApp)
  | ticket (desk : HelpDesk)
  | crm (base : CustomerBase)
  deriving DecidableEq

namespace NodeKind

/-- All kinds, in the order they are offered. -/
def all : List NodeKind :=
  [start, message, condition, apiCall, dtmf, assistant, transfer, finish,
    channel .whatsapp, channel .slack, channel .telegram, channel .teams,
    ticket .zendesk, ticket .freshdesk, crm .salesforce, crm .hubspot, crm .zoho]

def word : NodeKind → String
  | start => "start"
  | message => "message"
  | condition => "condition"
  | apiCall => "api_call"
  | dtmf => "dtmf"
  | assistant => "assistant"
  | transfer => "transfer"
  | finish => "end"
  | channel .whatsapp => "whatsapp"
  | channel .slack => "slack"
  | channel .telegram => "telegram"
  | channel .teams => "teams"
  | ticket .zendesk => "zendesk"
  | ticket .freshdesk => "freshdesk"
  | crm .salesforce => "salesforce"
  | crm .hubspot => "hubspot"
  | crm .zoho => "zoho_crm"

def ofWord? (s : String) : Option NodeKind := all.find? (·.word == s)

def ofJson : Json → Outcome NodeKind := listed "NodeType" ofWord?

theorem mem_all (k : NodeKind) : k ∈ all := by
  cases k with
  | channel app => cases app <;> decide
  | ticket desk => cases desk <;> decide
  | crm base => cases base <;> decide
  | _ => decide

theorem ofWord?_word (k : NodeKind) : ofWord? k.word = some k := by
  cases k with
  | channel app => cases app <;> decide
  | ticket desk => cases desk <;> decide
  | crm base => cases base <;> decide
  | _ => decide

end NodeKind

end Dialogue
