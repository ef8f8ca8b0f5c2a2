-- The palette of node definitions. Each kind has one definition, the last that was registered for
-- it. The definitions also stand on shelves, one for each category, in the order they were put
-- there.
import Dialogue.Node.Data

namespace Dialogue

structure Definition where
  kind : NodeKind
  category : Category
  name : Json
  description : Json := .str ""
  icon : Json := .str ""
  /-- The fields of a new node of the kind that are not empty. -/
  defaults : Json := .obj []

namespace Definition

/-- The data of a new node. Its label names the kind, unless the defaults give another. Defaults
that there is no room to copy are a fault before anything else. -/
def newData (room : Nat) (d : Definition) : Outcome NodeData :=
  if room < d.defaults.copyDepth + 1 then .error .tooDeep
  else
    match d.defaults with
    | .obj fs =>
      NodeData.ofJson (room - 1) d.kind
        (.obj (Fields.merge [("label", .str ("New " ++ d.name.text))] fs))
    | _ => .error .wrongKind

def toJson (room : Nat) (d : Definition) : Outcome Json := do
  let data ← d.newData (room - 1)
  return .obj [("type", .str d.kind.word), ("category", .str d.category.word),
    ("name", d.name), ("description", d.description), ("icon", d.icon),
    ("properties", .arr (d.kind.fieldNames.map .str)), ("defaults", data.toJson)]

end Definition

/-! ## The standard definitions -/

def keyBranch (key label : String) : Json := .obj [("key", .str key), ("label", .str label)]

def channelDefaults (channel : String) : Fields :=
  [("channel", .str channel), ("message_template", .str "Message template")]

def ticketDefaults : Fields :=
  [("action", .str "create"), ("subject", .str "New Ticket"), ("priority", .str "medium")]

def crmDefaults : Fields := [("action", .str "create_contact"), ("object_type", .str "contact")]

/-- A standard definition, apart from its kind. -/
structure Entry where
  category : Category := .flow
  name : String
  icon : String
  description : String
  defaults : Fields

def standardEntry (kind : NodeKind) : Entry :=
  match kind with
  | .start =>
    { name := "Start", icon := "▶️",
      description := "Entry point of the conversation",
      defaults := [("label", .str "Start")] }
  | .message =>
    { name := "Message", icon := "💬",
      description := "Send a message to the user (spoken on voice)",
      defaults := [("content", .str "Enter your message here...")] }
  | .condition =>
    { name := "Condition", icon := "🔀",
      description := "Branch on the user's reply (Yes / No)",
      defaults := [("variable", .str ""), ("operator", .str "equals"), ("value", .str "")] }
  | .apiCall =>
    { name := "API Call", icon := "🔌",
      description := "Call an external HTTP API",
      defaults := [("method", .str "GET"), ("url", .str "")] }
  | .dtmf =>
    { name := "DTMF Input", icon := "🔢",
      description := "Collect keypad digits from the caller",
      defaults := [("prompt", .str "Please enter your selection"), ("timeout", .int 10),
        ("max_digits", .int 1),
        ("branches", .arr [keyBranch "1" "Option 1", keyBranch "2" "Option 2",
          keyBranch "0" "Operator"])] }
  | .assistant =>
    { name := "AI Assistant", icon := "🤖",
      description := "Hand the conversation to an AI persona",
      defaults := [("persona_id", .str ""), ("persona_name", .str "")] }
  | .transfer =>
    { name := "Transfer", icon := "👤",
      description := "Transfer the conversation to a human agent or queue",
      defaults := [("transfer_to", .str "Agent")] }
  | .finish =>
    { name := "End", icon := "⏹️",
      description := "Terminate the conversation",
      defaults := [("label", .str "End")] }
  | .channel .whatsapp =>
    { category := .channels, name := "WhatsApp", icon := "📱",
      description := "Send a WhatsApp message",
      defaults := channelDefaults "whatsapp" }
  | .channel .slack =>
    { category := .channels, name := "Slack", icon := "💼",
      description := "Post a Slack message",
      defaults := channelDefaults "slack" }
  | .channel .telegram =>
    { category := .channels, name := "Telegram", icon := "✈️",
      description := "Send a Telegram message",
      defaults := channelDefaults "telegram" }
  | .channel .teams =>
    { category := .channels, name := "Microsoft Teams", icon := "🟦",
      description := "Post a Microsoft Teams message",
      defaults := channelDefaults "teams" }
  | .ticket .zendesk =>
    { category := .ticketing, name := "Zendesk", icon := "🎫",
      description := "Create or update a Zendesk ticket",
      defaults := ticketDefaults }
  | .ticket .freshdesk =>
    { category := .ticketing, name := "Freshdesk", icon := "📋",
      description := "Create or update a Freshdesk ticket",
      defaults := ticketDefaults }
  | .crm .salesforce =>
    { category := .crm, name := "Salesforce", icon := "☁️",
      description := "Create or update a Salesforce record",
      defaults := crmDefaults }
  | .crm .hubspot =>
    { category := .crm, name := "HubSpot", icon := "🔶",
      description := "Create or update a HubSpot record",
      defaults := crmDefaults }
  | .crm .zoho =>
    { category := .crm, name := "Zoho CRM", icon := "📊",
      description := "Create or update a Zoho CRM record",
      defaults := crmDefaults }

def standardDefinition (kind : NodeKind) : Definition :=
  let e := standardEntry kind
  { kind
    category := e.category
    name := .str e.name
    description := .str e.description
    icon := .str e.icon
    defaults := .obj e.defaults }

/-! ## The palette -/

structure Palette where
  /-- The definition of each kind. -/
  current : NodeKind → Definition
  shelves : List (Category × List Definition)

namespace Palette

def standard : Palette where
  current := standardDefinition
  shelves := Category.all.map fun c =>
    (c, (NodeKind.all.map standardDefinition).filter (·.category == c))

/-- Takes the first definition of a kind off the shelf of a category. -/
def takeOff (shelves : List (Category × List Definition)) (c : Category) (k : NodeKind) :
    List (Category × List Definition) :=
  shelves.map fun s => if s.1 == c then (s.1, s.2.eraseP (·.kind == k)) else s

/-- Puts a definition at the end of its shelf. A category without a shelf gets one. -/
def putOn : List (Category × List Definition) → Definition → List (Category × List Definition)
  | [], d => [(d.category, [d])]
  | s :: rest, d => if s.1 == d.category then (s.1, s.2 ++ [d]) :: rest else s :: putOn rest d

/-- The new definition takes the place of the old one of its kind. -/
def register (p : Palette) (d : Definition) : Palette where
  current k := if k == d.kind then d else p.current k
  shelves := putOn (takeOff p.shelves (p.current d.kind).category d.kind) d

/-- All definitions, one for each kind. -/
def definitions (p : Palette) : List Definition := NodeKind.all.map p.current

def shelf (p : Palette) (c : Category) : List Definition := (p.shelves.lookup c).getD []

/-- The categories that have a shelf. -/
def categories (p : Palette) : List Category := p.shelves.map (·.1)

/-- The categories that have a definition, with all their definitions. -/
def catalog (room : Nat) (p : Palette) : Outcome Json := do
  let filled := Category.all.filter fun c => !(p.shelf c).isEmpty
  let entries ← filled.mapM fun c => do
    let definitions ← (p.shelf c).mapM (Definition.toJson (room - 2))
    return (c.word, Json.arr definitions)
  return .obj entries

end Palette

end Dialogue
