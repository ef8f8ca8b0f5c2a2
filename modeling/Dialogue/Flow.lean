-- Flows: nodes, the edges between them, and the versions published so far. What comes from outside
-- is kept as it came, unless the flow could not do its work with it.
import Dialogue.Clock
import Dialogue.Node.Palette

namespace Dialogue

/-! ## Made ids

They are counted: each id comes from the next number, in hexadecimal. -/

namespace Ids

/-- The id of a flow or an event. -/
def full (n : Nat) : String := Text.hex 8 n ++ "-0000-0000-0000-000000000000"

/-- The id of a part of a flow: what it is, and eight digits. -/
def tagged (kind : String) (n : Nat) : String :=
  kind ++ "-" ++ String.ofList ((Text.hex 8 n).toList.take 8)

end Ids

/-! ## Parts of a flow -/

/-- Where a node stands: a value for each coordinate. Whatever can be a key can name one. -/
abbrev Position := List (Json × Json)

/-- A typed step of a flow. -/
structure Node where
  id : Json
  data : NodeData
  position : Position
  connections : List Json := []

def Node.kind (n : Node) : NodeKind := n.data.kind

/-- A directed relation between two nodes. The label is null where there is none. -/
structure Edge where
  id : Json
  source : Json
  target : Json
  label : Json := .null

inductive Status where
  | draft
  | published
  deriving DecidableEq

/-- A snapshot of a graph, made when it was published. -/
structure Version where
  id : String
  label : String
  createdAt : Int
  createdBy : Json
  changelog : Json
  nodes : List Node
  edges : List Edge

structure Flow where
  id : Json
  name : Json
  description : Json
  category : Json
  status : Status
  /-- The label of the current version. -/
  label : Json
  nodes : List Node
  edges : List Edge
  versions : List Version := []
  createdAt : Int
  updatedAt : Int

/-! ## Looking things up -/

namespace Flow

def node? (f : Flow) (id : Json) : Option Node := f.nodes.find? (·.id.equals id)

def edge? (f : Flow) (id : Json) : Option Edge := f.edges.find? (·.id.equals id)

def version? (f : Flow) (id : Json) : Option Version :=
  f.versions.find? fun v => (Json.str v.id).equals id

/-- The first start node. -/
def startNode? (f : Flow) : Option Node := f.nodes.find? (·.kind == .start)

/-- The edges that leave a node, in order. -/
def outgoing (f : Flow) (id : Json) : List Edge := f.edges.filter (·.source.equals id)

/-- The edges that lead to a node, in order. -/
def incoming (f : Flow) (id : Json) : List Edge := f.edges.filter (·.target.equals id)

end Flow

/-! ## Writing -/

def Status.word : Status → String
  | .draft => "draft"
  | .published => "published"

def Status.ofWord? (s : String) : Option Status := [Status.draft, .published].find? (·.word == s)

def Status.ofJson : Json → Outcome Status := listed "FlowStatus" ofWord?

def Node.toJson (n : Node) : Json :=
  .obj [("id", n.id), ("type", .str n.kind.word), ("position", .ofEntries n.position),
    ("data", n.data.toJson), ("connections", .arr n.connections)]

def Edge.toJson (e : Edge) : Json :=
  .obj [("id", e.id), ("source", e.source), ("target", e.target), ("label", e.label)]

namespace Version

def summary (v : Version) : Fields :=
  [("id", .str v.id), ("version", .str v.label), ("created_at", .str (Clock.stamp v.createdAt)),
    ("created_by", v.createdBy), ("status", .str Status.published.word),
    ("changelog", v.changelog), ("node_count", .int v.nodes.length)]

def toJson (v : Version) : Json :=
  .obj (v.summary ++ [("nodes", .arr (v.nodes.map Node.toJson)),
    ("edges", .arr (v.edges.map Edge.toJson))])

end Version

namespace Flow

/-- The nodes and edges, which are what an edit can change and a save keeps. -/
def graph (f : Flow) : Json :=
  .obj [("nodes", .arr (f.nodes.map Node.toJson)), ("edges", .arr (f.edges.map Edge.toJson))]

def summary (f : Flow) : Fields :=
  [("id", f.id), ("name", f.name), ("description", f.description), ("category", f.category),
    ("status", .str f.status.word), ("current_version", f.label),
    ("updated_at", .str (Clock.stamp f.updatedAt)), ("node_count", .int f.nodes.length)]

def fields (f : Flow) : Fields :=
  [("id", f.id), ("name", f.name), ("description", f.description), ("category", f.category),
    ("status", .str f.status.word), ("current_version", f.label),
    ("nodes", .arr (f.nodes.map Node.toJson)), ("edges", .arr (f.edges.map Edge.toJson)),
    ("versions", .arr (f.versions.map fun v => .obj v.summary)),
    ("created_at", .str (Clock.stamp f.createdAt)), ("updated_at", .str (Clock.stamp f.updatedAt))]

def toJson (f : Flow) : Json := .obj f.fields

end Flow

/-! ## Copying

How deep the steps go that copy a part of a flow: four, and then those of its parts. The data of a
node is never deep. -/

def Node.copyDepth (n : Node) : Nat :=
  4 + deepestOf [n.id.copyDepth, (Json.ofEntries n.position).copyDepth,
    (Json.arr n.connections).copyDepth]

def Edge.copyDepth (e : Edge) : Nat :=
  4 + deepestOf ([e.id, e.source, e.target, e.label].map Json.copyDepth)

def Version.copyDepth (v : Version) : Nat :=
  4 + deepestOf [v.createdBy.copyDepth, v.changelog.copyDepth,
    3 + deepestOf (v.nodes.map Node.copyDepth), 3 + deepestOf (v.edges.map Edge.copyDepth)]

namespace Flow

/-- How deep the steps go that copy the nodes and the edges. -/
def partsCopyDepth (f : Flow) : Nat :=
  2 + max (deepestOf (f.nodes.map Node.copyDepth)) (deepestOf (f.edges.map Edge.copyDepth))

def copyDepth (f : Flow) : Nat :=
  4 + deepestOf [f.id.copyDepth, f.name.copyDepth, f.description.copyDepth, f.category.copyDepth,
    f.label.copyDepth, f.partsCopyDepth, 2 + deepestOf (f.versions.map Version.copyDepth)]

end Flow

/-! ## Reading -/

namespace Json

def fields? : Json → Outcome Fields
  | .obj fs => .ok fs
  | _ => .error .wrongKind

def need (fs : Fields) (key : String) : Outcome Json :=
  match fs.lookup key with
  | some j => .ok j
  | none => .error (.missingField (.str key))

/-- A value as a list of what it yields. -/
def asList (j : Json) : Outcome (List Json) :=
  match j.elements? with
  | some xs => .ok xs
  | none => .error .wrongKind

/-- Entries from pairs of a key and a value, the first of which stands at the given place. -/
def entriesOfPairs (place : Nat) (entries : List (Json × Json)) :
    List Json → Outcome (List (Json × Json))
  | [] => .ok entries
  | pair :: rest =>
    match pair.elements? with
    | none => .error .wrongKind
    | some [key, value] =>
      if key.isKey then entriesOfPairs (place + 1) (putEntry entries key value) rest
      else .error .wrongKind
    | some other =>
      .error (.badValue ("dictionary update sequence element #" ++ toString place ++ " has length "
        ++ toString other.length ++ "; 2 is required"))

/-- A value as entries: an object, a table, or a list of pairs. -/
def asEntries : Json → Outcome (List (Json × Json))
  | .obj fs => .ok (fs.map fun f => (.str f.1, f.2))
  | .table es => .ok es
  | j => do
    let pairs ← j.asList
    entriesOfPairs 0 [] pairs

end Json

/-- The position of a node for which none is given. -/
def origin : Json := .obj [("x", .int 0), ("y", .int 0)]

def Node.ofJson (room : Nat) (j : Json) : Outcome Node := do
  let fs ← j.fields?
  let kind ← NodeKind.ofJson (← Json.need fs "type")
  let id ← Json.need fs "id"
  let position ← ((fs.lookup "position").getD origin).asEntries
  let data ← NodeData.ofJson (room - 2) kind ((fs.lookup "data").getD (.obj []))
  let connections ← ((fs.lookup "connections").getD (.arr [])).asList
  return ⟨id, data, position, connections⟩

def Edge.ofJson (j : Json) : Outcome Edge := do
  let fs ← j.fields?
  let id ← Json.need fs "id"
  let source ← Json.need fs "source"
  let target ← Json.need fs "target"
  return ⟨id, source, target, (fs.lookup "label").getD .null⟩

/-- The label of a flow that names no version. -/
def firstLabel : String := "0.1"

/-- Reads a flow. It starts without versions, at the time it is read. -/
def Flow.ofJson (room : Nat) (now : Int) (j : Json) : Outcome Flow := do
  let now ← Clock.dated now
  let fs ← j.fields?
  let id ← Json.need fs "id"
  let name ← Json.need fs "name"
  let status ← Status.ofJson ((fs.lookup "status").getD (.str Status.draft.word))
  let nodes ← ((fs.lookup "nodes").getD (.arr [])).asList
  let nodes ← nodes.mapM (Node.ofJson (room - 2))
  let edges ← ((fs.lookup "edges").getD (.arr [])).asList
  let edges ← edges.mapM Edge.ofJson
  return {
    id, name, status, nodes, edges
    description := (fs.lookup "description").getD (.str "")
    category := (fs.lookup "category").getD (.str "")
    label := (fs.lookup "current_version").getD (.str firstLabel)
    createdAt := now
    updatedAt := now }

end Dialogue
