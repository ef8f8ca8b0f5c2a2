-- Editing one flow. Each edit keeps the graph rules or is refused, and a refused edit changes
-- nothing. The editor also holds a copy of the selected node and the connection that is being
-- drawn.
import Dialogue.Flow.Change
import Dialogue.Flow

namespace Dialogue

/-! ## Handles -/

/-- The handle of a node that a connection is drawn from. -/
inductive Handle where
  | default
  | yes
  | no
  deriving DecidableEq

namespace Handle

def word : Handle → String
  | default => "default"
  | yes => "yes"
  | no => "no"

def ofWord? (s : String) : Option Handle := [default, yes, no].find? (·.word == s)

def ofJson : Json → Outcome Handle := listed "ConnectHandle" ofWord?

/-- The branch that the handle stands for. -/
def branch? : Handle → Option String
  | yes => some "Yes"
  | no => some "No"
  | default => none

end Handle

/-- A connection that is being drawn. Without a source there is none. -/
structure Gesture where
  source : Json := .null
  handle : Handle := .default

namespace Gesture

def isDrawing (g : Gesture) : Bool := !g.source.same .null

/-- The handle, if the connection is drawn from the node. -/
def handleFor? (g : Gesture) (id : Json) : Option Handle :=
  if g.source.same id then some g.handle else none

end Gesture

/-! ## Replies -/

/-- Why an edit is refused. -/
inductive Refusal where
  | selfLoop
  | intoStart
  | outOfFinish
  | edgeExists (source target : Json)
  | branchTaken (label : Option String)
  | noNode (id : Json)
  | noEdge (id : Json)
  | noVersion (id : Json)
  | secondStart
  | startKept
  | startAlone
  | badData (reason : String)
  | notDrawing

namespace Refusal

def word : Refusal → String
  | selfLoop => "self_loop"
  | intoStart | outOfFinish => "invalid_endpoint"
  | edgeExists _ _ => "duplicate_edge"
  | branchTaken _ => "branch_taken"
  | noNode _ => "node_not_found"
  | noEdge _ => "edge_not_found"
  | noVersion _ => "version_not_found"
  | secondStart => "start_node_exists"
  | startKept | startAlone => "start_node_protected"
  | badData _ => "invalid_data"
  | notDrawing => "not_connecting"

def message : Refusal → String
  | selfLoop => "A node cannot connect to itself"
  | intoStart => "The start node cannot have incoming edges"
  | outOfFinish => "End nodes cannot have outgoing edges"
  | edgeExists source target => "Edge " ++ source.text ++ " -> " ++ target.text ++ " already exists"
  | branchTaken label => "Condition branch already connected: " ++ label.getD "Yes/No"
  | noNode id => "Node not found: " ++ id.text
  | noEdge id => "Edge not found: " ++ id.text
  | noVersion id => "Version not found: " ++ id.text
  | secondStart => "Flow already has a start node"
  | startKept => "The start node cannot be deleted"
  | startAlone => "The start node cannot be duplicated"
  | badData reason => reason
  | notDrawing => "No connection in progress"

/-- Whether something that the edit names is not there. -/
def isMissing : Refusal → Bool
  | noNode _ | noEdge _ | noVersion _ => true
  | _ => false

end Refusal

/-- What an edit gives back when it is done. -/
inductive Product where
  | node (n : Node)
  | edge (e : Edge)
  | version (v : Version)
  | nothing

def Product.toJson : Product → Json
  | node n => n.toJson
  | edge e => e.toJson
  | version v => v.toJson
  | nothing => .null

inductive Reply where
  | done (product : Product)
  | refused (refusal : Refusal)
  | failed (fault : Fault)

/-- The reply as a record. A fault is not one. -/
def Reply.toJson : Reply → Outcome Json
  | done p =>
    .ok (.obj [("success", .bool true), ("error", .null), ("message", .str ""),
      ("value", p.toJson)])
  | refused r =>
    .ok (.obj [("success", .bool false), ("error", .str r.word), ("message", .str r.message),
      ("value", .null)])
  | failed e => .error e

/-! ## The editor -/

structure Editor where
  flow : Flow
  /-- A copy of the selected node. -/
  selected : Option Node := none
  gesture : Gesture := {}

/-- The editor after an edit, the number of the next id, and the reply. -/
structure Edited where
  editor : Editor
  nextId : Nat
  reply : Reply

namespace Editor

/-- The edit is refused, and nothing changes. -/
def refuse (e : Editor) (nextId : Nat) (r : Refusal) : Edited := ⟨e, nextId, .refused r⟩

/-- The flow is changed and becomes a draft. -/
def change (e : Editor) (flow : Flow) : Editor := { e with flow := flow.asDraft }

/-! ### Selection -/

def selectNode (room : Nat) (e : Editor) (nextId : Nat) (id : Json) : Edited :=
  match e.flow.node? id with
  | none => e.refuse nextId (.noNode id)
  | some n =>
    if room < n.copyDepth + 1 then ⟨e, nextId, .failed .tooDeep⟩
    else ⟨{ e with selected := some n }, nextId, .done (.node n)⟩

def clearSelection (e : Editor) : Editor := { e with selected := none }

/-- Whether the selected node has the id. -/
def hasSelected (e : Editor) (id : Json) : Bool := e.selected.any fun n => n.id.same id

/-! ### Nodes -/

/-- Adds a node with the data of a new node of its kind. -/
def addNode (p : Palette) (room : Nat) (e : Editor) (nextId : Nat) (kind : NodeKind)
    (position : Json) : Edited :=
  if kind == .start && e.flow.startNode?.isSome then e.refuse nextId .secondStart
  else
    match position.asEntries, (p.current kind).newData (room - 1) with
    | .ok position, .ok data =>
      let n : Node := ⟨.str (Ids.tagged kind.word nextId), data, position, []⟩
      ⟨e.change (e.flow.addNode n), nextId + 1, .done (.node n)⟩
    | .error fault, _ => ⟨e, nextId + 1, .failed fault⟩
    | _, .error fault => ⟨e, nextId + 1, .failed fault⟩

/-- A coordinate moved by the offset. -/
def shifted (offset : Float) : Json → Outcome Json
  | .int n => if overflowsFloat n then .error .overflow else .ok (.float (floatOfInt n + offset))
  | .float x => .ok (.float (x + offset))
  | .bool b => .ok (.float ((if b then 1.0 else 0.0) + offset))
  | _ => .error .wrongKind

/-- The two coordinates moved by the offset. One that is not given is zero, and no others are
kept. -/
def shiftedPosition (offset : Float) (position : Position) : Outcome Position := do
  let x ← shifted offset ((Json.entry? position (.str "x")).getD (.int 0))
  let y ← shifted offset ((Json.entry? position (.str "y")).getD (.int 0))
  return [(.str "x", x), (.str "y", y)]

/-- Adds a node with the same data, beside the node and without connections. -/
def duplicateNode (offset : Float) (e : Editor) (nextId : Nat) (id : Json) : Edited :=
  match e.flow.node? id with
  | none => e.refuse nextId (.noNode id)
  | some source =>
    if source.kind == .start then e.refuse nextId .startAlone
    else
      match shiftedPosition offset source.position with
      | .ok position =>
        let n : Node := ⟨.str (Ids.tagged source.kind.word nextId), source.data, position, []⟩
        ⟨e.change (e.flow.addNode n), nextId + 1, .done (.node n)⟩
      | .error fault => ⟨e, nextId + 1, .failed fault⟩

/-- Sets some fields of a node's data over the others. The copy of the selected node follows. Where
there is no room for a new copy, the data has changed all the same. -/
def updateData (room : Nat) (e : Editor) (nextId : Nat) (id changes : Json) : Edited :=
  match e.flow.node? id with
  | none => e.refuse nextId (.noNode id)
  | some n =>
    match changes with
    | .obj changes =>
      match NodeData.ofJson (room - 1) n.kind (.obj (Fields.merge n.data.fields changes)) with
      | .error fault =>
        if fault.isAboutData then e.refuse nextId (.badData fault.reason)
        else ⟨e, nextId, .failed fault⟩
      | .ok data =>
        let updated := { n with data }
        let flow := e.flow.modifyNode id fun n => { n with data }
        if e.hasSelected id then
          if room < updated.copyDepth + 1 then ⟨{ e with flow }, nextId, .failed .tooDeep⟩
          else ⟨{ e.change flow with selected := some updated }, nextId, .done (.node updated)⟩
        else ⟨e.change flow, nextId, .done (.node updated)⟩
    | _ => ⟨e, nextId, .failed .wrongKind⟩

/-- Takes out a node with every edge and reference that touches it. The edges are told apart by
their ids, so these must be values that can be looked up. -/
def deleteNode (e : Editor) (nextId : Nat) (id : Json) : Edited :=
  match e.flow.node? id with
  | none => e.refuse nextId (.noNode id)
  | some n =>
    if n.kind == .start then e.refuse nextId .startKept
    else
      let flow := e.flow.dropNodes id
      if flow.edges.all (·.id.isKey) then
        ⟨{ e.change ((flow.dropEdgesAt id).forgetNode id) with
            selected := if e.hasSelected id then none else e.selected
            gesture := if e.gesture.source.same id then {} else e.gesture },
          nextId, .done (.node n)⟩
      else ⟨{ e with flow }, nextId, .failed .wrongKind⟩

/-- A new position is no change of the graph that makes a draft. -/
def moveNode (e : Editor) (nextId : Nat) (id position : Json) : Edited :=
  match e.flow.node? id with
  | none => e.refuse nextId (.noNode id)
  | some n =>
    match position.asEntries with
    | .error fault => ⟨e, nextId, .failed fault⟩
    | .ok position =>
      ⟨{ e with flow := e.flow.modifyNode id fun n => { n with position } }, nextId,
        .done (.node { n with position })⟩

/-! ### Edges -/

/-- The label of a new edge from a condition: the branch of the handle, or the first free one. -/
def branchLabel (handle : Option Handle) (taken : List Json) : Except Refusal String :=
  let free := ["Yes", "No"].find? fun l => !(Json.str l).isIn taken
  match handle.bind Handle.branch?, free with
  | some l, _ => if (Json.str l).isIn taken then .error (.branchTaken (some l)) else .ok l
  | none, some l => .ok l
  | none, none => .error (.branchTaken none)

/-- The edge between two known nodes is added under a new id. -/
def joinNodes (e : Editor) (nextId : Nat) (source target label : Json) : Edited :=
  let edge : Edge := ⟨.str (Ids.tagged "e" nextId), source, target, label⟩
  ⟨e.change (e.flow.addEdge edge), nextId + 1, .done (.edge edge)⟩

/-- Connects two nodes. From a condition the edge bears a branch: that of the handle, or of the
connection being drawn from the condition, or the first free one. -/
def addEdge (e : Editor) (nextId : Nat) (source target : Json) (handle : Option Handle) : Edited :=
  match e.flow.node? source, e.flow.node? target with
  | none, _ => e.refuse nextId (.noNode source)
  | _, none => e.refuse nextId (.noNode target)
  | some s, some t =>
    if source.same target then e.refuse nextId .selfLoop
    else if t.kind == .start then e.refuse nextId .intoStart
    else if s.kind == .finish then e.refuse nextId .outOfFinish
    else if e.flow.edges.any fun x => x.source.same source && x.target.same target then
      e.refuse nextId (.edgeExists source target)
    else if s.kind == .condition then
      let taken := (e.flow.outgoing source).map (·.label)
      if taken.all Json.isKey then
        match branchLabel (handle.or (e.gesture.handleFor? source)) taken with
        | .error r => e.refuse nextId r
        | .ok label => e.joinNodes nextId source target (.str label)
      else ⟨e, nextId, .failed .wrongKind⟩
    else e.joinNodes nextId source target .null

def deleteEdge (e : Editor) (nextId : Nat) (id : Json) : Edited :=
  match e.flow.edge? id with
  | none => e.refuse nextId (.noEdge id)
  | some edge => ⟨e.change (e.flow.dropEdge edge), nextId, .done (.edge edge)⟩

/-! ### Drawing a connection -/

def startConnect (e : Editor) (nextId : Nat) (id : Json) (handle : Handle) : Edited :=
  match e.flow.node? id with
  | none => e.refuse nextId (.noNode id)
  | some _ => ⟨{ e with gesture := ⟨id, handle⟩ }, nextId, .done .nothing⟩

def cancelConnect (e : Editor) : Editor := { e with gesture := {} }

/-- Ends the connection at a node. Whether it is made or not, none is drawn any longer. -/
def completeConnect (e : Editor) (nextId : Nat) (target : Json) : Edited :=
  if e.gesture.isDrawing then
    let r := e.addEdge nextId e.gesture.source target none
    { r with editor := r.editor.cancelConnect }
  else e.refuse nextId .notDrawing

end Editor

/-! ## Edits as values -/

inductive Edit where
  | addNode (kind : NodeKind) (position : Json)
  | duplicateNode (id : Json)
  | updateData (id changes : Json)
  | deleteNode (id : Json)
  | moveNode (id position : Json)
  | addEdge (source target : Json) (handle : Option Handle)
  | deleteEdge (id : Json)
  | startConnect (id : Json) (handle : Handle)
  | completeConnect (target : Json)
  | cancelConnect
  | selectNode (id : Json)
  | clearSelection

/-- Performs an edit. New nodes come from the palette, and duplicates stand at the offset. -/
def Editor.perform (p : Palette) (offset : Float) (room : Nat) (e : Editor) (nextId : Nat) :
    Edit → Edited
  | .addNode kind position => e.addNode p room nextId kind position
  | .duplicateNode id => e.duplicateNode offset nextId id
  | .updateData id changes => e.updateData room nextId id changes
  | .deleteNode id => e.deleteNode nextId id
  | .moveNode id position => e.moveNode nextId id position
  | .addEdge source target handle => e.addEdge nextId source target handle
  | .deleteEdge id => e.deleteEdge nextId id
  | .startConnect id handle => e.startConnect nextId id handle
  | .completeConnect target => e.completeConnect nextId target
  | .cancelConnect => ⟨e.cancelConnect, nextId, .done .nothing⟩
  | .selectNode id => e.selectNode room nextId id
  | .clearSelection => ⟨e.clearSelection, nextId, .done .nothing⟩

end Dialogue
