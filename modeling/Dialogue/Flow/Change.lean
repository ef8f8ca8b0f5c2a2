-- Changes of the graph of a flow, without any check.
import Dialogue.Flow

namespace Dialogue

/-- Changes the first element that passes the test. -/
def modifyFirst {α : Type} (test : α → Bool) (change : α → α) : List α → List α
  | [] => []
  | a :: rest => if test a then change a :: rest else a :: modifyFirst test change rest

/-! ## One node -/

/-- Takes out a target if it is the given node. -/
def clearTarget (id : Json) (target : Option String) : Option String :=
  target.filter fun t => !(Json.str t).same id

/-- The data without any reference to a node. -/
def NodeData.forget (id : Json) : NodeData → NodeData
  | .condition d =>
    .condition { d with yesTo := clearTarget id d.yesTo, noTo := clearTarget id d.noTo }
  | .dtmf d =>
    .dtmf { d with
      branches := d.branches.map fun b => { b with target := clearTarget id b.target } }
  | d => d

/-- The node without any reference to another one. -/
def Node.forget (id : Json) (n : Node) : Node :=
  { n with
    connections := n.connections.filter fun c => !c.same id
    data := n.data.forget id }

namespace Flow

/-- An edit makes a draft of the flow. -/
def asDraft (f : Flow) : Flow := { f with status := .draft }

def addNode (f : Flow) (n : Node) : Flow := { f with nodes := f.nodes ++ [n] }

/-- Changes the node that the id finds. -/
def modifyNode (f : Flow) (id : Json) (change : Node → Node) : Flow :=
  { f with nodes := modifyFirst (·.id.equals id) change f.nodes }

def dropNodes (f : Flow) (id : Json) : Flow :=
  { f with nodes := f.nodes.filter fun n => !n.id.same id }

def touches (id : Json) (e : Edge) : Bool := e.source.same id || e.target.same id

/-- Takes out every edge that bears the id of an edge at the node. -/
def dropEdgesAt (f : Flow) (id : Json) : Flow :=
  let doomed := (f.edges.filter (touches id)).map (·.id)
  { f with edges := f.edges.filter fun e => !e.id.isIn doomed }

def forgetNode (f : Flow) (id : Json) : Flow := { f with nodes := f.nodes.map (Node.forget id) }

/-- The edge is added, and its target to the connections of its source. -/
def addEdge (f : Flow) (e : Edge) : Flow :=
  { f with edges := f.edges ++ [e] }.modifyNode e.source fun n =>
    { n with connections := n.connections ++ [e.target] }

/-- Every edge with the id is taken out, and the target once from the connections of the source. -/
def dropEdge (f : Flow) (e : Edge) : Flow :=
  { f with edges := f.edges.filter fun x => !x.id.same e.id }.modifyNode e.source fun n =>
    { n with connections := n.connections.eraseP (e.target.same ·) }

end Flow

end Dialogue
