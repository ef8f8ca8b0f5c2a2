-- Validation of a flow. Errors say which graph rules it breaks. Warnings say which nodes no run
-- comes to, and at which a run ends for want of a next step.
import Dialogue.Flow.Paths
import Dialogue.Json.Sorting

namespace Dialogue

/-- What validation finds. The node is named where there is one, then the edge. -/
inductive Issue where
  | noStart
  | secondStart (node : Json)
  | repeatedNode (node : Json)
  | unknownEnd (missing edge : Json)
  | selfLoop (node edge : Json)
  | intoStart (node edge : Json)
  | outOfFinish (node edge : Json)
  | repeatedEdge (source target edge : Json)
  | badBranch (node label : Json)
  | doubleBranch (node label : Json)
  | unmatchedConnections (node : Json)
  | unreachable (node : Json)
  | noNextStep (node : Json)
  | tooManyNodes (count : Nat) (most : Int)

namespace Issue

/-- A warning does not make a flow invalid. -/
def isError : Issue → Bool
  | unreachable _ => false
  | noNextStep _ => false
  | _ => true

def message : Issue → String
  | noStart => "Flow has no start node"
  | secondStart _ => "Flow has more than one start node"
  | repeatedNode node => "Duplicate node ID: " ++ node.text
  | unknownEnd missing _ => "Edge references unknown node: " ++ missing.text
  | selfLoop _ _ => "Node has an edge to itself"
  | intoStart _ _ => "Start node has an incoming edge"
  | outOfFinish _ _ => "End node has an outgoing edge"
  | repeatedEdge source target _ => "Duplicate edge " ++ source.text ++ " -> " ++ target.text
  | badBranch _ label => "Condition edge must be labeled Yes or No (got " ++ label.quoted ++ ")"
  | doubleBranch _ label => "Condition has more than one " ++ label.text ++ " branch"
  | unmatchedConnections _ => "Node connections are out of sync with its edges"
  | unreachable _ => "Node is not reachable from the start node"
  | noNextStep _ => "Node has no next step; runs reaching it end here"
  | tooManyNodes count most =>
    "Flow exceeds maximum nodes (" ++ toString count ++ " > " ++ toString most ++ ")"

/-- The node it is about, or null. -/
def node : Issue → Json
  | secondStart n | repeatedNode n | selfLoop n _ | intoStart n _ | outOfFinish n _ => n
  | badBranch n _ | doubleBranch n _ | unmatchedConnections n | unreachable n | noNextStep n => n
  | noStart | unknownEnd _ _ | repeatedEdge _ _ _ | tooManyNodes _ _ => .null

/-- The edge it is about, or null. -/
def edge : Issue → Json
  | unknownEnd _ e | selfLoop _ e | intoStart _ e | outOfFinish _ e | repeatedEdge _ _ e => e
  | _ => .null

def toJson (i : Issue) : Json :=
  .obj [("severity", .str (if i.isError then "error" else "warning")), ("message", .str i.message),
    ("node_id", i.node), ("edge_id", i.edge)]

end Issue

/-- Fails unless all the values can be looked up. -/
def keysOnly (xs : List Json) : Outcome Unit :=
  if xs.all Json.isKey then .ok () else .error .wrongKind

/-- How often each value stands in the list, in the order of the first places. -/
def tally (xs : List Json) : List (Json × Nat) :=
  (distinct xs).map fun x => (x, (xs.filter (·.same x)).length)

namespace Flow

/-! ## Nodes -/

def startIssues (f : Flow) : List Issue :=
  match f.nodes.filter (·.kind == .start) with
  | [] => [.noStart]
  | _ :: more => more.map fun n => .secondStart n.id

def repeatIssues (f : Flow) : List Issue :=
  ((tally f.ids).filter fun t => 1 < t.2).map fun t => .repeatedNode t.1

/-! ## Edges -/

/-- The last node with the id. -/
def lastNode? (f : Flow) (id : Json) : Option Node := f.nodes.reverse.find? (·.id.same id)

/-- The nodes at the two ends of an edge, if both are known. -/
def ends? (f : Flow) (e : Edge) : Option (Node × Node) := do
  let source ← f.lastNode? e.source
  let target ← f.lastNode? e.target
  return (source, target)

def samePair (a b : Edge) : Bool := a.source.same b.source && a.target.same b.target

/-- What is wrong with an edge that comes after others. -/
def issuesOfEdge (f : Flow) (earlier : List Edge) (e : Edge) : List Issue :=
  match f.ends? e with
  | none => [.unknownEnd (if (f.lastNode? e.source).isNone then e.source else e.target) e.id]
  | some (source, target) =>
    (if e.source.equals e.target then [.selfLoop e.source e.id] else [])
      ++ (if target.kind == .start then [.intoStart target.id e.id] else [])
      ++ (if source.kind == .finish then [.outOfFinish source.id e.id] else [])
      ++ (if earlier.any (samePair e) then [.repeatedEdge e.source e.target e.id] else [])

/-- The issues of edges that come after others. -/
def issuesOfEdges (f : Flow) (earlier : List Edge) : List Edge → List Issue
  | [] => []
  | e :: rest => issuesOfEdge f earlier e ++ issuesOfEdges f (earlier ++ [e]) rest

/-- The edges between known nodes that leave a condition, each with the id of the condition. -/
def branches (f : Flow) : List (Json × Edge) :=
  f.edges.filterMap fun e =>
    match f.ends? e with
    | some (source, _) => if source.kind == .condition then some (source.id, e) else none
    | none => none

def isBranchLabel (label : Json) : Bool := label.same (.str "Yes") || label.same (.str "No")

/-- The labels of the branches of one condition. -/
def branchLabels (f : Flow) (id : Json) : List Json :=
  (f.branches.filter (·.1.same id)).map (·.2.label)

def issuesOfBranches (f : Flow) (id : Json) : List Issue :=
  (tally (f.branchLabels id)).filterMap fun t =>
    if !isBranchLabel t.1 then some (.badBranch id t.1)
    else if 1 < t.2 then some (.doubleBranch id t.1) else none

def branchIssues (f : Flow) : List Issue :=
  (distinct (f.branches.map (·.1))).flatMap f.issuesOfBranches

/-! ## Connections -/

/-- Whether the connections of a node are the targets of its edges, in any order. -/
def connectionsMatch (f : Flow) (n : Node) : Outcome Bool := do
  let some targets := Json.sorted? ((f.outgoing n.id).map (·.target)) | .error .wrongKind
  let some connections := Json.sorted? n.connections | .error .wrongKind
  return Json.sameItems connections targets

def connectionIssues (f : Flow) : Outcome (List Issue) := do
  let issues ← f.nodes.mapM fun n => do
    return if ← f.connectionsMatch n then [] else [Issue.unmatchedConnections n.id]
  return issues.flatten

/-! ## Ways -/

def hasNext (f : Flow) (n : Node) : Bool := (f.successors n.id).any fun t => t.isIn f.ids

def wayIssues (f : Flow) : List Issue :=
  let reached := f.reached
  f.nodes.flatMap fun n =>
    (if f.startNode?.isSome && !n.id.isIn reached then [Issue.unreachable n.id] else [])
      ++ (if n.kind != .finish && !f.hasNext n then [Issue.noNextStep n.id] else [])

def sizeIssues (f : Flow) (most : Int) : List Issue :=
  if most < f.nodes.length then [.tooManyNodes f.nodes.length most] else []

/-! ## All together -/

/-- All issues, in the order in which they are reported. Ids, the ends of edges and the labels of
branches must be values that can be looked up. -/
def issues (f : Flow) (most : Int) : Outcome (List Issue) := do
  keysOnly f.ids
  keysOnly (f.edges.flatMap fun e => [e.source, e.target])
  keysOnly (f.branches.map (·.2.label))
  let connections ← f.connectionIssues
  keysOnly f.reached
  keysOnly ((f.nodes.filter (·.kind != .finish)).flatMap fun n => f.successors n.id)
  return f.startIssues ++ f.repeatIssues ++ f.issuesOfEdges [] f.edges ++ f.branchIssues
    ++ connections ++ f.wayIssues ++ f.sizeIssues most

end Flow

/-! ## Reports -/

structure Report where
  issues : List Issue
  checkedAt : Int

namespace Report

def errors (r : Report) : List Issue := r.issues.filter (·.isError)

def warnings (r : Report) : List Issue := r.issues.filter (!·.isError)

def valid (r : Report) : Bool := r.errors.isEmpty

def fields (r : Report) : Fields :=
  [("valid", .bool r.valid), ("errors", .arr (r.errors.map Issue.toJson)),
    ("warnings", .arr (r.warnings.map Issue.toJson)),
    ("checked_at", .str (Clock.stamp r.checkedAt))]

end Report

def Flow.validate (f : Flow) (most : Int) (now : Int) : Outcome Report := do
  return ⟨← f.issues most, ← Clock.dated now⟩

end Dialogue
