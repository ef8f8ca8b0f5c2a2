-- The ways through a flow: where a run can go on from a node, and which nodes it can come to.
import Dialogue.Flow

namespace Dialogue

/-- The targets a node names itself: its connections, and the branch targets of a condition. -/
def Node.namedTargets (n : Node) : List Json :=
  match n.data with
  | .condition d =>
    n.connections ++ ((d.yesTo.toList ++ d.noTo.toList).filter (· != "")).map .str
  | _ => n.connections

/-- Adds a value at the end, unless it is in the list. -/
def addNew (xs : List Json) (x : Json) : List Json := if x.isIn xs then xs else xs ++ [x]

/-- The values without repetition, each where it first stands. -/
def distinct (xs : List Json) : List Json := xs.foldl addNew []

/-! ## A search from one id -/

/-- For each id, the ids that follow it. -/
abbrev Arcs := List (Json × List Json)

namespace Arcs

/-- The entry of an id is taken out of the list. -/
def takeOut (id : Json) : Arcs → List Json × Arcs
  | [] => ([], [])
  | (k, next) :: rest =>
    if k.same id then (next, rest)
    else
      let (found, left) := takeOut id rest
      (found, (k, next) :: left)

/-- What is still to do when the entries are open. -/
def load : Arcs → Nat
  | [] => 0
  | a :: rest => a.2.length + 1 + load rest

theorem load_takeOut (id : Json) (arcs : Arcs) :
    (takeOut id arcs).1.length + load (takeOut id arcs).2 ≤ load arcs := by
  induction arcs with
  | nil => simp [takeOut, load]
  | cons a rest ih =>
    obtain ⟨k, next⟩ := a
    simp only [takeOut]
    split
    · simp [load]
    · simp only [load]; omega

/-- Goes through the queue from the front. An id that was not seen before sends the ids that follow
it to the end of the queue. The answer is all ids seen, in the order they were met. -/
def explore (arcs : Arcs) (queue seen : List Json) : List Json :=
  match queue with
  | [] => seen
  | id :: rest =>
    if id.isIn seen then explore arcs rest seen
    else explore (takeOut id arcs).2 (rest ++ (takeOut id arcs).1) (seen ++ [id])
termination_by load arcs + queue.length
decreasing_by
  · simp
  · have := load_takeOut id arcs
    simp only [List.length_append, List.length_cons]
    omega

end Arcs

/-! ## The ways of a flow -/

namespace Flow

def ids (f : Flow) : List Json := f.nodes.map (·.id)

/-- All ids that a run can go on to from an id: along the edges, then by what the nodes name. -/
def successors (f : Flow) (id : Json) : List Json :=
  let named := (f.nodes.filter (·.id.same id)).flatMap Node.namedTargets
  named.foldl addNew ((f.edges.filter (·.source.same id)).map (·.target))

def arcs (f : Flow) : Arcs := (distinct f.ids).map fun id => (id, f.successors id)

/-- All ids that a run can come to, known or not. -/
def reached (f : Flow) : List Json :=
  match f.startNode? with
  | some start => f.arcs.explore [start.id] []
  | none => []

end Flow

end Dialogue
