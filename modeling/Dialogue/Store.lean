-- The store of flows: one flow for each id, in the order in which the ids came in.
import Dialogue.Flow
import Dialogue.Text.Letters

namespace Dialogue

structure Store where
  flows : List Flow := []

/-- What a list of flows is narrowed to. A category or a search that is null or empty is none. -/
structure Filter where
  category : Json := .null
  status : Option Status := none
  search : Json := .null

namespace Store

def size (s : Store) : Nat := s.flows.length

def get? (s : Store) (id : Json) : Option Flow := s.flows.find? (·.id.same id)

def has (s : Store) (id : Json) : Bool := (s.get? id).isSome

/-- Sets a flow in the list. One with the same id gives up its place to it. -/
def place (f : Flow) : List Flow → List Flow
  | [] => [f]
  | g :: rest => if g.id.same f.id then f :: rest else g :: place f rest

def put (s : Store) (f : Flow) : Store := ⟨place f s.flows⟩

def erase (s : Store) (id : Json) : Store := ⟨s.flows.filter fun f => !f.id.same id⟩

/-! ## Listing -/

/-- Whether a text stands in the value in any letter case. The value must be a text. -/
def mentions (j : Json) (lowered : String) : Outcome Bool :=
  match j with
  | .str s => .ok (Text.contains (Text.lower s) lowered)
  | _ => .error .noSuchPart

/-- The description is only looked at where the name does not match. -/
def found (lowered : String) (f : Flow) : Outcome Bool := do
  if ← mentions f.name lowered then return true
  mentions f.description lowered

/-- Whether the flow has the category and the status asked for. -/
def fits (filter : Filter) (f : Flow) : Bool :=
  (!filter.category.isPresent || f.category.equals filter.category)
    && filter.status.all (fun s => f.status == s)

/-- The elements that pass, if the test can be made on all. -/
def filterAll (test : Flow → Outcome Bool) : List Flow → Outcome (List Flow)
  | [] => .ok []
  | f :: rest => do
    let keep ← test f
    let rest ← filterAll test rest
    return if keep then f :: rest else rest

/-- The flows that pass the filter, the last updated first. Of two updated at one time the one that
came in first stands first. Only a text can be searched for. -/
def list (s : Store) (filter : Filter) : Outcome (List Flow) := do
  let flows := s.flows.filter (fits filter)
  let flows ←
    if filter.search.isPresent then
      match filter.search with
      | .str term => filterAll (found (Text.lower term)) flows
      | _ => .error .noSuchPart
    else pure flows
  return flows.mergeSort fun a b => b.updatedAt ≤ a.updatedAt

end Store

end Dialogue
