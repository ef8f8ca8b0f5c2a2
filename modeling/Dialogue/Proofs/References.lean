-- References to a node. When a node is deleted its id is left nowhere: not among the nodes, at no
-- edge, in no connections and no data, not in the selection and not in the connection that is drawn.
-- And with it goes nothing else.
import Dialogue.Proofs.Removal

namespace Dialogue

open Json

/-! ## References in data -/

namespace NodeData

/-- The nodes that the data refers to, a place for each reference it can hold. -/
def targets : NodeData → List (Option String)
  | .condition d => [d.yesTo, d.noTo]
  | .dtmf d => d.branches.map (·.target)
  | _ => []

/-- The data but for its references. -/
def withoutTargets : NodeData → NodeData
  | .condition d => .condition { d with yesTo := none, noTo := none }
  | .dtmf d => .dtmf { d with branches := d.branches.map fun b => { b with target := none } }
  | d => d

theorem targets_forget (id : Json) (d : NodeData) :
    (d.forget id).targets = d.targets.map (clearTarget id) := by
  cases d with
  | dtmf d => simp [forget, targets]
  | _ => rfl

theorem withoutTargets_forget (id : Json) (d : NodeData) :
    (d.forget id).withoutTargets = d.withoutTargets := by
  cases d with
  | dtmf d => simp [forget, withoutTargets]
  | _ => rfl

end NodeData

/-- A reference to the node is taken out, and any other stays. -/
def Forgets (id : Json) (before after : Option String) : Prop :=
  (before.map .str = some id ∧ after = none) ∨ (before.map .str ≠ some id ∧ after = before)

theorem forgets_clearTarget (id : Json) (t : Option String) : Forgets id t (clearTarget id t) := by
  cases t with
  | none => exact .inr ⟨nofun, rfl⟩
  | some t =>
    have hsame : (Json.str t).same id = true ↔ Json.str t = id :=
      same_iff_of_left (isText_str t).isWord
    by_cases ht : Json.str t = id
    · exact .inl ⟨congrArg some ht, by simp [clearTarget, hsame.mpr ht]⟩
    · have hother : (Json.str t).same id = false := Bool.eq_false_iff.mpr (mt hsame.mp ht)
      exact .inr ⟨fun h => ht (Option.some.inj h), by simp [clearTarget, hother]⟩

theorem clearTarget_eq_self {id : Json} {t : Option String} (h : t.map .str ≠ some id) :
    clearTarget id t = t := by
  rcases forgets_clearTarget id t with ⟨ht, -⟩ | ⟨-, hkept⟩
  · exact absurd ht h
  · exact hkept

theorem not_clearTarget_eq (id : Json) (t : Option String) :
    (clearTarget id t).map .str ≠ some id := by
  rcases forgets_clearTarget id t with ⟨-, hgone⟩ | ⟨ht, hkept⟩
  · rw [hgone]
    nofun
  · rwa [hkept]

theorem NodeData.forget_eq_self {id : Json} {d : NodeData}
    (h : ∀ t ∈ d.targets, t.map .str ≠ some id) : d.forget id = d := by
  cases d with
  | condition d =>
    have hyes := clearTarget_eq_self (h d.yesTo (by simp [targets]))
    have hno := clearTarget_eq_self (h d.noTo (by simp [targets]))
    rw [forget, hyes, hno]
  | dtmf d =>
    have hbranches : ∀ b ∈ d.branches, { b with target := clearTarget id b.target } = b := by
      intro b hb
      rw [clearTarget_eq_self (h b.target (List.mem_map_of_mem hb))]
    rw [forget, List.map_congr_left hbranches, List.map_id']
  | _ => rfl

/-! ## Flows without a trace of a node -/

namespace Flow

variable {f : Flow} {id : Json}

/-- The id stands nowhere in the graph. -/
structure IsFreeOf (f : Flow) (id : Json) : Prop where
  ids : id ∉ f.ids
  ends : ∀ x ∈ f.edges, x.source ≠ id ∧ x.target ≠ id
  connections : ∀ n ∈ f.nodes, id ∉ n.connections
  targets : ∀ n ∈ f.nodes, ∀ t ∈ n.data.targets, t.map .str ≠ some id

theorem isFreeOf_without (h : f.Sound) (hid : id.IsText) : (f.without id).IsFreeOf id where
  ids := by
    intro hmem
    obtain ⟨m, hm, heq⟩ := mem_ids.mp hmem
    obtain ⟨n, hn, rfl⟩ := List.mem_map.mp hm
    have hother := (List.mem_filter.mp hn).2
    rw [not_same_iff_of_right hid.isWord] at hother
    exact hother heq
  ends := by
    intro x hx
    rw [edges_without h] at hx
    obtain ⟨hx, htouches⟩ := List.mem_filter.mp hx
    rwa [not_touches_iff h id hx] at htouches
  connections := by
    intro m hm hmem
    obtain ⟨n, -, rfl⟩ := List.mem_map.mp hm
    have hother := (List.mem_filter.mp hmem).2
    rw [(same_iff_of_right hid.isWord).mpr rfl] at hother
    cases hother
  targets := by
    intro m hm t ht
    obtain ⟨n, -, rfl⟩ := List.mem_map.mp hm
    rw [Node.forget, NodeData.targets_forget] at ht
    obtain ⟨u, -, rfl⟩ := List.mem_map.mp ht
    exact not_clearTarget_eq id u

end Flow

/-! ## What goes with a node -/

/-- The second node is the first without its references to the node that is gone. -/
structure Node.LosesOnly (gone : Json) (n m : Node) : Prop where
  id : m.id = n.id
  position : m.position = n.position
  connections : m.connections = n.connections.filter fun c => !c.same gone
  data : m.data.withoutTargets = n.data.withoutTargets
  targets : List.Forall₂ (Forgets gone) n.data.targets m.data.targets

theorem Node.losesOnly_forget (id : Json) (n : Node) : n.LosesOnly id (n.forget id) where
  id := rfl
  position := rfl
  connections := rfl
  data := n.data.withoutTargets_forget id
  targets := by
    rw [Node.forget, NodeData.targets_forget, List.forall₂_map_right_iff, List.forall₂_same]
    exact fun t _ => forgets_clearTarget id t

namespace Editor

variable {e : Editor} {id : Json}

/-- The id stands nowhere in the graph, nor does the selection or the connection that is drawn hold
it. -/
structure IsFreeOf (e : Editor) (id : Json) : Prop where
  flow : e.flow.IsFreeOf id
  selected : ∀ m, e.selected = some m → m.id ≠ id
  gesture : e.gesture.source ≠ id

/-- The second editor is the first without the node with the id, and nothing else has changed but
that the flow is a draft. -/
structure LosesOnly (id : Json) (e e' : Editor) : Prop where
  nodes : List.Forall₂ (Node.LosesOnly id) (e.flow.nodes.filter fun n => !n.id.same id) e'.flow.nodes
  edges : e'.flow.edges = e.flow.edges.filter fun x => !Flow.touches id x
  rest : e'.flow = { e.flow with nodes := e'.flow.nodes, edges := e'.flow.edges, status := .draft }
  selected : ∀ m, e.selected = some m → m.id ≠ id → e'.selected = some m
  unselected : e.selected = none → e'.selected = none
  gesture : e.gesture.source ≠ id → e'.gesture = e.gesture

theorem isFreeOf_without (h : e.flow.Sound) (hid : id.IsText) : (e.without id).IsFreeOf id where
  flow := by
    obtain ⟨hids, hends, hconnections, htargets⟩ := Flow.isFreeOf_without h hid
    exact ⟨hids, hends, hconnections, htargets⟩
  selected := by
    intro m hm heq
    have hsame : m.id.same id = true := (same_iff_of_right hid.isWord).mpr heq
    unfold without hasSelected at hm
    dsimp only at hm
    split at hm
    · cases hm
    · rename_i hother
      rw [hm, Option.any_some] at hother
      exact hother hsame
  gesture := by
    unfold without
    dsimp only
    split
    · rintro rfl
      obtain ⟨s, hs⟩ := hid
      cases hs
    · rename_i hother
      rwa [same_iff_of_right hid.isWord] at hother

theorem losesOnly_without (h : e.flow.Sound) (hid : id.IsText) : e.LosesOnly id (e.without id) where
  nodes := by
    have hnodes : (e.without id).flow.nodes =
        (e.flow.nodes.filter fun n => !n.id.same id).map (Node.forget id) := rfl
    rw [hnodes, List.forall₂_map_right_iff, List.forall₂_same]
    exact fun n _ => n.losesOnly_forget id
  edges := Flow.edges_without h id
  rest := rfl
  selected := by
    intro m hm hne
    have hother : ¬ m.id.same id = true := mt (same_iff_of_right hid.isWord).mp hne
    unfold without hasSelected
    simp [hm, hother]
  unselected := by
    intro hnone
    unfold without hasSelected
    simp [hnone]
  gesture := by
    intro hne
    exact if_neg (mt (same_iff_of_right hid.isWord).mp hne)

/-- A deletion that is done is that of a node other than the start node. -/
theorem eq_without_of_deleteNode (h : e.flow.Sound) {nextId : Nat} {e' : Editor}
    (hdone : (e.deleteNode nextId id).done? = some e') :
    id.IsText ∧ e' = e.without id := by
  cases hfound : e.flow.node? id with
  | none =>
    unfold deleteNode at hdone
    rw [hfound] at hdone
    cases hdone
  | some n =>
    obtain ⟨hn, rfl⟩ := Flow.node?_spec h hfound
    have hkind : n.kind ≠ .start := by
      intro hstart
      unfold deleteNode at hdone
      rw [hfound] at hdone
      dsimp only at hdone
      rw [hstart] at hdone
      cases hdone
    rw [deleteNode_done h hn hkind] at hdone
    exact ⟨h.ids_text n hn, (Option.some.inj hdone).symm⟩

end Editor

/-! ## The law -/

/-- Once a node of a homegrown flow is deleted its id is left nowhere, and all that does not refer to
it is as it was and in the same order. -/
theorem a_deletion_takes_a_node_and_what_refers_to_it {settings : Settings}
    (definitions : List Definition) {room : Room} {e e' : Editor}
    (h : Homegrown ⟨settings, definitions.foldl Palette.register .standard, room⟩ e.flow)
    {nextId : Nat} {id : Json} (hdone : (e.deleteNode nextId id).done? = some e') :
    e'.IsFreeOf id ∧ e.LosesOnly id e' := by
  have hsound := h.sound (Palette.current_kind definitions)
  obtain ⟨hid, rfl⟩ := Editor.eq_without_of_deleteNode hsound hdone
  exact ⟨Editor.isFreeOf_without hsound hid, Editor.losesOnly_without hsound hid⟩

/-- Whether some data of the flow refers to the node. -/
def Flow.refersTo (f : Flow) (id : Json) : Bool :=
  f.nodes.any fun n => n.data.targets.any fun t => (t.map Json.str).any (·.same id)

/-- So it is with an end that is selected and that a connection is drawn from, while an edge leads to
it from a condition whose stored way on it is as well. -/
theorem an_end_goes_from_its_condition :
    ∃ (e e' : Editor) (id : Json), Homegrown ⟨{}, .standard, ⟨1000, by decide⟩⟩ e.flow ∧
      e.flow.refersTo id = true ∧ e.flow.edges.any (Flow.touches id) = true ∧
      e.hasSelected id = true ∧ e.gesture.source.same id = true ∧
      (e.deleteNode 8 id).done? = some e' ∧ e'.IsFreeOf id ∧ e.LosesOnly id e' := by
  let s : Setup := ⟨{}, .standard, ⟨1000, by decide⟩⟩
  let ask : Json := .str "condition-00000003"
  let bye : Json := .str "end-00000004"
  let answer : Edit := .updateData ask (.obj [("yes_connection", bye)])
  let made := ({} : Workspace).createFlow s 0 (.str "Greeting") (.str "") (.str "")
  let after (e : Editor) (nextId : Nat) (k : Edit) : Editor :=
    (e.perform s.palette s.settings.canvas.duplicateOffset s.room.steps nextId k).editor
  let e₀ : Editor := { flow := made.2.toOption.get (by decide +kernel) }
  let e₁ := after e₀ 3 (.addNode .condition origin)
  let e₂ := after e₁ 4 (.addNode .finish origin)
  let e₃ := after e₂ 5 (.addEdge (.str "start-00000001") ask none)
  let e₄ := after e₃ 6 (.addEdge ask bye (some .yes))
  let e₅ := after e₄ 7 answer
  let e₆ := after e₅ 8 (.selectNode bye)
  let e₇ := after e₆ 8 (.startConnect bye .default)
  let e₈ := (e₇.deleteNode 8 bye).done?.get (by decide +kernel)
  have hnew : ∀ {t : String} {xs : List Json}, (Json.str t).isIn xs = false → .str t ∉ xs :=
    not_mem_of_isIn (isText_str _).isWord
  have hmade : made = (made.1, .ok e₀.flow) := rfl
  have h₀ : Homegrown s e₀.flow := .created hmade
  have h₁ : Homegrown s e₁.flow := h₀.edited rfl (hnew (by decide +kernel))
  have h₂ : Homegrown s e₂.flow := h₁.edited rfl (hnew (by decide +kernel))
  have h₃ : Homegrown s e₃.flow := h₂.edited rfl (hnew (by decide +kernel))
  have h₄ : Homegrown s e₄.flow := h₃.edited rfl (hnew (by decide +kernel))
  have h₅ : Homegrown s e₅.flow := h₄.edited (k := answer) rfl trivial
  have h₆ : Homegrown s e₆.flow := h₅.edited (k := .selectNode bye) rfl trivial
  have h₇ : Homegrown s e₇.flow := h₆.edited (k := .startConnect bye .default) rfl trivial
  have hdone : (e₇.deleteNode 8 bye).done? = some e₈ := (Option.some_get _).symm
  obtain ⟨hfree, honly⟩ := a_deletion_takes_a_node_and_what_refers_to_it [] h₇ hdone
  exact ⟨e₇, e₈, bye, h₇, by decide +kernel, by decide +kernel, by decide +kernel,
    by decide +kernel, hdone, hfree, honly⟩

end Dialogue
