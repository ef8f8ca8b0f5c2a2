-- The order in which parts of a flow are deleted makes no difference. The edges at a node may go one
-- by one before it or all with it, and of two nodes either may go first. In a homegrown flow the
-- edges tell what the connections are, so that only nodes and edges are compared.
import Dialogue.Proofs.Lockstep

namespace Dialogue

open Json

/-- A node without its connections. -/
def Node.bare (n : Node) : Node := { n with connections := [] }

theorem clearTarget_comm (a b : Json) (t : Option String) :
    clearTarget a (clearTarget b t) = clearTarget b (clearTarget a t) := by
  unfold clearTarget
  rw [Option.filter_filter, Option.filter_filter]
  simp only [Bool.and_comm]

theorem NodeData.forget_comm (a b : Json) (d : NodeData) :
    (d.forget b).forget a = (d.forget a).forget b := by
  cases d with
  | condition d => simp [forget, clearTarget_comm a b]
  | dtmf d => simp [forget, clearTarget_comm a b]
  | _ => rfl

theorem Node.forget_comm (a b : Json) (n : Node) :
    (n.forget b).forget a = (n.forget a).forget b := by
  simp only [forget, NodeData.forget_comm a b, List.filter_filter, Bool.and_comm]

namespace Flow

variable {f g : Flow}

/-! ## What the edges tell -/

/-- The flow without the connections of its nodes. -/
def bare (f : Flow) : Flow := { f with nodes := f.nodes.map Node.bare }

/-- The flow in which each node is connected to the targets of its edges. -/
def connected (f : Flow) : Flow :=
  { f with nodes := f.nodes.map fun n =>
      { n with connections := (f.outgoing n.id).map (·.target) } }

theorem InLockstep.connected_bare (h : f.InLockstep) : f.bare.connected = f := by
  have hnodes : f.bare.connected.nodes = f.nodes := by
    have hback : ∀ n ∈ f.nodes, { n.bare with
        connections := (f.outgoing n.id).map (·.target) } = n := by
      intro n hn
      rw [← h.ordered n hn]
      rfl
    unfold connected bare
    rw [List.map_map]
    exact (List.map_congr_left hback).trans (List.map_id f.nodes)
  calc f.bare.connected = { f with nodes := f.bare.connected.nodes } := rfl
    _ = f := by rw [hnodes]

/-- In lockstep nothing is lost with the connections. -/
theorem InLockstep.eq_of_bare (hf : f.InLockstep) (hg : g.InLockstep) (h : f.bare = g.bare) :
    f = g := by
  rw [← hf.connected_bare, h, hg.connected_bare]

theorem bare_dropEdge (f : Flow) (x : Edge) : (f.dropEdge x).bare =
    { f.bare with edges := f.edges.filter fun y => !y.id.same x.id } := by
  have hview : ∀ n : Node, Node.bare { n with
      connections := n.connections.eraseP (x.target.same ·) } = n.bare := fun _ => rfl
  have hnodes : (f.dropEdge x).nodes.map Node.bare = f.nodes.map Node.bare :=
    map_modifyFirst hview f.nodes
  calc (f.dropEdge x).bare = { f with
        nodes := (f.dropEdge x).nodes.map Node.bare
        edges := f.edges.filter fun y => !y.id.same x.id } := rfl
    _ = _ := by rw [hnodes]; rfl

/-! ## A flow without one of its nodes -/

/-- The flow without a node and without all that refers to it. -/
def without (f : Flow) (id : Json) : Flow := ((f.dropNodes id).dropEdgesAt id).forgetNode id

theorem nodes_without (f : Flow) (id : Json) :
    (f.without id).nodes = (f.nodes.filter fun n => !n.id.same id).map (Node.forget id) := rfl

theorem edges_without (h : f.Sound) (id : Json) :
    (f.without id).edges = f.edges.filter fun x => !touches id x :=
  edges_deleteNode h id

theorem without_eq (f : Flow) (id : Json) : f.without id =
    { f with nodes := (f.without id).nodes, edges := (f.without id).edges } := rfl

theorem bare_without (f : Flow) (id : Json) :
    (f.without id).bare = { f.bare.without id with edges := (f.without id).edges } := by
  have hnodes : (f.without id).nodes.map Node.bare = (f.bare.without id).nodes := by
    rw [nodes_without, nodes_without, bare, List.filter_map, List.map_map, List.map_map]
    rfl
  rw [bare, hnodes]
  rfl

theorem without_comm (h : f.Sound) {a b : Json}
    (ha : ∀ n ∈ f.nodes, n.id = a → n.kind ≠ .start)
    (hb : ∀ n ∈ f.nodes, n.id = b → n.kind ≠ .start) :
    (f.without a).without b = (f.without b).without a := by
  have hnodes : ((f.without a).without b).nodes = ((f.without b).without a).nodes := by
    simp only [nodes_without, List.filter_map, List.map_map, List.filter_filter]
    have hforget : Node.forget b ∘ Node.forget a = Node.forget a ∘ Node.forget b :=
      funext fun n => Node.forget_comm b a n
    rw [hforget]
    congr 1
    apply List.filter_congr
    intro n _
    exact Bool.and_comm _ _
  have hedges : ((f.without a).without b).edges = ((f.without b).without a).edges := by
    have hsound_a : (f.without a).Sound := sound_deleteNode h ha
    have hsound_b : (f.without b).Sound := sound_deleteNode h hb
    rw [edges_without hsound_a, edges_without hsound_b, edges_without h, edges_without h,
      List.filter_filter, List.filter_filter]
    simp only [Bool.and_comm]
  rw [without_eq, without_eq (f.without b), hnodes, hedges]
  rfl

end Flow

/-! ## Deletions by the editor -/

/-- The editor after an edit that was done. -/
def Edited.done? (d : Edited) : Option Editor :=
  match d.reply with
  | .done _ => some d.editor
  | _ => none

/-- The editor after it deletes the edges with the ids one by one, if it finds each of them. -/
def Editor.deleteEdges? (nextId : Nat) (e : Editor) (ids : List Json) : Option Editor :=
  ids.foldlM (fun e id => (e.deleteEdge nextId id).done?) e

namespace Editor

variable {e : Editor}

/-- The node goes, and so do its selection and the connection that is drawn from it. -/
def without (e : Editor) (id : Json) : Editor where
  flow := (e.flow.without id).asDraft
  selected := if e.hasSelected id then none else e.selected
  gesture := if e.gesture.source.same id then {} else e.gesture

theorem deleteNode_done (h : e.flow.Sound) {n : Node} (hn : n ∈ e.flow.nodes)
    (hkind : n.kind ≠ .start) (nextId : Nat) :
    (e.deleteNode nextId n.id).done? = some (e.without n.id) := by
  have hkeys : (e.flow.dropNodes n.id).edges.all (·.id.isKey) = true :=
    List.all_eq_true.mpr fun x hx => (h.edge_ids_text x hx).isWord.isKey
  unfold deleteNode
  rw [h.worded.node?_eq_some h.ids_nodup hn]
  dsimp only
  rw [if_neg (by simpa using hkind), if_pos hkeys]
  rfl

theorem deleteEdge_done (h : e.flow.Sound) {x : Edge} (hx : x ∈ e.flow.edges) (nextId : Nat) :
    (e.deleteEdge nextId x.id).done? = some (e.change (e.flow.dropEdge x)) := by
  have hfound : (e.flow.edge? x.id).isSome = true := by
    unfold Flow.edge?
    rw [List.find?_isSome]
    exact ⟨x, hx, (equals_iff_of_left (h.edge_ids_text x hx).isWord).mpr rfl⟩
  obtain ⟨y, hy⟩ := Option.isSome_iff_exists.mp hfound
  obtain ⟨hmem, hid⟩ := Flow.edge?_spec h hy
  obtain rfl := Flow.edge_eq_of_id_eq h hmem hx hid
  unfold deleteEdge
  rw [hy]
  rfl

/-- The second editor is the first without the edges with the ids. -/
structure Sheds (ids : List Json) (e e' : Editor) : Prop where
  inLockstep : e'.flow.InLockstep
  flow : e'.flow.bare.asDraft =
    { e.flow.bare with edges := e.flow.edges.filter fun x => !x.id.isIn ids }.asDraft
  selected : e'.selected = e.selected
  gesture : e'.gesture = e.gesture

theorem sheds_deleteEdges (nextId : Nat) {ids : List Json} (hnodup : ids.Nodup)
    (h : e.flow.InLockstep) (hids : ∀ id ∈ ids, ∃ x ∈ e.flow.edges, x.id = id) :
    ∃ e', e.deleteEdges? nextId ids = some e' ∧ e.Sheds ids e' := by
  induction ids generalizing e with
  | nil =>
    refine ⟨e, rfl, h, ?_, rfl, rfl⟩
    have hall : e.flow.edges.filter (fun x => !x.id.isIn []) = e.flow.edges :=
      List.filter_eq_self.mpr fun _ _ => rfl
    rw [hall]
    rfl
  | cons id rest ih =>
    rw [List.nodup_cons] at hnodup
    obtain ⟨x, hx, rfl⟩ := hids id (by simp)
    have hdone := deleteEdge_done h.toSound hx nextId
    have hlockstep : (e.change (e.flow.dropEdge x)).flow.InLockstep :=
      (h.dropEdge hx).congr ⟨rfl, rfl⟩
    have hrest : ∀ id ∈ rest, ∃ y ∈ (e.change (e.flow.dropEdge x)).flow.edges, y.id = id := by
      intro id hid
      obtain ⟨y, hy, rfl⟩ := hids id (by simp [hid])
      refine ⟨y, List.mem_filter.mpr ⟨hy, ?_⟩, rfl⟩
      rw [not_same_iff_of_left (h.edge_ids_text y hy).isWord]
      rintro heq
      exact hnodup.1 (heq ▸ hid)
    obtain ⟨e', he', hsheds⟩ := ih hnodup.2 hlockstep hrest
    refine ⟨e', ?_, hsheds.inLockstep, ?_, hsheds.selected, hsheds.gesture⟩
    · unfold deleteEdges? at he' ⊢
      rw [List.foldlM_cons, hdone]
      exact he'
    · have hedges : (e.flow.dropEdge x).edges.filter (fun y => !y.id.isIn rest) =
          e.flow.edges.filter fun y => !y.id.isIn (x.id :: rest) := by
        have hgone : (e.flow.dropEdge x).edges = e.flow.edges.filter fun y => !y.id.same x.id := rfl
        rw [hgone, List.filter_filter]
        apply List.filter_congr
        intro y hy
        have hword := (h.edge_ids_text y hy).isWord
        rw [Bool.eq_iff_iff, Bool.and_eq_true, Bool.not_eq_true', Bool.not_eq_true',
          Bool.not_eq_true', ← Bool.not_eq_true, ← Bool.not_eq_true, ← Bool.not_eq_true,
          isIn_iff hword, isIn_iff hword, same_iff_of_left hword, List.mem_cons, not_or, and_comm]
      have hbare : (e.change (e.flow.dropEdge x)).flow.bare = (e.flow.dropEdge x).bare.asDraft := rfl
      rw [hsheds.flow, hbare, Flow.bare_dropEdge, ← hedges]
      rfl

/-- Once the edges at a node are gone, the rest goes with the node as it does otherwise. -/
theorem Sheds.without_eq {ids : List Json} {e' : Editor} (hs : e.Sheds ids e')
    (h : e.flow.InLockstep) {id : Json} (hkept : ∀ n ∈ e.flow.nodes, n.id = id → n.kind ≠ .start)
    (hids : ∀ x ∈ e.flow.edges, x.id.isIn ids = true ↔ Flow.touches id x = true) :
    e'.without id = e.without id := by
  have hnodes : e'.flow.nodes.map Node.bare = e.flow.nodes.map Node.bare :=
    congrArg Flow.nodes hs.flow
  have hkept' : ∀ n ∈ e'.flow.nodes, n.id = id → n.kind ≠ .start := by
    intro n hn hid
    have hbare : n.bare ∈ e.flow.nodes.map Node.bare := hnodes ▸ List.mem_map_of_mem hn
    obtain ⟨m, hm, hsame⟩ := List.mem_map.mp hbare
    have hid' : m.bare.id = n.bare.id := congrArg Node.id hsame
    have hkind : m.bare.kind = n.bare.kind := congrArg Node.kind hsame
    exact fun hstart => hkept m hm (hid'.trans hid) (hkind.trans hstart)
  have hedges : (e'.flow.without id).edges = (e.flow.without id).edges := by
    have hleft : e'.flow.edges = e.flow.edges.filter fun x => !x.id.isIn ids :=
      congrArg Flow.edges hs.flow
    rw [Flow.edges_without hs.inLockstep.toSound, Flow.edges_without h.toSound, hleft,
      List.filter_filter]
    apply List.filter_congr
    intro x hx
    rw [← Bool.eq_iff_iff.mpr (hids x hx), Bool.and_self]
  have hflow : (e'.flow.without id).asDraft = (e.flow.without id).asDraft := by
    apply Flow.InLockstep.eq_of_bare
    · exact (hs.inLockstep.deleteNode hkept').congr ⟨rfl, rfl⟩
    · exact (h.deleteNode hkept).congr ⟨rfl, rfl⟩
    · calc (e'.flow.without id).asDraft.bare
        _ = { e'.flow.bare.asDraft.without id with edges := (e'.flow.without id).edges } :=
          congrArg Flow.asDraft (Flow.bare_without _ _)
        _ = { e.flow.bare.asDraft.without id with edges := (e.flow.without id).edges } := by
          rw [hs.flow, hedges]
          rfl
        _ = (e.flow.without id).asDraft.bare := (congrArg Flow.asDraft (Flow.bare_without _ _)).symm
  unfold Editor.without hasSelected
  rw [hflow, hs.selected, hs.gesture]

/-- Of two nodes either may go first. -/
theorem without_comm (h : e.flow.Sound) {a b : Json}
    (ha : ∀ n ∈ e.flow.nodes, n.id = a → n.kind ≠ .start)
    (hb : ∀ n ∈ e.flow.nodes, n.id = b → n.kind ≠ .start) :
    (e.without a).without b = (e.without b).without a := by
  have hflow : ((e.without a).without b).flow = ((e.without b).without a).flow := by
    calc ((e.without a).without b).flow
      _ = ((e.flow.without a).without b).asDraft := rfl
      _ = ((e.flow.without b).without a).asDraft := by rw [Flow.without_comm h ha hb]
      _ = ((e.without b).without a).flow := rfl
  have hselected : ((e.without a).without b).selected = ((e.without b).without a).selected := by
    unfold Editor.without hasSelected
    by_cases hsel_a : e.selected.any (fun n => n.id.same a) <;>
      by_cases hsel_b : e.selected.any (fun n => n.id.same b) <;> simp [hsel_a, hsel_b]
  have hgesture : ((e.without a).without b).gesture = ((e.without b).without a).gesture := by
    unfold Editor.without
    by_cases hdrawn_a : e.gesture.source.same a <;> by_cases hdrawn_b : e.gesture.source.same b <;>
      simp [hdrawn_a, hdrawn_b]
  calc (e.without a).without b
    _ = ⟨((e.without a).without b).flow, ((e.without a).without b).selected,
          ((e.without a).without b).gesture⟩ := rfl
    _ = (e.without b).without a := by rw [hflow, hselected, hgesture]

theorem Sheds.mem {ids : List Json} {e' : Editor} (hs : e.Sheds ids e') {n : Node}
    (hn : n ∈ e.flow.nodes) : ∃ m ∈ e'.flow.nodes, m.id = n.id ∧ m.kind = n.kind := by
  have hnodes : e'.flow.nodes.map Node.bare = e.flow.nodes.map Node.bare :=
    congrArg Flow.nodes hs.flow
  have hbare : n.bare ∈ e'.flow.nodes.map Node.bare := hnodes ▸ List.mem_map_of_mem hn
  obtain ⟨m, hm, hsame⟩ := List.mem_map.mp hbare
  have hid : m.bare.id = n.bare.id := congrArg Node.id hsame
  have hkind : m.bare.kind = n.bare.kind := congrArg Node.kind hsame
  exact ⟨m, hm, hid, hkind⟩

theorem mem_without (h : e.flow.Sound) {n : Node} (hn : n ∈ e.flow.nodes) {id : Json}
    (hid : n.id ≠ id) : ∃ m ∈ (e.without id).flow.nodes, m.id = n.id ∧ m.kind = n.kind := by
  refine ⟨n.forget id, ?_, rfl, Flow.forget_kind id n⟩
  have hstays : (!n.id.same id) = true := by
    rw [not_same_iff_of_left (h.ids_text n hn).isWord]
    exact hid
  exact List.mem_map_of_mem (List.mem_filter.mpr ⟨hn, hstays⟩)

end Editor

/-! ## The law -/

/-- No other node has the id of a node that is no start node, so the start node does not. -/
theorem Flow.Sound.kept {f : Flow} (h : f.Sound) {n : Node} (hn : n ∈ f.nodes)
    (hkind : n.kind ≠ .start) : ∀ m ∈ f.nodes, m.id = n.id → m.kind ≠ .start := by
  intro m hm hid
  rw [node_eq_of_id_eq h.ids_nodup hm hn hid]
  exact hkind

/-- Whether the edges at a node are deleted before it, in any order, or go with it, the editor ends
up the same. It does whichever of two nodes is deleted first. -/
theorem the_order_of_deletions_makes_no_difference {settings : Settings}
    (definitions : List Definition) {room : Room} {e : Editor}
    (h : Homegrown ⟨settings, definitions.foldl Palette.register .standard, room⟩ e.flow)
    (nextId : Nat) :
    (∀ n ∈ e.flow.nodes, n.kind ≠ .start → ∀ ids : List Json, ids.Nodup →
      (∀ id, id ∈ ids ↔
        ∃ x ∈ e.flow.edges, x.id = id ∧ (x.source = n.id ∨ x.target = n.id)) →
      ∃ e₁ e₂, e.deleteEdges? nextId ids = some e₁ ∧
        (e₁.deleteNode nextId n.id).done? = some e₂ ∧
        (e.deleteNode nextId n.id).done? = some e₂) ∧
    (∀ a ∈ e.flow.nodes, ∀ b ∈ e.flow.nodes, a ≠ b → a.kind ≠ .start → b.kind ≠ .start →
      ∃ e₁ e₂ e₃, (e.deleteNode nextId a.id).done? = some e₁ ∧
        (e₁.deleteNode nextId b.id).done? = some e₃ ∧
        (e.deleteNode nextId b.id).done? = some e₂ ∧
        (e₂.deleteNode nextId a.id).done? = some e₃) := by
  have hlockstep := (inLockstep_lasts (Palette.current_kind definitions)).homegrown h
  have hsound := hlockstep.toSound
  constructor
  · intro n hn hkind ids hnodup hids
    have hincident : ∀ x ∈ e.flow.edges, x.id.isIn ids = true ↔ Flow.touches n.id x = true := by
      intro x hx
      rw [isIn_iff (hsound.edge_ids_text x hx).isWord, hids, Flow.touches_iff hsound n.id hx]
      constructor
      · rintro ⟨y, hy, heq, hends⟩
        rwa [Flow.edge_eq_of_id_eq hsound hy hx heq] at hends
      · exact fun hends => ⟨x, hx, rfl, hends⟩
    have hfound : ∀ id ∈ ids, ∃ x ∈ e.flow.edges, x.id = id := by
      intro id hid
      obtain ⟨x, hx, heq, -⟩ := (hids id).mp hid
      exact ⟨x, hx, heq⟩
    obtain ⟨e₁, he₁, hsheds⟩ := Editor.sheds_deleteEdges nextId hnodup hlockstep hfound
    obtain ⟨m, hm, hid, hsame⟩ := hsheds.mem hn
    have hdone := Editor.deleteNode_done hsheds.inLockstep.toSound hm (hsame ▸ hkind) nextId
    rw [hid, hsheds.without_eq hlockstep (hsound.kept hn hkind) hincident] at hdone
    exact ⟨e₁, e.without n.id, he₁, hdone, Editor.deleteNode_done hsound hn hkind nextId⟩
  · intro a ha b hb hne hkind_a hkind_b
    have hid : a.id ≠ b.id := fun heq => hne (Flow.node_eq_of_id_eq hsound.ids_nodup ha hb heq)
    have hkept_a := hsound.kept ha hkind_a
    have hkept_b := hsound.kept hb hkind_b
    have hsound_a : (e.without a.id).flow.Sound :=
      (Flow.sound_deleteNode hsound hkept_a).congr rfl rfl
    have hsound_b : (e.without b.id).flow.Sound :=
      (Flow.sound_deleteNode hsound hkept_b).congr rfl rfl
    obtain ⟨a', ha', hid_a, hsame_a⟩ := Editor.mem_without hsound ha hid
    obtain ⟨b', hb', hid_b, hsame_b⟩ := Editor.mem_without hsound hb hid.symm
    have hthen_b := Editor.deleteNode_done hsound_a hb' (hsame_b ▸ hkind_b) nextId
    have hthen_a := Editor.deleteNode_done hsound_b ha' (hsame_a ▸ hkind_a) nextId
    rw [hid_b] at hthen_b
    rw [hid_a, ← Editor.without_comm hsound hkept_a hkept_b] at hthen_a
    exact ⟨_, _, _, Editor.deleteNode_done hsound ha hkind_a nextId, hthen_b,
      Editor.deleteNode_done hsound hb hkind_b nextId, hthen_a⟩

/-- A homegrown flow in which a condition stands between the start node and an end. -/
theorem exists_drawn_condition :
    ∃ (f : Flow) (a b : Node), Homegrown ⟨{}, .standard, ⟨1000, by decide⟩⟩ f ∧ a ∈ f.nodes ∧
      b ∈ f.nodes ∧ a.kind = .condition ∧ b.kind = .finish ∧
      (f.edges.filter (Flow.touches a.id)).length = 2 := by
  let s : Setup := ⟨{}, .standard, ⟨1000, by decide⟩⟩
  let ask : Json := .str "condition-00000003"
  let addCondition : DeskWork := .edit (.addNode .condition origin)
  let addEnd : DeskWork := .edit (.addNode .finish origin)
  let joinFirst : DeskWork := .edit (.addEdge (.str "start-00000001") ask none)
  let joinSecond : DeskWork := .edit (.addEdge ask (.str "end-00000004") (some .yes))
  let made := ({} : Workspace).createFlow s 0 (.str "Greeting") (.str "") (.str "")
  let w₀ := (made.1.openFlow s.room.steps (.str (Ids.full 2))).1
  let w₁ := w₀.work s 0 addCondition
  let w₂ := w₁.work s 0 addEnd
  let w₃ := w₂.work s 0 joinFirst
  let w₄ := w₃.work s 0 joinSecond
  let d₁ := w₁.desk.get (by decide +kernel)
  let d₂ := w₂.desk.get (by decide +kernel)
  let d₃ := w₃.desk.get (by decide +kernel)
  let d₄ := w₄.desk.get (by decide +kernel)
  have hnew : ∀ {t : String} {xs : List Json}, (Json.str t).isIn xs = false → .str t ∉ xs :=
    not_mem_of_isIn (isText_str _).isWord
  have hstart : Homegrown s _ := .created (rfl : made = (_, .ok _))
  have h₁ : Homegrown s d₁.flow :=
    hstart.worked (k := addCondition) (rfl : w₀.desk = some (Desk.opened _))
      (hnew (by decide +kernel)) (Option.some_get _).symm
  have h₂ : Homegrown s d₂.flow :=
    h₁.worked (k := addEnd) (Option.some_get _).symm (hnew (by decide +kernel))
      (Option.some_get _).symm
  have h₃ : Homegrown s d₃.flow :=
    h₂.worked (k := joinFirst) (Option.some_get _).symm (hnew (by decide +kernel))
      (Option.some_get _).symm
  have h₄ : Homegrown s d₄.flow :=
    h₃.worked (k := joinSecond) (Option.some_get _).symm (hnew (by decide +kernel))
      (Option.some_get _).symm
  let a := (d₄.flow.nodes.drop 1).head (by decide +kernel)
  let b := d₄.flow.nodes.getLast (by decide +kernel)
  have ha : a ∈ d₄.flow.nodes := List.mem_of_mem_drop (List.head_mem _)
  have hb : b ∈ d₄.flow.nodes := List.getLast_mem _
  exact ⟨d₄.flow, a, b, h₄, ha, hb, by decide +kernel, by decide +kernel, by decide +kernel⟩

/-- So it is with such a condition and such an end, while the condition is selected and a connection
is drawn from the end. The two edges go in the other order than they were drawn. -/
theorem a_condition_and_its_end_go_in_any_order :
    ∃ (e : Editor) (a b : Node) (ids : List Json),
      Homegrown ⟨{}, .standard, ⟨1000, by decide⟩⟩ e.flow ∧ a ∈ e.flow.nodes ∧ b ∈ e.flow.nodes ∧
      a ≠ b ∧ a.kind ≠ .start ∧ b.kind ≠ .start ∧ e.selected = some a ∧ e.gesture.source = b.id ∧
      ids.length = 2 ∧ ids.Nodup ∧
      (∀ id, id ∈ ids ↔
        ∃ x ∈ e.flow.edges, x.id = id ∧ (x.source = a.id ∨ x.target = a.id)) ∧
      (∃ e₁ e₂, e.deleteEdges? 7 ids = some e₁ ∧ (e₁.deleteNode 7 a.id).done? = some e₂ ∧
        (e.deleteNode 7 a.id).done? = some e₂) ∧
      ∃ e₁ e₂ e₃, (e.deleteNode 7 a.id).done? = some e₁ ∧
        (e₁.deleteNode 7 b.id).done? = some e₃ ∧ (e.deleteNode 7 b.id).done? = some e₂ ∧
        (e₂.deleteNode 7 a.id).done? = some e₃ := by
  obtain ⟨f, a, b, h, ha, hb, hcondition, hfinish, htwo⟩ := exists_drawn_condition
  have hsound : f.Sound := h.sound (Palette.current_kind [])
  have hkind_a : a.kind ≠ .start := by simp [hcondition]
  have hkind_b : b.kind ≠ .start := by simp [hfinish]
  have hne : a ≠ b := by
    rintro rfl
    simp [hcondition] at hfinish
  let e : Editor := { flow := f, selected := some a, gesture := ⟨b.id, .default⟩ }
  let ids := ((f.edges.filter (Flow.touches a.id)).map (·.id)).reverse
  have hlength : ids.length = 2 := by rw [List.length_reverse, List.length_map, htwo]
  have hnodup : ids.Nodup :=
    List.nodup_reverse.mpr (hsound.edge_ids_nodup.sublist (List.filter_sublist.map _))
  have hids : ∀ id, id ∈ ids ↔
      ∃ x ∈ f.edges, x.id = id ∧ (x.source = a.id ∨ x.target = a.id) := by
    intro id
    rw [List.mem_reverse, List.mem_map]
    constructor
    · rintro ⟨x, hx, rfl⟩
      obtain ⟨hx, htouches⟩ := List.mem_filter.mp hx
      exact ⟨x, hx, rfl, (Flow.touches_iff hsound a.id hx).mp htouches⟩
    · rintro ⟨x, hx, rfl, hends⟩
      exact ⟨x, List.mem_filter.mpr ⟨hx, (Flow.touches_iff hsound a.id hx).mpr hends⟩, rfl⟩
  obtain ⟨hedges, hnodes⟩ := the_order_of_deletions_makes_no_difference [] (e := e) h 7
  exact ⟨e, a, b, ids, h, ha, hb, hne, hkind_a, hkind_b, rfl, rfl, hlength, hnodup, hids,
    hedges a ha hkind_a ids hnodup hids, hnodes a ha b hb hne hkind_a hkind_b⟩

end Dialogue
