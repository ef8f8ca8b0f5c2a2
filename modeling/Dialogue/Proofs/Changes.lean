-- What the changes of a graph keep. In a sound flow the connections of a node are the targets of
-- its edges, in any order, and no two edges share an id. A sound flow keeps every graph rule, and
-- each change that an edit makes leaves a sound flow sound.
import Dialogue.Flow.Change
import Dialogue.Proofs.Rules

namespace Dialogue

open Json

namespace Flow

/-- An edge fits on where the nodes at its ends are still there and of their kinds. -/
theorem Fits.transfer {f g : Flow} {e : Edge} (h : f.Fits e)
    (hids : ∀ id ∈ f.ids, id = e.source ∨ id = e.target → id ∈ g.ids)
    (hnodes : ∀ m ∈ g.nodes, m.id = e.source ∨ m.id = e.target →
      ∃ n ∈ f.nodes, n.id = m.id ∧ n.kind = m.kind) : g.Fits e where
  source_known := hids e.source h.source_known (Or.inl rfl)
  target_known := hids e.target h.target_known (Or.inr rfl)
  no_loop := h.no_loop
  not_into_start m hm hid := by
    obtain ⟨n, hn, hsame, hkind⟩ := hnodes m hm (Or.inr hid)
    rw [← hkind]
    exact h.not_into_start n hn (hsame.trans hid)
  not_out_of_finish m hm hid := by
    obtain ⟨n, hn, hsame, hkind⟩ := hnodes m hm (Or.inl hid)
    rw [← hkind]
    exact h.not_out_of_finish n hn (hsame.trans hid)

/-- A flow that holds together. -/
structure Sound (f : Flow) : Prop where
  ids_text : ∀ n ∈ f.nodes, n.id.IsText
  ids_nodup : f.ids.Nodup
  one_start : (f.nodes.filter (·.kind == .start)).length = 1
  edge_ids_text : ∀ e ∈ f.edges, e.id.IsText
  edge_ids_nodup : (f.edges.map (·.id)).Nodup
  edges_fit : ∀ e ∈ f.edges, f.Fits e
  ends_nodup : (f.edges.map Edge.ends).Nodup
  labels_word : ∀ e ∈ f.edges, e.label.IsWord
  branches : ∀ n ∈ f.nodes, n.kind = .condition → BranchLabels ((f.outgoing n.id).map (·.label))
  matched : ∀ n ∈ f.nodes, n.connections.Perm ((f.outgoing n.id).map (·.target))

namespace Sound

variable {f : Flow}

theorem isText_of_mem_ids (h : f.Sound) {id : Json} (hid : id ∈ f.ids) : id.IsText := by
  obtain ⟨n, hn, rfl⟩ := mem_ids.mp hid
  exact h.ids_text n hn

theorem source_text (h : f.Sound) {e : Edge} (he : e ∈ f.edges) : e.source.IsText :=
  h.isText_of_mem_ids (h.edges_fit e he).source_known

theorem target_text (h : f.Sound) {e : Edge} (he : e ∈ f.edges) : e.target.IsText :=
  h.isText_of_mem_ids (h.edges_fit e he).target_known

theorem mem_outgoing (h : f.Sound) {id : Json} {e : Edge} :
    e ∈ f.outgoing id ↔ e ∈ f.edges ∧ e.source = id := by
  unfold outgoing
  rw [List.mem_filter]
  constructor
  · rintro ⟨he, hs⟩
    exact ⟨he, (equals_iff_of_left (h.source_text he).isWord).mp hs⟩
  · rintro ⟨he, hs⟩
    exact ⟨he, (equals_iff_of_left (h.source_text he).isWord).mpr hs⟩

theorem worded (h : f.Sound) : f.Worded where
  ids := h.ids_text
  ends e he := ⟨h.source_text he, h.target_text he⟩
  labels := h.labels_word
  connections n hn c hc := by
    obtain ⟨e, he, rfl⟩ := List.mem_map.mp ((h.matched n hn).subset hc)
    exact h.target_text (h.mem_outgoing.mp he).1

theorem lawful (h : f.Sound) : f.Lawful where
  ids_nodup := h.ids_nodup
  one_start := h.one_start
  edges_fit := h.edges_fit
  ends_nodup := h.ends_nodup
  branches := h.branches
  matched := h.matched

/-- Soundness looks at the nodes and the edges alone. -/
theorem congr (h : f.Sound) {g : Flow} (hn : g.nodes = f.nodes) (he : g.edges = f.edges) :
    g.Sound := by
  have hids : g.ids = f.ids := by
    unfold ids
    rw [hn]
  have hout : ∀ id, g.outgoing id = f.outgoing id := by
    intro id
    unfold outgoing
    rw [he]
  exact
    { ids_text := hn ▸ h.ids_text
      ids_nodup := hids ▸ h.ids_nodup
      one_start := hn ▸ h.one_start
      edge_ids_text := he ▸ h.edge_ids_text
      edge_ids_nodup := he ▸ h.edge_ids_nodup
      edges_fit := fun e hmem => (h.edges_fit e (he ▸ hmem)).transfer
        (fun id hid _ => hids ▸ hid) fun m hm _ => ⟨m, hn ▸ hm, rfl, rfl⟩
      ends_nodup := he ▸ h.ends_nodup
      labels_word := he ▸ h.labels_word
      branches := by simpa only [hout, hn] using h.branches
      matched := by simpa only [hout, hn] using h.matched }

end Sound

/-! ## Looking things up -/

theorem node?_spec {f : Flow} (h : f.Sound) {id : Json} {n : Node} (hn : f.node? id = some n) :
    n ∈ f.nodes ∧ n.id = id :=
  h.worded.node?_spec hn

theorem edge?_spec {f : Flow} (h : f.Sound) {id : Json} {e : Edge} (he : f.edge? id = some e) :
    e ∈ f.edges ∧ e.id = id := by
  unfold edge? at he
  have hmem := List.mem_of_find?_eq_some he
  have hid := List.find?_some he
  exact ⟨hmem, (equals_iff_of_left (h.edge_ids_text e hmem).isWord).mp hid⟩

/-- Where no id stands twice, the change of the node that an id finds is the change of all nodes
that have the id. -/
theorem modifyFirst_eq_map {ns : List Node} (htext : ∀ n ∈ ns, n.id.IsText)
    (hnodup : (ns.map (·.id)).Nodup) (id : Json) (change : Node → Node) :
    modifyFirst (·.id.equals id) change ns =
      ns.map fun n => if n.id.equals id then change n else n := by
  induction ns with
  | nil => rfl
  | cons n rest ih =>
    rw [List.map_cons, List.nodup_cons] at hnodup
    have ih := ih (fun m hm => htext m (by simp [hm])) hnodup.2
    rw [modifyFirst, List.map_cons]
    split
    · rename_i heq
      rw [equals_iff_of_left (htext n (by simp)).isWord] at heq
      have hrest : ∀ m ∈ rest, (if m.id.equals id then change m else m) = m := by
        intro m hm
        rw [if_neg]
        intro hid
        rw [equals_iff_of_left (htext m (by simp [hm])).isWord] at hid
        exact hnodup.1 (List.mem_map.mpr ⟨m, hm, hid.trans heq.symm⟩)
      rw [List.map_congr_left hrest, List.map_id']
    · rw [ih]

/-- A part of the nodes that the change leaves alone is as it was. -/
theorem map_modifyFirst {α β : Type} {test : α → Bool} {change : α → α} {view : α → β}
    (h : ∀ a, view (change a) = view a) (xs : List α) :
    (modifyFirst test change xs).map view = xs.map view := by
  induction xs with
  | nil => rfl
  | cons x rest ih =>
    rw [modifyFirst]
    split
    · rw [List.map_cons, List.map_cons, h]
    · rw [List.map_cons, List.map_cons, ih]

/-! ## Fewer nodes and edges -/

/-- The flow with some of its nodes, each changed, and some of its edges. -/
def thinned (f : Flow) (keepNode : Node → Bool) (keepEdge : Edge → Bool) (change : Node → Node) :
    Flow :=
  { f with nodes := (f.nodes.filter keepNode).map change, edges := f.edges.filter keepEdge }

section

variable {f : Flow} {keepNode : Node → Bool} {keepEdge : Edge → Bool} {change : Node → Node}

theorem mem_thinned {m : Node} : m ∈ (f.thinned keepNode keepEdge change).nodes ↔
    ∃ n ∈ f.nodes, keepNode n = true ∧ change n = m := by
  unfold thinned
  simp only [List.mem_map, List.mem_filter, and_assoc]

theorem ids_thinned (hid : ∀ n, (change n).id = n.id) :
    (f.thinned keepNode keepEdge change).ids.Sublist f.ids := by
  have hids : (·.id) ∘ change = fun n : Node => n.id := funext hid
  unfold ids thinned
  rw [List.map_map, hids]
  exact List.filter_sublist.map _

theorem outgoing_thinned (id : Json) :
    (f.thinned keepNode keepEdge change).outgoing id = (f.outgoing id).filter keepEdge := by
  unfold outgoing thinned
  rw [List.filter_filter, List.filter_filter]
  simp only [Bool.and_comm]

theorem sound_thinned (h : f.Sound) (hid : ∀ n, (change n).id = n.id)
    (hkind : ∀ n ∈ f.nodes, (change n).kind = n.kind)
    (hstart : ∀ n ∈ f.nodes, n.kind = .start → keepNode n = true)
    (hends : ∀ e ∈ f.edges, keepEdge e = true → ∀ n ∈ f.nodes,
      n.id = e.source ∨ n.id = e.target → keepNode n = true)
    (hmatched : ∀ n ∈ f.nodes, keepNode n = true →
      (change n).connections.Perm (((f.outgoing n.id).filter keepEdge).map (·.target))) :
    (f.thinned keepNode keepEdge change).Sound := by
  have hedges : (f.thinned keepNode keepEdge change).edges.Sublist f.edges := List.filter_sublist
  constructor
  case ids_text =>
    intro m hm
    obtain ⟨n, hn, -, rfl⟩ := mem_thinned.mp hm
    rw [hid]
    exact h.ids_text n hn
  case ids_nodup => exact h.ids_nodup.sublist (ids_thinned hid)
  case one_start =>
    have hstarts : (f.thinned keepNode keepEdge change).nodes.filter (·.kind == .start) =
        (f.nodes.filter (·.kind == .start)).map change := by
      unfold thinned
      rw [List.filter_map, List.filter_filter]
      congr 1
      apply List.filter_congr
      intro n hn
      simp only [Function.comp, hkind n hn]
      rw [Bool.and_eq_left_iff_imp, beq_iff_eq]
      exact hstart n hn
    rw [hstarts, List.length_map]
    exact h.one_start
  case edge_ids_text =>
    exact fun e he => h.edge_ids_text e (hedges.subset he)
  case edge_ids_nodup => exact h.edge_ids_nodup.sublist (hedges.map _)
  case edges_fit =>
    intro e he
    obtain ⟨he, hkeep⟩ := List.mem_filter.mp he
    refine (h.edges_fit e he).transfer (fun id hknown hend => ?_) fun m hm _ => ?_
    · obtain ⟨n, hn, rfl⟩ := mem_ids.mp hknown
      have hkept := hends e he hkeep n hn hend
      exact mem_ids.mpr ⟨change n, mem_thinned.mpr ⟨n, hn, hkept, rfl⟩, hid n⟩
    · obtain ⟨n, hn, -, rfl⟩ := mem_thinned.mp hm
      exact ⟨n, hn, (hid n).symm, (hkind n hn).symm⟩
  case ends_nodup => exact h.ends_nodup.sublist (hedges.map _)
  case labels_word =>
    exact fun e he => h.labels_word e (hedges.subset he)
  case branches =>
    intro m hm hcondition
    obtain ⟨n, hn, -, rfl⟩ := mem_thinned.mp hm
    rw [hkind n hn] at hcondition
    obtain ⟨hnodup, hlabels⟩ := h.branches n hn hcondition
    have hsub : (((f.outgoing n.id).filter keepEdge).map (·.label)).Sublist
        ((f.outgoing n.id).map (·.label)) := List.filter_sublist.map _
    rw [hid, outgoing_thinned]
    exact ⟨hnodup.sublist hsub, fun l hl => hlabels l (hsub.subset hl)⟩
  case matched =>
    intro m hm
    obtain ⟨n, hn, hkeep, rfl⟩ := mem_thinned.mp hm
    rw [hid, outgoing_thinned]
    exact hmatched n hn hkeep

end

/-! ## One node changed -/

/-- The flow with the node changed that the id finds. -/
theorem modifyNode_eq_thinned {f : Flow} (h : f.Sound) (id : Json) (change : Node → Node) :
    f.modifyNode id change = f.thinned (fun _ => true) (fun _ => true) fun n =>
      if n.id.equals id then change n else n := by
  unfold modifyNode thinned
  rw [modifyFirst_eq_map h.ids_text h.ids_nodup, List.filter_true, List.filter_true]

/-- What no change of a node with the id touches is as it was in each node. -/
theorem same_ite_change {α : Type} {f : Flow} (h : f.Sound) {id : Json} {change : Node → Node}
    (part : Node → α) (hpart : ∀ n ∈ f.nodes, n.id = id → part (change n) = part n) {n : Node}
    (hn : n ∈ f.nodes) : part (if n.id.equals id then change n else n) = part n := by
  split
  · rename_i heq
    exact hpart n hn ((equals_iff_of_left (h.ids_text n hn).isWord).mp heq)
  · rfl

theorem sound_modifyNode {f : Flow} (h : f.Sound) (id : Json) {change : Node → Node}
    (hid : ∀ n, (change n).id = n.id) (hkind : ∀ n ∈ f.nodes, n.id = id → (change n).kind = n.kind)
    (hconnections : ∀ n, (change n).connections = n.connections) :
    (f.modifyNode id change).Sound := by
  rw [modifyNode_eq_thinned h]
  refine sound_thinned h ?_ ?_ (fun _ _ _ => rfl) (fun _ _ _ _ _ _ => rfl) ?_
  · intro n
    split
    · exact hid n
    · rfl
  · exact fun n hn => same_ite_change h (·.kind) hkind hn
  · intro n hn _
    rw [List.filter_true, same_ite_change h (·.connections) (fun n _ _ => hconnections n) hn]
    exact h.matched n hn

/-! ## An edge taken out -/

theorem edge_eq_of_id_eq {f : Flow} (h : f.Sound) {x y : Edge} (hx : x ∈ f.edges)
    (hy : y ∈ f.edges) (he : x.id = y.id) : x = y :=
  List.inj_on_of_nodup_map h.edge_ids_nodup hx hy he

/-- No two edges of a node lead to one target. -/
theorem targets_nodup {f : Flow} (h : f.Sound) (id : Json) :
    ((f.outgoing id).map (·.target)).Nodup := by
  have hends : ((f.outgoing id).map Edge.ends).Nodup :=
    h.ends_nodup.sublist (List.filter_sublist.map _)
  have heq : (f.outgoing id).map Edge.ends = ((f.outgoing id).map (·.target)).map (Prod.mk id) := by
    rw [List.map_map]
    apply List.map_congr_left
    intro e he
    unfold Edge.ends
    rw [(h.mem_outgoing.mp he).2]
    rfl
  rw [heq] at hends
  exact hends.of_map

/-- The target of an edge stands at most once among the connections of a node. -/
theorem once_in_connections {f : Flow} (h : f.Sound) {n : Node} (hn : n ∈ f.nodes) {e : Edge}
    (he : e ∈ f.edges) :
    n.connections.Pairwise fun c d => e.target.same c = true → e.target.same d = true → False := by
  have hnodup := (h.matched n hn).nodup_iff.mpr (targets_nodup h n.id)
  refine hnodup.imp fun hne hc hd => ?_
  rw [same_iff_of_left (h.target_text he).isWord] at hc hd
  exact hne (hc.symm.trans hd)

/-- Among edges that differ in their ids and their targets, the first with the target of one of them
is the only one with its id. -/
theorem eraseP_target_eq_filter {es : List Edge} {e : Edge} (hids : (es.map (·.id)).Nodup)
    (htargets : (es.map (·.target)).Nodup) (hid : e.id.IsText) (htarget : e.target.IsText)
    (he : e ∈ es) :
    es.eraseP (fun x => e.target.same x.target) = es.filter fun x => !x.id.same e.id := by
  induction es with
  | nil => cases he
  | cons x rest ih =>
    rw [List.map_cons, List.nodup_cons] at hids htargets
    by_cases hx : x = e
    · subst hx
      have hrest : ∀ y ∈ rest, (!y.id.same x.id) = true := by
        intro y hy
        rw [not_same_iff_of_right hid.isWord]
        intro heq
        exact hids.1 (List.mem_map.mpr ⟨y, hy, heq⟩)
      have htargets_same : x.target.same x.target = true :=
        (same_iff_of_left htarget.isWord).mpr rfl
      have hids_same : x.id.same x.id = true := (same_iff_of_left hid.isWord).mpr rfl
      rw [List.eraseP_cons, htargets_same, cond_true, List.filter_cons_of_neg (by simp [hids_same]),
        List.filter_eq_self.mpr hrest]
    · have hmem : e ∈ rest := (List.mem_cons.mp he).resolve_left (Ne.symm hx)
      have hother : e.target.same x.target = false := by
        rw [← Bool.not_eq_true, same_iff_of_left htarget.isWord]
        intro heq
        exact htargets.1 (List.mem_map.mpr ⟨e, hmem, heq⟩)
      have hkept : (!x.id.same e.id) = true := by
        rw [not_same_iff_of_right hid.isWord]
        intro heq
        exact hids.1 (List.mem_map.mpr ⟨e, hmem, heq.symm⟩)
      rw [List.eraseP_cons, hother, cond_false, List.filter_cons, if_pos hkept,
        ih hids.2 htargets.2 hmem]

theorem dropEdge_eq_thinned {f : Flow} (h : f.Sound) (e : Edge) :
    f.dropEdge e = f.thinned (fun _ => true) (fun x => !x.id.same e.id) fun n =>
      if n.id.equals e.source then
        { n with connections := n.connections.eraseP (e.target.same ·) }
      else n := by
  unfold dropEdge modifyNode thinned
  rw [modifyFirst_eq_map h.ids_text h.ids_nodup, List.filter_true]

/-- With an edge, its target goes once from among the targets of its source, and from no others. -/
theorem targets_dropEdge {f : Flow} (h : f.Sound) {e : Edge} (he : e ∈ f.edges) (id : Json) :
    ((f.outgoing id).filter fun x => !x.id.same e.id).map (·.target) =
      if id.equals e.source then ((f.outgoing id).map (·.target)).eraseP (e.target.same ·)
      else (f.outgoing id).map (·.target) := by
  have hword := (h.source_text he).isWord
  split
  · rename_i hs
    rw [equals_iff_of_right hword] at hs
    have hids : ((f.outgoing id).map (·.id)).Nodup :=
      h.edge_ids_nodup.sublist (List.filter_sublist.map _)
    rw [← eraseP_target_eq_filter hids (targets_nodup h id) (h.edge_ids_text e he)
      (h.target_text he) (h.mem_outgoing.mpr ⟨he, hs.symm⟩), List.eraseP_map]
    rfl
  · rename_i hs
    rw [equals_iff_of_right hword] at hs
    have hall : ∀ x ∈ f.outgoing id, (!x.id.same e.id) = true := by
      intro x hx
      obtain ⟨hx, hsource⟩ := h.mem_outgoing.mp hx
      rw [not_same_iff_of_right (h.edge_ids_text e he).isWord]
      intro hid
      exact hs (hsource.symm.trans (by rw [edge_eq_of_id_eq h hx he hid]))
    rw [List.filter_eq_self.mpr hall]

theorem sound_dropEdge {f : Flow} (h : f.Sound) {e : Edge} (he : e ∈ f.edges) :
    (f.dropEdge e).Sound := by
  rw [dropEdge_eq_thinned h]
  refine sound_thinned h ?_ ?_ (fun _ _ _ => rfl) (fun _ _ _ _ _ _ => rfl) ?_
  · intro n
    split <;> rfl
  · intro n _
    split <;> rfl
  · intro n hn _
    rw [targets_dropEdge h he]
    split
    · exact (h.matched n hn).eraseP (e.target.same ·) (once_in_connections h hn he)
    · exact h.matched n hn

/-! ## A node taken out -/

@[simp]
theorem forget_kind (id : Json) (n : Node) : (n.forget id).kind = n.kind := by
  unfold Node.forget Node.kind NodeData.forget
  cases n.data <;> rfl

theorem touches_iff {f : Flow} (h : f.Sound) (id : Json) {e : Edge} (he : e ∈ f.edges) :
    touches id e = true ↔ e.source = id ∨ e.target = id := by
  rw [touches, Bool.or_eq_true, same_iff_of_left (h.source_text he).isWord,
    same_iff_of_left (h.target_text he).isWord]

theorem not_touches_iff {f : Flow} (h : f.Sound) (id : Json) {e : Edge} (he : e ∈ f.edges) :
    (!touches id e) = true ↔ e.source ≠ id ∧ e.target ≠ id := by
  rw [Bool.not_eq_true', ← Bool.not_eq_true, touches_iff h id he, not_or]

/-- The edges that go with a node are those at it: no other edge bears the id of one of them. -/
theorem isIn_doomed_iff {f : Flow} (h : f.Sound) (id : Json) {e : Edge} (he : e ∈ f.edges) :
    e.id.isIn ((f.edges.filter (touches id)).map (·.id)) = true ↔ touches id e = true := by
  rw [isIn_iff (h.edge_ids_text e he).isWord, List.mem_map]
  constructor
  · rintro ⟨x, hx, heq⟩
    obtain ⟨hx, htouches⟩ := List.mem_filter.mp hx
    rwa [edge_eq_of_id_eq h hx he heq] at htouches
  · intro htouches
    exact ⟨e, List.mem_filter.mpr ⟨he, htouches⟩, rfl⟩

/-- The edges that stay when a node goes. -/
def staysWithout (f : Flow) (id : Json) (e : Edge) : Bool :=
  !e.id.isIn ((f.edges.filter (touches id)).map (·.id))

theorem deleteNode_eq_thinned (f : Flow) (id : Json) :
    ((f.dropNodes id).dropEdgesAt id).forgetNode id =
      f.thinned (fun n => !n.id.same id) (f.staysWithout id) (Node.forget id) := rfl

theorem staysWithout_iff {f : Flow} (h : f.Sound) (id : Json) {e : Edge} (he : e ∈ f.edges) :
    f.staysWithout id e = true ↔ e.source ≠ id ∧ e.target ≠ id := by
  unfold staysWithout
  rw [Bool.not_eq_true', ← Bool.not_eq_true, isIn_doomed_iff h id he, touches_iff h id he, not_or]

/-- With a node go the edges at it and no others. -/
theorem edges_deleteNode {f : Flow} (h : f.Sound) (id : Json) :
    (((f.dropNodes id).dropEdgesAt id).forgetNode id).edges =
      f.edges.filter fun e => !touches id e := by
  refine List.filter_congr fun e he => ?_
  congr 1
  rw [Bool.eq_iff_iff]
  exact isIn_doomed_iff h id he

/-- With a node, its id goes from the targets of all other nodes. -/
theorem targets_deleteNode {f : Flow} (h : f.Sound) {gone id : Json} (hid : id ≠ gone) :
    ((f.outgoing id).filter (f.staysWithout gone)).map (·.target) =
      ((f.outgoing id).map (·.target)).filter fun c => !c.same gone := by
  rw [List.filter_map]
  congr 1
  apply List.filter_congr
  intro e he
  obtain ⟨he, hsource⟩ := h.mem_outgoing.mp he
  rw [Bool.eq_iff_iff, staysWithout_iff h gone he, hsource, Function.comp,
    not_same_iff_of_left (h.target_text he).isWord]
  exact and_iff_right hid

theorem sound_deleteNode {f : Flow} (h : f.Sound) {id : Json}
    (hkept : ∀ n ∈ f.nodes, n.id = id → n.kind ≠ .start) :
    (((f.dropNodes id).dropEdgesAt id).forgetNode id).Sound := by
  have hstays : ∀ n ∈ f.nodes, (!n.id.same id) = true ↔ n.id ≠ id := by
    intro n hn
    rw [not_same_iff_of_left (h.ids_text n hn).isWord]
  rw [deleteNode_eq_thinned]
  refine sound_thinned h (fun n => rfl) (fun n _ => forget_kind id n) ?_ ?_ ?_
  · intro n hn hstart
    exact (hstays n hn).mpr fun hn' => hkept n hn hn' hstart
  · intro e he hkeep n hn hend
    obtain ⟨hsource, htarget⟩ := (staysWithout_iff h id he).mp hkeep
    rcases hend with hs | ht
    · exact (hstays n hn).mpr (hs ▸ hsource)
    · exact (hstays n hn).mpr (ht ▸ htarget)
  · intro n hn hkeep
    rw [targets_deleteNode h ((hstays n hn).mp hkeep)]
    exact (h.matched n hn).filter fun c => !c.same id

/-! ## A node added -/

/-- No edge leaves a node that the flow does not have. -/
theorem outgoing_eq_nil {f : Flow} (h : f.Sound) {id : Json} (hnew : id ∉ f.ids) :
    f.outgoing id = [] := by
  rw [List.eq_nil_iff_forall_not_mem]
  intro e he
  obtain ⟨he, hsource⟩ := h.mem_outgoing.mp he
  exact hnew (hsource ▸ (h.edges_fit e he).source_known)

theorem sound_addNode {f : Flow} (h : f.Sound) {n : Node} (hid : n.id.IsText) (hnew : n.id ∉ f.ids)
    (hkind : n.kind ≠ .start) (hconnections : n.connections = []) : (f.addNode n).Sound := by
  have hnone := outgoing_eq_nil h hnew
  constructor
  case ids_text =>
    exact List.forall_mem_append.mpr ⟨h.ids_text, by simpa using hid⟩
  case ids_nodup =>
    have hids : (f.addNode n).ids = f.ids ++ [n.id] := List.map_append
    rw [hids, ← List.concat_eq_append]
    exact h.ids_nodup.concat hnew
  case one_start =>
    unfold addNode
    rw [List.filter_append, List.filter_cons_of_neg (by simpa using hkind), List.filter_nil,
      List.append_nil]
    exact h.one_start
  case edge_ids_text => exact h.edge_ids_text
  case edge_ids_nodup => exact h.edge_ids_nodup
  case edges_fit =>
    intro e he
    have hfits := h.edges_fit e he
    refine hfits.transfer (fun id hid _ => ?_) fun m hm hend => ?_
    · rw [ids, addNode, List.map_append]
      exact List.mem_append_left _ hid
    · rcases List.mem_append.mp hm with hm | hm
      · exact ⟨m, hm, rfl, rfl⟩
      · rw [List.mem_singleton.mp hm] at hend
        rcases hend with hs | ht
        · exact absurd (hs ▸ hfits.source_known) hnew
        · exact absurd (ht ▸ hfits.target_known) hnew
  case ends_nodup => exact h.ends_nodup
  case labels_word => exact h.labels_word
  case branches =>
    refine List.forall_mem_append.mpr ⟨h.branches, ?_⟩
    rintro m hm -
    have hout : (f.addNode n).outgoing m.id = [] := by
      rw [List.mem_singleton.mp hm]
      exact hnone
    rw [hout]
    exact ⟨List.nodup_nil, by simp⟩
  case matched =>
    refine List.forall_mem_append.mpr ⟨h.matched, ?_⟩
    intro m hm
    have hout : (f.addNode n).outgoing m.id = [] := by
      rw [List.mem_singleton.mp hm]
      exact hnone
    rw [hout, List.mem_singleton.mp hm, hconnections]
    exact .refl _

/-! ## An edge added -/

section

variable {f : Flow} {e : Edge}

/-- The node at the source of the edge has one connection more. -/
theorem nodes_addEdge (htext : ∀ n ∈ f.nodes, n.id.IsText) (hids : f.ids.Nodup) (e : Edge) :
    (f.addEdge e).nodes = f.nodes.map fun n =>
      { n with connections :=
          n.connections ++ (if n.id.equals e.source then [e.target] else []) } := by
  unfold addEdge modifyNode
  rw [modifyFirst_eq_map htext hids]
  apply List.map_congr_left
  intro n _
  split
  · rfl
  · rw [List.append_nil]

theorem mem_addEdge (htext : ∀ n ∈ f.nodes, n.id.IsText) (hids : f.ids.Nodup) {m : Node}
    (hm : m ∈ (f.addEdge e).nodes) :
    ∃ n ∈ f.nodes, n.id = m.id ∧ n.kind = m.kind ∧
      m.connections = n.connections ++ (if n.id.equals e.source then [e.target] else []) := by
  rw [nodes_addEdge htext hids] at hm
  obtain ⟨n, hn, rfl⟩ := List.mem_map.mp hm
  exact ⟨n, hn, rfl, rfl, rfl⟩

theorem edges_addEdge : (f.addEdge e).edges = f.edges ++ [e] := rfl

theorem ids_addEdge (f : Flow) (e : Edge) : (f.addEdge e).ids = f.ids := by
  have hview : ∀ n : Node,
      Node.id { n with connections := n.connections ++ [e.target] } = n.id := fun _ => rfl
  exact map_modifyFirst hview f.nodes

theorem outgoing_addEdge (id : Json) :
    (f.addEdge e).outgoing id = f.outgoing id ++ (if e.source.equals id then [e] else []) := by
  unfold outgoing
  rw [edges_addEdge, List.filter_append, List.filter_cons, List.filter_nil]

theorem targets_addEdge (hsource : e.source.IsText) (id : Json) :
    ((f.addEdge e).outgoing id).map (·.target) =
      (f.outgoing id).map (·.target) ++ (if id.equals e.source then [e.target] else []) := by
  have hsame : e.source.equals id = id.equals e.source := by
    rw [Bool.eq_iff_iff, equals_iff_of_left hsource.isWord, equals_iff_of_right hsource.isWord,
      eq_comm]
  rw [outgoing_addEdge, List.map_append, hsame]
  split <;> rfl

/-- An edge that the rules allow beside those of the flow. -/
structure Admits (f : Flow) (e : Edge) : Prop where
  fits : f.Fits e
  ends_new : e.ends ∉ f.edges.map Edge.ends
  branch : ∀ n ∈ f.nodes, n.id = e.source → n.kind = .condition →
    (e.label = .str "Yes" ∨ e.label = .str "No") ∧ e.label ∉ (f.outgoing n.id).map (·.label)

theorem lawful_addEdge (htext : ∀ n ∈ f.nodes, n.id.IsText) (h : f.Lawful) (he : f.Admits e) :
    (f.addEdge e).Lawful := by
  have hsource : e.source.IsText := by
    obtain ⟨n, hn, hid⟩ := mem_ids.mp he.fits.source_known
    exact hid ▸ htext n hn
  constructor
  case ids_nodup =>
    rw [ids_addEdge]
    exact h.ids_nodup
  case one_start =>
    rw [nodes_addEdge htext h.ids_nodup, List.filter_map, List.length_map]
    exact h.one_start
  case edges_fit =>
    have hfits : ∀ x ∈ (f.addEdge e).edges, f.Fits x :=
      List.forall_mem_append.mpr ⟨h.edges_fit, by simpa using he.fits⟩
    intro x hx
    refine (hfits x hx).transfer (fun id hid _ => ids_addEdge f e ▸ hid) fun m hm _ => ?_
    obtain ⟨n, hn, hid, hkind, -⟩ := mem_addEdge htext h.ids_nodup hm
    exact ⟨n, hn, hid, hkind⟩
  case ends_nodup =>
    rw [edges_addEdge, List.map_append, List.map_singleton, ← List.concat_eq_append]
    exact h.ends_nodup.concat he.ends_new
  case branches =>
    intro m hm hcondition
    obtain ⟨n, hn, hid, hkind, -⟩ := mem_addEdge htext h.ids_nodup hm
    have hcondition := hkind.trans hcondition
    obtain ⟨hnodup, hlabels⟩ := h.branches n hn hcondition
    rw [← hid, outgoing_addEdge]
    split
    · rename_i heq
      rw [equals_iff_of_left hsource.isWord] at heq
      obtain ⟨hlabel, hfree⟩ := he.branch n hn heq.symm hcondition
      rw [List.map_append, List.map_singleton]
      refine ⟨?_, List.forall_mem_append.mpr ⟨hlabels, by simpa using hlabel⟩⟩
      rw [← List.concat_eq_append]
      exact hnodup.concat hfree
    · rw [List.append_nil]
      exact ⟨hnodup, hlabels⟩
  case matched =>
    intro m hm
    obtain ⟨n, hn, hid, -, hconnections⟩ := mem_addEdge htext h.ids_nodup hm
    rw [hconnections, ← hid, targets_addEdge hsource]
    exact (h.matched n hn).append_right _

/-- An edge that the rules allow and the flow does not have. -/
structure Welcomes (f : Flow) (e : Edge) : Prop where
  id_text : e.id.IsText
  id_new : e.id ∉ f.edges.map (·.id)
  fits : f.Fits e
  ends_new : e.ends ∉ f.edges.map Edge.ends
  label_word : e.label.IsWord
  branch : ∀ n ∈ f.nodes, n.id = e.source → n.kind = .condition →
    (e.label = .str "Yes" ∨ e.label = .str "No") ∧ e.label ∉ (f.outgoing n.id).map (·.label)
  plain : ∀ n ∈ f.nodes, n.id = e.source → n.kind ≠ .condition → e.label = .null

theorem sound_addEdge (h : f.Sound) (he : f.Welcomes e) : (f.addEdge e).Sound := by
  have hlawful : (f.addEdge e).Lawful :=
    lawful_addEdge h.ids_text h.lawful ⟨he.fits, he.ends_new, he.branch⟩
  constructor
  case ids_text =>
    intro m hm
    obtain ⟨n, hn, hid, -⟩ := mem_addEdge h.ids_text h.ids_nodup hm
    exact hid ▸ h.ids_text n hn
  case edge_ids_text =>
    rw [edges_addEdge]
    exact List.forall_mem_append.mpr ⟨h.edge_ids_text, by simpa using he.id_text⟩
  case edge_ids_nodup =>
    rw [edges_addEdge, List.map_append, List.map_singleton, ← List.concat_eq_append]
    exact h.edge_ids_nodup.concat he.id_new
  case labels_word =>
    rw [edges_addEdge]
    exact List.forall_mem_append.mpr ⟨h.labels_word, by simpa using he.label_word⟩
  case ids_nodup => exact hlawful.ids_nodup
  case one_start => exact hlawful.one_start
  case edges_fit => exact hlawful.edges_fit
  case ends_nodup => exact hlawful.ends_nodup
  case branches => exact hlawful.branches
  case matched => exact hlawful.matched

end

/-! ## What a change makes -/

/-- The flows that one change of the graph makes of a sound flow. -/
inductive ChangesTo (f : Flow) : Flow → Prop where
  | same : f.ChangesTo f
  | added {n : Node} (hid : n.id.IsText) (hnew : n.id ∉ f.ids) (hkind : n.kind ≠ .start)
      (hconnections : n.connections = []) : f.ChangesTo (f.addNode n)
  | modified {id : Json} {change : Node → Node} (hid : ∀ n, (change n).id = n.id)
      (hkind : ∀ n ∈ f.nodes, n.id = id → (change n).kind = n.kind)
      (hconnections : ∀ n, (change n).connections = n.connections) :
      f.ChangesTo (f.modifyNode id change)
  | deleted {id : Json} (hkept : ∀ n ∈ f.nodes, n.id = id → n.kind ≠ .start) :
      f.ChangesTo (((f.dropNodes id).dropEdgesAt id).forgetNode id)
  | joined {e : Edge} (he : f.Welcomes e) : f.ChangesTo (f.addEdge e)
  | parted {e : Edge} (he : e ∈ f.edges) : f.ChangesTo (f.dropEdge e)
  | draft {g : Flow} (h : f.ChangesTo g) : f.ChangesTo g.asDraft

theorem ChangesTo.sound {f g : Flow} (h : f.Sound) (hg : f.ChangesTo g) : g.Sound := by
  induction hg with
  | same => exact h
  | added hid hnew hkind hconnections => exact sound_addNode h hid hnew hkind hconnections
  | modified hid hkind hconnections => exact sound_modifyNode h _ hid hkind hconnections
  | deleted hkept => exact sound_deleteNode h hkept
  | joined he => exact sound_addEdge h he
  | parted he => exact sound_dropEdge h he
  | draft _ ih => exact ih.congr rfl rfl

end Flow

end Dialogue
