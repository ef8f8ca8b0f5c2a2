-- The two ways in which a flow keeps what follows what. In a homegrown flow the connections of a node
-- are the targets of its edges in the same order, however edges and nodes came and went, and only
-- the edges of a condition have labels. So a run goes on the same way by either of them.
import Dialogue.Proofs.Homegrown
import Dialogue.Run.Walk

namespace Dialogue

open Json

namespace Flow

/-- A sound flow whose edges and connections run side by side. -/
structure InLockstep (f : Flow) : Prop extends f.Sound where
  ordered : ∀ n ∈ f.nodes, n.connections = (f.outgoing n.id).map (·.target)
  unlabeled : ∀ n ∈ f.nodes, n.kind ≠ .condition → ∀ e ∈ f.outgoing n.id, e.label = .null

namespace InLockstep

variable {f g : Flow}

theorem congr (h : f.InLockstep) (hg : SameGraph f g) : g.InLockstep where
  toSound := h.toSound.congr hg.nodes hg.edges
  ordered := by simpa only [outgoing, hg.nodes, hg.edges] using h.ordered
  unlabeled := by simpa only [outgoing, hg.nodes, hg.edges] using h.unlabeled

/-- What is left of a flow is in lockstep if the connections that are left are the targets that
are. -/
theorem thinned (h : f.InLockstep) {keepNode : Node → Bool} {keepEdge : Edge → Bool}
    {change : Node → Node} (hsound : (f.thinned keepNode keepEdge change).Sound)
    (hid : ∀ n, (change n).id = n.id) (hkind : ∀ n ∈ f.nodes, (change n).kind = n.kind)
    (hordered : ∀ n ∈ f.nodes, keepNode n = true →
      (change n).connections = ((f.outgoing n.id).filter keepEdge).map (·.target)) :
    (f.thinned keepNode keepEdge change).InLockstep where
  toSound := hsound
  ordered := by
    intro m hm
    obtain ⟨n, hn, hkeep, rfl⟩ := mem_thinned.mp hm
    rw [hid, outgoing_thinned]
    exact hordered n hn hkeep
  unlabeled := by
    intro m hm hplain e he
    obtain ⟨n, hn, -, rfl⟩ := mem_thinned.mp hm
    rw [hid, outgoing_thinned] at he
    rw [hkind n hn] at hplain
    exact h.unlabeled n hn hplain e (List.mem_of_mem_filter he)

/-! ## Each change of the graph -/

theorem modifyNode (h : f.InLockstep) (id : Json) {change : Node → Node}
    (hid : ∀ n, (change n).id = n.id) (hkind : ∀ n ∈ f.nodes, n.id = id → (change n).kind = n.kind)
    (hconnections : ∀ n, (change n).connections = n.connections) :
    (f.modifyNode id change).InLockstep := by
  have hsound := sound_modifyNode h.toSound id hid hkind hconnections
  rw [modifyNode_eq_thinned h.toSound] at hsound ⊢
  refine h.thinned hsound ?_ ?_ ?_
  · intro n
    split
    · exact hid n
    · rfl
  · exact fun n hn => same_ite_change h.toSound (·.kind) hkind hn
  · intro n hn _
    rw [List.filter_true, same_ite_change h.toSound (·.connections) (fun n _ _ => hconnections n) hn]
    exact h.ordered n hn

/-- The target of the edge is at the same place in both lists. -/
theorem dropEdge (h : f.InLockstep) {e : Edge} (he : e ∈ f.edges) : (f.dropEdge e).InLockstep := by
  have hsound := sound_dropEdge h.toSound he
  rw [dropEdge_eq_thinned h.toSound] at hsound ⊢
  refine h.thinned hsound ?_ ?_ ?_
  · intro n
    split <;> rfl
  · intro n _
    split <;> rfl
  · intro n hn _
    rw [targets_dropEdge h.toSound he, ← h.ordered n hn]
    split <;> rfl

theorem deleteNode (h : f.InLockstep) {id : Json}
    (hkept : ∀ n ∈ f.nodes, n.id = id → n.kind ≠ .start) :
    (((f.dropNodes id).dropEdgesAt id).forgetNode id).InLockstep := by
  have hsound := sound_deleteNode h.toSound hkept
  rw [deleteNode_eq_thinned] at hsound ⊢
  refine h.thinned hsound (fun n => rfl) (fun n _ => forget_kind id n) ?_
  intro n hn hkeep
  rw [not_same_iff_of_left (h.ids_text n hn).isWord] at hkeep
  rw [targets_deleteNode h.toSound hkeep, ← h.ordered n hn]
  rfl

theorem addNode (h : f.InLockstep) {n : Node} (hid : n.id.IsText) (hnew : n.id ∉ f.ids)
    (hkind : n.kind ≠ .start) (hconnections : n.connections = []) : (f.addNode n).InLockstep where
  toSound := sound_addNode h.toSound hid hnew hkind hconnections
  ordered := by
    refine List.forall_mem_append.mpr ⟨h.ordered, List.forall_mem_singleton.mpr ?_⟩
    have hout : (f.addNode n).outgoing n.id = [] := outgoing_eq_nil h.toSound hnew
    rw [hout, hconnections]
    rfl
  unlabeled := by
    refine List.forall_mem_append.mpr ⟨h.unlabeled, List.forall_mem_singleton.mpr ?_⟩
    have hout : (f.addNode n).outgoing n.id = [] := outgoing_eq_nil h.toSound hnew
    rw [hout]
    exact fun _ _ he => nomatch he

/-- The edge comes last among those of its source, as its target does among the connections. -/
theorem addEdge (h : f.InLockstep) {e : Edge} (he : f.Welcomes e) : (f.addEdge e).InLockstep where
  toSound := sound_addEdge h.toSound he
  ordered := by
    intro m hm
    obtain ⟨n, hn, hid, -, hconnections⟩ := mem_addEdge h.ids_text h.ids_nodup hm
    rw [hconnections, ← hid, targets_addEdge (h.isText_of_mem_ids he.fits.source_known),
      h.ordered n hn]
  unlabeled := by
    intro m hm hplain x hx
    obtain ⟨n, hn, hid, hkind, -⟩ := mem_addEdge h.ids_text h.ids_nodup hm
    rw [← hkind] at hplain
    rw [← hid, outgoing_addEdge] at hx
    rcases List.mem_append.mp hx with hx | hx
    · exact h.unlabeled n hn hplain x hx
    · split at hx
      · rename_i hsource
        rw [equals_iff_of_right (h.ids_text n hn).isWord] at hsource
        rw [List.mem_singleton.mp hx]
        exact he.plain n hn hsource.symm hplain
      · cases hx

theorem changesTo (h : f.InLockstep) (hg : f.ChangesTo g) : g.InLockstep := by
  induction hg with
  | same => exact h
  | added hid hnew hkind hconnections => exact h.addNode hid hnew hkind hconnections
  | modified hid hkind hconnections => exact h.modifyNode _ hid hkind hconnections
  | deleted hkept => exact h.deleteNode hkept
  | joined he => exact h.addEdge he
  | parted he => exact h.dropEdge he
  | draft _ ih => exact ih.congr ⟨rfl, rfl⟩

end InLockstep

end Flow

/-! ## Homegrown flows -/

theorem inLockstep_lasts {s : Setup} (hp : ∀ k, (s.palette.current k).kind = k) :
    Lasts s Flow.InLockstep where
  congr h hf := hf.congr h
  created h := by
    have hsound := (sound_lasts hp).created h
    obtain ⟨data, position, -, hedges, hnodes⟩ := Workspace.createFlow_spec h
    refine ⟨hsound, ?_, ?_⟩
    all_goals simp [hnodes, hedges, Flow.outgoing]
  edited h hfresh := h.changesTo (Editor.changes_perform h.toSound hp _ _ _ hfresh)

namespace Flow

variable {f : Flow} {n : Node}

/-- The way on from a node by its edges alone: where the first one without a label leads. -/
def nextByEdges (f : Flow) (n : Node) : Option Node :=
  ((f.outgoing n.id).find? fun e => !e.label.isPresent).bind fun e => f.node? e.target

/-- The way on from a node by its connections alone: what the first one names. -/
def nextByConnections (f : Flow) (n : Node) : Option Node :=
  n.connections.head?.bind f.node?

/-- A run goes by the edges where they lead on, and by the connections elsewhere. -/
theorem defaultNext_of_same (h : f.nextByEdges n = f.nextByConnections n) :
    Session.defaultNext f n = f.nextByEdges n := by
  unfold Session.defaultNext
  unfold nextByEdges at h ⊢
  cases hedge : (f.outgoing n.id).find? fun e => !e.label.isPresent with
  | some e => rfl
  | none =>
    rw [hedge] at h
    exact h.symm

theorem InLockstep.nextByEdges_eq (h : f.InLockstep) (hn : n ∈ f.nodes)
    (hplain : n.kind ≠ .condition) : f.nextByEdges n = f.nextByConnections n := by
  have hunlabeled := h.unlabeled n hn hplain
  unfold nextByEdges nextByConnections
  rw [h.ordered n hn]
  cases hout : f.outgoing n.id with
  | nil => rfl
  | cons e rest =>
    rw [List.find?_cons_of_pos (by rw [hunlabeled e (by simp [hout])]; rfl)]
    rfl

end Flow

/-- The targets of the edges of a node are its connections, one by one in the same order, and from
a node that is no condition a run goes on the same way by its edges and by its connections. -/
theorem edges_and_connections_stay_in_lockstep {settings : Settings} (definitions : List Definition)
    {room : Room} {f : Flow}
    (h : Homegrown ⟨settings, definitions.foldl Palette.register .standard, room⟩ f) {n : Node}
    (hn : n ∈ f.nodes) :
    (f.outgoing n.id).map (·.target) = n.connections ∧
      (n.kind ≠ .condition → Session.defaultNext f n = f.nextByEdges n ∧
        Session.defaultNext f n = f.nextByConnections n) := by
  have hlockstep := (inLockstep_lasts (Palette.current_kind definitions)).homegrown h
  refine ⟨(hlockstep.ordered n hn).symm, fun hplain => ?_⟩
  have hsame := hlockstep.nextByEdges_eq hn hplain
  have hnext := Flow.defaultNext_of_same hsame
  exact ⟨hnext, hnext.trans hsame⟩

/-- So it is with a start node whose first edge was taken out and drawn again: it comes last now. -/
theorem a_redrawn_edge_comes_last :
    ∃ f n, Homegrown ⟨{}, .standard, ⟨1000, by decide⟩⟩ f ∧ n ∈ f.nodes ∧ n.kind ≠ .condition ∧
      n.connections.length = 2 ∧
      (n.connections.head?.map fun c => c.same (.str "end-00000004")) = some true ∧
      (f.outgoing n.id).map (·.target) = n.connections ∧
      Session.defaultNext f n = f.nextByEdges n ∧
      Session.defaultNext f n = f.nextByConnections n := by
  let s : Setup := ⟨{}, .standard, ⟨1000, by decide⟩⟩
  let start : Json := .str "start-00000001"
  let addEnd : DeskWork := .edit (.addNode .finish origin)
  let joinFirst : DeskWork := .edit (.addEdge start (.str "end-00000003") (some .default))
  let joinSecond : DeskWork := .edit (.addEdge start (.str "end-00000004") (some .default))
  let part : DeskWork := .edit (.deleteEdge (.str "e-00000005"))
  let made := ({} : Workspace).createFlow s 0 (.str "Greeting") (.str "") (.str "")
  let w₀ := (made.1.openFlow s.room.steps (.str (Ids.full 2))).1
  let w₁ := w₀.work s 0 addEnd
  let w₂ := w₁.work s 0 addEnd
  let w₃ := w₂.work s 0 joinFirst
  let w₄ := w₃.work s 0 joinSecond
  let w₅ := w₄.work s 0 part
  let w₆ := w₅.work s 0 joinFirst
  let d₁ := w₁.desk.get (by decide +kernel)
  let d₂ := w₂.desk.get (by decide +kernel)
  let d₃ := w₃.desk.get (by decide +kernel)
  let d₄ := w₄.desk.get (by decide +kernel)
  let d₅ := w₅.desk.get (by decide +kernel)
  let d₆ := w₆.desk.get (by decide +kernel)
  have hnew : ∀ {t : String} {xs : List Json}, (Json.str t).isIn xs = false → .str t ∉ xs :=
    not_mem_of_isIn (isText_str _).isWord
  have hstart : Homegrown s _ := .created (rfl : made = (_, .ok _))
  have h₁ : Homegrown s d₁.flow :=
    hstart.worked (k := addEnd) (rfl : w₀.desk = some (Desk.opened _))
      (hnew (by decide +kernel)) (Option.some_get _).symm
  have h₂ : Homegrown s d₂.flow :=
    h₁.worked (k := addEnd) (Option.some_get _).symm (hnew (by decide +kernel))
      (Option.some_get _).symm
  have h₃ : Homegrown s d₃.flow :=
    h₂.worked (k := joinFirst) (Option.some_get _).symm (hnew (by decide +kernel))
      (Option.some_get _).symm
  have h₄ : Homegrown s d₄.flow :=
    h₃.worked (k := joinSecond) (Option.some_get _).symm (hnew (by decide +kernel))
      (Option.some_get _).symm
  have h₅ : Homegrown s d₅.flow :=
    h₄.worked (k := part) (Option.some_get _).symm trivial (Option.some_get _).symm
  have h₆ : Homegrown s d₆.flow :=
    h₅.worked (k := joinFirst) (Option.some_get _).symm (hnew (by decide +kernel))
      (Option.some_get _).symm
  let n := d₆.flow.nodes.head (by decide +kernel)
  have hn : n ∈ d₆.flow.nodes := List.head_mem _
  have hplain : n.kind ≠ .condition := by decide +kernel
  obtain ⟨hordered, hnext⟩ := edges_and_connections_stay_in_lockstep [] h₆ hn
  exact ⟨d₆.flow, n, h₆, hn, hplain, by decide +kernel, by decide +kernel, hordered, hnext hplain⟩

end Dialogue
