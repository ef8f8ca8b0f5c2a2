-- What was just added can be taken back. When the edge or the node that an edit made is deleted at
-- once, the flow is what it was before, down to the order of its parts, and as saved or unsaved.
import Dialogue.Proofs.References

namespace Dialogue

open Json

/-- Of a list with one element more, all but that one are left. -/
theorem filter_append_singleton {α : Type} {p : α → Bool} {xs : List α} {x : α}
    (h : ∀ y ∈ xs, p y = true) (hx : p x = false) : (xs ++ [x]).filter p = xs := by
  rw [List.filter_append, List.filter_eq_self.mpr h, List.filter_singleton, hx]
  exact List.append_nil xs

namespace Flow

variable {f : Flow}

/-! ## A new edge -/

theorem bare_addEdge (f : Flow) (x : Edge) :
    (f.addEdge x).bare = { f.bare with edges := f.edges ++ [x] } := by
  have hview : ∀ n : Node, Node.bare { n with connections := n.connections ++ [x.target] } = n.bare :=
    fun _ => rfl
  have hnodes : (f.addEdge x).nodes.map Node.bare = f.nodes.map Node.bare :=
    map_modifyFirst hview f.nodes
  rw [bare, hnodes]
  rfl

/-- In lockstep the edges tell what the connections are, so that it is enough to compare the
edges. -/
theorem InLockstep.dropEdge_addEdge (h : f.InLockstep) {x : Edge} (hx : f.Welcomes x) :
    (f.addEdge x).dropEdge x = f := by
  have hmem : x ∈ (f.addEdge x).edges := List.mem_append_right _ (List.mem_singleton_self x)
  have hgone : (!x.id.same x.id) = false := by
    rw [(same_iff_of_left hx.id_text.isWord).mpr rfl, Bool.not_true]
  have hkept : ∀ y ∈ f.edges, (!y.id.same x.id) = true := by
    intro y hy
    rw [not_same_iff_of_right hx.id_text.isWord]
    exact fun heq => hx.id_new (heq ▸ List.mem_map_of_mem hy)
  have hedges : (f.edges ++ [x]).filter (fun y => !y.id.same x.id) = f.edges :=
    filter_append_singleton hkept hgone
  refine ((h.addEdge hx).dropEdge hmem).eq_of_bare h ?_
  rw [bare_dropEdge, bare_addEdge, edges_addEdge, hedges]
  rfl

end Flow

/-! ## A new node -/

theorem Node.forget_eq_self {n : Node} {id : Json} (hid : id.IsText)
    (hconnections : id ∉ n.connections) (htargets : ∀ t ∈ n.data.targets, t.map .str ≠ some id) :
    n.forget id = n := by
  have hkept : n.connections.filter (fun c => !c.same id) = n.connections := by
    refine List.filter_eq_self.mpr fun c hc => ?_
    rw [not_same_iff_of_right hid.isWord]
    exact fun heq => hconnections (heq ▸ hc)
  rw [forget, hkept, NodeData.forget_eq_self htargets]

/-- A node that nothing refers to goes without a trace. -/
theorem Flow.IsFreeOf.without_addNode {f : Flow} {n : Node} (hfree : f.IsFreeOf n.id) (h : f.Sound)
    (hid : n.id.IsText) (hkind : n.kind ≠ .start) (hconnections : n.connections = []) :
    (f.addNode n).without n.id = f := by
  have hsound := sound_addNode h hid hfree.ids hkind hconnections
  have hkept : ∀ m ∈ f.nodes, (!m.id.same n.id) = true := by
    intro m hm
    rw [not_same_iff_of_right hid.isWord]
    exact fun heq => hfree.ids (mem_ids.mpr ⟨m, hm, heq⟩)
  have hgone : (!n.id.same n.id) = false := by
    rw [(same_iff_of_left hid.isWord).mpr rfl, Bool.not_true]
  have hnodes : ((f.addNode n).without n.id).nodes = f.nodes := by
    have hfilter : (f.addNode n).nodes.filter (fun m => !m.id.same n.id) = f.nodes :=
      filter_append_singleton hkept hgone
    have hforget : ∀ m ∈ f.nodes, m.forget n.id = m := fun m hm =>
      Node.forget_eq_self hid (hfree.connections m hm) (hfree.targets m hm)
    rw [nodes_without, hfilter, List.map_congr_left hforget, List.map_id']
  have hedges : ((f.addNode n).without n.id).edges = f.edges := by
    rw [edges_without hsound]
    refine List.filter_eq_self.mpr fun x hx => ?_
    rw [not_touches_iff hsound n.id hx]
    exact hfree.ends x hx
  rw [without_eq, hnodes, hedges]
  rfl

/-- In a sound flow an id that no node has and that no data refers to stands nowhere. -/
theorem Flow.Sound.isFreeOf {f : Flow} (h : f.Sound) {id : Json} (hid : id ∉ f.ids)
    (htargets : f.refersTo id = false) : f.IsFreeOf id where
  ids := hid
  ends := by
    intro x hx
    have hfits := h.edges_fit x hx
    exact ⟨fun heq => hid (heq ▸ hfits.source_known), fun heq => hid (heq ▸ hfits.target_known)⟩
  connections := by
    intro n hn hmem
    obtain ⟨x, hx, rfl⟩ := List.mem_map.mp ((h.matched n hn).subset hmem)
    exact hid (h.edges_fit x (h.mem_outgoing.mp hx).1).target_known
  targets := by
    intro n hn t ht heq
    have hrefers : f.refersTo id = true := by
      refine List.any_eq_true.mpr ⟨n, hn, List.any_eq_true.mpr ⟨t, ht, ?_⟩⟩
      obtain ⟨target, rfl, rfl⟩ := Option.map_eq_some_iff.mp heq
      exact (same_iff_of_left (isText_str target).isWord).mpr rfl
    rw [htargets] at hrefers
    cases hrefers

/-! ## Deleting what an edit made -/

theorem Edited.done?_spec {r : Edited} {e : Editor} (h : r.done? = some e) :
    ∃ p, r.reply = .done p ∧ r.editor = e := by
  unfold done? at h
  split at h
  · rename_i p hreply
    exact ⟨p, hreply, Option.some.inj h⟩
  · cases h

namespace Editor

variable {e : Editor} {nextId : Nat} {r : Edited} {p : Product}

/-- The edge that an edit made can be deleted, and the editor is as it was. -/
theorem Draws.undone (hr : e.Draws nextId r) (h : e.flow.InLockstep) (hdone : r.reply = .done p) :
    ∃ x, p = .edge x ∧ (x.id ∉ e.flow.edges.map (·.id) → ∀ n,
      (r.editor.deleteEdge n x.id).done? = some (e.change e.flow)) := by
  cases hr with
  | nothing _ hreply => exact absurd hdone (hreply p)
  | @drawn x _ hx =>
    cases hdone
    refine ⟨x, rfl, fun hnew n => ?_⟩
    have hwelcome := hx hnew
    have hmem : x ∈ (e.flow.addEdge x).edges := List.mem_append_right _ (List.mem_singleton_self x)
    have hsound : (e.change (e.flow.addEdge x)).flow.Sound :=
      (Flow.sound_addEdge h.toSound hwelcome).congr rfl rfl
    have hback : (e.change (e.flow.addEdge x)).change ((e.flow.addEdge x).asDraft.dropEdge x) =
        e.change ((e.flow.addEdge x).dropEdge x) := rfl
    rw [h.dropEdge_addEdge hwelcome] at hback
    rw [deleteEdge_done hsound hmem, ← hback]
    rfl

/-- The node that an edit made can be deleted, and the flow is as it was. -/
theorem Adds.undone {id : Json} (hr : e.Adds nextId id r) (h : e.flow.Sound) (hid : id.IsText)
    (hdone : r.reply = .done p) :
    ∃ m, p = .node m ∧ (e.flow.IsFreeOf m.id → ∀ n, ∃ e',
      (r.editor.deleteNode n m.id).done? = some e' ∧ e'.flow = e.flow.asDraft) := by
  cases hr with
  | nothing _ hreply => exact absurd hdone (hreply p)
  | @added m hsame hkind hconnections =>
    cases hdone
    subst hsame
    refine ⟨m, rfl, fun hfree n => ?_⟩
    have hmem : m ∈ (e.flow.addNode m).nodes := List.mem_append_right _ (List.mem_singleton_self m)
    have hsound : (e.change (e.flow.addNode m)).flow.Sound :=
      (Flow.sound_addNode h hid hfree.ids hkind hconnections).congr rfl rfl
    refine ⟨_, deleteNode_done hsound hmem hkind n, ?_⟩
    have hback : ((e.change (e.flow.addNode m)).without m.id).flow =
        ((e.flow.addNode m).without m.id).asDraft := rfl
    rw [hback, hfree.without_addNode h hid hkind hconnections]

end Editor

/-! ## In the workspace -/

theorem Desk.isDirty_withEditor {d : Desk} {e : Editor} (h : e.flow.graph = d.flow.graph) :
    ({ d with editor := e } : Desk).isDirty = d.isDirty := by
  obtain ⟨editor, linked, keeping⟩ := d
  cases keeping with
  | nothing => rfl
  | own b => exact congrArg (fun graph => !graph.same b) h
  | earlier f l b => rfl

namespace Workspace

/-- The edit leads from the second workspace to one with the flow of the first, which is a draft now.
Whether it has changed since it was kept last is as it was. -/
def UndoneBy (s : Setup) (w w' : Workspace) (k : Edit) : Prop :=
  ∃ w'' p d d'', w'.edit s k = (w'', .done p) ∧ w.desk = some d ∧ w''.desk = some d'' ∧
    d''.flow = d.flow.asDraft ∧ w''.isDirty = w.isDirty

variable {s : Setup} {w w' : Workspace} {d : Desk} {k : Edit} {p : Product}

theorem edit_done (hd : w.desk = some d) (h : w.edit s k = (w', .done p)) :
    ∃ e, w'.desk = some { d with editor := e } ∧
      (d.editor.perform s.palette s.settings.canvas.duplicateOffset s.room.steps w.nextId k).editor =
        e ∧
      (d.editor.perform s.palette s.settings.canvas.duplicateOffset s.room.steps w.nextId k).reply =
        .done p := by
  unfold edit onDesk at h
  rw [hd, Prod.mk.injEq] at h
  obtain ⟨rfl, hreply⟩ := h
  exact ⟨_, rfl, rfl, hreply⟩

theorem undoneBy_of_done {e e' : Editor} (hd : w.desk = some d)
    (hd' : w'.desk = some { d with editor := e })
    (hdone : (e.perform s.palette s.settings.canvas.duplicateOffset s.room.steps w'.nextId k).done? =
      some e') (hflow : e'.flow = d.flow.asDraft) : w.UndoneBy s w' k := by
  obtain ⟨p, hreply, heditor⟩ := Edited.done?_spec hdone
  have hafter : ∃ w'', w'.edit s k = (w'', .done p) ∧ w''.desk = some { d with editor := e' } := by
    unfold edit onDesk
    rw [hd', ← heditor]
    exact ⟨_, congrArg (Prod.mk _) hreply, rfl⟩
  obtain ⟨w'', hedit, hdesk⟩ := hafter
  have hgraph : e'.flow.graph = d.flow.asDraft.graph := congrArg Flow.graph hflow
  refine ⟨w'', p, d, _, hedit, hd, hdesk, hflow, ?_⟩
  unfold isDirty
  rw [hd, hdesk]
  exact Desk.isDirty_withEditor hgraph

theorem undoneBy_of_draws (hd : w.desk = some d) (h : d.flow.InLockstep)
    (hdraws : d.editor.Draws w.nextId
      (d.editor.perform s.palette s.settings.canvas.duplicateOffset s.room.steps w.nextId k))
    (hdone : w.edit s k = (w', .done p)) :
    ∃ x, p = .edge x ∧
      (x.id ∉ d.flow.edges.map (·.id) → w.UndoneBy s w' (.deleteEdge x.id)) := by
  obtain ⟨_, hdesk, rfl, hreply⟩ := edit_done hd hdone
  obtain ⟨x, rfl, hback⟩ := hdraws.undone h hreply
  exact ⟨x, rfl, fun hnew => undoneBy_of_done hd hdesk (hback hnew _) rfl⟩

theorem undoneBy_of_adds {id : Json} (hd : w.desk = some d) (h : d.flow.Sound) (hid : id.IsText)
    (hadds : d.editor.Adds w.nextId id
      (d.editor.perform s.palette s.settings.canvas.duplicateOffset s.room.steps w.nextId k))
    (hdone : w.edit s k = (w', .done p)) :
    ∃ n, p = .node n ∧ (d.flow.IsFreeOf n.id → w.UndoneBy s w' (.deleteNode n.id)) := by
  obtain ⟨_, hdesk, rfl, hreply⟩ := edit_done hd hdone
  obtain ⟨n, rfl, hback⟩ := hadds.undone h hid hreply
  refine ⟨n, rfl, fun hfree => ?_⟩
  obtain ⟨e', hdone', hflow⟩ := hback hfree w'.nextId
  exact undoneBy_of_done hd hdesk hdone' hflow

end Workspace

/-! ## The law -/

/-- An edge or a node that was just added, under an id that stood nowhere in the flow on the desk, can
be deleted, and the flow is what it was before. -/
theorem what_was_just_added_can_be_taken_back {settings : Settings} (definitions : List Definition)
    {room : Room} {w : Workspace} {d : Desk} (hd : w.desk = some d)
    (h : Homegrown ⟨settings, definitions.foldl Palette.register .standard, room⟩ d.flow) :
    let s : Setup := ⟨settings, definitions.foldl Palette.register .standard, room⟩
    (∀ source target handle w' p, w.edit s (.addEdge source target handle) = (w', .done p) →
      ∃ x, p = .edge x ∧
        (x.id ∉ d.flow.edges.map (·.id) → w.UndoneBy s w' (.deleteEdge x.id))) ∧
    (∀ kind position w' p, w.edit s (.addNode kind position) = (w', .done p) →
      ∃ n, p = .node n ∧ (d.flow.IsFreeOf n.id → w.UndoneBy s w' (.deleteNode n.id))) ∧
    (∀ id w' p, w.edit s (.duplicateNode id) = (w', .done p) →
      ∃ n, p = .node n ∧ (d.flow.IsFreeOf n.id → w.UndoneBy s w' (.deleteNode n.id))) := by
  intro s
  have hkinds := Palette.current_kind definitions
  have hlockstep : d.flow.InLockstep := (inLockstep_lasts hkinds).homegrown h
  have hsound : d.editor.flow.Sound := hlockstep.toSound
  refine ⟨?_, ?_, ?_⟩
  case refine_1 =>
    intro source target handle w' p hdone
    have hdraws := Editor.draws_addEdge hsound w.nextId source target handle
    exact Workspace.undoneBy_of_draws (k := .addEdge source target handle) hd hlockstep hdraws hdone
  case refine_2 =>
    intro kind position w' p hdone
    have hadds := Editor.adds_addNode hsound (hkinds kind) room.steps w.nextId position
    exact Workspace.undoneBy_of_adds (k := .addNode kind position) hd hsound (isText_str _) hadds
      hdone
  case refine_3 =>
    intro id w' p hdone
    cases hn : d.editor.flow.node? id with
    | none =>
      obtain ⟨-, -, -, hreply⟩ := Workspace.edit_done hd hdone
      have hrefused : (d.editor.duplicateNode s.settings.canvas.duplicateOffset w.nextId id).reply =
          .refused (.noNode id) := by
        unfold Editor.duplicateNode
        rw [hn]
        rfl
      cases hrefused.symm.trans hreply
    | some n =>
      have hadds := Editor.adds_duplicateNode settings.canvas.duplicateOffset w.nextId hn
      exact Workspace.undoneBy_of_adds (k := .duplicateNode id) hd hsound (isText_str _) hadds hdone

/-- Whether an edit is done and has made a node or an edge with the id. -/
def Reply.makes (id : Json) : Reply → Bool
  | .done (.node n) => n.id.same id
  | .done (.edge x) => x.id.same id
  | _ => false

theorem Workspace.done_of_makes {r : Workspace × Reply} (id : String)
    (h : r.2.makes (.str id) = true) (hdirty : r.1.isDirty = true) :
    ∃ w p, r = (w, .done p) ∧ w.isDirty = true ∧ (∀ n, p = .node n → n.id = .str id) ∧
      ∀ x, p = .edge x → x.id = .str id := by
  obtain ⟨w, reply⟩ := r
  have hsame : ∀ j : Json, j.same (.str id) = true → j = .str id :=
    fun _ => (same_iff_of_right (isText_str id).isWord).mp
  unfold Reply.makes at h
  dsimp only at h
  split at h
  · rename_i n
    refine ⟨w, _, rfl, hdirty, ?_, nofun⟩
    rintro _ ⟨⟩
    exact hsame n.id h
  · rename_i x
    refine ⟨w, _, rfl, hdirty, nofun, ?_⟩
    rintro _ ⟨⟩
    exact hsame x.id h
  · cases h

/-- So it is in a condition whose way to an end is stored but not drawn: the way can be drawn, either
can be joined by another node, and all of it can be taken back to the flow that was saved. -/
theorem a_saved_condition_is_as_saved_again :
    let s : Setup := ⟨{}, .standard, ⟨1000, by decide⟩⟩
    let ask : Json := .str "condition-00000003"
    let bye : Json := .str "end-00000004"
    ∃ (w : Workspace) (d : Desk), w.desk = some d ∧ Homegrown s d.flow ∧ w.isDirty = false ∧
      d.flow.refersTo bye = true ∧
      (∃ w' x, w.edit s (.addEdge ask bye none) = (w', .done (.edge x)) ∧ w'.isDirty = true ∧
        x.id ∉ d.flow.edges.map (·.id) ∧ w.UndoneBy s w' (.deleteEdge x.id)) ∧
      (∃ w' n, w.edit s (.addNode .finish origin) = (w', .done (.node n)) ∧ w'.isDirty = true ∧
        d.flow.IsFreeOf n.id ∧ w.UndoneBy s w' (.deleteNode n.id)) ∧
      (∃ w' n, w.edit s (.duplicateNode ask) = (w', .done (.node n)) ∧ w'.isDirty = true ∧
        d.flow.IsFreeOf n.id ∧ w.UndoneBy s w' (.deleteNode n.id)) := by
  intro s ask bye
  let made := ({} : Workspace).createFlow s 0 (.str "Greeting") (.str "") (.str "")
  let addCondition : DeskWork := .edit (.addNode .condition origin)
  let addEnd : DeskWork := .edit (.addNode .finish origin)
  let join : DeskWork := .edit (.addEdge (.str "start-00000001") ask none)
  let answer : DeskWork := .edit (.updateData ask (.obj [("yes_connection", bye)]))
  let w₀ := (made.1.openFlow s.room.steps (.str (Ids.full 2))).1
  let w₁ := w₀.work s 0 addCondition
  let w₂ := w₁.work s 0 addEnd
  let w₃ := w₂.work s 0 join
  let w₄ := w₃.work s 0 answer
  let w := w₄.work s 0 .save
  let d₁ := w₁.desk.get (by decide +kernel)
  let d₂ := w₂.desk.get (by decide +kernel)
  let d₃ := w₃.desk.get (by decide +kernel)
  let d₄ := w₄.desk.get (by decide +kernel)
  let d := w.desk.get (by decide +kernel)
  have hw₁ : w₁.desk = some d₁ := (Option.some_get _).symm
  have hw₂ : w₂.desk = some d₂ := (Option.some_get _).symm
  have hw₃ : w₃.desk = some d₃ := (Option.some_get _).symm
  have hw₄ : w₄.desk = some d₄ := (Option.some_get _).symm
  have hw : w.desk = some d := (Option.some_get _).symm
  have hnew : ∀ {t : String} {xs : List Json}, (Json.str t).isIn xs = false → .str t ∉ xs :=
    not_mem_of_isIn (isText_str _).isWord
  have h₀ : Homegrown s _ := .created (rfl : made = (_, .ok _))
  have h₁ : Homegrown s d₁.flow := h₀.worked (k := addCondition)
    (rfl : w₀.desk = some (Desk.opened _)) (hnew (by decide +kernel)) hw₁
  have h₂ : Homegrown s d₂.flow := h₁.worked (k := addEnd) hw₁ (hnew (by decide +kernel)) hw₂
  have h₃ : Homegrown s d₃.flow := h₂.worked (k := join) hw₂ (hnew (by decide +kernel)) hw₃
  have h₄ : Homegrown s d₄.flow := h₃.worked (k := answer) hw₃ trivial hw₄
  have h : Homegrown s d.flow := h₄.worked (k := .save) hw₄ trivial hw
  have hsound : d.flow.Sound := h.sound (Palette.current_kind [])
  have hfree : ∀ {t : String}, (Json.str t).isIn d.flow.ids = false →
      d.flow.refersTo (.str t) = false → d.flow.IsFreeOf (.str t) :=
    fun hid => hsound.isFreeOf (hnew hid)
  obtain ⟨hdrawn, hadded, hcopied⟩ := what_was_just_added_can_be_taken_back [] hw h
  refine ⟨w, d, hw, h, by decide +kernel, by decide +kernel, ?_, ?_, ?_⟩
  case refine_1 =>
    obtain ⟨w', p, hdone, hdirty, -, hid⟩ := Workspace.done_of_makes
      (r := w.edit s (.addEdge ask bye none)) "e-00000006" (by decide +kernel) (by decide +kernel)
    obtain ⟨x, rfl, hback⟩ := hdrawn ask bye none w' p hdone
    have hx : x.id ∉ d.flow.edges.map (·.id) := hid x rfl ▸ hnew (by decide +kernel)
    exact ⟨w', x, hdone, hdirty, hx, hback hx⟩
  case refine_2 =>
    obtain ⟨w', p, hdone, hdirty, hid, -⟩ := Workspace.done_of_makes
      (r := w.edit s (.addNode .finish origin)) "end-00000006" (by decide +kernel) (by decide +kernel)
    obtain ⟨n, rfl, hback⟩ := hadded .finish origin w' p hdone
    have hn : d.flow.IsFreeOf n.id := hid n rfl ▸ hfree (by decide +kernel) (by decide +kernel)
    exact ⟨w', n, hdone, hdirty, hn, hback hn⟩
  case refine_3 =>
    obtain ⟨w', p, hdone, hdirty, hid, -⟩ := Workspace.done_of_makes
      (r := w.edit s (.duplicateNode ask)) "condition-00000006" (by decide +kernel) (by decide +kernel)
    obtain ⟨n, rfl, hback⟩ := hcopied ask w' p hdone
    have hn : d.flow.IsFreeOf n.id := hid n rfl ▸ hfree (by decide +kernel) (by decide +kernel)
    exact ⟨w', n, hdone, hdirty, hn, hback hn⟩

end Dialogue
