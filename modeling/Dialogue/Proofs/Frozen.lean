-- A published flow is what was frozen: its nodes and edges are those of its last version, wherever
-- the nodes stand by now. An edit that breaks off half-way must be ruled out, as it changes the graph
-- and leaves the flow published.
import Dialogue.Proofs.History

namespace Dialogue

/-! ## Changes that an edit makes -/

/-- The node without its place. -/
def Node.unplaced (n : Node) : Node := { n with position := [] }

/-- Two flows with the same status, the same edges and the same nodes, wherever these stand. -/
structure SameContent (f g : Flow) : Prop where
  status : g.status = f.status
  nodes : g.nodes.map Node.unplaced = f.nodes.map Node.unplaced
  edges : g.edges = f.edges

theorem SameContent.refl (f : Flow) : SameContent f f := ⟨rfl, rfl, rfl⟩

theorem sameContent_move (f : Flow) (id : Json) (position : Position) :
    SameContent f (f.modifyNode id fun n => { n with position }) where
  status := rfl
  nodes := by
    have hview : ∀ n : Node, Node.unplaced { n with position } = n.unplaced := fun _ => rfl
    exact Flow.map_modifyFirst hview f.nodes
  edges := rfl

/-- The edges can be told apart in a look-up. -/
def Flow.HasEdgeKeys (f : Flow) : Prop := ∀ x ∈ f.edges, x.id.isKey = true

namespace Editor

/-- A node whose data is updated leaves room for a copy, if it is selected. -/
def HasRoom (e : Editor) (room : Nat) : Edit → Prop
  | .updateData id _ =>
    e.hasSelected id = true → ∀ n ∈ e.flow.node? id, n.copyDepth + 1 ≤ room
  | _ => True

instance (e : Editor) (room : Nat) : (k : Edit) → Decidable (e.HasRoom room k)
  | .updateData id _ =>
    inferInstanceAs (Decidable (_ = true → ∀ n ∈ e.flow.node? id, n.copyDepth + 1 ≤ room))
  | .addNode _ _ | .duplicateNode _ | .deleteNode _ | .moveNode _ _ | .addEdge _ _ _
  | .deleteEdge _ | .startConnect _ _ | .completeConnect _ | .cancelConnect | .selectNode _
  | .clearSelection => inferInstanceAs (Decidable True)

end Editor

namespace Edit.Does

variable {p : Palette} {room nextId : Nat} {e : Editor} {k : Edit} {f : Flow}

/-- An edit makes a draft of the flow or leaves its content, if nothing can cut it short. -/
theorem drafts (h : k.Does p room e nextId f) (hkeys : e.flow.HasEdgeKeys)
    (hroom : e.HasRoom room k) : f.status = .draft ∨ SameContent e.flow f := by
  cases h with
  | nothing => exact .inr (.refl _)
  | moved id given position => exact .inr (sameContent_move e.flow id position)
  | updateCutShort hn hdata hselected hshort =>
    have hfits := hroom hselected _ hn
    omega
  | deletionCutShort hcut => exact absurd (List.all_eq_true.mpr hkeys) hcut
  | _ => exact .inl rfl

theorem hasEdgeKeys (h : k.Does p room e nextId f) (hkeys : e.flow.HasEdgeKeys) :
    f.HasEdgeKeys := by
  cases h with
  | deleted => exact fun x hx => hkeys x (List.mem_filter.mp hx).1
  | parted => exact fun x hx => hkeys x (List.mem_filter.mp hx).1
  | joined =>
    intro x hx
    rcases List.mem_append.mp hx with hold | hnew
    · exact hkeys x hold
    · rw [List.mem_singleton.mp hnew]
      rfl
  | _ => exact hkeys

end Edit.Does

/-! ## What is frozen -/

/-- The flow as the version shows it, wherever its nodes stand. -/
structure Shows (v : Version) (f : Flow) : Prop where
  last : f.versions.getLast? = some v
  label : f.label = .str v.label
  nodes : f.nodes.map Node.unplaced = v.nodes.map Node.unplaced
  edges : f.edges = v.edges

/-- If the flow is published, its last version shows it. -/
structure IsFrozen (f : Flow) : Prop where
  keys : f.HasEdgeKeys
  shown : f.status = .published → ∃ v, Shows v f

theorem Shows.carried {v : Version} {f g : Flow} (h : Shows v f) (hcontent : SameContent f g)
    (hhistory : SameHistory f g) : Shows v g where
  last := by rw [hhistory.versions, h.last]
  label := by rw [hhistory.label, h.label]
  nodes := by rw [hcontent.nodes, h.nodes]
  edges := by rw [hcontent.edges, h.edges]

theorem IsFrozen.edited {p : Palette} {room nextId : Nat} {e : Editor} {k : Edit} {f : Flow}
    (h : IsFrozen e.flow) (hdoes : k.Does p room e nextId f) (hroom : e.HasRoom room k) :
    IsFrozen f where
  keys := hdoes.hasEdgeKeys h.keys
  shown := by
    intro hpublished
    rcases hdoes.drafts h.keys hroom with hdraft | hcontent
    · rw [hdraft] at hpublished
      cases hpublished
    · rw [hcontent.status] at hpublished
      obtain ⟨v, hv⟩ := h.shown hpublished
      exact ⟨v, hv.carried hcontent hdoes.sameHistory⟩

theorem IsFrozen.worked {s : Setup} {w : Workspace} {now : Int} {k : DeskWork} {f g : Flow}
    (h : IsFrozen f) (hmakes : k.Makes s w now f g) : IsFrozen g := by
  cases hmakes with
  | saved =>
    refine ⟨h.keys, fun hpublished => ?_⟩
    obtain ⟨v, hv⟩ := h.shown hpublished
    exact ⟨v, hv.last, hv.label, hv.nodes, hv.edges⟩
  | published =>
    refine ⟨h.keys, fun _ => ⟨_, ?_, rfl, rfl, rfl⟩⟩
    exact List.getLast?_concat
  | rolledBack => exact ⟨h.keys, fun hpublished => nomatch hpublished⟩

namespace Workspace

variable {w : Workspace} {f g : Flow}

/-- A step does not break off for want of room after it has changed a node. -/
def HasRoom (w : Workspace) (step : Step) : Prop :=
  match step.act with
  | .work (.edit k) => ∀ d ∈ w.desk, d.editor.HasRoom step.setup.room.steps k
  | _ => True

instance (w : Workspace) (step : Step) : Decidable (w.HasRoom step) := by
  unfold HasRoom
  split <;> infer_instance

theorem Leads.isFrozen {steps : List Step} (h : w.Leads f steps g) (hf : IsFrozen f)
    (hroom : w.Throughout HasRoom steps) : IsFrozen g := by
  induction h with
  | done w f => exact hf
  | @step w f g h step rest hstep _ _ ih =>
    obtain ⟨hfirst, hrest⟩ := hroom
    refine ih ?_ hrest
    obtain ⟨s, now, a⟩ := step
    cases hstep with
    | same => exact hf
    | edited hd hflow hdoes =>
      subst hflow
      exact hf.edited hdoes (hfirst _ hd)
    | worked hg => exact hf.worked hg

/-! ## The law -/

/-- A stored flow that is a draft is from then on published only as its last version shows it. The
ids of its edges must be such that they can be looked up. -/
theorem what_is_published_was_frozen (hw : w.InUse) (hf : f ∈ w.store.flows)
    (hdraft : f.status = .draft) (hkeys : f.HasEdgeKeys) {steps : List Step}
    (hkeeps : w.Keeps f.id steps) (hroom : w.Throughout HasRoom steps)
    (hg : (w.afterAll steps).store.get? f.id = some g) (hpublished : g.status = .published) :
    ∃ v, Shows v g := by
  have hfrozen : IsFrozen f := by
    refine ⟨hkeys, fun hpublished => ?_⟩
    rw [hdraft] at hpublished
    cases hpublished
  have hleads := leads_of_keeps hw.backs hf hkeeps hg
  exact (hleads.isFrozen hfrozen hroom).shown hpublished

/-- A new flow is given an end node, which is selected, renamed and deleted between two publishes. In
the end the start node is moved. -/
theorem a_moved_greeting_was_frozen :
    let s : Setup := ⟨{}, .standard, ⟨990, by decide⟩⟩
    let id : Json := .str (Ids.full 2)
    let finish : Json := .str "end-00000003"
    let edit (e : Edit) : Step := ⟨s, 0, .work (.edit e)⟩
    let publish : Step := ⟨s, 0, .work (.publish (.str "") .null)⟩
    let w := ({} : Workspace).after ⟨s, 0, .create (.str "Greeting") (.str "") (.str "")⟩
    let steps := [⟨s, 0, .select id⟩, edit (.addNode .finish origin), edit (.selectNode finish),
      edit (.updateData finish (.obj [("label", .str "Bye")])), publish, edit (.deleteNode finish),
      publish, edit (.moveNode (.str "start-00000001") (.obj [("x", .int 7)]))]
    ∃ f g v, w.InUse ∧ f ∈ w.store.flows ∧ f.status = .draft ∧ f.HasEdgeKeys ∧
      w.Keeps f.id steps ∧ w.Throughout HasRoom steps ∧
      (w.afterAll steps).store.get? f.id = some g ∧ g.status = .published ∧
      g.versions.map (·.nodes.length) = [2, 1] ∧ Shows v g := by
  intro s id finish edit publish w steps
  have hw : w.InUse := InUse.empty.worked _
  let f := (w.store.get? id).get (by decide +kernel)
  let g := ((w.afterAll steps).store.get? f.id).get (by decide +kernel)
  have hf : f ∈ w.store.flows := Store.mem_of_get? (Option.some_get _).symm
  have hg : (w.afterAll steps).store.get? f.id = some g := (Option.some_get _).symm
  have hdraft : f.status = .draft := by decide +kernel
  have hnone : f.edges.length = 0 := by decide +kernel
  have hkeys : f.HasEdgeKeys := by
    intro x hx
    rw [List.length_eq_zero_iff.mp hnone] at hx
    cases hx
  have hkeeps : w.Keeps f.id steps := keeps_of_spares (by decide +kernel)
  have hroom : w.Throughout HasRoom steps := by decide +kernel
  have hpublished : g.status = .published := by decide +kernel
  obtain ⟨v, hv⟩ := what_is_published_was_frozen hw hf hdraft hkeys hkeeps hroom hg hpublished
  exact ⟨f, g, v, hw, hf, hdraft, hkeys, hkeeps, hroom, hg, hpublished, by decide +kernel, hv⟩

/-- A start node and a message after it. The edge between them has a list for its id. -/
def keyless : Json :=
  .obj [("id", .str "keyless"), ("name", .str "Keyless"),
    ("nodes", .arr [
      .obj [("id", .str "start"), ("type", .str "start"), ("connections", .arr [.str "note"])],
      .obj [("id", .str "note"), ("type", .str "message")]]),
    ("edges", .arr [
      .obj [("id", .arr [.str "e"]), ("source", .str "start"), ("target", .str "note")]])]

/-- Such a flow is let in. Once it is published, the deletion of the message breaks off when the node
is gone, and the flow is still published. -/
theorem a_deletion_that_breaks_off_leaves_the_flow_published :
    let s : Setup := ⟨{}, .standard, ⟨990, by decide⟩⟩
    let w := ({} : Workspace).after ⟨s, 0, .bring keyless⟩
    let steps := [⟨s, 0, .select (.str "keyless")⟩, ⟨s, 0, .work (.publish (.str "") .null)⟩,
      ⟨s, 0, .work (.edit (.deleteNode (.str "note")))⟩]
    ∃ f g, w.InUse ∧ f ∈ w.store.flows ∧ f.status = .draft ∧ w.Keeps f.id steps ∧
      w.Throughout HasRoom steps ∧ (w.afterAll steps).store.get? f.id = some g ∧
      g.status = .published ∧ g.nodes.length = 1 ∧
      g.versions.map (·.nodes.length) = [2] ∧ ¬ ∃ v, Shows v g := by
  intro s w steps
  have hw : w.InUse := InUse.empty.worked _
  let f := (w.store.get? (.str "keyless")).get (by decide +kernel)
  let g := ((w.afterAll steps).store.get? f.id).get (by decide +kernel)
  have hf : f ∈ w.store.flows := Store.mem_of_get? (Option.some_get _).symm
  have hg : (w.afterAll steps).store.get? f.id = some g := (Option.some_get _).symm
  have hone : g.nodes.length = 1 := by decide +kernel
  have htwo : g.versions.getLast?.map (·.nodes.length) = some 2 := by decide +kernel
  have hkeeps : w.Keeps f.id steps := keeps_of_spares (by decide +kernel)
  refine ⟨f, g, hw, hf, by decide +kernel, hkeeps, by decide +kernel, hg, by decide +kernel, hone,
    by decide +kernel, ?_⟩
  rintro ⟨v, hv⟩
  have hlength := congrArg List.length hv.nodes
  rw [hv.last] at htwo
  simp only [List.length_map, Option.map_some, Option.some.injEq] at hlength htwo
  omega

end Workspace

end Dialogue
