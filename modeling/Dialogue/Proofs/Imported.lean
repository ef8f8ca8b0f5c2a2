-- Flows that came in through an import. Where the edges of one have ids of their own, every edit
-- keeps the graph rules, and a deletion takes out what was meant and nothing else. The import does
-- not ask for such ids, and without them a deletion can take out too much.
import Dialogue.Proofs.Import

namespace Dialogue

open Json

/-! ## What an import lets in -/

namespace Flow

/-- The ids of the edges are texts and tell the edges apart. -/
def TellsEdges (f : Flow) : Prop := (∀ e ∈ f.edges, e.id.IsText) ∧ (f.edges.map (·.id)).Nodup

/-- What a flow lacks for soundness, if validation passes it, is that its edges have ids of their
own. -/
theorem Lawful.sound {f : Flow} (h : f.Lawful) (hwords : f.Worded) (hedges : f.TellsEdges) :
    f.Sound where
  ids_text := hwords.ids
  ids_nodup := h.ids_nodup
  one_start := h.one_start
  edge_ids_text := hedges.1
  edge_ids_nodup := hedges.2
  edges_fit := h.edges_fit
  ends_nodup := h.ends_nodup
  labels_word := hwords.labels
  branches := h.branches
  matched := h.matched

theorem isDated_of_validate {f : Flow} {most now : Int} {r : Report}
    (h : f.validate most now = .ok r) : Clock.isDated now = true := by
  unfold validate Clock.dated at h
  by_cases hnow : Clock.isDated now = true
  · exact hnow
  · rw [if_neg hnow] at h
    cases hissues : f.issues most <;> rw [hissues] at h <;> cases h

theorem lawful_of_valid {f : Flow} (hwords : f.Worded) {most now : Int} {r : Report}
    (hr : f.validate most now = .ok r) (hvalid : r.valid = true) : f.Lawful := by
  obtain ⟨broken, hreport, herrors, hlawful⟩ :=
    validate_spec hwords most (isDated_of_validate hr)
  cases hr.symm.trans hreport
  exact ((valid_of_report herrors hlawful most now).mp hvalid).1

/-- Validation finds nothing wrong with a sound flow but that it may be too large. -/
theorem Sound.errors {f : Flow} (h : f.Sound) (most : Int) {now : Int}
    (hnow : Clock.isDated now = true) :
    ∃ r, f.validate most now = .ok r ∧
      ∀ i ∈ r.errors, i = .tooManyNodes f.nodes.length most := by
  obtain ⟨broken, hr, herrors, hlawful⟩ := validate_spec h.worded most hnow
  refine ⟨_, hr, fun i hi => ?_⟩
  rw [errors_of_report herrors, hlawful.mpr h.lawful, List.nil_append] at hi
  unfold sizeIssues at hi
  split at hi
  · exact List.mem_singleton.mp hi
  · cases hi

end Flow

theorem Workspace.valid_of_importFlow {s : Setup} {w w' : Workspace} {now : Int} {data : Json}
    {f : Flow} (h : w.importFlow s now data = (w', .ok f)) :
    ∃ r, f.validate s.settings.canvas.maxNodes now = .ok r ∧ r.valid = true := by
  unfold importFlow at h
  split at h
  · rename_i f' hcheck
    cases h
    exact (checkImport_spec hcheck).2.2
  · cases h

/-! ## Edits of an imported flow -/

/-- The editor after some edits of the flow, each with an id that was new at the time. -/
inductive Editor.Tends (s : Setup) (f : Flow) : Editor → Prop where
  | opened : Tends s f { flow := f }
  | edited {e : Editor} {nextId : Nat} {edit : Edit} (h : Tends s f e)
      (hfresh : edit.IsFresh e.flow nextId) :
      Tends s f
        (e.perform s.palette s.settings.canvas.duplicateOffset s.room.steps nextId edit).editor

theorem Editor.Tends.sound {s : Setup} (hp : ∀ k, (s.palette.current k).kind = k) {f : Flow}
    (hf : f.Sound) {e : Editor} (h : Tends s f e) : e.flow.Sound := by
  induction h with
  | opened => exact hf
  | edited h hfresh ih => exact sound_perform ih hp _ _ _ hfresh

/-! ## What a deletion takes out -/

namespace Flow

/-- The second flow is the first without one edge, and its source names the target once less. -/
structure Loses (f : Flow) (x : Edge) (g : Flow) : Prop where
  edges : ∃ before after, f.edges = before ++ x :: after ∧ g.edges = before ++ after
  nodes : ∃ before n after c d, f.nodes = before ++ n :: after ∧ n.id = x.source ∧
    n.connections = c ++ x.target :: d ∧
    g.nodes = before ++ { n with connections := c ++ d } :: after

theorem modifyFirst_spec {α : Type} {test : α → Bool} (change : α → α) {xs : List α}
    (h : ∃ x ∈ xs, test x = true) :
    ∃ before x after, xs = before ++ x :: after ∧ test x = true ∧
      modifyFirst test change xs = before ++ change x :: after := by
  induction xs with
  | nil => simp at h
  | cons x rest ih =>
    rw [modifyFirst]
    split
    · rename_i hx
      exact ⟨[], x, rest, rfl, hx, rfl⟩
    · rename_i hx
      obtain ⟨y, hy, htest⟩ := h
      have hrest : y ∈ rest := (List.mem_cons.mp hy).resolve_left fun heq => hx (heq ▸ htest)
      obtain ⟨before, z, after, rfl, hz, hmodified⟩ := ih ⟨y, hrest, htest⟩
      exact ⟨x :: before, z, after, rfl, hz, by rw [hmodified]; rfl⟩

/-- No other edge bears the id of an edge. -/
theorem filter_id_spec {es : List Edge} (hids : (es.map (·.id)).Nodup) {x : Edge}
    (hid : x.id.IsText) (hx : x ∈ es) :
    ∃ before after, es = before ++ x :: after ∧
      es.filter (fun y => !y.id.same x.id) = before ++ after := by
  obtain ⟨before, after, rfl⟩ := List.append_of_mem hx
  refine ⟨before, after, rfl, ?_⟩
  rw [List.map_append, List.map_cons, List.nodup_middle, List.nodup_cons, List.mem_append,
    not_or] at hids
  have hkept : ∀ {ys : List Edge}, x.id ∉ ys.map (·.id) →
      ys.filter (fun y => !y.id.same x.id) = ys := by
    intro ys hnew
    rw [List.filter_eq_self]
    intro y hy
    rw [not_same_iff_of_right hid.isWord]
    intro heq
    exact hnew (List.mem_map.mpr ⟨y, hy, heq⟩)
  have hsame : x.id.same x.id = true := (same_iff_of_left hid.isWord).mpr rfl
  rw [List.filter_append, List.filter_cons_of_neg (by simp [hsame]), hkept hids.1.1,
    hkept hids.1.2]

theorem loses_dropEdge {f : Flow} (h : f.Sound) {x : Edge} (hx : x ∈ f.edges) :
    f.Loses x (f.dropEdge x) where
  edges := filter_id_spec h.edge_ids_nodup (h.edge_ids_text x hx) hx
  nodes := by
    have hsource := (h.source_text hx).isWord
    have hknown : ∃ n ∈ f.nodes, n.id.equals x.source = true := by
      obtain ⟨n, hn, hid⟩ := mem_ids.mp (h.edges_fit x hx).source_known
      exact ⟨n, hn, (equals_iff_of_right hsource).mpr hid⟩
    obtain ⟨before, n, after, hnodes, hid, hmodified⟩ := modifyFirst_spec
      (fun n => { n with connections := n.connections.eraseP (x.target.same ·) }) hknown
    rw [equals_iff_of_right hsource] at hid
    have hn : n ∈ f.nodes := by simp [hnodes]
    have hnamed : x.target ∈ n.connections := (h.matched n hn).mem_iff.mpr
      (List.mem_map.mpr ⟨x, h.mem_outgoing.mpr ⟨hx, hid.symm⟩, rfl⟩)
    obtain ⟨t, c, d, -, ht, hconnections, herased⟩ := List.exists_of_eraseP hnamed
      ((same_iff_of_left (h.target_text hx).isWord).mpr rfl)
    rw [same_iff_of_left (h.target_text hx).isWord] at ht
    subst ht
    exact ⟨before, n, after, c, d, hnodes, hid, hconnections, by rw [← herased]; exact hmodified⟩

end Flow

namespace Editor

variable {e : Editor}

theorem deleteEdge_spec (h : e.flow.Sound) {nextId : Nat} {id : Json} {x : Edge}
    (hdone : (e.deleteEdge nextId id).reply = .done (.edge x)) :
    x.id = id ∧ e.flow.Loses x (e.deleteEdge nextId id).editor.flow := by
  unfold deleteEdge at hdone ⊢
  cases hfound : e.flow.edge? id with
  | none =>
    rw [hfound] at hdone
    cases hdone
  | some y =>
    rw [hfound] at hdone
    cases hdone
    obtain ⟨hx, hid⟩ := Flow.edge?_spec h hfound
    obtain ⟨hedges, hnodes⟩ := Flow.loses_dropEdge h hx
    exact ⟨hid, hedges, hnodes⟩

theorem deleteNode_spec (h : e.flow.Sound) {nextId : Nat} {id : Json} {n : Node}
    (hdone : (e.deleteNode nextId id).reply = .done (.node n)) :
    n.id = id ∧ (e.deleteNode nextId id).editor.flow.edges =
      e.flow.edges.filter fun x => !Flow.touches id x := by
  unfold deleteNode at hdone ⊢
  cases hfound : e.flow.node? id with
  | none =>
    rw [hfound] at hdone
    cases hdone
  | some m =>
    rw [hfound] at hdone
    dsimp only at hdone ⊢
    split at hdone
    · cases hdone
    · rename_i hstart
      rw [if_neg hstart]
      split at hdone
      · rename_i hkeys
        rw [if_pos hkeys]
        cases hdone
        exact ⟨(Flow.node?_spec h hfound).2, Flow.edges_deleteNode h id⟩
      · cases hdone

end Editor

/-! ## The law -/

/-- However a flow that was let in is edited, validation finds nothing wrong with it but that it may
be too large, a deleted edge goes alone and with one connection, and a deleted node takes along the
edges at it and no others. The edges must have come with ids of their own. -/
theorem edits_of_an_imported_flow_keep_the_rules {settings : Settings}
    (definitions : List Definition) {room : Room} {w w' : Workspace} {arrival : Int} {data : Json}
    {f : Flow}
    (himport : w.importFlow ⟨settings, definitions.foldl Palette.register .standard, room⟩ arrival
      data = (w', .ok f))
    (hwords : f.Worded) (hedges : f.TellsEdges) {e : Editor}
    (he : e.Tends ⟨settings, definitions.foldl Palette.register .standard, room⟩ f) (nextId : Nat)
    {now : Int} (hnow : Clock.isDated now = true) :
    (∃ r, e.flow.validate settings.canvas.maxNodes now = .ok r ∧
      ∀ i ∈ r.errors, i = .tooManyNodes e.flow.nodes.length settings.canvas.maxNodes) ∧
    (∀ id x, (e.deleteEdge nextId id).reply = .done (.edge x) →
      x.id = id ∧ e.flow.Loses x (e.deleteEdge nextId id).editor.flow) ∧
    (∀ id n, (e.deleteNode nextId id).reply = .done (.node n) →
      n.id = id ∧ (e.deleteNode nextId id).editor.flow.edges =
        e.flow.edges.filter fun x => !Flow.touches id x) := by
  obtain ⟨r, hr, hvalid⟩ := Workspace.valid_of_importFlow himport
  have hlawful : f.Lawful := Flow.lawful_of_valid hwords hr hvalid
  have hsound : e.flow.Sound :=
    he.sound (Palette.current_kind definitions) (hlawful.sound hwords hedges)
  refine ⟨hsound.errors _ hnow, fun id x hdone => ?_, fun id n hdone => ?_⟩
  · exact Editor.deleteEdge_spec hsound hdone
  · exact Editor.deleteNode_spec hsound hdone

/-- So it is with the fan, which was let in and has lost one of its two edges. -/
theorem edits_of_the_imported_fan_keep_the_rules :
    let s : Setup := ⟨{}, .standard, ⟨1000, by decide⟩⟩
    let e := (Editor.perform s.palette s.settings.canvas.duplicateOffset s.room.steps
      { flow := Flow.fanFlow } 1 (.deleteEdge (.str "first"))).editor
    let second : Edge := ⟨.str "second", .str "start", .str "end", .null⟩
    (∃ w', ({} : Workspace).importFlow s 0 Flow.fanFlow.toJson = (w', .ok Flow.fanFlow)) ∧
      Flow.fanFlow.Worded ∧ Flow.fanFlow.TellsEdges ∧ e.Tends s Flow.fanFlow ∧
      Clock.isDated 0 = true ∧
      (∃ r, e.flow.validate 500 0 = .ok r ∧ ∀ i ∈ r.errors, i = .tooManyNodes 3 500) ∧
      (e.deleteEdge 1 (.str "second")).reply = .done (.edge second) ∧
      e.flow.Loses second (e.deleteEdge 1 (.str "second")).editor.flow := by
  intro s e second
  have hedges : Flow.fanFlow.TellsEdges := by simp [Flow.TellsEdges, Flow.fanFlow, isText_str]
  have hsound : Flow.fanFlow.Sound := Flow.fanFlow_lawful.sound Flow.fanFlow_worded hedges
  have hbounds : Flow.fanFlow.InBounds := by
    simp [Flow.InBounds, Flow.fanFlow, NodeData.InBounds]
  have hnow : Clock.isDated 0 = true := by decide
  have himport := Workspace.importFlow_toJson (w := {}) (s := s) hsound hbounds (by decide +kernel)
    rfl rfl hnow
  have he : e.Tends s Flow.fanFlow := .edited .opened trivial
  have hdone : (e.deleteEdge 1 (.str "second")).reply = .done (.edge second) := rfl
  obtain ⟨hvalid, hloses, -⟩ := edits_of_an_imported_flow_keep_the_rules [] himport
    Flow.fanFlow_worded hedges he 1 hnow
  exact ⟨⟨_, himport⟩, Flow.fanFlow_worded, hedges, he, hnow, hvalid, hdone,
    (hloses _ _ hdone).2⟩

/-- A start node, and after it two messages. Both edges have the same id. -/
def twins : Json :=
  .obj [("id", .str "twins"), ("name", .str "Twins"),
    ("nodes", .arr [
      .obj [("id", .str "start"), ("type", .str "start"), ("connections", .arr [.str "left"])],
      .obj [("id", .str "left"), ("type", .str "message"), ("connections", .arr [.str "right"])],
      .obj [("id", .str "right"), ("type", .str "message")]]),
    ("edges", .arr [
      .obj [("id", .str "e"), ("source", .str "start"), ("target", .str "left")],
      .obj [("id", .str "e"), ("source", .str "left"), ("target", .str "right")]])]

theorem Outcome.eq_ok_get {α : Type} {x : Outcome α} (h : x.toOption.isSome = true) :
    x = .ok (x.toOption.get h) := by
  cases x with
  | ok a => rfl
  | error fault => cases h

/-- Edges that share an id are let in. They go together then, and the connection that the second one
leaves behind breaks a rule. -/
theorem edges_with_one_id_go_together :
    ∃ f w' x, ({} : Workspace).importFlow ⟨{}, .standard, ⟨1000, by decide⟩⟩ 0 twins =
        (w', .ok f) ∧
      let deleted := Editor.deleteEdge { flow := f } 1 (.str "e")
      f.edges.length = 2 ∧ deleted.reply = .done (.edge x) ∧ deleted.editor.flow.edges.length = 0 ∧
        deleted.editor.flow.nodes.length = 3 ∧
        (deleted.editor.flow.validate 500 0).toOption.map (·.errors.length) = some 1 := by
  let imported := ({} : Workspace).importFlow ⟨{}, .standard, ⟨1000, by decide⟩⟩ 0 twins
  let f := imported.2.toOption.get (by decide +kernel)
  let x := (f.edge? (.str "e")).get (by decide +kernel)
  have himported : imported.2 = .ok f := Outcome.eq_ok_get _
  have hx : f.edge? (.str "e") = some x := (Option.some_get _).symm
  refine ⟨f, imported.1, x, by rw [← himported], by decide +kernel, ?_, by decide +kernel,
    by decide +kernel, by decide +kernel⟩
  unfold Editor.deleteEdge
  rw [hx]

end Dialogue
