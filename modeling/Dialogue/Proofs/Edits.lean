-- What each edit makes of a flow. Whether it is done, refused or fails on the way, an edit of a
-- sound flow makes one change of its graph at most, and leaves a sound flow, as long as the ids it
-- makes are new to the flow.
import Dialogue.Editor
import Dialogue.Proofs.Changes
import Dialogue.Proofs.Data

namespace Dialogue

open Json

/-! ## The data of new nodes -/

theorem Definition.ofJson_of_newData {room : Nat} {d : Definition} {data : NodeData}
    (h : d.newData room = .ok data) :
    ∃ room' j, NodeData.ofJson room' d.kind j = .ok data := by
  unfold Definition.newData at h
  split at h
  · cases h
  · split at h
    · exact ⟨_, _, h⟩
    · cases h

theorem Definition.kind_of_newData {room : Nat} {d : Definition} {data : NodeData}
    (h : d.newData room = .ok data) : data.kind = d.kind := by
  obtain ⟨room', j, hj⟩ := ofJson_of_newData h
  exact NodeData.kind_of_ofJson hj

theorem Definition.inBounds_of_newData {room : Nat} {d : Definition} {data : NodeData}
    (h : d.newData room = .ok data) : data.InBounds := by
  obtain ⟨room', j, hj⟩ := ofJson_of_newData h
  exact NodeData.inBounds_of_ofJson hj

/-- Each kind has a definition of its own in a palette, whatever was registered. -/
theorem Palette.current_kind (definitions : List Definition) (k : NodeKind) :
    ((definitions.foldl Palette.register .standard).current k).kind = k := by
  have hkept : ∀ (ds : List Definition) (p : Palette), (∀ k, (p.current k).kind = k) →
      ∀ k, ((ds.foldl Palette.register p).current k).kind = k := by
    intro ds
    induction ds with
    | nil => exact fun p hp => hp
    | cons d rest ih =>
      intro p hp
      refine ih (p.register d) fun k => ?_
      unfold Palette.register
      by_cases hk : k = d.kind
      · simp [hk]
      · simp [hk, hp]
  exact hkept definitions .standard (fun _ => rfl) k

/-! ## Nodes -/

namespace Flow

theorem startNode?_isSome {f : Flow} (h : f.Sound) : f.startNode?.isSome = true := by
  have hone := h.one_start
  unfold startNode?
  rw [List.find?_isSome]
  obtain ⟨n, hn⟩ := List.length_eq_one_iff.mp hone
  have hmem : n ∈ f.nodes.filter (·.kind == .start) := hn ▸ List.mem_singleton_self n
  exact ⟨n, (List.mem_filter.mp hmem).1, (List.mem_filter.mp hmem).2⟩

end Flow

theorem Reply.refused_ne_done (why : Refusal) : ∀ p, Reply.refused why ≠ .done p := nofun

theorem Reply.failed_ne_done (fault : Fault) : ∀ p, Reply.failed fault ≠ .done p := nofun

namespace Editor

variable {e : Editor}

/-- What an edit gives back that adds a node with the id: the editor as it was, or one node more. -/
inductive Adds (e : Editor) (nextId : Nat) (id : Json) : Edited → Prop where
  | nothing {r : Edited} (heditor : r.editor = e) (hreply : ∀ p, r.reply ≠ .done p) :
      Adds e nextId id r
  | added {n : Node} (hid : n.id = id) (hkind : n.kind ≠ .start) (hconnections : n.connections = []) :
      Adds e nextId id ⟨e.change (e.flow.addNode n), nextId + 1, .done (.node n)⟩

theorem Adds.changesTo {nextId : Nat} {id : Json} {r : Edited} (h : e.Adds nextId id r)
    (hid : id.IsText) (hnew : id ∉ e.flow.ids) : e.flow.ChangesTo r.editor.flow := by
  cases h with
  | nothing heditor _ =>
    rw [heditor]
    exact .same
  | added hsame hkind hconnections =>
    subst hsame
    exact .draft (.added hid hnew hkind hconnections)

theorem adds_addNode (h : e.flow.Sound) {p : Palette} {k : NodeKind} (hp : (p.current k).kind = k)
    (room nextId : Nat) (position : Json) :
    e.Adds nextId (.str (Ids.tagged k.word nextId)) (e.addNode p room nextId k position) := by
  unfold addNode
  split
  · exact .nothing rfl (Reply.refused_ne_done _)
  · rename_i hstart
    rw [Flow.startNode?_isSome h, Bool.and_true, beq_iff_eq] at hstart
    split
    · rename_i hdata
      have hkind := (Definition.kind_of_newData hdata).trans hp
      exact .added rfl (hkind ▸ hstart) rfl
    · exact .nothing rfl (Reply.failed_ne_done _)
    · exact .nothing rfl (Reply.failed_ne_done _)

theorem adds_duplicateNode (offset : Float) (nextId : Nat) {id : Json} {n : Node}
    (hn : e.flow.node? id = some n) :
    e.Adds nextId (.str (Ids.tagged n.kind.word nextId)) (e.duplicateNode offset nextId id) := by
  unfold duplicateNode
  rw [hn]
  dsimp only
  split
  · exact .nothing rfl (Reply.refused_ne_done _)
  · rename_i hstart
    rw [beq_iff_eq] at hstart
    split
    · exact .added rfl hstart rfl
    · exact .nothing rfl (Reply.failed_ne_done _)

theorem changes_addNode (h : e.flow.Sound) {p : Palette} {k : NodeKind}
    (hp : (p.current k).kind = k) (room nextId : Nat) (position : Json)
    (hnew : .str (Ids.tagged k.word nextId) ∉ e.flow.ids) :
    e.flow.ChangesTo (e.addNode p room nextId k position).editor.flow :=
  (adds_addNode h hp room nextId position).changesTo (isText_str _) hnew

theorem changes_duplicateNode (offset : Float) (nextId : Nat) (id : Json)
    (hnew : ∀ n, e.flow.node? id = some n →
      .str (Ids.tagged n.kind.word nextId) ∉ e.flow.ids) :
    e.flow.ChangesTo (e.duplicateNode offset nextId id).editor.flow := by
  cases hn : e.flow.node? id with
  | none =>
    unfold duplicateNode
    rw [hn]
    exact .same
  | some n => exact (adds_duplicateNode offset nextId hn).changesTo (isText_str _) (hnew n hn)

theorem changes_updateData (h : e.flow.Sound) (room nextId : Nat) (id changes : Json) :
    e.flow.ChangesTo (e.updateData room nextId id changes).editor.flow := by
  unfold updateData
  split
  · exact .same
  · rename_i n hn
    obtain ⟨hn, hid⟩ := Flow.node?_spec h hn
    split
    · split
      · split <;> exact .same
      · rename_i data hdata
        have hchanges : e.flow.ChangesTo (e.flow.modifyNode id fun n => { n with data }) := by
          refine .modified (fun _ => rfl) ?_ (fun _ => rfl)
          intro m hm hmid
          rw [Flow.node_eq_of_id_eq h.ids_nodup hm hn (hmid.trans hid.symm)]
          exact NodeData.kind_of_ofJson hdata
        dsimp only
        split
        · split
          · exact hchanges
          · exact .draft hchanges
        · exact .draft hchanges
    · exact .same

/-- The edges that are left are told apart, so that all that touch the node go with it. -/
theorem changes_deleteNode (h : e.flow.Sound) (nextId : Nat) (id : Json) :
    e.flow.ChangesTo (e.deleteNode nextId id).editor.flow := by
  unfold deleteNode
  split
  · exact .same
  · rename_i n hn
    obtain ⟨hn, hid⟩ := Flow.node?_spec h hn
    split
    · exact .same
    · rename_i hstart
      rw [beq_iff_eq] at hstart
      have hkeys : (e.flow.dropNodes id).edges.all (·.id.isKey) = true :=
        List.all_eq_true.mpr fun x hx => (h.edge_ids_text x hx).isWord.isKey
      dsimp only
      rw [if_pos hkeys]
      refine .draft (.deleted ?_)
      intro m hm hmid
      rw [Flow.node_eq_of_id_eq h.ids_nodup hm hn (hmid.trans hid.symm)]
      exact hstart

theorem changes_moveNode (nextId : Nat) (id position : Json) :
    e.flow.ChangesTo (e.moveNode nextId id position).editor.flow := by
  unfold moveNode
  split
  · exact .same
  · split
    · exact .same
    · exact .modified (fun _ => rfl) (fun _ _ _ => rfl) (fun _ => rfl)

/-! ## Edges -/

theorem branchLabel_spec {handle : Option Handle} {taken : List Json} {l : String}
    (h : branchLabel handle taken = .ok l) :
    (l = "Yes" ∨ l = "No") ∧ (Json.str l).isIn taken = false := by
  unfold branchLabel at h
  dsimp only at h
  split at h
  · rename_i l' hbranch
    obtain ⟨x, -, hx⟩ := Option.bind_eq_some_iff.mp hbranch
    have hword : l' = "Yes" ∨ l' = "No" := by
      cases x <;> simp [Handle.branch?] at hx
      · exact Or.inl hx.symm
      · exact Or.inr hx.symm
    split at h
    · cases h
    · rename_i hfree
      cases h
      exact ⟨hword, by simpa using hfree⟩
  · rename_i l' _ hfree
    cases h
    have hword := List.mem_of_find?_eq_some hfree
    have hnot := List.find?_some hfree
    exact ⟨by simpa using hword, by simpa using hnot⟩
  · cases h

/-- An edge between two nodes of the flow may stand there if it passes the checks of the editor. -/
theorem admits_iff_checks {f : Flow} (h : f.Worded) (hids : f.ids.Nodup) {s t : Node}
    (hs : s ∈ f.nodes) (ht : t ∈ f.nodes) (id label : Json) :
    f.Admits ⟨id, s.id, t.id, label⟩ ↔
      ¬ s.id.same t.id = true ∧ ¬ (t.kind == .start) = true ∧ ¬ (s.kind == .finish) = true ∧
      ¬ (f.edges.any fun x => x.source.same s.id && x.target.same t.id) = true ∧
      (s.kind = .condition → (label = .str "Yes" ∨ label = .str "No") ∧
        label ∉ (f.outgoing s.id).map (·.label)) := by
  have hsource := (h.ids s hs).isWord
  have htarget := (h.ids t ht).isWord
  have hpair : (f.edges.any fun x => x.source.same s.id && x.target.same t.id) = true ↔
      (s.id, t.id) ∈ f.edges.map Edge.ends := by
    simp only [List.any_eq_true, Bool.and_eq_true, same_iff_of_right hsource,
      same_iff_of_right htarget, List.mem_map, Edge.ends, Prod.mk.injEq]
  rw [same_iff_of_left hsource, hpair, beq_iff_eq, beq_iff_eq]
  constructor
  · rintro ⟨hfits, hends, hbranch⟩
    exact ⟨hfits.no_loop, hfits.not_into_start t ht rfl, hfits.not_out_of_finish s hs rfl, hends,
      hbranch s hs rfl⟩
  · rintro ⟨hloop, hstart, hfinish, hends, hbranch⟩
    refine ⟨⟨?_, ?_, hloop, ?_, ?_⟩, hends, ?_⟩
    · exact Flow.mem_ids.mpr ⟨s, hs, rfl⟩
    · exact Flow.mem_ids.mpr ⟨t, ht, rfl⟩
    · intro n hn hid
      rw [Flow.node_eq_of_id_eq hids hn ht hid]
      exact hstart
    · intro n hn hid
      rw [Flow.node_eq_of_id_eq hids hn hs hid]
      exact hfinish
    · intro n hn hid
      rw [Flow.node_eq_of_id_eq hids hn hs hid]
      exact hbranch

/-- An edge between two nodes of the flow that passes the checks of an edit. -/
theorem welcomes_of_checks {f : Flow} (h : f.Sound) {id label : Json} {s t : Node}
    (hs : s ∈ f.nodes) (ht : t ∈ f.nodes) (hid : id.IsText) (hnew : id ∉ f.edges.map (·.id))
    (hloop : ¬ s.id.same t.id = true) (hstart : ¬ (t.kind == .start) = true)
    (hfinish : ¬ (s.kind == .finish) = true)
    (hpair : ¬ (f.edges.any fun x => x.source.same s.id && x.target.same t.id) = true)
    (hlabel : label.IsWord) (hbranch : s.kind = .condition →
      (label = .str "Yes" ∨ label = .str "No") ∧ label ∉ (f.outgoing s.id).map (·.label))
    (hplain : s.kind ≠ .condition → label = .null) : f.Welcomes ⟨id, s.id, t.id, label⟩ := by
  obtain ⟨hfits, hends, hbranch⟩ := (admits_iff_checks h.worded h.ids_nodup hs ht id label).mpr
    ⟨hloop, hstart, hfinish, hpair, hbranch⟩
  refine ⟨hid, hnew, hfits, hends, hlabel, hbranch, ?_⟩
  intro n hn heq hkind
  obtain rfl := Flow.node_eq_of_id_eq h.ids_nodup hn hs heq
  exact hplain hkind

/-- What an edit gives back that draws an edge: the editor as it was, or one edge more. -/
inductive Draws (e : Editor) (nextId : Nat) : Edited → Prop where
  | nothing {r : Edited} (heditor : r.editor = e) (hreply : ∀ p, r.reply ≠ .done p) :
      Draws e nextId r
  | drawn {x : Edge} (hid : x.id = .str (Ids.tagged "e" nextId))
      (hx : x.id ∉ e.flow.edges.map (·.id) → e.flow.Welcomes x) :
      Draws e nextId ⟨e.change (e.flow.addEdge x), nextId + 1, .done (.edge x)⟩

theorem Draws.changesTo {nextId : Nat} {r : Edited} (h : e.Draws nextId r)
    (hnew : .str (Ids.tagged "e" nextId) ∉ e.flow.edges.map (·.id)) :
    e.flow.ChangesTo r.editor.flow := by
  cases h with
  | nothing heditor _ =>
    rw [heditor]
    exact .same
  | drawn hid hx => exact .draft (.joined (hx (hid ▸ hnew)))

theorem draws_addEdge (h : e.flow.Sound) (nextId : Nat) (source target : Json)
    (handle : Option Handle) : e.Draws nextId (e.addEdge nextId source target handle) := by
  unfold addEdge
  split
  · exact .nothing rfl (Reply.refused_ne_done _)
  · exact .nothing rfl (Reply.refused_ne_done _)
  · rename_i s t hfound htfound
    obtain ⟨hs, rfl⟩ := Flow.node?_spec h hfound
    obtain ⟨ht, rfl⟩ := Flow.node?_spec h htfound
    split
    · exact .nothing rfl (Reply.refused_ne_done _)
    · split
      · exact .nothing rfl (Reply.refused_ne_done _)
      · split
        · exact .nothing rfl (Reply.refused_ne_done _)
        · split
          · exact .nothing rfl (Reply.refused_ne_done _)
          · rename_i hloop hstart hfinish hpair
            have hwelcome := fun (label : Json) (hlabel : label.IsWord) hbranch hplain hnew =>
              welcomes_of_checks h hs ht (isText_str (Ids.tagged "e" nextId)) hnew hloop hstart
                hfinish hpair hlabel hbranch hplain
            split
            · rename_i hcondition
              rw [beq_iff_eq] at hcondition
              dsimp only
              split
              · split
                · exact .nothing rfl (Reply.refused_ne_done _)
                · rename_i label hlabel
                  obtain ⟨hword, hfree⟩ := branchLabel_spec hlabel
                  refine .drawn rfl (hwelcome _ (isText_str _).isWord (fun _ => ⟨?_, ?_⟩)
                    fun hplain => absurd hcondition hplain)
                  · rcases hword with rfl | rfl
                    · exact Or.inl rfl
                    · exact Or.inr rfl
                  · exact not_mem_of_isIn (isText_str _).isWord hfree
              · exact .nothing rfl (Reply.failed_ne_done _)
            · rename_i hkind
              rw [beq_iff_eq] at hkind
              exact .drawn rfl (hwelcome .null (Or.inl rfl) (fun hs => absurd hs hkind)
                fun _ => rfl)

theorem changes_addEdge (h : e.flow.Sound) (nextId : Nat) (source target : Json)
    (handle : Option Handle) (hnew : .str (Ids.tagged "e" nextId) ∉ e.flow.edges.map (·.id)) :
    e.flow.ChangesTo (e.addEdge nextId source target handle).editor.flow :=
  (draws_addEdge h nextId source target handle).changesTo hnew

theorem changes_deleteEdge (h : e.flow.Sound) (nextId : Nat) (id : Json) :
    e.flow.ChangesTo (e.deleteEdge nextId id).editor.flow := by
  unfold deleteEdge
  split
  · exact .same
  · rename_i edge hedge
    exact .draft (.parted (Flow.edge?_spec h hedge).1)

/-! ## All edits -/

theorem changes_completeConnect (h : e.flow.Sound) (nextId : Nat) (target : Json)
    (hnew : .str (Ids.tagged "e" nextId) ∉ e.flow.edges.map (·.id)) :
    e.flow.ChangesTo (e.completeConnect nextId target).editor.flow := by
  unfold completeConnect
  split
  · exact changes_addEdge h nextId e.gesture.source target none hnew
  · exact .same

end Editor

/-- The id that the edit makes, if it makes one, is new to the flow. -/
def Edit.IsFresh (f : Flow) (nextId : Nat) : Edit → Prop
  | .addNode kind _ => .str (Ids.tagged kind.word nextId) ∉ f.ids
  | .duplicateNode id => ∀ n, f.node? id = some n → .str (Ids.tagged n.kind.word nextId) ∉ f.ids
  | .addEdge _ _ _ | .completeConnect _ => .str (Ids.tagged "e" nextId) ∉ f.edges.map (·.id)
  | _ => True

/-- An edit makes one change of the graph at most. -/
theorem Editor.changes_perform {e : Editor} (h : e.flow.Sound) {p : Palette}
    (hp : ∀ k, (p.current k).kind = k) (offset : Float) (room nextId : Nat) {edit : Edit}
    (hfresh : edit.IsFresh e.flow nextId) :
    e.flow.ChangesTo (e.perform p offset room nextId edit).editor.flow := by
  cases edit with
  | addNode kind position => exact changes_addNode h (hp kind) room nextId position hfresh
  | duplicateNode id => exact changes_duplicateNode offset nextId id hfresh
  | updateData id changes => exact changes_updateData h room nextId id changes
  | deleteNode id => exact changes_deleteNode h nextId id
  | moveNode id position => exact changes_moveNode nextId id position
  | addEdge source target handle => exact changes_addEdge h nextId source target handle hfresh
  | deleteEdge id => exact changes_deleteEdge h nextId id
  | startConnect id handle =>
    rw [perform, startConnect]
    split <;> exact .same
  | completeConnect target => exact changes_completeConnect h nextId target hfresh
  | cancelConnect => exact .same
  | selectNode id =>
    rw [perform, selectNode]
    split
    · exact .same
    · split <;> exact .same
  | clearSelection => exact .same

theorem Editor.sound_perform {e : Editor} (h : e.flow.Sound) {p : Palette}
    (hp : ∀ k, (p.current k).kind = k) (offset : Float) (room nextId : Nat) {edit : Edit}
    (hfresh : edit.IsFresh e.flow nextId) :
    (e.perform p offset room nextId edit).editor.flow.Sound :=
  (changes_perform h hp offset room nextId hfresh).sound h

/-! ## What an edit does -/

/-- What an edit makes of the flow. An edit that is cut short fails after it has changed a node. -/
inductive Edit.Does (p : Palette) (room : Nat) (e : Editor) (nextId : Nat) : Edit → Flow → Prop where
  | nothing (k : Edit) : Does p room e nextId k e.flow
  | added {kind : NodeKind} {given : Json} {data : NodeData} {position : Position}
      (hdata : (p.current kind).newData (room - 1) = .ok data) :
      Does p room e nextId (.addNode kind given)
        (e.flow.addNode ⟨.str (Ids.tagged kind.word nextId), data, position, []⟩).asDraft
  | doubled {id : Json} {n : Node} {position : Position} (hn : e.flow.node? id = some n) :
      Does p room e nextId (.duplicateNode id)
        (e.flow.addNode ⟨.str (Ids.tagged n.kind.word nextId), n.data, position, []⟩).asDraft
  | updated {id : Json} {changes : Fields} {n : Node} {data : NodeData}
      (hn : e.flow.node? id = some n)
      (hdata : NodeData.ofJson (room - 1) n.kind (.obj (Fields.merge n.data.fields changes))
        = .ok data) :
      Does p room e nextId (.updateData id (.obj changes))
        (e.flow.modifyNode id fun n => { n with data }).asDraft
  | updateCutShort {id : Json} {changes : Fields} {n : Node} {data : NodeData}
      (hn : e.flow.node? id = some n)
      (hdata : NodeData.ofJson (room - 1) n.kind (.obj (Fields.merge n.data.fields changes))
        = .ok data)
      (hselected : e.hasSelected id = true) (hroom : room < n.copyDepth + 1) :
      Does p room e nextId (.updateData id (.obj changes))
        (e.flow.modifyNode id fun n => { n with data })
  | deleted {id : Json} (hkeys : e.flow.edges.all (·.id.isKey) = true) :
      Does p room e nextId (.deleteNode id)
        (((e.flow.dropNodes id).dropEdgesAt id).forgetNode id).asDraft
  | deletionCutShort {id : Json} (hkeys : ¬ e.flow.edges.all (·.id.isKey) = true) :
      Does p room e nextId (.deleteNode id) (e.flow.dropNodes id)
  | moved (id given : Json) (position : Position) :
      Does p room e nextId (.moveNode id given)
        (e.flow.modifyNode id fun n => { n with position })
  | joined (k : Edit) (source target label : Json) :
      Does p room e nextId k
        (e.flow.addEdge ⟨.str (Ids.tagged "e" nextId), source, target, label⟩).asDraft
  | parted {id : Json} {x : Edge} (hx : e.flow.edge? id = some x) :
      Does p room e nextId (.deleteEdge id) (e.flow.dropEdge x).asDraft

namespace Editor

variable (p : Palette) (offset : Float) (room : Nat) (e : Editor) (nextId : Nat)

theorem does_updateData (id changes : Json) :
    Edit.Does p room e nextId (.updateData id changes)
      (e.updateData room nextId id changes).editor.flow := by
  unfold updateData
  split
  · exact .nothing _
  · rename_i n hn
    split
    · split
      · split <;> exact .nothing _
      · rename_i hdata
        dsimp only
        split
        · rename_i hselected
          split
          · rename_i hroom
            exact .updateCutShort hn hdata hselected hroom
          · exact .updated hn hdata
        · exact .updated hn hdata
    · exact .nothing _

theorem does_addEdge (k : Edit) (source target : Json) (handle : Option Handle) :
    Edit.Does p room e nextId k (e.addEdge nextId source target handle).editor.flow := by
  unfold addEdge
  dsimp only
  repeat' split
  all_goals first | exact .nothing _ | exact .joined _ _ _ _

theorem does_perform (k : Edit) :
    k.Does p room e nextId (e.perform p offset room nextId k).editor.flow := by
  cases k with
  | addNode kind position =>
    rw [perform, addNode]
    split
    · exact .nothing _
    · split
      · rename_i hdata
        exact .added hdata
      · exact .nothing _
      · exact .nothing _
  | duplicateNode id =>
    rw [perform, duplicateNode]
    split
    · exact .nothing _
    · rename_i hn
      split
      · exact .nothing _
      · split
        · exact .doubled hn
        · exact .nothing _
  | updateData id changes => exact does_updateData p room e nextId id changes
  | deleteNode id =>
    rw [perform, deleteNode]
    split
    · exact .nothing _
    · split
      · exact .nothing _
      · dsimp only
        split
        · rename_i hkeys
          exact .deleted hkeys
        · rename_i hkeys
          exact .deletionCutShort hkeys
  | moveNode id position =>
    rw [perform, moveNode]
    split
    · exact .nothing _
    · split
      · exact .nothing _
      · exact .moved id _ _
  | addEdge source target handle => exact does_addEdge p room e nextId _ source target handle
  | deleteEdge id =>
    rw [perform, deleteEdge]
    split
    · exact .nothing _
    · rename_i hx
      exact .parted hx
  | startConnect id handle =>
    rw [perform, startConnect]
    split <;> exact .nothing _
  | completeConnect target =>
    rw [perform, completeConnect]
    split
    · exact does_addEdge p room e nextId _ e.gesture.source target none
    · exact .nothing _
  | cancelConnect => exact .nothing _
  | selectNode id =>
    rw [perform, selectNode]
    split
    · exact .nothing _
    · split <;> exact .nothing _
  | clearSelection => exact .nothing _

end Editor

/-! ## Bounds -/

/-- All data of the flow is within its bounds. -/
def Flow.InBounds (f : Flow) : Prop := ∀ n ∈ f.nodes, n.data.InBounds

theorem mem_modifyFirst {α : Type} {test : α → Bool} {change : α → α} {xs : List α} {y : α}
    (h : y ∈ modifyFirst test change xs) : y ∈ xs ∨ ∃ x ∈ xs, y = change x := by
  induction xs with
  | nil => cases h
  | cons x rest ih =>
    rw [modifyFirst] at h
    split at h
    · rcases List.mem_cons.mp h with rfl | hy
      · exact Or.inr ⟨x, by simp, rfl⟩
      · exact Or.inl (List.mem_cons_of_mem x hy)
    · rcases List.mem_cons.mp h with rfl | hy
      · exact Or.inl (by simp)
      · rcases ih hy with hy | ⟨z, hz, rfl⟩
        · exact Or.inl (List.mem_cons_of_mem x hy)
        · exact Or.inr ⟨z, List.mem_cons_of_mem x hz, rfl⟩

theorem NodeData.inBounds_forget {d : NodeData} (h : d.InBounds) (id : Json) :
    (d.forget id).InBounds := by
  cases d <;> exact h

namespace Flow

variable {f : Flow}

theorem inBounds_addNode (h : f.InBounds) {n : Node} (hn : n.data.InBounds) :
    (f.addNode n).InBounds :=
  List.forall_mem_append.mpr ⟨h, by simpa using hn⟩

theorem inBounds_modifyNode (h : f.InBounds) (id : Json) {change : Node → Node}
    (hchange : ∀ n : Node, n.data.InBounds → (change n).data.InBounds) :
    (f.modifyNode id change).InBounds := by
  intro n hn
  rcases mem_modifyFirst hn with hn | ⟨m, hm, rfl⟩
  · exact h n hn
  · exact hchange m (h m hm)

theorem inBounds_dropNodes (h : f.InBounds) (id : Json) : (f.dropNodes id).InBounds :=
  fun n hn => h n (List.mem_of_mem_filter hn)

theorem inBounds_forgetNode (h : f.InBounds) (id : Json) : (f.forgetNode id).InBounds := by
  intro n hn
  obtain ⟨m, hm, rfl⟩ := List.mem_map.mp hn
  exact NodeData.inBounds_forget (h m hm) id

end Flow

theorem Edit.Does.inBounds {p : Palette} {room : Nat} {e : Editor} {nextId : Nat} {k : Edit}
    {f : Flow} (hdoes : k.Does p room e nextId f) (h : e.flow.InBounds) : f.InBounds := by
  cases hdoes with
  | nothing => exact h
  | added hdata => exact Flow.inBounds_addNode h (Definition.inBounds_of_newData hdata)
  | @doubled id n position hn =>
    have hdata : n.data.InBounds := h n (List.mem_of_find?_eq_some hn)
    exact Flow.inBounds_addNode h hdata
  | updated hn hdata =>
    exact Flow.inBounds_modifyNode h _ fun _ _ => NodeData.inBounds_of_ofJson hdata
  | updateCutShort hn hdata =>
    exact Flow.inBounds_modifyNode h _ fun _ _ => NodeData.inBounds_of_ofJson hdata
  | @deleted id hkeys =>
    have hdropped := Flow.inBounds_dropNodes h id
    exact Flow.inBounds_forgetNode (f := (e.flow.dropNodes id).dropEdgesAt id) hdropped id
  | deletionCutShort => exact Flow.inBounds_dropNodes h _
  | moved id => exact Flow.inBounds_modifyNode h id fun _ hn => hn
  | joined k source => exact Flow.inBounds_modifyNode h source fun _ hn => hn
  | @parted id x hx =>
    exact Flow.inBounds_modifyNode (f := { e.flow with edges := _ }) h x.source fun _ hn => hn

/-- No edit takes the data of a flow out of its bounds. -/
theorem Editor.inBounds_perform {e : Editor} (h : e.flow.InBounds) (p : Palette) (offset : Float)
    (room nextId : Nat) (edit : Edit) :
    (e.perform p offset room nextId edit).editor.flow.InBounds :=
  (e.does_perform p offset room nextId edit).inBounds h

end Dialogue
