-- Drawing a connection. A connection that is drawn from one node to another is the edge that is added
-- between the two, to the last word of the reply. And it is drawn from a node of the flow: with the
-- node goes the connection, unless the deletion breaks off half-way.
import Dialogue.Proofs.Frozen

namespace Dialogue

open Json

/-! ## Drawing and adding -/

namespace Editor

variable {e : Editor} {nextId : Nat} {source : Json} {handle : Handle}

/-- Of the connection that is being drawn, an edge takes the handle and nothing else. -/
theorem addEdge_drawing {g : Gesture} {asked given : Option Handle}
    (h : asked.or (g.handleFor? source) = given.or (e.gesture.handleFor? source)) (nextId : Nat)
    (target : Json) :
    let r := e.addEdge nextId source target given
    { e with gesture := g }.addEdge nextId source target asked =
      { r with editor := { r.editor with gesture := g } } := by
  unfold addEdge
  dsimp only
  rw [h]
  repeat' split
  all_goals rfl

theorem completeConnect_startConnect (hn : (e.flow.node? source).isSome = true)
    (hkey : source.isKey = true) (hnull : source ≠ .null) (nextId : Nat) (target : Json)
    (handle : Handle) :
    let started := e.startConnect nextId source handle
    let added := e.addEdge nextId source target (some handle)
    started.reply = .done .nothing ∧ started.editor.completeConnect started.nextId target =
      { added with editor := added.editor.cancelConnect } := by
  obtain ⟨n, hn⟩ := Option.isSome_iff_exists.mp hn
  have hstarted : e.startConnect nextId source handle =
      ⟨{ e with gesture := ⟨source, handle⟩ }, nextId, .done .nothing⟩ := by
    unfold startConnect
    rw [hn]
  have hdrawing : Gesture.isDrawing ⟨source, handle⟩ = true :=
    (not_same_iff_of_right (.inl rfl)).mpr hnull
  have hhandle : Gesture.handleFor? ⟨source, handle⟩ source = some handle :=
    if_pos (same_self hkey)
  rw [hstarted]
  refine ⟨rfl, ?_⟩
  unfold completeConnect
  rw [if_pos hdrawing]
  dsimp only
  have hsame : none.or (Gesture.handleFor? ⟨source, handle⟩ source) =
      (some handle).or (e.gesture.handleFor? source) := by
    rw [hhandle]
    rfl
  rw [addEdge_drawing hsame]
  rfl

end Editor

/-! ## The nodes that an edit leaves -/

namespace Json

variable {a b c : Json}

theorem isKey_of_same (ha : a.isKey = true) (h : a.same b = true) : b.isKey = true := by
  rcases isWord_or_number ha with hword | ⟨m, hm⟩
  · exact (same_iff_of_left hword).mp h ▸ ha
  · obtain ⟨n, hn, -⟩ := (same_numbers_iff hm).mp h
    cases b <;> first | rfl | cases hn

/-- What is the same as a key is the same as whatever is. -/
theorem same_iff_of_same (ha : a.isKey = true) (hab : a.same b = true) :
    a.same c = true ↔ b.same c = true :=
  ⟨fun hac => same_trans (isKey_of_same ha hab) (same_symm ha hab) hac, same_trans ha hab⟩

theorem same_of_equals (h : a.equals b = true) : a.same b = true := by
  by_contra hne
  rw [not_equals_of_not_same (by simpa using hne)] at h
  cases h

end Json

namespace Flow

/-- The nodes can be looked up by their ids. -/
def HasNodeKeys (f : Flow) : Prop := ∀ id ∈ f.ids, id.isKey = true

theorem ids_dropNodes (f : Flow) (id : Json) :
    (f.dropNodes id).ids = f.ids.filter fun x => !x.same id := by
  unfold ids dropNodes
  rw [List.filter_map]
  rfl

theorem ids_forgetNode (f : Flow) (id : Json) : (f.forgetNode id).ids = f.ids := List.map_map

theorem node?_isSome_iff {f : Flow} {id : Json} :
    (f.node? id).isSome = true ↔ ∃ x ∈ f.ids, x.equals id = true := by
  unfold node? ids
  rw [List.find?_isSome]
  simp

end Flow

/-- An edit adds one node at most, and takes out those alone that it is to delete. -/
theorem Edit.Does.ids {p : Palette} {room nextId : Nat} {e : Editor} {k : Edit} {f : Flow}
    (h : k.Does p room e nextId f) :
    f.ids = e.flow.ids ∨ (∃ s, f.ids = e.flow.ids ++ [.str s]) ∨
      ∃ id, k = .deleteNode id ∧ f.ids = e.flow.ids.filter fun x => !x.same id := by
  cases h with
  | nothing => exact .inl rfl
  | added | doubled => exact .inr (.inl ⟨_, List.map_append⟩)
  | updated | updateCutShort | moved | parted =>
    refine .inl (Flow.map_modifyFirst ?_ e.flow.nodes)
    exact fun _ => rfl
  | joined => exact .inl (Flow.ids_addEdge ..)
  | deletionCutShort => exact .inr (.inr ⟨_, rfl, e.flow.ids_dropNodes _⟩)
  | @deleted id =>
    exact .inr (.inr ⟨id, rfl, (Flow.ids_forgetNode _ id).trans (e.flow.ids_dropNodes id)⟩)

theorem Edit.Does.hasNodeKeys {p : Palette} {room nextId : Nat} {e : Editor} {k : Edit} {f : Flow}
    (h : k.Does p room e nextId f) (hkeys : e.flow.HasNodeKeys) : f.HasNodeKeys := by
  unfold Flow.HasNodeKeys
  rcases h.ids with hids | ⟨s, hids⟩ | ⟨id, -, hids⟩ <;> rw [hids]
  · exact hkeys
  · intro x hx
    rcases List.mem_append.mp hx with hold | hnew
    · exact hkeys x hold
    · rw [List.mem_singleton.mp hnew]
      rfl
  · exact fun x hx => hkeys x (List.mem_filter.mp hx).1

/-! ## The source of a drawn connection -/

/-- An edit that has nothing to do with the connection that is being drawn. -/
def Edit.sparesDrawing : Edit → Bool
  | .deleteNode _ | .startConnect _ _ | .completeConnect _ | .cancelConnect => false
  | _ => true

namespace Editor

variable {e e' : Editor} {k : Edit} {p : Palette} {offset : Float} {room nextId : Nat}

/-- If a connection is being drawn, it is drawn from a node of the flow. -/
def HoldsDrawing (e : Editor) : Prop :=
  e.gesture.isDrawing = true → (e.flow.node? e.gesture.source).isSome = true

/-- The edit takes the node out that a connection is drawn from, and breaks off before it gives the
connection up. -/
def Strands (e : Editor) : Edit → Bool
  | .deleteNode id => e.gesture.isDrawing && e.gesture.source.same id &&
      (e.flow.node? id).any (·.kind != .start) && !e.flow.edges.all (·.id.isKey)
  | _ => false

theorem HoldsDrawing.congr (h : e.HoldsDrawing) (hgesture : e'.gesture = e.gesture)
    (hids : ∀ x ∈ e.flow.ids, x ∈ e'.flow.ids) : e'.HoldsDrawing := by
  unfold HoldsDrawing
  rw [hgesture, Flow.node?_isSome_iff]
  intro hdrawing
  obtain ⟨x, hx, hfound⟩ := Flow.node?_isSome_iff.mp (h hdrawing)
  exact ⟨x, hids x hx, hfound⟩

theorem holdsDrawing_of_idle (h : e.gesture.isDrawing = false) : e.HoldsDrawing := by
  intro hdrawing
  rw [h] at hdrawing
  cases hdrawing

theorem gesture_perform (hk : k.sparesDrawing = true) :
    (e.perform p offset room nextId k).editor.gesture = e.gesture := by
  cases k with
  | deleteNode | startConnect | completeConnect | cancelConnect => cases hk
  | clearSelection => rfl
  | addNode kind position =>
    rw [perform, addNode]
    repeat' split
    all_goals rfl
  | duplicateNode id =>
    rw [perform, duplicateNode]
    repeat' split
    all_goals rfl
  | updateData id changes =>
    rw [perform, updateData]
    dsimp only
    repeat' split
    all_goals rfl
  | moveNode id position =>
    rw [perform, moveNode]
    repeat' split
    all_goals rfl
  | addEdge source target handle =>
    rw [perform, addEdge]
    dsimp only
    repeat' split
    all_goals rfl
  | deleteEdge id =>
    rw [perform, deleteEdge]
    split <;> rfl
  | selectNode id =>
    rw [perform, selectNode]
    repeat' split
    all_goals rfl

theorem strands_eq_false (hk : k.sparesDrawing = true) : e.Strands k = false := by
  cases k <;> first | rfl | cases hk

/-- A connection from another node than those that go is still drawn from a node. -/
theorem HoldsDrawing.without {id : Json} (h : e.HoldsDrawing) (hkeys : e.flow.HasNodeKeys)
    (hother : e.gesture.source.same id = false) (hgesture : e'.gesture = e.gesture)
    (hids : e'.flow.ids = e.flow.ids.filter fun x => !x.same id) : e'.HoldsDrawing := by
  unfold HoldsDrawing
  rw [hgesture, Flow.node?_isSome_iff, hids]
  intro hdrawing
  obtain ⟨x, hx, hfound⟩ := Flow.node?_isSome_iff.mp (h hdrawing)
  refine ⟨x, List.mem_filter.mpr ⟨hx, ?_⟩, hfound⟩
  rw [Bool.not_eq_true', ← Bool.not_eq_true, same_iff_of_same (hkeys x hx) (same_of_equals hfound),
    hother]
  exact Bool.false_ne_true

/-- With the node goes the connection that was drawn from it, if that is still there. -/
theorem not_holdsDrawing_of_dropped {id : Json} (hkeys : e.flow.HasNodeKeys)
    (hdrawing : e.gesture.isDrawing = true) (hsame : e.gesture.source.same id = true)
    (hgesture : e'.gesture = e.gesture)
    (hids : e'.flow.ids = e.flow.ids.filter fun x => !x.same id) : ¬ e'.HoldsDrawing := by
  unfold HoldsDrawing
  rw [hgesture, Flow.node?_isSome_iff, hids]
  intro h
  obtain ⟨x, hx, hfound⟩ := h hdrawing
  obtain ⟨hx, hkept⟩ := List.mem_filter.mp hx
  have hgone := (same_iff_of_same (hkeys x hx) (same_of_equals hfound)).mpr hsame
  simp [hgone] at hkept

theorem strands_deleteNode_iff {id : Json} : e.Strands (.deleteNode id) = true ↔
    e.gesture.isDrawing = true ∧ e.gesture.source.same id = true ∧
      (∃ n, e.flow.node? id = some n ∧ n.kind ≠ .start) ∧
        ¬ e.flow.edges.all (·.id.isKey) = true := by
  unfold Strands
  rw [Bool.and_eq_true, Bool.and_eq_true, Bool.and_eq_true, and_assoc, and_assoc]
  cases e.flow.node? id <;> simp

/-- What a deletion leaves of the nodes and of the connection that is being drawn. It breaks off at an
edge that cannot be looked up, when the node is out and the connection is not given up yet. -/
inductive Deletes (e : Editor) (id : Json) : Editor → Prop
  | refused (hnone : ¬ ∃ n, e.flow.node? id = some n ∧ n.kind ≠ .start) : Deletes e id e
  | done {e' : Editor} (hedges : e.flow.edges.all (·.id.isKey) = true)
      (hids : e'.flow.ids = e.flow.ids.filter fun x => !x.same id)
      (hgesture : e'.gesture = if e.gesture.source.same id then {} else e.gesture) : Deletes e id e'
  | breaksOff {e' : Editor} (hn : ∃ n, e.flow.node? id = some n ∧ n.kind ≠ .start)
      (hedges : ¬ e.flow.edges.all (·.id.isKey) = true)
      (hids : e'.flow.ids = e.flow.ids.filter fun x => !x.same id)
      (hgesture : e'.gesture = e.gesture) : Deletes e id e'

theorem deletes_deleteNode (e : Editor) (nextId : Nat) (id : Json) :
    e.Deletes id (e.deleteNode nextId id).editor := by
  unfold deleteNode
  cases hn : e.flow.node? id with
  | none =>
    refine .refused ?_
    simp [hn]
  | some n =>
    dsimp only
    by_cases hstart : n.kind = .start
    · rw [if_pos (beq_iff_eq.mpr hstart)]
      refine .refused ?_
      simp [hn, hstart]
    · rw [if_neg (by simpa using hstart)]
      have hids := e.flow.ids_dropNodes id
      split
      · rename_i hedges
        exact .done hedges ((Flow.ids_forgetNode _ id).trans hids) rfl
      · rename_i hedges
        exact .breaksOff ⟨n, hn, hstart⟩ hedges hids rfl

theorem holdsDrawing_deleteNode (h : e.HoldsDrawing) (hkeys : e.flow.HasNodeKeys) (nextId : Nat)
    (id : Json) :
    (e.deleteNode nextId id).editor.HoldsDrawing ↔ e.Strands (.deleteNode id) = false := by
  rw [← Bool.not_eq_true, strands_deleteNode_iff]
  have hdeletes := e.deletes_deleteNode nextId id
  generalize (e.deleteNode nextId id).editor = e' at hdeletes
  cases hdeletes with
  | refused hnone => exact iff_of_true h fun hstrands => hnone hstrands.2.2.1
  | done hedges hids hgesture =>
    refine iff_of_true ?_ fun hstrands => hstrands.2.2.2 hedges
    by_cases hsame : e.gesture.source.same id = true
    · rw [if_pos hsame] at hgesture
      refine holdsDrawing_of_idle ?_
      rw [hgesture]
      rfl
    · rw [if_neg hsame] at hgesture
      exact h.without hkeys (by simpa using hsame) hgesture hids
  | breaksOff hn hedges hids hgesture =>
    by_cases hdrawing : e.gesture.isDrawing = true
    · by_cases hsame : e.gesture.source.same id = true
      · have hlost := not_holdsDrawing_of_dropped hkeys hdrawing hsame hgesture hids
        exact iff_of_false hlost (not_not_intro ⟨hdrawing, hsame, hn, hedges⟩)
      · have hheld := h.without hkeys (by simpa using hsame) hgesture hids
        exact iff_of_true hheld fun hstrands => hsame hstrands.2.1
    · have hidle : e'.HoldsDrawing := holdsDrawing_of_idle (by simpa [hgesture] using hdrawing)
      exact iff_of_true hidle fun hstrands => hdrawing hstrands.1

/-- An edit leaves the source of the connection in the flow, unless it breaks off behind its deletion. -/
theorem holdsDrawing_perform (h : e.HoldsDrawing) (hkeys : e.flow.HasNodeKeys) :
    (e.perform p offset room nextId k).editor.HoldsDrawing ↔ e.Strands k = false := by
  by_cases hk : k.sparesDrawing = true
  · have hids : ∀ x ∈ e.flow.ids, x ∈ (e.perform p offset room nextId k).editor.flow.ids := by
      intro x hx
      rcases (e.does_perform p offset room nextId k).ids with hids | ⟨s, hids⟩ | ⟨id, rfl, -⟩
      · exact hids ▸ hx
      · exact hids ▸ List.mem_append_left _ hx
      · cases hk
    exact iff_of_true (h.congr (gesture_perform hk) hids) (strands_eq_false hk)
  · cases k with
    | deleteNode id => exact holdsDrawing_deleteNode h hkeys nextId id
    | startConnect id handle =>
      refine iff_of_true ?_ rfl
      rw [perform, startConnect]
      split
      · exact h
      · rename_i n hn
        exact fun _ => Option.isSome_iff_exists.mpr ⟨n, hn⟩
    | completeConnect target =>
      refine iff_of_true (holdsDrawing_of_idle ?_) rfl
      rw [perform, completeConnect]
      split
      · rfl
      · rename_i hidle
        exact Bool.eq_false_iff.mpr hidle
    | cancelConnect => exact iff_of_true (holdsDrawing_of_idle rfl) rfl
    | _ => exact absurd rfl hk

end Editor

/-! ## Everywhere in a workspace -/

theorem Flow.HasNodeKeys.congr {f g : Flow} (h : f.HasNodeKeys) (hgraph : SameGraph f g) :
    g.HasNodeKeys := by
  unfold HasNodeKeys ids
  rw [hgraph.nodes]
  exact h

/-- An import asks for ids that can be looked up. -/
theorem Workspace.hasNodeKeys_of_checkImport {w : Workspace} {s : Setup} {now : Int} {data : Json}
    {f : Flow} (h : w.checkImport s now data = .ok f) : f.HasNodeKeys := by
  obtain ⟨-, -, r, hr, -⟩ := checkImport_spec h
  unfold Flow.validate Flow.issues keysOnly at hr
  by_cases hkeys : f.ids.all (·.isKey) = true
  · exact List.all_eq_true.mp hkeys
  · rw [if_neg hkeys] at hr
    cases hr

theorem DeskWork.Makes.sameGraph {s : Setup} {w : Workspace} {now : Int} {k : DeskWork} {f g : Flow}
    (h : k.Makes s w now f g) : SameGraph f g := by
  cases h <;> exact ⟨rfl, rfl⟩

/-- The nodes of all flows that are stored, open or kept can be looked up. -/
structure Store.KeysNodes (s : Store) (desk : Option Desk) : Prop where
  stored : ∀ f ∈ s.flows, f.HasNodeKeys
  opened : ∀ d, desk = some d → d.flow.HasNodeKeys
  kept : ∀ d f, desk = some d → d.kept? = some f → f.HasNodeKeys

namespace Store.KeysNodes

variable {s s' : Store} {desk : Option Desk} {d : Desk} {f g : Flow} {id : Json}

theorem put (h : s.KeysNodes desk) (hf : f.HasNodeKeys) : (s.put f).KeysNodes desk where
  stored g hg := by
    rcases eq_or_mem_of_mem_place hg with rfl | hg
    · exact hf
    · exact h.stored g hg
  opened := h.opened
  kept := h.kept

theorem unlinked (h : s.KeysNodes desk) (id : Json) : s.KeysNodes (desk.map (Desk.unlinked id)) where
  stored := h.stored
  opened d hd := by
    obtain ⟨d₀, hd₀, rfl⟩ := Option.map_eq_some_iff.mp hd
    exact h.opened d₀ hd₀
  kept d g hd hg := by
    obtain ⟨⟨editor, linked, keeping⟩, hd₀, rfl⟩ := Option.map_eq_some_iff.mp hd
    cases keeping with
    | nothing => cases hg
    | own b => exact h.kept _ g hd₀ hg
    | earlier x l b => exact h.kept _ g hd₀ hg

theorem erase (h : s.KeysNodes desk) (id : Json) (keep : Desk → Bool) :
    (s.erase id).KeysNodes (desk.filter keep) where
  stored f hf := h.stored f (List.mem_filter.mp hf).1
  opened d hd := h.opened d (Option.filter_eq_some_iff.mp hd).1
  kept d f hd := h.kept d f (Option.filter_eq_some_iff.mp hd).1

theorem ofDesk (hstored : ∀ f ∈ s.flows, f.HasNodeKeys) (hopened : d.flow.HasNodeKeys)
    (hkept : ∀ f, d.kept? = some f → f.HasNodeKeys) : s.KeysNodes (some d) where
  stored := hstored
  opened d' hd' := by
    cases hd'
    exact hopened
  kept d' f hd' := by
    cases hd'
    exact hkept f

theorem opening (h : s.KeysNodes desk) (hf : f ∈ s.flows) : s.KeysNodes (some (Desk.opened f)) := by
  refine ofDesk h.stored (h.stored f hf) fun g hg => ?_
  cases hg
  exact h.stored f hf

/-- What is kept beside the flow that comes on the desk was on the desk before. -/
theorem halfOpening (h : s.KeysNodes desk) (hf : f ∈ s.flows) :
    s.KeysNodes (some (Desk.halfOpened desk f)) := by
  refine ofDesk h.stored (h.stored f hf) fun g hg => ?_
  cases desk with
  | none => cases hg
  | some d =>
    obtain ⟨editor, linked, keeping⟩ := d
    have hbeside : ∀ (c : Bool) (x : Flow) (l : Bool) (b : Json), x.HasNodeKeys →
        Desk.kept? ⟨{ flow := f }, true, if c then .own b else .earlier x l b⟩ = some g →
          g.HasNodeKeys := by
      intro c x l b hx hg
      cases c with
      | true =>
        cases hg
        exact h.stored f hf
      | false =>
        cases hg
        exact hx
    cases keeping with
    | nothing => cases hg
    | own b => exact hbeside _ _ _ _ (h.opened _ rfl) hg
    | earlier x l b => exact hbeside _ _ _ _ (h.kept _ x rfl rfl) hg

theorem withEditor (h : s.KeysNodes (some d)) {e : Editor} (he : e.flow.HasNodeKeys) :
    s.KeysNodes (some { d with editor := e }) := by
  refine ofDesk h.stored he fun g hg => ?_
  obtain ⟨editor, linked, keeping⟩ := d
  cases keeping with
  | nothing => cases hg
  | own b =>
    cases hg
    exact he
  | earlier x l b => exact h.kept _ g rfl hg

theorem withDesk {d' : Desk} (h : s.KeysNodes (some d)) (hd : d.SameGraphs d') :
    s.KeysNodes (some d') := by
  refine ofDesk h.stored ((h.opened d rfl).congr hd.flow) fun f' hf' => ?_
  obtain ⟨f, hf, hgraph⟩ := hd.kept f' hf'
  exact (h.kept d f rfl hf).congr hgraph

end Store.KeysNodes

namespace Workspace

variable {w : Workspace} {f : Flow}

abbrev KeysNodes (w : Workspace) : Prop := w.store.KeysNodes w.desk

theorem KeysNodes.shelve (h : w.KeysNodes) (hf : f.HasNodeKeys) : (w.shelve f).KeysNodes :=
  (h.put hf).unlinked f.id

theorem KeysNodes.createFlow (h : w.KeysNodes) (s : Setup) (now : Int)
    (name description category : Json) :
    (w.createFlow s now name description category).1.KeysNodes := by
  unfold Workspace.createFlow
  split
  · exact h
  · exact h
  · refine h.shelve fun id hid => ?_
    rw [List.mem_singleton.mp hid]
    rfl

theorem KeysNodes.importFlow (h : w.KeysNodes) (s : Setup) (now : Int) (data : Json) :
    (w.importFlow s now data).1.KeysNodes := by
  unfold Workspace.importFlow
  split
  · rename_i hcheck
    exact h.shelve (hasNodeKeys_of_checkImport hcheck)
  · exact h

theorem KeysNodes.duplicateFlow (h : w.KeysNodes) (s : Setup) (now : Int) (id name : Json) :
    (w.duplicateFlow s now id name).1.KeysNodes := by
  unfold Workspace.duplicateFlow
  split
  · exact h
  · exact h
  · rename_i hfind _
    dsimp only
    split
    · exact h
    · exact h.shelve ((h.stored _ (mem_of_find hfind).1).congr ⟨rfl, rfl⟩)

/-- What is made of the flow that is kept has its nodes, on the desk and in the store. -/
theorem KeysNodes.made (h : w.KeysNodes) {s : Setup} {now : Int} {k : DeskWork} {d : Desk}
    {f g : Flow} (hd : w.desk = some d) (hf : d.kept? = some f) (hg : k.Makes s w now f g) :
    w.store.KeysNodes (some (d.withKept g)) ∧ g.HasNodeKeys := by
  have hdesk : w.store.KeysNodes (some d) := hd ▸ h
  exact ⟨hdesk.withDesk (Desk.sameGraphs_withKept hf hg.sameGraph),
    (h.kept d f hd hf).congr hg.sameGraph⟩

theorem KeysNodes.does (h : w.KeysNodes) {s : Setup} {now : Int} {k : DeskWork} {store : Store}
    {desk : Option Desk} (hdoes : (Act.work k).Does s w now store desk) : store.KeysNodes desk := by
  cases hdoes with
  | nothing => exact h
  | @edited d hd e after hafter =>
    have hkeys : after.flow.HasNodeKeys := by
      rw [hafter]
      exact (d.editor.does_perform _ _ _ _ e).hasNodeKeys (h.opened d hd)
    have hdesk : w.store.KeysNodes (some { d with editor := after }) :=
      Store.KeysNodes.withEditor (hd ▸ h) hkeys
    split
    · exact hdesk.put hkeys
    · exact hdesk
  | filed hd hf hg =>
    obtain ⟨hdesk, hkeys⟩ := h.made hd hf hg
    exact (hdesk.withDesk (Desk.sameGraphs_relinked (.refl _))).put hkeys
  | settled hd hf hg =>
    obtain ⟨hdesk, hkeys⟩ := h.made hd hf hg
    exact (hdesk.withDesk (Desk.sameGraphs_settled (Desk.sameGraphs_relinked (.refl _)))).put hkeys
  | relabelled hd hf hg =>
    obtain ⟨hdesk, hkeys⟩ := h.made hd hf hg
    split
    · exact hdesk.put hkeys
    · exact hdesk

theorem KeysNodes.act (h : w.KeysNodes) (s : Setup) (now : Int) (a : Act) :
    (w.act s now a).KeysNodes := by
  cases a with
  | create name description category => exact h.createFlow s now name description category
  | bring data => exact h.importFlow s now data
  | duplicate id name => exact h.duplicateFlow s now id name
  | delete id =>
    change (w.deleteFlow id).1.KeysNodes
    unfold deleteFlow
    split
    · exact h
    · exact (h.erase id _).unlinked id
  | select id =>
    change (w.openFlow s.room.steps id).1.KeysNodes
    unfold openFlow
    split
    · rename_i hfind
      split
      · exact h.halfOpening (mem_of_find hfind).1
      · exact h.opening (mem_of_find hfind).1
    · exact h
  | work k => exact h.does (w.ends_act s now (.work k))

/-! ## The law -/

/-- A connection that is being drawn on the desk is drawn from a node of the flow there. -/
def HoldsDrawing (w : Workspace) : Prop := ∀ d, w.desk = some d → d.editor.HoldsDrawing

/-- The step is an edit that takes out the node that a connection is drawn from, and breaks off before
it gives the connection up. -/
def Strands (w : Workspace) (step : Step) : Bool :=
  match step.act with
  | .work (.edit k) => w.desk.any (·.editor.Strands k)
  | _ => false

theorem holdsDrawing_withKept {d : Desk} {f g : Flow} (h : d.editor.HoldsDrawing)
    (hf : d.kept? = some f) (hg : SameGraph f g) : (d.withKept g).editor.HoldsDrawing := by
  have hnodes := (Desk.sameGraphs_withKept hf hg).flow.nodes
  refine h.congr ?_ fun x hx => ?_
  · obtain ⟨editor, linked, keeping⟩ := d
    cases keeping <;> rfl
  · unfold Flow.ids at hx ⊢
    exact (congrArg (List.map (·.id)) hnodes) ▸ hx

theorem HoldsDrawing.does (h : w.HoldsDrawing) {s : Setup} {now : Int} {a : Act} {store : Store}
    {desk : Option Desk} (hdoes : a.Does s w now store desk) (ha : ∀ k, a ≠ .work (.edit k)) :
    ∀ d, desk = some d → d.editor.HoldsDrawing := by
  have hrelinked : ∀ d : Desk, d.relinked.editor = d.editor := by
    rintro ⟨editor, linked, keeping⟩
    cases keeping <;> rfl
  have hsettled : ∀ d : Desk, d.settled.editor = d.editor := by
    rintro ⟨editor, linked, keeping⟩
    cases keeping <;> rfl
  intro d hd
  cases hdoes with
  | nothing => exact h d hd
  | created | brought | copied =>
    obtain ⟨d₀, hd₀, rfl⟩ := Option.map_eq_some_iff.mp hd
    exact h d₀ hd₀
  | deleted =>
    obtain ⟨d₀, hd₀, rfl⟩ := Option.map_eq_some_iff.mp hd
    exact h d₀ (Option.filter_eq_some_iff.mp hd₀).1
  | opened | halfOpened =>
    cases hd
    exact Editor.holdsDrawing_of_idle rfl
  | edited _ e => exact absurd rfl (ha e)
  | filed hdesk hf hg =>
    cases hd
    rw [hrelinked]
    exact holdsDrawing_withKept (h _ hdesk) hf hg.sameGraph
  | settled hdesk hf hg =>
    cases hd
    rw [hsettled, hrelinked]
    exact holdsDrawing_withKept (h _ hdesk) hf hg.sameGraph
  | relabelled hdesk hf hg =>
    cases hd
    exact holdsDrawing_withKept (h _ hdesk) hf hg.sameGraph

/-- One step leaves the source of a connection in the flow, or strands the connection. -/
theorem holdsDrawing_after (h : w.HoldsDrawing) (hkeys : w.KeysNodes) (step : Step) :
    (w.after step).HoldsDrawing ↔ w.Strands step = false := by
  obtain ⟨s, now, a⟩ := step
  by_cases ha : ∃ k, a = .work (.edit k)
  · obtain ⟨k, rfl⟩ := ha
    have hafter : (w.after ⟨s, now, .work (.edit k)⟩) = (w.edit s k).1 := rfl
    unfold HoldsDrawing
    rw [hafter]
    cases hd : w.desk with
    | none =>
      have hstays : (w.edit s k).1 = w := by
        unfold edit onDesk
        rw [hd]
      rw [hstays, hd]
      exact iff_of_true (fun _ hnone => nomatch hnone) (by simp [Strands, hd])
    | some d =>
      rw [desk_edit hd]
      simp only [Option.some.injEq, forall_eq', Strands, hd, Option.any_some]
      exact Editor.holdsDrawing_perform (h d hd) (hkeys.opened d hd)
  · have hother : ∀ k, a ≠ .work (.edit k) := fun k hk => ha ⟨k, hk⟩
    refine iff_of_true (h.does (w.ends_act s now a) hother) ?_
    unfold Strands
    dsimp only
    split
    · exact absurd rfl (hother _)
    · rfl

theorem KeysNodes.empty : ({} : Workspace).KeysNodes where
  stored _ hf := nomatch hf
  opened _ hd := nomatch hd
  kept _ _ hd := nomatch hd

theorem KeysNodes.afterAll (h : w.KeysNodes) (steps : List Step) : (w.afterAll steps).KeysNodes := by
  induction steps generalizing w with
  | nil => exact h
  | cons step rest ih => exact ih (h.act step.setup step.now step.act)

theorem HoldsDrawing.afterAll (h : w.HoldsDrawing) (hkeys : w.KeysNodes) {steps : List Step}
    (hsteps : w.Throughout (fun w step => w.Strands step = false) steps) :
    (w.afterAll steps).HoldsDrawing := by
  induction steps generalizing w with
  | nil => exact h
  | cons step rest ih =>
    exact ih ((holdsDrawing_after h hkeys step).mpr hsteps.1)
      (hkeys.act step.setup step.now step.act) hsteps.2

end Workspace

/-- To draw a connection from a node to another is to add the edge between them, with the same reply,
and to draw no longer. The source must be an id that can be looked up, and not null, as that stands for
no source. And whatever is done in a workspace, a connection is drawn from a node of the flow, until
that node is deleted from a flow with an edge that cannot be looked up. -/
theorem to_draw_a_connection_is_to_add_an_edge (e : Editor) (nextId : Nat) (source target : Json)
    (handle : Handle) (steps : List Step) (step : Step) :
    ((e.flow.node? source).isSome = true → source.isKey = true → source ≠ .null →
      let started := e.startConnect nextId source handle
      let drawn := started.editor.completeConnect started.nextId target
      let added := e.addEdge nextId source target (some handle)
      started.reply = .done .nothing ∧ drawn.reply = added.reply ∧ drawn.nextId = added.nextId ∧
        drawn.editor = { added.editor with gesture := {} } ∧
        drawn.editor.gesture.isDrawing = false) ∧
    (({} : Workspace).Throughout (fun w step => w.Strands step = false) steps →
      (({} : Workspace).afterAll steps).HoldsDrawing) ∧
    ((({} : Workspace).afterAll steps).HoldsDrawing →
      (((({} : Workspace).afterAll steps).after step).HoldsDrawing ↔
        (({} : Workspace).afterAll steps).Strands step = false)) := by
  refine ⟨fun hn hkey hnull => ?_, fun hsteps => ?_, fun h => ?_⟩
  · obtain ⟨hstarted, hdrawn⟩ :=
      Editor.completeConnect_startConnect hn hkey hnull nextId target handle
    refine ⟨hstarted, ?_⟩
    dsimp only at hdrawn ⊢
    rw [hdrawn]
    exact ⟨rfl, rfl, rfl, rfl⟩
  · have hempty : ({} : Workspace).HoldsDrawing := fun d hd => nomatch hd
    exact hempty.afterAll .empty hsteps
  · exact Workspace.holdsDrawing_after h (.afterAll .empty steps) step

/-- From the start node of a new flow a connection is drawn to a message, past the deletion of another
message. -/
theorem a_connection_is_drawn_in_a_greeting :
    let s : Setup := ⟨{}, .standard, ⟨990, by decide⟩⟩
    let start : Json := .str "start-00000001"
    let note : Json := .str "message-00000003"
    let edit (e : Edit) : Step := ⟨s, 0, .work (.edit e)⟩
    let steps := [⟨s, 0, .create (.str "Greeting") (.str "") (.str "")⟩,
      ⟨s, 0, .select (.str (Ids.full 2))⟩, edit (.addNode .message origin),
      edit (.addNode .message origin), edit (.startConnect start .default),
      edit (.deleteNode (.str "message-00000004"))]
    let w := ({} : Workspace).afterAll steps
    ({} : Workspace).Throughout (fun w step => w.Strands step = false) steps ∧ w.HoldsDrawing ∧
      (w.after (edit (.deleteNode note))).HoldsDrawing ∧
      ∃ d, w.desk = some d ∧ d.editor.gesture.isDrawing = true ∧
        (d.editor.flow.node? start).isSome = true ∧ start.isKey = true ∧ start ≠ .null ∧
        let started := d.editor.startConnect 5 start .yes
        let drawn := started.editor.completeConnect started.nextId note
        let added := d.editor.addEdge 5 start note (some .yes)
        drawn.reply = added.reply ∧ drawn.editor = { added.editor with gesture := {} } ∧
          added.editor.flow.edges.length = 1 := by
  intro s start note edit steps w
  have hsteps : ({} : Workspace).Throughout (fun w step => w.Strands step = false) steps := by
    decide +kernel
  obtain ⟨d, hd, hdrawing, hstart, hadded⟩ : ∃ d, w.desk = some d ∧
      d.editor.gesture.isDrawing = true ∧ (d.editor.flow.node? start).isSome = true ∧
      (d.editor.addEdge 5 start note (some .yes)).editor.flow.edges.length = 1 :=
    ⟨w.desk.get (by decide +kernel), (Option.some_get _).symm, by decide +kernel,
      by decide +kernel, by decide +kernel⟩
  obtain ⟨hsame, hrun, hstep⟩ := to_draw_a_connection_is_to_add_an_edge d.editor 5 start note .yes
    steps (edit (.deleteNode note))
  have hheld : w.HoldsDrawing := hrun hsteps
  have hafter : (w.after (edit (.deleteNode note))).HoldsDrawing :=
    (hstep hheld).mpr (by decide +kernel)
  have hnull : start ≠ .null := by simp [start]
  obtain ⟨-, hreply, -, heditor, -⟩ := hsame hstart rfl hnull
  exact ⟨hsteps, hheld, hafter, d, hd, hdrawing, hstart, rfl, hnull, hreply, heditor, hadded⟩

/-- Where a deletion breaks off, the connection is left without its source. -/
theorem a_connection_is_left_without_its_source :
    let s : Setup := ⟨{}, .standard, ⟨990, by decide⟩⟩
    let note : Json := .str "note"
    let edit (e : Edit) : Step := ⟨s, 0, .work (.edit e)⟩
    let w := ({} : Workspace).afterAll [⟨s, 0, .bring Workspace.keyless⟩,
      ⟨s, 0, .select (.str "keyless")⟩, edit (.startConnect note .default), edit (.deleteNode note)]
    ¬ w.HoldsDrawing ∧ ∃ d, w.desk = some d ∧ d.editor.gesture.isDrawing = true ∧
      d.editor.flow.node? d.editor.gesture.source = none := by
  intro s note edit w
  obtain ⟨d, hd, hdrawing, hgone⟩ : ∃ d, w.desk = some d ∧ d.editor.gesture.isDrawing = true ∧
      (d.editor.flow.node? d.editor.gesture.source).isSome = false :=
    ⟨w.desk.get (by decide +kernel), (Option.some_get _).symm, by decide +kernel,
      by decide +kernel⟩
  refine ⟨fun h => ?_, d, hd, hdrawing, by simpa using hgone⟩
  have hheld := h d hd hdrawing
  rw [hgone] at hheld
  cases hheld

end Dialogue
