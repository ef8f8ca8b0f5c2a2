-- The selection. The editor holds a copy of the selected node, which is to have the same data as the
-- node itself. Through any edits it does, until a node is deleted that the copy refers to: the selected
-- node forgets it then, and the copy does not. So references are all that the two ever differ in.
import Dialogue.Proofs.Frozen
import Dialogue.Proofs.Undo

namespace Dialogue

open Json

/-! ## Data that refers to a node -/

namespace NodeData

variable {d : NodeData} {id : Json}

/-- Whether the data refers to the node. -/
def refersTo (d : NodeData) (id : Json) : Bool :=
  d.targets.any fun t => (t.map Json.str).any (·.same id)

theorem refersTo_eq_false_iff :
    d.refersTo id = false ↔ ∀ t ∈ d.targets, t.map .str ≠ some id := by
  have hplace : ∀ t : Option String,
      ¬ (t.map Json.str).any (·.same id) = true ↔ t.map .str ≠ some id := by
    intro t
    cases t with
    | none => simp
    | some t => simp [same_iff_of_left (isText_str t).isWord]
  unfold refersTo
  rw [List.any_eq_false]
  exact forall₂_congr fun t _ => hplace t

/-- Data that refers to a node is other data once it has forgotten it. -/
theorem forget_eq_self_iff : d.forget id = d ↔ d.refersTo id = false := by
  rw [refersTo_eq_false_iff]
  constructor
  · intro hsame t ht
    rw [← hsame, targets_forget] at ht
    obtain ⟨u, -, rfl⟩ := List.mem_map.mp ht
    exact not_clearTarget_eq id u
  · exact forget_eq_self

/-- This is what is left of the other data when some nodes, one after the other, are forgotten. -/
def IsLeftOf (d d' : NodeData) : Prop := ∃ gone : List Json, gone.foldr forget d' = d

theorem isLeftOf_refl (d : NodeData) : d.IsLeftOf d := ⟨[], rfl⟩

theorem IsLeftOf.forget {d' : NodeData} (h : d.IsLeftOf d') (id : Json) :
    (d.forget id).IsLeftOf d' := by
  obtain ⟨gone, rfl⟩ := h
  exact ⟨id :: gone, rfl⟩

end NodeData

/-! ## What the nodes of a flow hold -/

namespace Flow

variable {f : Flow} {id : Json} {d : NodeData}

/-- The data of the nodes, each under the id of its node. -/
def holdings (f : Flow) : List (Json × NodeData) := f.nodes.map fun n => (n.id, n.data)

theorem mem_holdings : (id, d) ∈ f.holdings ↔ ∃ n ∈ f.nodes, n.id = id ∧ n.data = d := by
  unfold holdings
  simp only [List.mem_map, Prod.mk.injEq]

theorem mem_holdings_iff (h : f.Sound) :
    (id, d) ∈ f.holdings ↔ ∃ n, f.node? id = some n ∧ n.data = d := by
  rw [mem_holdings]
  constructor
  · rintro ⟨n, hn, rfl, hd⟩
    exact ⟨n, h.worded.node?_eq_some h.ids_nodup hn, hd⟩
  · rintro ⟨n, hn, hd⟩
    obtain ⟨hmem, hid⟩ := node?_spec h hn
    exact ⟨n, hmem, hid, hd⟩

/-- No id holds two things. -/
theorem Sound.holds_one (h : f.Sound) {d' : NodeData} (hd : (id, d) ∈ f.holdings)
    (hd' : (id, d') ∈ f.holdings) : d = d' := by
  obtain ⟨n, hn, hid, rfl⟩ := mem_holdings.mp hd
  obtain ⟨m, hm, hid', rfl⟩ := mem_holdings.mp hd'
  rw [node_eq_of_id_eq h.ids_nodup hn hm (hid.trans hid'.symm)]

theorem holdings_addNode (f : Flow) (n : Node) :
    (f.addNode n).holdings = f.holdings ++ [(n.id, n.data)] :=
  List.map_append

theorem holdings_addEdge (f : Flow) (x : Edge) : (f.addEdge x).holdings = f.holdings := by
  have hview : ∀ n : Node, (fun m : Node => (m.id, m.data))
      { n with connections := n.connections ++ [x.target] } = (n.id, n.data) := fun _ => rfl
  exact map_modifyFirst hview f.nodes

theorem holdings_dropEdge (f : Flow) (x : Edge) : (f.dropEdge x).holdings = f.holdings := by
  have hview : ∀ n : Node, (fun m : Node => (m.id, m.data))
      { n with connections := n.connections.eraseP (x.target.same ·) } = (n.id, n.data) :=
    fun _ => rfl
  exact map_modifyFirst hview f.nodes

theorem holdings_move (f : Flow) (id : Json) (position : Position) :
    (f.modifyNode id fun n => { n with position }).holdings = f.holdings := by
  have hview : ∀ n : Node, (fun m : Node => (m.id, m.data)) { n with position } = (n.id, n.data) :=
    fun _ => rfl
  exact map_modifyFirst hview f.nodes

/-- New data for a node is there for it, and for no other node. -/
theorem mem_holdings_setData (h : f.Sound) (hd : (id, d) ∈ f.holdings) (other : Json)
    (data : NodeData) : (id, if id.equals other then data else d) ∈
      (f.modifyNode other fun n => { n with data }).holdings := by
  obtain ⟨n, hn, rfl, rfl⟩ := mem_holdings.mp hd
  rw [modifyNode_eq_thinned h]
  refine mem_holdings.mpr ⟨_, mem_thinned.mpr ⟨n, hn, rfl, rfl⟩, ?_, ?_⟩ <;> split <;> rfl

/-- With a node go its data and what other data says of it. -/
theorem mem_holdings_without {gone : Json} : (id, d) ∈ (f.without gone).holdings ↔
    id.same gone = false ∧ ∃ d', (id, d') ∈ f.holdings ∧ d'.forget gone = d := by
  simp only [mem_holdings]
  constructor
  · rintro ⟨m, hm, rfl, rfl⟩
    obtain ⟨n, hn, rfl⟩ := List.mem_map.mp hm
    obtain ⟨hn, hother⟩ := List.mem_filter.mp hn
    rw [Bool.not_eq_true'] at hother
    exact ⟨hother, n.data, ⟨n, hn, rfl, rfl⟩, rfl⟩
  · rintro ⟨hother, d', ⟨n, hn, rfl, rfl⟩, rfl⟩
    have hkept : (!n.id.same gone) = true := by rw [hother, Bool.not_false]
    exact ⟨n.forget gone, List.mem_map_of_mem (List.mem_filter.mpr ⟨hn, hkept⟩), rfl, rfl⟩

end Flow

namespace Editor

variable {e e' : Editor} {nextId : Nat} {id : Json}

/-! ## Copies in step -/

variable {R : NodeData → NodeData → Prop}

/-- What is selected is there, and its data is so related to that of the copy. -/
def Shows (e : Editor) (R : NodeData → NodeData → Prop) : Prop :=
  ∀ m, e.selected = some m → ∃ n, e.flow.node? m.id = some n ∧ R n.data m.data

/-- What is selected is there, and the copy of it has its data. -/
def Mirrors (e : Editor) : Prop := e.Shows (· = ·)

theorem shows_iff (h : e.flow.Sound) :
    e.Shows R ↔ ∀ m, e.selected = some m → ∃ d, (m.id, d) ∈ e.flow.holdings ∧ R d m.data := by
  have hheld : ∀ m : Node, (∃ n, e.flow.node? m.id = some n ∧ R n.data m.data) ↔
      ∃ d, (m.id, d) ∈ e.flow.holdings ∧ R d m.data := by
    intro m
    simp only [Flow.mem_holdings_iff h]
    constructor
    · rintro ⟨n, hn, hdata⟩
      exact ⟨n.data, ⟨n, hn, rfl⟩, hdata⟩
    · rintro ⟨_, ⟨n, hn, rfl⟩, hdata⟩
      exact ⟨n, hn, hdata⟩
  exact forall₂_congr fun m _ => hheld m

/-- Whether the selected copy of another node refers to the node. -/
def leansOn (e : Editor) (id : Json) : Bool :=
  e.selected.any fun m => !m.id.same id && m.data.refersTo id

theorem leansOn_eq_false_iff : e.leansOn id = false ↔
    ∀ m, e.selected = some m → m.id.same id = false → m.data.refersTo id = false := by
  unfold leansOn
  cases e.selected with
  | none => simp
  | some m => simp

/-! ## Edits that touch neither the selection nor any data -/

/-- The same is selected, and every node has kept its data. -/
structure Follows (e e' : Editor) : Prop where
  selected : e'.selected = e.selected
  holdings : e.flow.holdings ⊆ e'.flow.holdings

theorem Follows.of_eq (hselected : e'.selected = e.selected)
    (hholdings : e'.flow.holdings = e.flow.holdings) : e.Follows e' :=
  ⟨hselected, hholdings ▸ List.Subset.refl _⟩

theorem Follows.refl (e : Editor) : e.Follows e := .of_eq rfl rfl

theorem Follows.shows (h : e.Follows e') (hsound : e.flow.Sound) (hsound' : e'.flow.Sound)
    (hs : e.Shows R) : e'.Shows R := by
  rw [shows_iff hsound] at hs
  rw [shows_iff hsound', h.selected]
  intro m hselected
  obtain ⟨d, hheld, hd⟩ := hs m hselected
  exact ⟨d, h.holdings hheld, hd⟩

theorem Adds.follows {id : Json} {r : Edited} (h : e.Adds nextId id r) : e.Follows r.editor := by
  cases h with
  | nothing heditor _ =>
    rw [heditor]
    exact .refl e
  | @added n _ _ _ =>
    refine ⟨rfl, ?_⟩
    change e.flow.holdings ⊆ (e.flow.addNode n).holdings
    rw [Flow.holdings_addNode]
    exact List.subset_append_left _ _

theorem Draws.follows {r : Edited} (h : e.Draws nextId r) : e.Follows r.editor := by
  cases h with
  | nothing heditor _ =>
    rw [heditor]
    exact .refl e
  | @drawn x _ _ => exact .of_eq rfl (Flow.holdings_addEdge e.flow x)

theorem follows_duplicateNode (offset : Float) (id : Json) :
    e.Follows (e.duplicateNode offset nextId id).editor := by
  cases hn : e.flow.node? id with
  | none =>
    unfold duplicateNode
    rw [hn]
    exact .refl e
  | some n => exact (adds_duplicateNode offset nextId hn).follows

theorem follows_moveNode (id position : Json) : e.Follows (e.moveNode nextId id position).editor := by
  unfold moveNode
  split
  · exact .refl e
  · split
    · exact .refl e
    · exact .of_eq rfl (Flow.holdings_move e.flow id _)

theorem follows_deleteEdge (id : Json) : e.Follows (e.deleteEdge nextId id).editor := by
  unfold deleteEdge
  split
  · exact .refl e
  · rename_i x _
    exact .of_eq rfl (Flow.holdings_dropEdge e.flow x)

theorem follows_startConnect (id : Json) (handle : Handle) :
    e.Follows (e.startConnect nextId id handle).editor := by
  unfold startConnect
  split <;> exact .of_eq rfl rfl

theorem follows_completeConnect (h : e.flow.Sound) (target : Json) :
    e.Follows (e.completeConnect nextId target).editor := by
  unfold completeConnect
  split
  · have hdrawn := (draws_addEdge h nextId e.gesture.source target none).follows
    exact ⟨hdrawn.selected, hdrawn.holdings⟩
  · exact .refl e

/-! ## Edits of the selection and of data -/

theorem shows_selectNode (hs : e.Shows R) (hR : ∀ d, R d d) (h : e.flow.Sound) (room : Nat)
    (id : Json) : (e.selectNode room nextId id).editor.Shows R := by
  unfold selectNode
  split
  · exact hs
  · rename_i n hn
    split
    · exact hs
    · rintro _ ⟨⟩
      obtain ⟨-, rfl⟩ := Flow.node?_spec h hn
      exact ⟨n, hn, hR n.data⟩

/-- The copy is made anew just where the node is the selected one. -/
theorem shows_updateData (hs : e.Shows R) (hR : ∀ d, R d d) (h : e.flow.Sound) {room : Nat}
    {id changes : Json} (hroom : e.HasRoom room (.updateData id changes)) :
    (e.updateData room nextId id changes).editor.Shows R := by
  unfold updateData
  split
  · exact hs
  · rename_i n hn
    obtain ⟨hmem, rfl⟩ := Flow.node?_spec h hn
    have hword := (h.ids_text n hmem).isWord
    split
    · split
      · split <;> exact hs
      · rename_i data hdata
        have hset : (e.flow.modifyNode n.id fun m => { m with data }).Sound := by
          refine Flow.sound_modifyNode h n.id (fun _ => rfl) (fun m hm hid => ?_) (fun _ => rfl)
          rw [Flow.node_eq_of_id_eq h.ids_nodup hm hmem hid]
          exact NodeData.kind_of_ofJson hdata
        have hsound : (e.flow.modifyNode n.id fun m => { m with data }).asDraft.Sound :=
          hset.congr rfl rfl
        dsimp only
        split
        · rename_i hselected
          split
          · rename_i hshort
            exact absurd hshort (Nat.not_lt.mpr (hroom hselected n hn))
          · rw [shows_iff hsound]
            rintro _ ⟨⟩
            have hheld : (n.id, n.data) ∈ e.flow.holdings := Flow.mem_holdings.mpr ⟨n, hmem, rfl, rfl⟩
            have hset := Flow.mem_holdings_setData h hheld n.id data
            rw [if_pos ((equals_iff_of_left hword).mpr rfl)] at hset
            exact ⟨data, hset, hR data⟩
        · rename_i hother
          rw [shows_iff hsound]
          intro m hselected
          change e.selected = some m at hselected
          obtain ⟨d, hheld, hd⟩ := (shows_iff h).mp hs m hselected
          have hne : ¬ m.id.equals n.id = true := by
            unfold hasSelected at hother
            rwa [hselected, Option.any_some, same_iff_of_right hword,
              ← equals_iff_of_right hword] at hother
          have hset := Flow.mem_holdings_setData h hheld n.id data
          rw [if_neg hne] at hset
          exact ⟨d, hset, hd⟩
    · exact hs

/-! ## Deletions -/

/-- A start node stays, as does what is not there. Any other node is taken out, with all references
to it. -/
theorem editor_deleteNode (h : e.flow.Sound) (nextId : Nat) (id : Json) :
    (e.deleteNode nextId id).editor =
      if (e.flow.node? id).all (·.kind == .start) then e else e.without id := by
  have hkeys : (e.flow.dropNodes id).edges.all (·.id.isKey) = true :=
    List.all_eq_true.mpr fun x hx => (h.edge_ids_text x hx).isWord.isKey
  unfold deleteNode
  cases hn : e.flow.node? id with
  | none => rfl
  | some n =>
    dsimp only
    rw [Option.all_some]
    cases hkind : n.kind == .start with
    | true => rfl
    | false =>
      rw [if_neg Bool.false_ne_true, if_neg Bool.false_ne_true, if_pos hkeys]
      rfl

theorem selected_without (e : Editor) (id : Json) :
    (e.without id).selected = e.selected.filter fun m => !m.id.same id := by
  unfold without hasSelected
  cases e.selected with
  | none => rfl
  | some m => cases hsame : m.id.same id <;> simp [Option.filter, hsame]

/-- Without a node, the data of another one is shown with the node forgotten. -/
theorem shows_without_iff (hsound : (e.without id).flow.Sound) :
    (e.without id).Shows R ↔ ∀ m, e.selected = some m → m.id.same id = false →
      ∃ d, (m.id, d) ∈ e.flow.holdings ∧ R (d.forget id) m.data := by
  have hforgets : ∀ m : Node, m.id.same id = false →
      ((∃ d, (m.id, d) ∈ (e.flow.without id).holdings ∧ R d m.data) ↔
        ∃ d, (m.id, d) ∈ e.flow.holdings ∧ R (d.forget id) m.data) := by
    intro m hother
    simp only [Flow.mem_holdings_without, and_iff_right hother]
    constructor
    · rintro ⟨_, ⟨d, hheld, rfl⟩, hd⟩
      exact ⟨d, hheld, hd⟩
    · rintro ⟨d, hheld, hd⟩
      exact ⟨d.forget id, ⟨d, hheld, rfl⟩, hd⟩
  rw [shows_iff hsound, selected_without]
  simp only [Option.filter_eq_some_iff, Bool.not_eq_true', and_imp]
  exact forall_congr' fun m => forall₂_congr fun _ hother => hforgets m hother

/-- Without a node, the copy is in step just if it does not refer to the node. -/
theorem mirrors_without_iff (hm : e.Mirrors) (h : e.flow.Sound)
    (hsound : (e.without id).flow.Sound) : (e.without id).Mirrors ↔ e.leansOn id = false := by
  have hholds : ∀ m, e.selected = some m →
      ((∃ d, (m.id, d) ∈ e.flow.holdings ∧ d.forget id = m.data) ↔
        m.data.refersTo id = false) := by
    intro m hselected
    obtain ⟨_, hheld, rfl⟩ := (shows_iff h).mp hm m hselected
    rw [← NodeData.forget_eq_self_iff]
    constructor
    · rintro ⟨d, hd, hforget⟩
      rwa [h.holds_one hd hheld] at hforget
    · exact fun hforget => ⟨_, hheld, hforget⟩
  unfold Mirrors
  rw [shows_without_iff hsound, leansOn_eq_false_iff]
  exact forall₂_congr fun m hselected => forall_congr' fun _ => hholds m hselected

/-! ## All edits -/

/-- Whether the edit takes no node away that the copy of another one refers to. A start node stays
anyway. -/
def spares (e : Editor) : Edit → Bool
  | .deleteNode id => !e.leansOn id || (e.flow.node? id).all (·.kind == .start)
  | _ => true

variable {p : Palette} {offset : Float} {room : Nat} {k : Edit}

/-- What one edit keeps, if deletions keep it. -/
theorem shows_perform (hs : e.Shows R) (hR : ∀ d, R d d) (h : e.flow.Sound)
    (hp : ∀ k, (p.current k).kind = k) (hfresh : k.IsFresh e.flow nextId) (hroom : e.HasRoom room k)
    (hdelete : ∀ id, k = .deleteNode id → (e.deleteNode nextId id).editor.Shows R) :
    (e.perform p offset room nextId k).editor.Shows R := by
  have hsound := sound_perform h hp offset room nextId hfresh
  cases k with
  | addNode kind position =>
    exact (adds_addNode h (hp kind) room nextId position).follows.shows h hsound hs
  | duplicateNode id => exact (follows_duplicateNode offset id).shows h hsound hs
  | updateData id changes => exact shows_updateData hs hR h hroom
  | deleteNode id => exact hdelete id rfl
  | moveNode id position => exact (follows_moveNode id position).shows h hsound hs
  | addEdge source target handle =>
    exact (draws_addEdge h nextId source target handle).follows.shows h hsound hs
  | deleteEdge id => exact (follows_deleteEdge id).shows h hsound hs
  | startConnect id handle => exact (follows_startConnect id handle).shows h hsound hs
  | completeConnect target => exact (follows_completeConnect h target).shows h hsound hs
  | cancelConnect => exact hs
  | selectNode id => exact shows_selectNode hs hR h room id
  | clearSelection => rintro m ⟨⟩

/-- The copy may keep what its node forgets, but no more. -/
theorem shows_isLeftOf_perform (hs : e.Shows NodeData.IsLeftOf) (h : e.flow.Sound)
    (hp : ∀ k, (p.current k).kind = k) (hfresh : k.IsFresh e.flow nextId) (hroom : e.HasRoom room k) :
    (e.perform p offset room nextId k).editor.Shows NodeData.IsLeftOf := by
  have hsound := sound_perform h hp offset room nextId hfresh
  refine shows_perform hs NodeData.isLeftOf_refl h hp hfresh hroom ?_
  rintro id rfl
  rw [perform, editor_deleteNode h] at hsound
  rw [editor_deleteNode h]
  split
  · exact hs
  · rename_i hgone
    rw [if_neg hgone] at hsound
    rw [shows_without_iff hsound]
    intro m hselected _
    obtain ⟨d, hheld, hd⟩ := (shows_iff h).mp hs m hselected
    exact ⟨d, hheld, hd.forget id⟩

/-- An edit keeps the copy in step just if it takes away no node that the copy refers to. -/
theorem mirrors_perform_iff (hm : e.Mirrors) (h : e.flow.Sound) (hp : ∀ k, (p.current k).kind = k)
    (hfresh : k.IsFresh e.flow nextId) (hroom : e.HasRoom room k) :
    (e.perform p offset room nextId k).editor.Mirrors ↔ e.spares k = true := by
  have hsound := sound_perform h hp offset room nextId hfresh
  by_cases hdeletes : ∃ id, k = .deleteNode id
  · obtain ⟨id, rfl⟩ := hdeletes
    have hspares : e.spares (.deleteNode id) =
        (!e.leansOn id || (e.flow.node? id).all (·.kind == .start)) := rfl
    rw [perform, editor_deleteNode h] at hsound ⊢
    rw [hspares]
    split
    · rename_i hstays
      rw [hstays, Bool.or_true]
      exact iff_of_true hm rfl
    · rename_i hgone
      rw [if_neg hgone] at hsound
      rw [mirrors_without_iff hm h hsound, Bool.eq_false_iff.mpr hgone, Bool.or_false,
        Bool.not_eq_true']
  · have hspares : e.spares k = true := by
      cases k with
      | deleteNode id => exact absurd ⟨id, rfl⟩ hdeletes
      | _ => rfl
    refine iff_of_true (shows_perform hm (fun _ => rfl) h hp hfresh hroom ?_) hspares
    exact fun id hk => absurd ⟨id, hk⟩ hdeletes

end Editor

/-! ## The law -/

/-- The editor after an edit that is made with the number of the next id. -/
def Editor.after (s : Setup) (e : Editor) (nextId : Nat) (k : Edit) : Editor :=
  (e.perform s.palette s.settings.canvas.duplicateOffset s.room.steps nextId k).editor

/-- An editor at work on a flow that was made here, by edits that may be made where they are. -/
inductive Editor.AtWork (s : Setup) (May : Editor → Edit → Prop) : Editor → Prop where
  | opened {f : Flow} (hf : Homegrown s f) : AtWork s May { flow := f }
  | edited {e : Editor} {nextId : Nat} {k : Edit} (h : AtWork s May e)
      (hfresh : k.IsFresh e.flow nextId) (hmay : May e k) : AtWork s May (e.after s nextId k)

namespace Editor.AtWork

variable {s : Setup} {May May' : Editor → Edit → Prop} {e : Editor}

theorem homegrown (h : AtWork s May e) : Homegrown s e.flow := by
  induction h with
  | opened hf => exact hf
  | edited _ hfresh _ ih => exact ih.edited rfl hfresh

theorem mono (hmay : ∀ e k, May e k → May' e k) (h : AtWork s May e) : AtWork s May' e := by
  induction h with
  | opened hf => exact .opened hf
  | edited _ hfresh hk ih => exact ih.edited hfresh (hmay _ _ hk)

end Editor.AtWork

namespace Setup

/-- An edit that finds room for a copy. -/
def Roomy (s : Setup) (e : Editor) (k : Edit) : Prop := e.HasRoom s.room.steps k

instance (s : Setup) (e : Editor) (k : Edit) : Decidable (s.Roomy e k) :=
  inferInstanceAs (Decidable (e.HasRoom s.room.steps k))

/-- An edit that finds room for a copy and takes no node away that the copy of another one refers
to. -/
def Careful (s : Setup) (e : Editor) (k : Edit) : Prop := s.Roomy e k ∧ e.spares k = true

end Setup

/-- The copy of the selected node has all the data of the node, but it may keep references that the node
has forgotten. It keeps none as long as all edits are careful. If it keeps none, it is so after an edit
just if the edit is careful. -/
theorem the_selection_mirrors_its_node_until_one_is_deleted_that_it_leans_on {s : Setup}
    (definitions : List Definition) (hs : s.palette = definitions.foldl Palette.register .standard)
    {e : Editor} (h : Editor.AtWork s s.Roomy e) :
    e.Shows NodeData.IsLeftOf ∧ (Editor.AtWork s s.Careful e → e.Mirrors) ∧
      ∀ (nextId : Nat) (k : Edit), k.IsFresh e.flow nextId → s.Roomy e k → e.Mirrors →
        ((e.after s nextId k).Mirrors ↔ e.spares k = true) := by
  have hp : ∀ k, (s.palette.current k).kind = k := hs ▸ Palette.current_kind definitions
  refine ⟨?_, ?_, fun nextId k hfresh hroom hm => ?_⟩
  · induction h with
    | opened hf => rintro m ⟨⟩
    | edited h hfresh hroom ih =>
      exact Editor.shows_isLeftOf_perform ih (h.homegrown.sound hp) hp hfresh hroom
  · clear h
    intro h
    induction h with
    | opened hf => rintro m ⟨⟩
    | edited h hfresh hcareful ih =>
      exact (Editor.mirrors_perform_iff ih (h.homegrown.sound hp) hp hfresh hcareful.1).mpr hcareful.2
  · exact Editor.mirrors_perform_iff hm (h.homegrown.sound hp) hp hfresh hroom

/-! ## A condition that leans on an end -/

namespace Editor

theorem isWide_usual : 100 ≤ 1000 := by decide

def usual : Setup := ⟨{}, .standard, ⟨1000, isWide_usual⟩⟩

def ask : Json := .str "condition-00000003"

def bye : Json := .str "end-00000004"

/-- To a new flow a condition, an end and a message are added. The condition is selected, and the end is
made its way on. Then the message is deleted. -/
def leaning : Editor :=
  let made := ({} : Workspace).createFlow usual 0 (.str "Greeting") (.str "") (.str "")
  let answer : Json := .obj [("yes_connection", bye)]
  let blank : Editor := { flow := made.2.toOption.get (by decide +kernel) }
  let drawn := ((blank.after usual 3 (.addNode .condition origin)).after usual 4
    (.addNode .finish origin)).after usual 5 (.addNode .message origin)
  ((drawn.after usual 6 (.selectNode ask)).after usual 6 (.updateData ask answer)).after usual 6
    (.deleteNode (.str "message-00000005"))

theorem leaning_atWork : AtWork usual usual.Careful leaning := by
  have hnew : ∀ {t : String} {xs : List Json}, (Json.str t).isIn xs = false → .str t ∉ xs :=
    not_mem_of_isIn (isText_str _).isWord
  unfold leaning
  extract_lets made answer blank drawn
  have hmade : made = (made.1, .ok blank.flow) := rfl
  have hdrawn : AtWork usual usual.Careful drawn := by
    refine .edited (.edited (.edited (.opened (.created hmade)) ?_ ?_) ?_ ?_) ?_ ?_
    all_goals first
      | exact hnew (by decide +kernel)
      | exact ⟨trivial, rfl⟩
  refine .edited (.edited (.edited hdrawn trivial ?_) trivial ?_) trivial ?_
  · exact ⟨trivial, rfl⟩
  · exact ⟨by decide +kernel, rfl⟩
  · exact ⟨trivial, by decide +kernel⟩

theorem the_selection_follows_until_the_end_is_deleted :
    AtWork usual usual.Roomy leaning ∧ AtWork usual usual.Careful leaning ∧
      leaning.selected.map (·.id.same ask) = some true ∧ leaning.spares (.deleteNode bye) = false ∧
      leaning.Mirrors ∧ ¬ (leaning.after usual 6 (.deleteNode bye)).Mirrors ∧
      (leaning.after usual 6 (.deleteNode bye)).Shows NodeData.IsLeftOf := by
  have hatWork : AtWork usual usual.Roomy leaning := leaning_atWork.mono fun _ _ hk => hk.1
  have hends : leaning.spares (.deleteNode bye) = false := by decide +kernel
  have hdeleted : AtWork usual usual.Roomy (leaning.after usual 6 (.deleteNode bye)) :=
    hatWork.edited trivial trivial
  obtain ⟨-, hmirrors, hafter⟩ :=
    the_selection_mirrors_its_node_until_one_is_deleted_that_it_leans_on [] rfl hatWork
  obtain ⟨hshows, -, -⟩ :=
    the_selection_mirrors_its_node_until_one_is_deleted_that_it_leans_on [] rfl hdeleted
  have hm : leaning.Mirrors := hmirrors leaning_atWork
  refine ⟨hatWork, leaning_atWork, by decide +kernel, hends, hm, ?_, hshows⟩
  rw [hafter 6 (.deleteNode bye) trivial trivial hm, hends]
  exact Bool.false_ne_true

/-- The end goes, and with it the way on of the condition, but not that of its copy. -/
theorem the_selection_keeps_a_reference_to_a_deleted_end :
    let e := leaning.after usual 6 (.deleteNode bye)
    AtWork usual (fun _ _ => True) e ∧
      e.selected.map (·.data.targets) = some [some "end-00000004", none] ∧
      (e.flow.node? ask).map (·.data.targets) = some [none, none] ∧ ¬ e.Mirrors := by
  intro e
  have hatWork : AtWork usual (fun _ _ => True) leaning := leaning_atWork.mono fun _ _ _ => trivial
  refine ⟨hatWork.edited trivial trivial, by decide +kernel, by decide +kernel, fun hmirrors => ?_⟩
  let m := e.selected.get (by decide +kernel)
  obtain ⟨n, hn, hdata⟩ := hmirrors m (Option.some_get _).symm
  have hdiffer : (e.flow.node? m.id).map (·.data) ≠ some m.data := by decide +kernel
  rw [hn, ← hdata] at hdiffer
  exact hdiffer rfl

end Editor

end Dialogue
