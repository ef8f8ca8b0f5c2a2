-- What can be done after an import. An import asks for no texts in names, descriptions and labels and
-- for no numbers in positions, and later work needs them there. What the service can still do is told
-- by the flow that was let in alone.
import Dialogue.Proofs.Imported
import Dialogue.Proofs.Labels
import Dialogue.Proofs.Upkeep

namespace Dialogue

open Json

/-! ## Lists of flows -/

/-- A flow in whose name and description a text can be looked for. -/
structure Flow.IsSearchable (f : Flow) : Prop where
  name : f.name.IsText
  description : f.description.IsText

namespace Store

/-- However the flows are narrowed, with a text to search for or none, they can be listed. -/
def IsListable (s : Store) : Prop := ∀ q : Filter, q.search.IsWord → ∃ fs, s.list q = .ok fs

theorem length_le_lowerFrom (before cs : List Char) :
    cs.length ≤ (Text.lowerFrom before cs).length := by
  have hone : ∀ before c after, 0 < (Text.lowerAt before c after).length := by
    intro before c after
    unfold Text.lowerAt
    repeat' split
    all_goals exact Nat.succ_pos _
  induction cs generalizing before with
  | nil => exact Nat.le_refl 0
  | cons c rest ih =>
    have hc := hone before c rest
    have hrest := ih (c :: before)
    rw [Text.lowerFrom, List.length_append, List.length_cons]
    omega

theorem length_le_of_occursIn {part cs : List Char} (h : Text.occursIn part cs = true) :
    part.length ≤ cs.length := by
  induction cs with
  | nil => simpa [Text.occursIn] using h
  | cons c rest ih =>
    rw [Text.occursIn, Bool.or_eq_true] at h
    rcases h with hfront | hrest
    · exact (List.isPrefixOf_iff_prefix.mp hfront).length_le
    · exact Nat.le_succ_of_le (ih hrest)

/-- A text that is longer than another does not stand in it in any letter case. -/
theorem not_contains_of_longer {s term : String}
    (h : (Text.lower s).toList.length < term.toList.length) :
    Text.contains (Text.lower s) (Text.lower term) = false := by
  rw [← Bool.not_eq_true]
  intro hin
  have hlonger := length_le_of_occursIn hin
  have hterm := length_le_lowerFrom [] term.toList
  rw [Text.lower, String.toList_ofList] at hlonger
  omega

theorem exists_filterAll_iff {test : Flow → Outcome Bool} {fs : List Flow} :
    (∃ gs, filterAll test fs = .ok gs) ↔ ∀ f ∈ fs, ∃ keep, test f = .ok keep := by
  induction fs with
  | nil => simp [filterAll]
  | cons f rest ih =>
    rw [List.forall_mem_cons, ← ih, filterAll]
    cases test f with
    | error fault => simp [bind, Except.bind]
    | ok keep =>
      cases filterAll test rest with
      | error fault => simp [bind, Except.bind]
      | ok gs => simp [bind, Except.bind, pure, Except.pure]

theorem exists_mentions_iff {j : Json} {lowered : String} :
    (∃ b, mentions j lowered = .ok b) ↔ j.IsText := by
  constructor
  · rintro ⟨b, hb⟩
    cases j with
    | str s => exact isText_str s
    | _ => cases hb
  · rintro ⟨s, rfl⟩
    exact ⟨_, rfl⟩

theorem exists_found {f : Flow} (h : f.IsSearchable) (lowered : String) :
    ∃ b, found lowered f = .ok b := by
  obtain ⟨b, hb⟩ := exists_mentions_iff.mpr h.name
  unfold found
  rw [hb]
  cases b with
  | true => exact ⟨true, rfl⟩
  | false => exact exists_mentions_iff.mpr h.description

/-- A search that can be made for every text needs texts to look in. -/
theorem isSearchable_of_found {f : Flow}
    (h : ∀ term : String, term ≠ "" → ∃ b, found (Text.lower term) f = .ok b) :
    f.IsSearchable := by
  have hname : f.name.IsText := by
    obtain ⟨b, hb⟩ := h "a" (by decide)
    unfold found at hb
    cases hmentions : mentions f.name (Text.lower "a") with
    | error fault =>
      rw [hmentions] at hb
      cases hb
    | ok b => exact exists_mentions_iff.mp ⟨b, hmentions⟩
  refine ⟨hname, ?_⟩
  obtain ⟨name, hs⟩ := hname
  -- What is longer than the name is not found in it, so the description is looked at.
  let term := String.ofList (List.replicate ((Text.lower name).toList.length + 1) 'a')
  have hlonger : (Text.lower name).toList.length < term.toList.length := by
    simp [term]
  have hne : term ≠ "" := by
    intro hempty
    rw [hempty] at hlonger
    exact Nat.not_lt_zero _ hlonger
  obtain ⟨b, hb⟩ := h term hne
  unfold found mentions at hb
  rw [hs] at hb
  simp only [not_contains_of_longer hlonger, bind, Except.bind, Bool.false_eq_true, if_false] at hb
  exact exists_mentions_iff.mp ⟨b, hb⟩

/-- All lists can be made exactly when all stored flows can be searched. -/
theorem isListable_iff {s : Store} : s.IsListable ↔ ∀ f ∈ s.flows, f.IsSearchable := by
  constructor
  · intro h f hf
    refine isSearchable_of_found fun term hterm => ?_
    obtain ⟨fs, hfs⟩ := h { search := .str term } (isText_str term).isWord
    have hpresent : (Json.str term).isPresent = true := by simpa [isPresent] using hterm
    have hall : s.flows.filter (fits { search := .str term }) = s.flows := by
      rw [List.filter_eq_self]
      exact fun g _ => rfl
    unfold list at hfs
    simp only [hall, hpresent, if_true] at hfs
    cases hfound : filterAll (found (Text.lower term)) s.flows with
    | error fault =>
      rw [hfound] at hfs
      cases hfs
    | ok gs => exact exists_filterAll_iff.mp ⟨gs, hfound⟩ f hf
  · intro h q hq
    unfold list
    dsimp only
    split
    · rename_i hpresent
      rcases hq with hnull | ⟨term, hterm⟩
      · rw [hnull] at hpresent
        cases hpresent
      · have hfound : ∀ g ∈ s.flows.filter (fits q), ∃ keep,
            found (Text.lower term) g = .ok keep := fun g hg =>
          exists_found (h g (List.mem_of_mem_filter hg)) (Text.lower term)
        obtain ⟨gs, hgs⟩ := exists_filterAll_iff.mpr hfound
        rw [hterm]
        simp only [hgs]
        exact ⟨_, rfl⟩
    · exact ⟨_, rfl⟩

end Store

/-! ## The next label -/

/-- A version label after which there is another. -/
def Json.HasNextLabel (j : Json) : Prop :=
  ∃ label, j = .str label ∧ (Label.major label + 1).natAbs < tenTo Text.digitLimit

theorem Label.exists_nextOf_iff {j : Json} : (∃ next, nextOf j = .ok next) ↔ j.HasNextLabel := by
  constructor
  · rintro ⟨next, hnext⟩
    cases j with
    | str label => exact ⟨label, rfl, Text.isShort_iff.mp (next_eq_ok_iff.mp hnext).1⟩
    | _ => cases hnext
  · rintro ⟨label, rfl, hshort⟩
    exact ⟨_, next_eq_ok_iff.mpr ⟨Text.isShort_iff.mpr hshort, rfl⟩⟩

/-! ## Places beside a node -/

/-- A coordinate that can be moved. -/
def Json.IsCoordinate : Json → Prop
  | .int n => overflowsFloat n = false
  | .float _ => True
  | .bool _ => True
  | _ => False

/-- A node beside which another can be placed. A coordinate that is not given is zero. -/
def Node.HasPlace (n : Node) : Prop :=
  ((Json.entry? n.position (.str "x")).getD (.int 0)).IsCoordinate ∧
    ((Json.entry? n.position (.str "y")).getD (.int 0)).IsCoordinate

namespace Editor

theorem exists_shifted_iff (offset : Float) {j : Json} :
    (∃ moved, shifted offset j = .ok moved) ↔ j.IsCoordinate := by
  cases j with
  | int n => cases h : overflowsFloat n <;> simp [shifted, IsCoordinate, h]
  | _ => simp [shifted, IsCoordinate]

theorem exists_shiftedPosition_iff (offset : Float) {n : Node} :
    (∃ position, shiftedPosition offset n.position = .ok position) ↔ n.HasPlace := by
  unfold Node.HasPlace shiftedPosition
  rw [← exists_shifted_iff offset, ← exists_shifted_iff offset]
  cases shifted offset ((Json.entry? n.position (.str "x")).getD (.int 0)) with
  | error fault => simp [bind, Except.bind]
  | ok x =>
    cases shifted offset ((Json.entry? n.position (.str "y")).getD (.int 0)) with
    | error fault => simp [bind, Except.bind]
    | ok y => simp [bind, Except.bind, pure, Except.pure]

/-- A copy of a node is made or refused, unless there is no place beside the node. -/
theorem duplicateNode_answers_iff (offset : Float) (e : Editor) (nextId : Nat) :
    (∀ id fault, (e.duplicateNode offset nextId id).reply ≠ .failed fault) ↔
      ∀ id n, e.flow.node? id = some n → n.kind ≠ .start → n.HasPlace := by
  constructor
  · intro hanswers id n hn hkind
    have hanswer := hanswers id
    unfold duplicateNode at hanswer
    rw [hn] at hanswer
    simp only [beq_iff_eq, if_neg hkind] at hanswer
    cases hshifted : shiftedPosition offset n.position with
    | error fault =>
      rw [hshifted] at hanswer
      exact absurd rfl (hanswer fault)
    | ok position => exact (exists_shiftedPosition_iff offset).mp ⟨position, hshifted⟩
  · intro hplaces id fault
    unfold duplicateNode
    split
    · exact Reply.noConfusion
    · rename_i n hn
      split
      · exact Reply.noConfusion
      · rename_i hkind
        rw [beq_iff_eq] at hkind
        obtain ⟨position, hposition⟩ :=
          (exists_shiftedPosition_iff offset).mpr (hplaces id n hn hkind)
        rw [hposition]
        exact Reply.noConfusion

end Editor

/-! ## After an import -/

/-- A flow that can be searched for, copied, published, and the nodes of which can be copied. -/
structure Flow.IsWorkable (f : Flow) (room : Nat) : Prop where
  searchable : f.IsSearchable
  label : f.label.HasNextLabel
  places : ∀ id n, f.node? id = some n → n.kind ≠ .start → n.HasPlace
  graph_room : f.graph.copyDepth + 4 ≤ room
  parts_room : f.partsCopyDepth + 1 ≤ room

namespace Workspace

variable {s : Setup} {w w' : Workspace} {now later : Int} {f : Flow} {changelog author : Json}

/-- All lists of flows can be made. The flow can be opened, and then a publish gives a version, and a
copy of a node is made or refused. -/
structure Serves (s : Setup) (w : Workspace) (later : Int) (changelog author : Json) (f : Flow) :
    Prop where
  lists : w.store.IsListable
  works : ∃ w₁, w.openFlow s.room.steps f.id = (w₁, .ok f) ∧
    (∃ w₂ v, w₁.publish s later changelog author = (w₂, .ok v)) ∧
    ∀ id fault, (w₁.edit s (.duplicateNode id)).2 ≠ .failed fault

theorem openFlow_ok_iff {room : Nat} {id : Json} (hfind : w.find id = .ok f) :
    w.openFlow room id = (w', .ok f) ↔
      f.graph.copyDepth + 4 ≤ room ∧ w' = { w with desk := some (.opened f) } := by
  unfold openFlow
  rw [hfind]
  dsimp only
  split
  · rename_i hroom
    have hsmall : ¬ f.graph.copyDepth + 4 ≤ room := by omega
    simp [hsmall]
  · rename_i hroom
    have hlarge : f.graph.copyDepth + 4 ≤ room := by omega
    simp [hlarge, eq_comm]

theorem publish_opened_iff (hdesk : w.desk = some (.opened f)) (hlater : Clock.isDated later = true) :
    (∃ w₂ v, w.publish s later changelog author = (w₂, .ok v)) ↔
      f.label.HasNextLabel ∧ f.partsCopyDepth + 1 ≤ s.room.steps ∧
        f.graph.copyDepth + 2 ≤ s.room.steps := by
  have hkeeping : w.inKeeping = .ok (Desk.opened f, f) := by
    unfold inKeeping onDesk
    rw [hdesk]
    rfl
  have hgraph : ∀ v, (f.withVersion later v).graph = f.graph := fun v => rfl
  rw [← Label.exists_nextOf_iff]
  unfold publish Clock.dated
  rw [hkeeping, if_pos hlater]
  dsimp only
  cases Label.nextOf f.label with
  | error fault => simp
  | ok label =>
    unfold settle
    simp only [hgraph]
    by_cases hparts : s.room.steps < f.partsCopyDepth + 1
    · have hsmall : ¬ f.partsCopyDepth + 1 ≤ s.room.steps := by omega
      simp [hparts, hsmall]
    · have hlarge : f.partsCopyDepth + 1 ≤ s.room.steps := by omega
      by_cases hroom : s.room.steps < f.graph.copyDepth + 2
      · have hshallow : ¬ f.graph.copyDepth + 2 ≤ s.room.steps := by omega
        simp [hparts, hroom, hshallow]
      · have hdeep : f.graph.copyDepth + 2 ≤ s.room.steps := by omega
        simp [hparts, hlarge, hroom, hdeep]

theorem duplicateNode_opened_iff (hdesk : w.desk = some (.opened f)) :
    (∀ id fault, (w.edit s (.duplicateNode id)).2 ≠ .failed fault) ↔
      ∀ id n, f.node? id = some n → n.kind ≠ .start → n.HasPlace := by
  unfold edit onDesk
  rw [hdesk]
  exact Editor.duplicateNode_answers_iff _ { flow := f } _

/-- What is let in comes last in the store and is found there. -/
theorem importFlow_ok (h : w.importFlow s now data = (w', .ok f)) :
    w'.store.flows = w.store.flows ++ [f] ∧ w'.find f.id = .ok f := by
  unfold importFlow at h
  split at h
  · rename_i g hcheck
    cases h
    obtain ⟨hkey, hfree, -⟩ := checkImport_spec hcheck
    exact ⟨Store.put_new hfree, find_shelve hkey (same_self hkey)⟩
  · cases h

/-- Where all lists could be made before an import, the service serves on with the flow that was let
in exactly if the flow is workable. Nothing in the import asks for that. -/
theorem an_import_is_served_iff_it_is_workable {data : Json}
    (himport : w.importFlow s now data = (w', .ok f)) (hbefore : w.store.IsListable)
    (hlater : Clock.isDated later = true) :
    w'.Serves s later changelog author f ↔ f.IsWorkable s.room.steps := by
  obtain ⟨hflows, hfind⟩ := importFlow_ok himport
  have hlists : w'.store.IsListable ↔ f.IsSearchable := by
    rw [Store.isListable_iff] at hbefore ⊢
    rw [hflows, List.forall_mem_append, List.forall_mem_singleton]
    exact and_iff_right hbefore
  constructor
  · rintro ⟨hlisted, w₁, hopen, hpublish, hduplicate⟩
    obtain ⟨hroom, rfl⟩ := (openFlow_ok_iff hfind).mp hopen
    obtain ⟨hlabel, hparts, -⟩ := (publish_opened_iff rfl hlater).mp hpublish
    exact ⟨hlists.mp hlisted, hlabel, (duplicateNode_opened_iff rfl).mp hduplicate, hroom, hparts⟩
  · rintro ⟨hsearchable, hlabel, hplaces, hroom, hparts⟩
    refine ⟨hlists.mpr hsearchable, _, (openFlow_ok_iff hfind).mpr ⟨hroom, rfl⟩, ?_, ?_⟩
    · exact (publish_opened_iff rfl hlater).mpr ⟨hlabel, hparts, by omega⟩
    · exact (duplicateNode_opened_iff rfl).mpr hplaces

end Workspace

/-! ## Two imports

A start node and a message, with a name, a label and a place for the message. -/

namespace Flow

def note (name label : Json) (place : Position) : Flow where
  id := .str "note"
  name := name
  description := .str ""
  category := .str ""
  status := .draft
  label := label
  nodes := [⟨.str "start", .start {}, [], []⟩, ⟨.str "hello", .message {}, place, []⟩]
  edges := []
  createdAt := 0
  updatedAt := 0

/-- A note is let in whatever its name, its label and its places are. -/
theorem importFlow_note (name label : Json) (place : Position) :
    ({} : Workspace).importFlow ⟨{}, .standard, ⟨1000, by decide⟩⟩ 0 (note name label place).toJson =
      (({} : Workspace).shelve (note name label place), .ok (note name label place)) := by
  have hsound : (note name label place).Sound := by
    constructor
    case one_start => rfl
    all_goals simp [note, ids, outgoing, isText_str, Node.kind, NodeData.kind]
  have hbounds : (note name label place).InBounds := by
    simp [InBounds, note, NodeData.InBounds]
  let s : Setup := ⟨{}, .standard, ⟨1000, by decide⟩⟩
  have hsize : ((note name label place).nodes.length : Int) ≤ s.settings.canvas.maxNodes :=
    (by decide : (2 : Int) ≤ 500)
  exact Workspace.importFlow_toJson hsound hbounds hsize rfl rfl (by decide)

end Flow

namespace Workspace

theorem a_proper_note_is_served :
    let s : Setup := ⟨{}, .standard, ⟨1000, by decide⟩⟩
    let f := Flow.note (.str "Note") (.str firstLabel) [(.str "x", .float 1.5), (.str "y", .float 2.5)]
    let w := ({} : Workspace).shelve f
    ({} : Workspace).importFlow s 0 f.toJson = (w, .ok f) ∧ ({} : Workspace).store.IsListable ∧
      Clock.isDated 0 = true ∧ w.Serves s 0 (.str "first") .null f := by
  intro s f w
  have himport : ({} : Workspace).importFlow s 0 f.toJson = (w, .ok f) :=
    Flow.importFlow_note _ _ _
  have hbefore : ({} : Workspace).store.IsListable := Store.isListable_iff.mpr nofun
  have hlater : Clock.isDated 0 = true := by decide
  refine ⟨himport, hbefore, hlater,
    (an_import_is_served_iff_it_is_workable himport hbefore hlater).mpr ?_⟩
  constructor
  case searchable => exact ⟨isText_str _, isText_str _⟩
  case label => exact ⟨firstLabel, rfl, by decide +kernel⟩
  case places =>
    intro id n hn hkind
    have hmem : n ∈ f.nodes := List.mem_of_find?_eq_some hn
    rcases List.mem_cons.mp hmem with rfl | hmem
    · exact absurd rfl hkind
    · rw [List.mem_singleton.mp hmem]
      exact ⟨trivial, trivial⟩
  case graph_room => decide +kernel
  case parts_room => decide +kernel

/-- A note is let in with numbers for its name and its label and with a word for a place. No text can
be searched for then, no version of it can be published, and its message cannot be copied. -/
theorem a_note_of_numbers_is_let_in_and_not_served :
    let s : Setup := ⟨{}, .standard, ⟨1000, by decide⟩⟩
    let f := Flow.note (.int 5) (.int 5) [(.str "x", .str "left")]
    ∃ w w₁, ({} : Workspace).importFlow s 0 f.toJson = (w, .ok f) ∧
      w.store.list { search := .str "a" } = .error .noSuchPart ∧
      w.openFlow s.room.steps f.id = (w₁, .ok f) ∧
      (w₁.publish s 0 (.str "first") .null).2 = .error .noSuchPart ∧
      (w₁.edit s (.duplicateNode (.str "hello"))).2 = .failed .wrongKind := by
  intro s f
  have himport : ({} : Workspace).importFlow s 0 f.toJson = (_, .ok f) :=
    Flow.importFlow_note _ _ _
  have hroom : f.graph.copyDepth + 4 ≤ s.room.steps := by decide +kernel
  have hopen := (openFlow_ok_iff (importFlow_ok himport).2).mpr ⟨hroom, rfl⟩
  exact ⟨_, _, himport, rfl, hopen, rfl, rfl⟩

end Workspace

end Dialogue
