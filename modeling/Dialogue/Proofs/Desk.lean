-- The desk on which stored flows are worked on. As long as it holds a stored flow just as it is
-- stored, what is done on it comes of that flow alone, and no other stored flow is touched.
import Dialogue.Proofs.Import

namespace Dialogue

open Json

/-! ## The store -/

namespace Store

variable {s : Store} {id : String}

/-- The flows that have another id, in order. -/
def others (s : Store) (id : String) : List Flow := s.flows.filter fun g => !g.id.same (.str id)

theorem id_of_get? {g : Flow} (h : s.get? (.str id) = some g) : g.id = .str id := by
  have hsame := List.find?_some (h : s.flows.find? (·.id.same (.str id)) = some g)
  exact (same_iff_of_right (isText_str id).isWord).mp hsame

theorem mem_of_get? {g : Flow} {j : Json} (h : s.get? j = some g) : g ∈ s.flows :=
  List.mem_of_find?_eq_some (h : s.flows.find? (·.id.same j) = some g)

theorem same_str_self (id : String) : (Json.str id).same (.str id) = true :=
  (same_iff_of_left (isText_str id).isWord).mpr rfl

theorem get?_put_same {f : Flow} (hf : f.id = .str id) : (s.put f).get? (.str id) = some f := by
  rw [← hf]
  refine get?_put s ?_
  rw [hf]
  exact same_str_self id

theorem others_put {f : Flow} (hf : f.id = .str id) : (s.put f).others id = s.others id := by
  have hself : (!f.id.same (.str id)) = false := by rw [hf, same_str_self]; rfl
  unfold put others
  dsimp only
  induction s.flows with
  | nil => rw [place, List.filter_cons_of_neg (by simp [hself])]
  | cons g rest ih =>
    rw [place]
    split
    · rename_i hg
      rw [hf] at hg
      rw [List.filter_cons_of_neg (by simp [hself]), List.filter_cons_of_neg (by simp [hg])]
    · rw [List.filter_cons, List.filter_cons, ih]

/-- A flow with a new id comes last. -/
theorem put_new {f : Flow} (h : s.get? f.id = none) : (s.put f).flows = s.flows ++ [f] := by
  have hnone := List.find?_eq_none.mp (h : s.flows.find? (·.id.same f.id) = none)
  unfold put
  dsimp only
  generalize s.flows = gs at hnone
  induction gs with
  | nil => rfl
  | cons g rest ih =>
    rw [place, if_neg (hnone g List.mem_cons_self),
      ih fun x hx => hnone x (List.mem_cons_of_mem g hx)]
    rfl

theorem get?_put_new {f g : Flow} {j : Json} (h : s.get? f.id = none) (hg : s.get? j = some g) :
    (s.put f).get? j = some g := by
  unfold get? at hg ⊢
  rw [put_new h, List.find?_append, hg]
  rfl

theorem others_put_new {f : Flow} (h : s.get? f.id = none) (hf : f.id ≠ .str id) :
    (s.put f).others id = s.others id ++ [f] := by
  have hother : f.id.same (.str id) = false := by
    rw [← Bool.not_eq_true, same_iff_of_right (isText_str id).isWord]
    exact hf
  unfold others
  rw [put_new h, List.filter_append]
  simp [hother]

/-- A flow is found among those that have another id than some other one. -/
theorem get?_eq_others {id' : String} (hne : id' ≠ id) :
    s.get? (.str id') = (s.others id).find? (·.id.same (.str id')) := by
  unfold get? others
  rw [List.find?_filter]
  congr 1
  funext g
  -- A flow with the one id does not have the other.
  by_cases hg : g.id.same (.str id') = true
  · rw [hg, (same_iff_of_right (isText_str id').isWord).mp hg]
    have hother : ¬ (Json.str id').same (.str id) = true := by
      rw [same_iff_of_right (isText_str id).isWord]
      simpa using hne
    simp [hother]
  · simp [hg]

theorem others_erase : (s.erase (.str id)).others id = s.others id := by
  unfold erase others
  simp

theorem get?_erase_other {id' : String} (hne : id' ≠ id) :
    (s.erase (.str id)).get? (.str id') = s.get? (.str id') := by
  rw [get?_eq_others hne, get?_eq_others hne, others_erase]

end Store

/-! ## A flow in hand -/

/-- A desk with nothing but a flow on it, which was opened there. -/
def Desk.plain (g : Flow) (baseline : Json) : Desk where
  editor := { flow := g }
  keeping := .own baseline

namespace Workspace

variable {w : Workspace} {id : String} {g : Flow}

/-- The flow is on the desk just as it is stored. -/
structure Holds (w : Workspace) (id : String) (g : Flow) : Prop where
  stored : w.store.get? (.str id) = some g
  onDesk : ∃ baseline, w.desk = some (.plain g baseline)

/-- What is on the desk, if anything, is a stored flow just as it is stored. -/
def Tidy (w : Workspace) : Prop := w.desk = none ∨ ∃ id g, w.Holds id g

theorem Tidy.counted (h : w.Tidy) (n : Nat) : ({ w with nextId := n } : Workspace).Tidy :=
  h.imp id fun ⟨id, g, h⟩ => ⟨id, g, h.stored, h.onDesk⟩

/-- What an act gives back and leaves behind: the flow in hand has become another one, ids have been
used up, there is an answer, and no other flow was touched. -/
structure Yields {α : Type} (w : Workspace) (id : String) (g' : Flow) (nextId : Nat) (answer : α)
    (r : Workspace × α) : Prop where
  holds : r.1.Holds id g'
  nextId_eq : r.1.nextId = nextId
  answer_eq : r.2 = answer
  others_eq : r.1.store.others id = w.store.others id

/-- What the act yields follows from the flow in hand and from the number of the next id. -/
def KeepsTo {α : Type} (id : String) (act : Workspace → Workspace × α) : Prop :=
  ∀ g n, ∃ g' n' a, ∀ w : Workspace, w.Holds id g → w.nextId = n → w.Yields id g' n' a (act w)

theorem KeepsTo.map {α β : Type} {act : Workspace → Workspace × α} (h : KeepsTo id act) (k : α → β) :
    KeepsTo id fun w => ((act w).1, k (act w).2) := by
  intro g n
  obtain ⟨g', n', a, hact⟩ := h g n
  refine ⟨g', n', k a, fun w hw hn => ?_⟩
  obtain ⟨hholds, hnextId, hanswer, hothers⟩ := hact w hw hn
  exact ⟨hholds, hnextId, congrArg k hanswer, hothers⟩

/-- The flow in hand can be looked at when the act is done. -/
theorem KeepsTo.andFlow {α : Type} {act : Workspace → Workspace × α} (h : KeepsTo id act) :
    KeepsTo id fun w => ((act w).1, (act w).2, (act w).1.onDesk.map Desk.flow) := by
  intro g n
  obtain ⟨g', n', a, hact⟩ := h g n
  refine ⟨g', n', (a, .ok g'), fun w hw hn => ?_⟩
  obtain ⟨hholds, hnextId, hanswer, hothers⟩ := hact w hw hn
  refine ⟨hholds, hnextId, ?_, hothers⟩
  obtain ⟨baseline, hdesk⟩ := hholds.onDesk
  dsimp only
  rw [hanswer, onDesk, hdesk]
  rfl

theorem find_of_get? (h : w.store.get? (.str id) = some g) : w.find (.str id) = .ok g := by
  unfold find
  rw [if_pos (isText_str id).isWord.isKey, h]

theorem find_of_none (h : w.store.get? (.str id) = none) :
    w.find (.str id) = .error (.flow (.notFound (.str id))) := by
  unfold find
  rw [if_pos (isText_str id).isWord.isKey, h]

/-! ### Edits -/

end Workspace

/-- An edit that says itself what it is about, and does not go by a selection or by a connection
that is being drawn. -/
def Edit.IsDirect : Edit → Prop
  | .addNode _ _ | .duplicateNode _ | .updateData _ _ | .deleteNode _ | .moveNode _ _ => True
  | .addEdge _ _ _ | .deleteEdge _ => True
  | .startConnect _ _ | .completeConnect _ | .cancelConnect | .selectNode _ | .clearSelection =>
    False

theorem Editor.addEdge_plain (g : Flow) (n : Nat) (source target : Json)
    (handle : Option Handle) :
    ∃ g', (Editor.addEdge { flow := g } n source target handle).editor = { flow := g' } ∧
      g'.id = g.id := by
  have hjoin : ∀ label, ∃ g', (joinNodes { flow := g } n source target label).editor =
      { flow := g' } ∧ g'.id = g.id := fun label => ⟨_, rfl, rfl⟩
  rw [addEdge]
  split
  · exact ⟨g, rfl, rfl⟩
  · exact ⟨g, rfl, rfl⟩
  · split
    · exact ⟨g, rfl, rfl⟩
    · split
      · exact ⟨g, rfl, rfl⟩
      · split
        · exact ⟨g, rfl, rfl⟩
        · split
          · exact ⟨g, rfl, rfl⟩
          · split
            · dsimp only
              split
              · split
                · exact ⟨g, rfl, rfl⟩
                · exact hjoin _
              · exact ⟨g, rfl, rfl⟩
            · exact hjoin _

/-- After a direct edit there is still nothing but a flow of the same id. -/
theorem Editor.perform_direct (p : Palette) (offset : Float) (room : Nat) (g : Flow) (n : Nat)
    {e : Edit} (he : e.IsDirect) :
    ∃ g', (Editor.perform p offset room { flow := g } n e).editor = { flow := g' } ∧
      g'.id = g.id := by
  cases e with
  | addNode kind position =>
    simp only [perform, addNode, refuse]
    split
    · exact ⟨g, rfl, rfl⟩
    · split <;> exact ⟨_, rfl, rfl⟩
  | duplicateNode id =>
    simp only [perform, duplicateNode, refuse]
    split
    · exact ⟨g, rfl, rfl⟩
    · split
      · exact ⟨g, rfl, rfl⟩
      · split <;> exact ⟨_, rfl, rfl⟩
  | updateData id changes =>
    simp only [perform, updateData, refuse]
    split
    · exact ⟨g, rfl, rfl⟩
    · split
      · split
        · split <;> exact ⟨g, rfl, rfl⟩
        · exact ⟨_, rfl, rfl⟩
      · exact ⟨g, rfl, rfl⟩
  | deleteNode id =>
    simp only [perform, deleteNode, refuse]
    split
    · exact ⟨g, rfl, rfl⟩
    · split
      · exact ⟨g, rfl, rfl⟩
      · split
        · exact ⟨(((g.dropNodes id).dropEdgesAt id).forgetNode id).asDraft,
            by simp [hasSelected, change], rfl⟩
        · exact ⟨_, rfl, rfl⟩
  | moveNode id position =>
    simp only [perform, moveNode, refuse]
    split
    · exact ⟨g, rfl, rfl⟩
    · split <;> exact ⟨_, rfl, rfl⟩
  | addEdge source target handle => exact addEdge_plain g n source target handle
  | deleteEdge id =>
    simp only [perform, deleteEdge, refuse]
    split <;> exact ⟨_, rfl, rfl⟩
  | startConnect _ _ | completeConnect _ | cancelConnect | selectNode _ | clearSelection => cases he

namespace Workspace

variable {w : Workspace} {id : String} {g : Flow}

theorem Holds.id_eq (h : w.Holds id g) : g.id = .str id := Store.id_of_get? h.stored

/-- Nothing happens but that ids may be used up and that there is an answer. -/
theorem Holds.yields_itself (h : w.Holds id g) (n : Nat) {α : Type} (a : α) :
    w.Yields id g n a ({ w with nextId := n }, a) :=
  ⟨⟨h.stored, h.onDesk⟩, rfl, rfl, rfl⟩

theorem keepsTo_edit (s : Setup) {e : Edit} (he : e.IsDirect) : KeepsTo id (edit s · e) := by
  intro g n
  let r := Editor.perform s.palette s.settings.canvas.duplicateOffset s.room.steps { flow := g } n e
  obtain ⟨g', heditor, hid⟩ := Editor.perform_direct s.palette s.settings.canvas.duplicateOffset
    s.room.steps g n he
  refine ⟨g', r.nextId, r.reply, fun w hw hn => ?_⟩
  obtain ⟨baseline, hdesk⟩ := hw.onDesk
  have hedit : w.edit s e =
      ({ w.keep (.plain g' baseline) with nextId := r.nextId }, r.reply) := by
    unfold edit onDesk
    rw [hdesk]
    dsimp only [Desk.plain]
    rw [hn, heditor]
  have hid' : g'.id = .str id := hid.trans hw.id_eq
  dsimp only
  rw [hedit]
  exact ⟨⟨Store.get?_put_same hid', baseline, rfl⟩, rfl, rfl, Store.others_put hid'⟩

/-! ### Versions -/

theorem Holds.inKeeping (h : w.Holds id g) :
    ∃ baseline, w.inKeeping = .ok (.plain g baseline, g) := by
  obtain ⟨baseline, hdesk⟩ := h.onDesk
  refine ⟨baseline, ?_⟩
  unfold Workspace.inKeeping Workspace.onDesk
  rw [hdesk]
  rfl

/-- The flow in hand is the one that is kept, whatever its baseline. -/
theorem keepsTo_of_kept {α : Type} {act : Workspace → Workspace × α}
    (h : ∀ g n, ∃ g' n' a, ∀ (w : Workspace) (baseline : Json), w.Holds id g → w.nextId = n →
      w.inKeeping = .ok (.plain g baseline, g) → w.Yields id g' n' a (act w)) : KeepsTo id act := by
  intro g n
  obtain ⟨g', n', a, hact⟩ := h g n
  refine ⟨g', n', a, fun w hw hn => ?_⟩
  obtain ⟨baseline, hkeeping⟩ := hw.inKeeping
  exact hact w baseline hw hn hkeeping

theorem yields_file {g' : Flow} (hid : g'.id = .str id) (baseline : Json) {α : Type} (a : α) :
    w.Yields id g' w.nextId a (w.file (.plain g baseline) g', a) :=
  ⟨⟨Store.get?_put_same hid, baseline, rfl⟩, rfl, rfl, Store.others_put hid⟩

theorem yields_settle {g' : Flow} (hid : g'.id = .str id) (baseline : Json) (room : Nat) {α : Type}
    (a : α) :
    w.Yields id g' w.nextId (if room < g'.graph.copyDepth + 2 then .error .tooDeep else .ok a)
      (w.settle room (.plain g baseline) g' a) := by
  unfold settle
  dsimp only
  split
  · exact yields_file hid baseline _
  · exact ⟨⟨Store.get?_put_same hid, g'.graph, rfl⟩, rfl, rfl, Store.others_put hid⟩

/-- Whether the flow has unsaved changes once it is saved follows from the flow as well. -/
theorem keepsTo_save (s : Setup) (now : Int) : KeepsTo id fun w =>
    ((w.save s now).1, (w.save s now).2.map fun f => (f, (w.save s now).1.isDirty)) := by
  refine keepsTo_of_kept fun g n => ?_
  cases hnow : Clock.dated now with
  | error fault =>
    refine ⟨g, n, .error fault, fun w baseline hw hn hkeeping => ?_⟩
    simp only [save, hkeeping, hnow]
    exact hn ▸ hw.yields_itself w.nextId _
  | ok time =>
    -- The baseline is the graph as it is saved, so the earlier one does not matter.
    have hgraph : (g.saved time).graph = g.graph := rfl
    refine ⟨g.saved time, n, if s.room.steps < g.graph.copyDepth + 2 then .error .tooDeep
      else .ok (g.saved time, !g.graph.same g.graph), fun w baseline hw hn hkeeping => ?_⟩
    have hid : (g.saved time).id = .str id := hw.id_eq
    have hsettled := yields_settle (w := w) (g := g) hid baseline s.room.steps (g.saved time)
    simp only [save, hkeeping, hnow]
    refine ⟨hsettled.holds, hsettled.nextId_eq.trans hn, ?_, hsettled.others_eq⟩
    simp only [settle, hgraph]
    split <;> rfl

theorem keepsTo_publish (s : Setup) (now : Int) (changelog author : Json) :
    KeepsTo id (publish s · now changelog author) := by
  refine keepsTo_of_kept fun g n => ?_
  cases hnow : Clock.dated now with
  | error fault =>
    refine ⟨g, n, .error fault, fun w baseline hw hn hkeeping => ?_⟩
    simp only [publish, hkeeping, hnow]
    exact hn ▸ hw.yields_itself w.nextId _
  | ok time =>
    cases hlabel : Label.nextOf g.label with
    | error fault =>
      refine ⟨g, n + 1, .error fault, fun w baseline hw hn hkeeping => ?_⟩
      simp only [publish, hkeeping, hnow, hlabel, hn]
      exact hw.yields_itself (n + 1) _
    | ok label =>
      by_cases hdeep : s.room.steps < g.partsCopyDepth + 1
      · refine ⟨g, n + 1, .error .tooDeep, fun w baseline hw hn hkeeping => ?_⟩
        simp only [publish, hkeeping, hnow, hlabel, if_pos hdeep, hn]
        exact hw.yields_itself (n + 1) _
      · let v := g.snapshot time n label changelog (authorOf s author)
        refine ⟨g.withVersion time v, n + 1, if s.room.steps <
          (g.withVersion time v).graph.copyDepth + 2 then .error .tooDeep else .ok v,
          fun w baseline hw hn hkeeping => ?_⟩
        have hid : (g.withVersion time v).id = .str id := hw.id_eq
        have hsettled := yields_settle (w := { w with nextId := n + 1 }) (g := g) hid baseline
          s.room.steps v
        simp only [publish, hkeeping, hnow, hlabel, if_neg hdeep, hn, Nat.add_sub_cancel]
        exact ⟨hsettled.holds, hsettled.nextId_eq, hsettled.answer_eq, hsettled.others_eq⟩

/-- A flow that is rolled back while the time cannot be told has its new label all the same. -/
theorem yields_relabel {g' : Flow} (hid : g'.id = .str id) (baseline : Json) {α : Type} (a : α) :
    w.Yields id g' w.nextId a (w.relabel (.plain g baseline) g', a) :=
  ⟨⟨Store.get?_put_same hid, baseline, rfl⟩, rfl, rfl, Store.others_put hid⟩

theorem keepsTo_rollback (now : Int) (version : Json) : KeepsTo id (rollback · now version) := by
  refine keepsTo_of_kept fun g n => ?_
  cases hversion : g.version? version with
  | none =>
    refine ⟨g, n, .refused (.noVersion version), fun w baseline hw hn hkeeping => ?_⟩
    simp only [rollback, hkeeping, hversion]
    exact hn ▸ hw.yields_itself w.nextId _
  | some v =>
    cases hnow : Clock.dated now with
    | ok time =>
      refine ⟨g.rolledBack time v, n, .done (.version v), fun w baseline hw hn hkeeping => ?_⟩
      have hid : (g.rolledBack time v).id = .str id := hw.id_eq
      simp only [rollback, hkeeping, hversion, hnow]
      exact hn ▸ yields_file hid baseline _
    | error fault =>
      refine ⟨g.rolledBack g.updatedAt v, n, .failed fault, fun w baseline hw hn hkeeping => ?_⟩
      have hid : (g.rolledBack g.updatedAt v).id = .str id := hw.id_eq
      simp only [rollback, hkeeping, hversion, hnow]
      exact hn ▸ yields_relabel hid baseline _

theorem keepsTo_versions : KeepsTo id fun w => (w, w.versions) := by
  refine keepsTo_of_kept fun g n => ⟨g, n, .ok g.history, fun w baseline hw hn hkeeping => ?_⟩
  have hversions : w.versions = .ok g.history := by
    unfold versions
    rw [hkeeping]
    rfl
  rw [hversions]
  exact hn ▸ hw.yields_itself w.nextId _

/-! ### Flows that come and go -/

theorem openFlow_eq {room : Nat} (hg : w.store.get? (.str id) = some g)
    (hroom : g.graph.copyDepth + 4 ≤ room) :
    w.openFlow room (.str id) = ({ w with desk := some (.plain g g.graph) }, .ok g) := by
  unfold openFlow
  rw [find_of_get? hg]
  exact if_neg (by omega)

/-- The link of a desk to the store outlasts any change at another id. -/
theorem unlinked_plain {id' : Json} (hg : g.id = .str id) (hne : id' ≠ .str id) (baseline : Json) :
    (Desk.plain g baseline).unlinked id' = .plain g baseline := by
  have hsame : g.id.same id' = false := by
    rw [hg, ← Bool.not_eq_true, same_iff_of_left (isText_str id).isWord]
    exact Ne.symm hne
  unfold Desk.unlinked Desk.plain Desk.flow
  simp [hsame, Keeping.unlinked]

theorem Holds.shelve (h : w.Holds id g) {f : Flow} (hnew : w.store.get? f.id = none) :
    (w.shelve f).Holds id g := by
  obtain ⟨baseline, hdesk⟩ := h.onDesk
  have hne : f.id ≠ .str id := by
    intro hid
    rw [hid, h.stored] at hnew
    cases hnew
  refine ⟨Store.get?_put_new hnew h.stored, baseline, ?_⟩
  unfold Workspace.shelve
  rw [hdesk]
  exact congrArg some (unlinked_plain h.id_eq hne baseline)

theorem Tidy.shelve (h : w.Tidy) {f : Flow} (hnew : w.store.get? f.id = none) :
    (w.shelve f).Tidy := by
  rcases h with hdesk | ⟨id, g, h⟩
  · refine .inl ?_
    unfold Workspace.shelve
    rw [hdesk]
    rfl
  · exact .inr ⟨id, g, h.shelve hnew⟩

theorem Tidy.createFlow (h : w.Tidy) (s : Setup) (now : Int) (name description category : Json)
    (hnew : w.store.get? (.str (Ids.full (w.nextId + 1))) = none) :
    (w.createFlow s now name description category).1.Tidy := by
  unfold Workspace.createFlow
  split
  · exact h
  · exact h.counted _
  · dsimp only
    exact (h.shelve hnew).counted _

theorem Tidy.importFlow (h : w.Tidy) (s : Setup) (now : Int) (data : Json) :
    (w.importFlow s now data).1.Tidy := by
  unfold Workspace.importFlow
  split
  · rename_i f hcheck
    exact h.shelve (checkImport_spec hcheck).2.1
  · exact h

theorem deleteFlow_eq (hg : w.store.get? (.str id) = some g) :
    ∃ desk, w.deleteFlow (.str id) =
      ({ w with store := w.store.erase (.str id), desk }, .ok ()) := by
  unfold deleteFlow
  rw [find_of_get? hg]
  exact ⟨_, rfl⟩

/-- A copy of a stored flow comes last, with its new id. -/
theorem duplicateFlow_spec (id : String) (s : Setup) (now : Int) (g : Flow) (n : Nat) :
    (∃ n' fault, ∀ w : Workspace, w.store.get? (.str id) = some g → w.nextId = n →
      w.duplicateFlow s now (.str id) .null = ({ w with nextId := n' }, .error fault)) ∨
    ∃ copy : Flow, copy.id = .str (Ids.full n) ∧
      ∀ w : Workspace, w.store.get? (.str id) = some g → w.nextId = n →
        w.duplicateFlow s now (.str id) .null =
          ({ w.shelve copy with nextId := n + 1 }, .ok copy) := by
  cases hnow : Clock.dated now with
  | error fault =>
    refine .inl ⟨n, fault, fun w hg hn => ?_⟩
    simp only [duplicateFlow, find_of_get? hg, hnow, ← hn]
  | ok time =>
    by_cases hdeep : s.room.steps < g.partsCopyDepth + 1
    · refine .inl ⟨n + 1, .tooDeep, fun w hg hn => ?_⟩
      simp only [duplicateFlow, find_of_get? hg, hnow, hn, if_pos hdeep]
    · refine .inr ⟨{ g with
        id := .str (Ids.full n)
        name := copyName g.name .null
        status := .draft
        label := .str s.settings.versioning.initialVersion
        versions := []
        createdAt := time
        updatedAt := time }, rfl, fun w hg hn => ?_⟩
      simp only [duplicateFlow, find_of_get? hg, hnow, hn, if_neg hdeep]

/-- The desk is cleared if its flow is deleted, and left alone otherwise. -/
theorem Tidy.deleteFlow (h : w.Tidy) (id : String) : (w.deleteFlow (.str id)).1.Tidy := by
  unfold Workspace.deleteFlow
  split
  · exact h
  · rcases h with hdesk | ⟨id', g, h⟩
    · refine .inl ?_
      rw [hdesk]
      rfl
    · -- The desk and the store are asked in different words for the same id.
      obtain ⟨baseline, hdesk⟩ := h.onDesk
      have hequals : g.id.equals (.str id) = true ↔ g.id = .str id :=
        equals_iff_of_right (isText_str id).isWord
      by_cases hid : id' = id
      · have hgone : g.id.equals (.str id) = true := hequals.mpr (hid ▸ h.id_eq)
        refine .inl ?_
        rw [hdesk]
        simp [Desk.plain, Desk.flow, hgone]
      · have hstays : g.id.equals (.str id) = false := by
          rw [← Bool.not_eq_true, hequals, h.id_eq]
          simpa using hid
        have hunlinked : (Desk.plain g baseline).unlinked (.str id) = .plain g baseline :=
          unlinked_plain h.id_eq (by simpa using Ne.symm hid) baseline
        refine .inr ⟨id', g, (Store.get?_erase_other hid).trans h.stored, baseline, ?_⟩
        have hkept : (some (Desk.plain g baseline)).filter (fun d => !d.flow.id.equals (.str id)) =
            some (.plain g baseline) := by
          simp [Desk.plain, Desk.flow, hstays]
        rw [hdesk]
        dsimp only
        rw [hkept, Option.map_some, hunlinked]

end Workspace

end Dialogue
