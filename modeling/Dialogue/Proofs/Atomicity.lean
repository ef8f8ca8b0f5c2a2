-- Refused edits and rollbacks. Whatever the flow on the desk is like, one that is refused is refused
-- before it has changed anything: the flow, the selection and the numbers of the next ids are as they
-- were. Only a connection that was being drawn is gone if it was refused at its end.
import Dialogue.Proofs.Refusals

namespace Dialogue

/-! ## Edits -/

namespace Editor

variable {e : Editor} {nextId : Nat} {p : Palette} {offset : Float} {room : Nat} {k : Edit}
  {why : Refusal}

/-- A connection that is refused at its end is not drawn any longer. -/
theorem refused_completeConnect {target : Json}
    (h : (e.completeConnect nextId target).reply = .refused why) :
    ∃ g, e.completeConnect nextId target = { e with gesture := g }.refuse nextId why := by
  unfold completeConnect at h ⊢
  by_cases hdrawing : e.gesture.isDrawing
  · rw [if_pos hdrawing] at h ⊢
    have hrefused := (e.addEdge_at_once nextId e.gesture.source target none).alone why h
    dsimp only
    rw [hrefused]
    exact ⟨{}, rfl⟩
  · rw [if_neg hdrawing] at h ⊢
    exact ⟨e.gesture, (e.refuse_at_once nextId _).alone why h⟩

theorem completeConnect_ends (e : Editor) (nextId : Nat) (target : Json) :
    (e.completeConnect nextId target).editor.gesture.isDrawing = false := by
  unfold completeConnect
  split
  · rfl
  · rename_i hdrawing
    exact Bool.eq_false_iff.mpr hdrawing

theorem refused_perform (h : (e.perform p offset room nextId k).reply = .refused why) :
    ∃ g, e.perform p offset room nextId k = { e with gesture := g }.refuse nextId why ∧
      ((∀ target, k ≠ .completeConnect target) → g = e.gesture) := by
  by_cases hk : ∀ target, k ≠ .completeConnect target
  · have hrefused := (e.perform_at_once nextId p offset room hk).alone why h
    exact ⟨e.gesture, hrefused, fun _ => rfl⟩
  · obtain ⟨target, htarget⟩ := not_forall_not.mp hk
    subst htarget
    obtain ⟨g, hg⟩ := refused_completeConnect h
    exact ⟨g, hg, fun hother => absurd rfl (hother target)⟩

end Editor

/-! ## The law -/

namespace Workspace

/-- A refused edit leaves the workspace as it was, but for the connection that is drawn. That is as it
was too unless it was to be ended. -/
structure Withstands (w w' : Workspace) (k : Edit) : Prop where
  desk : ∃ d g, w.desk = some d ∧
    w'.desk = some { d with editor := { d.editor with gesture := g } } ∧
    ((∀ target, k ≠ .completeConnect target) → g = d.editor.gesture)
  store : w.store.Backs w.desk → w'.store = w.store
  nextId : w'.nextId = w.nextId
  isDirty : w'.isDirty = w.isDirty

theorem withstands_edit {s : Setup} {w w' : Workspace} {k : Edit} {why : Refusal}
    (h : w.edit s k = (w', .refused why)) : w.Withstands w' k := by
  unfold edit onDesk at h
  cases hd : w.desk with
  | none =>
    rw [hd] at h
    cases h
  | some d =>
    rw [hd, Prod.mk.injEq] at h
    obtain ⟨rfl, hreply⟩ := h
    obtain ⟨g, hrefused, hgesture⟩ := Editor.refused_perform hreply
    rw [hrefused]
    constructor
    case desk => exact ⟨d, g, hd, rfl, hgesture⟩
    case store =>
      intro hbacks
      have hback := put_back hbacks hd
      exact hback
    case nextId => rfl
    case isDirty =>
      unfold isDirty
      rw [hd]
      rfl

/-- A rollback to a version that is not there. -/
theorem rollback_refused {w w' : Workspace} {now : Int} {version : Json} {why : Refusal}
    (h : w.rollback now version = (w', .refused why)) : w' = w := by
  unfold rollback at h
  split at h
  · cases h
  · split at h
    · exact (Prod.mk.inj h).1.symm
    · split at h
      · cases h
      · cases h

end Workspace

/-- An edit or a rollback that is refused has changed nothing, whatever the flow is like. A
connection that was to be ended is drawn no longer, whether it was made or not. -/
theorem a_refusal_comes_before_the_first_change (s : Setup) (w : Workspace) :
    (∀ k w' why, w.edit s k = (w', .refused why) → w.Withstands w' k) ∧
    (∀ now version w' why, w.rollback now version = (w', .refused why) → w' = w) ∧
    (∀ target w' reply d, w.edit s (.completeConnect target) = (w', reply) → w'.desk = some d →
      d.editor.gesture.isDrawing = false) := by
  refine ⟨fun _ _ _ => Workspace.withstands_edit, fun _ _ _ _ => Workspace.rollback_refused, ?_⟩
  intro target w' reply d hedit hd
  cases hd₀ : w.desk with
  | none =>
    unfold Workspace.edit Workspace.onDesk at hedit
    rw [hd₀] at hedit
    cases hedit
    cases hd₀.symm.trans hd
  | some d₀ =>
    have hdesk := Workspace.desk_edit hd₀ s (.completeConnect target)
    rw [hedit] at hdesk
    cases hdesk.symm.trans hd
    exact d₀.editor.completeConnect_ends w.nextId target

/-- So it is in a flow with two nodes of one id, where a connection is drawn from that node to
itself. -/
theorem a_flow_with_two_nodes_of_one_id_withstands_refusals :
    let s : Setup := ⟨{}, .standard, ⟨1000, by decide⟩⟩
    let id : Json := .str "twin"
    ∃ (w : Workspace) (d : Desk), w.desk = some d ∧ w.store.Backs w.desk ∧ ¬ d.flow.ids.Nodup ∧
      d.editor.hasSelected id = true ∧ d.editor.gesture.isDrawing = true ∧
      (∃ w' why, w.edit s (.updateData id (.obj [("size", .int 1)])) = (w', .refused why) ∧
        w.Withstands w' (.updateData id (.obj [("size", .int 1)])) ∧ w'.store = w.store) ∧
      (∃ w' why d', w.edit s (.completeConnect id) = (w', .refused why) ∧
        w.Withstands w' (.completeConnect id) ∧ w'.desk = some d' ∧
        d'.editor.gesture.isDrawing = false) ∧
      (∃ w' why, w.rollback 0 id = (w', .refused why) ∧ w' = w) := by
  intro s id
  let first : Node := ⟨id, .condition {}, [], []⟩
  let second : Node := ⟨id, .condition {}, [], []⟩
  let f : Flow :=
    { id := .str "twins", name := .null, description := .null, category := .null, status := .published
      label := .null, nodes := [first, second], edges := [], createdAt := 0, updatedAt := 0 }
  let d : Desk :=
    { editor := { flow := f, selected := some first, gesture := ⟨id, .yes⟩ }, keeping := .own f.graph }
  let w : Workspace := { store := ⟨[f]⟩, desk := some d }
  obtain ⟨hedit, hrollback, hends⟩ := a_refusal_comes_before_the_first_change s w
  have hbacks : w.store.Backs w.desk := by
    refine ⟨⟨List.forall_mem_singleton.mpr rfl, List.pairwise_singleton _ _⟩, ?_⟩
    rintro _ ⟨⟩
    exact Desk.isTrueTo_own rfl rfl fun _ => List.mem_singleton_self f
  have hupdate : w.edit s (.updateData id (.obj [("size", .int 1)])) = (_, .refused _) := rfl
  have hcomplete : w.edit s (.completeConnect id) = (_, .refused _) := rfl
  have hback : w.rollback 0 id = (_, .refused _) := rfl
  have htwins : ¬ d.flow.ids.Nodup := fun hnodup =>
    (List.nodup_cons.mp hnodup).1 (List.mem_singleton_self id)
  have hwithstands := hedit _ _ _ hupdate
  exact ⟨w, d, rfl, hbacks, htwins, rfl, rfl, ⟨_, _, hupdate, hwithstands, hwithstands.store hbacks⟩,
    ⟨_, _, _, hcomplete, hedit _ _ _ hcomplete, rfl, hends _ _ _ _ hcomplete rfl⟩,
    ⟨_, _, hback, hrollback _ _ _ _ hback⟩⟩

end Dialogue
