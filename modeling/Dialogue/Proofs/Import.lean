-- An export can be imported again. The parts of a flow read back as they were written, and so does
-- the flow, but that it has no versions then and is as young as its import.
import Dialogue.Proofs.Homegrown

namespace Dialogue

open Json

/-- Reading a list undoes writing it where it does so for each element. -/
theorem mapM_map_of_reads {α : Type} {read : Json → Outcome α} {write : α → Json} {xs : List α}
    (h : ∀ x ∈ xs, read (write x) = .ok x) : (xs.map write).mapM read = .ok xs := by
  induction xs with
  | nil => rfl
  | cons x rest ih =>
    have hrest := ih fun y hy => h y (List.mem_cons_of_mem x hy)
    simp only [List.map_cons, List.mapM_cons, h x (by simp), hrest]
    rfl

/-! ## Positions -/

theorem map_fieldsOfEntries? {entries : List (Json × Json)} {fs : Fields}
    (h : fieldsOfEntries? entries = some fs) : fs.map (fun f => (.str f.1, f.2)) = entries := by
  induction entries generalizing fs with
  | nil =>
    cases h
    rfl
  | cons entry rest ih =>
    obtain ⟨key, value⟩ := entry
    cases key with
    | str k =>
      obtain ⟨gs, hgs, rfl⟩ := Option.map_eq_some_iff.mp h
      simp [ih hgs]
    | _ => cases h

theorem asEntries_ofEntries (entries : List (Json × Json)) :
    (ofEntries entries).asEntries = .ok entries := by
  unfold ofEntries
  split
  · rename_i fs hfs
    rw [asEntries, map_fieldsOfEntries? hfs]
  · rfl

/-! ## The parts of a flow -/

theorem NodeKind.ofJson_word (k : NodeKind) : NodeKind.ofJson (.str k.word) = .ok k := by
  simp [NodeKind.ofJson, listed, str?, NodeKind.ofWord?_word]

theorem Status.ofJson_word (s : Status) : Status.ofJson (.str s.word) = .ok s := by
  cases s <;> rfl

theorem Edge.ofJson_toJson (e : Edge) : Edge.ofJson e.toJson = .ok e := rfl

theorem Node.ofJson_toJson {n : Node} (h : n.data.InBounds) {room : Nat} (hroom : 11 ≤ room) :
    Node.ofJson room n.toJson = .ok n := by
  have hdata : NodeData.ofJson (room - 2) n.kind n.data.toJson = .ok n.data :=
    NodeData.ofJson_toJson h (by omega)
  have hread : Node.ofJson room n.toJson = (do
      let kind ← NodeKind.ofJson (.str n.kind.word)
      let position ← (ofEntries n.position).asEntries
      let data ← NodeData.ofJson (room - 2) kind n.data.toJson
      return ⟨n.id, data, position, n.connections⟩) := rfl
  rw [hread, NodeKind.ofJson_word, asEntries_ofEntries]
  change (do
    let data ← NodeData.ofJson (room - 2) n.kind n.data.toJson
    return ⟨n.id, data, n.position, n.connections⟩) = Except.ok n
  rw [hdata]
  rfl

/-! ## Flows -/

namespace Flow

/-- The flow as its export brings it back: without versions, and as young as the import. -/
def afresh (f : Flow) (now : Int) : Flow :=
  { f with versions := [], createdAt := now, updatedAt := now }

theorem ofJson_toJson {f : Flow} (h : f.InBounds) {room : Nat} (hroom : 13 ≤ room) {now : Int}
    (hnow : Clock.isDated now = true) : Flow.ofJson room now f.toJson = .ok (f.afresh now) := by
  have hnodes : (f.nodes.map Node.toJson).mapM (Node.ofJson (room - 2)) = .ok f.nodes :=
    mapM_map_of_reads fun n hn => Node.ofJson_toJson (h n hn) (by omega)
  have hedges : (f.edges.map Edge.toJson).mapM Edge.ofJson = .ok f.edges :=
    mapM_map_of_reads fun e _ => Edge.ofJson_toJson e
  have hread : Flow.ofJson room now f.toJson = (do
      let now ← Clock.dated now
      let status ← Status.ofJson (.str f.status.word)
      let nodes ← (f.nodes.map Node.toJson).mapM (Node.ofJson (room - 2))
      let edges ← (f.edges.map Edge.toJson).mapM Edge.ofJson
      return { f with status, nodes, edges, versions := [], createdAt := now, updatedAt := now }) :=
    rfl
  rw [hread, hnodes, hedges, Status.ofJson_word, Clock.dated, if_pos hnow]
  rfl

end Flow

/-! ## The store -/

namespace Store

theorem get?_erase (s : Store) (id : Json) : (s.erase id).get? id = none := by
  unfold erase get?
  simp

theorem get?_put (s : Store) {f : Flow} (hf : f.id.same f.id = true) :
    (s.put f).get? f.id = some f := by
  unfold put get?
  induction s.flows with
  | nil => simp [place, hf]
  | cons g rest ih =>
    by_cases hg : g.id.same f.id = true
    · simp [place, hg, hf]
    · simp [place, hg, ih]

end Store

namespace Workspace

variable {w : Workspace}

/-- A flow that is found can be looked up by its id. -/
theorem same_of_find {id : Json} {f : Flow} (h : w.find id = .ok f) :
    id.isKey = true ∧ f.id.same id = true := by
  unfold find at h
  split at h
  · rename_i hkey
    split at h
    · rename_i g hg
      cases h
      have hsame := List.find?_some (hg : w.store.flows.find? (·.id.same id) = some f)
      exact ⟨hkey, hsame⟩
    · cases h
  · cases h

theorem find_shelve {f : Flow} (hkey : f.id.isKey = true) (hsame : f.id.same f.id = true) :
    (w.shelve f).find f.id = .ok f := by
  unfold find shelve
  dsimp only
  rw [if_pos hkey, Store.get?_put _ hsame]

theorem deleteFlow_spec {id : Json} {f : Flow} (h : w.find id = .ok f) :
    (w.deleteFlow id).2 = .ok () ∧ (w.deleteFlow id).1.store.has id = false := by
  unfold deleteFlow Store.has
  rw [h]
  exact ⟨rfl, by rw [Store.get?_erase]; rfl⟩

/-- What is let in has a new id, which can be looked up, and passes validation. -/
theorem checkImport_spec {s : Setup} {now : Int} {data : Json} {f : Flow}
    (h : w.checkImport s now data = .ok f) : f.id.isKey = true ∧ w.store.get? f.id = none ∧
      ∃ r, f.validate s.settings.canvas.maxNodes now = .ok r ∧ r.valid = true := by
  unfold checkImport at h
  cases hread : Flow.ofJson (s.room.steps - 1) now data with
  | error fault =>
    rw [hread] at h
    dsimp only at h
    split at h <;> cases h
  | ok f' =>
    rw [hread] at h
    simp only [pure_bind] at h
    split at h
    · cases h
    · rename_i hkey
      split at h
      · cases h
      · rename_i hfree
        cases hreport : f'.validate s.settings.canvas.maxNodes now with
        | error fault =>
          rw [hreport] at h
          cases h
        | ok r =>
          rw [hreport] at h
          simp only [bind, Except.bind] at h
          split at h
          · rename_i hvalid
            cases h
            rw [Store.has, Option.not_isSome_iff_eq_none] at hfree
            exact ⟨by simpa using hkey, hfree, r, hreport, hvalid⟩
          · cases h

/-- What was exported from a sound flow is let in where its id is free, if its data is within bounds
and it is not too large. -/
theorem importFlow_toJson {s : Setup} {f : Flow} (hsound : f.Sound) (hbounds : f.InBounds)
    (hsize : (f.nodes.length : Int) ≤ s.settings.canvas.maxNodes) (hkey : f.id.isKey = true)
    (hfree : w.store.has f.id = false) {now : Int} (hnow : Clock.isDated now = true) :
    w.importFlow s now f.toJson = (w.shelve (f.afresh now), .ok (f.afresh now)) := by
  have hwide := s.room.isWide
  have hread : Flow.ofJson (s.room.steps - 1) now f.toJson = .ok (f.afresh now) :=
    Flow.ofJson_toJson hbounds (by omega) hnow
  have hafresh : (f.afresh now).Sound := hsound.congr rfl rfl
  obtain ⟨broken, hreport, herrors, hrules⟩ :=
    Flow.validate_spec hafresh.worded s.settings.canvas.maxNodes hnow
  have hvalid := (Flow.valid_of_report herrors hrules s.settings.canvas.maxNodes now).mpr
    ⟨hafresh.lawful, hsize⟩
  have hkey' : (!(f.afresh now).id.isKey) = false := by simp [Flow.afresh, hkey]
  have hfree' : w.store.has (f.afresh now).id = false := hfree
  have hcheck : w.checkImport s now f.toJson = .ok (f.afresh now) := by
    unfold checkImport
    rw [hread]
    simp only [pure_bind, hkey', hfree', hreport, Bool.false_eq_true, if_false]
    exact if_pos hvalid
  unfold importFlow
  rw [hcheck]

end Workspace

/-! ## There and back -/

/-- Where a homegrown flow is not too large, deleting it and importing its export brings it back
under its id as it was, but for its versions and its times. -/
theorem an_export_brings_a_homegrown_flow_back {settings : Settings}
    (definitions : List Definition) {room : Room} {f : Flow}
    (h : Homegrown ⟨settings, definitions.foldl Palette.register .standard, room⟩ f)
    (hsize : (f.nodes.length : Int) ≤ settings.canvas.maxNodes) {w : Workspace}
    (hfind : w.find f.id = .ok f) {now : Int} (hnow : Clock.isDated now = true) :
    let s : Setup := ⟨settings, definitions.foldl Palette.register .standard, room⟩
    let deleted := w.deleteFlow f.id
    let imported := deleted.1.importFlow s now f.toJson
    deleted.2 = .ok () ∧ imported.2 = .ok (f.afresh now) ∧
      imported.1.find f.id = .ok (f.afresh now) := by
  intro s deleted imported
  obtain ⟨hkey, hsame⟩ := Workspace.same_of_find hfind
  obtain ⟨hdeleted, hfree⟩ := Workspace.deleteFlow_spec hfind
  have himported : imported = (deleted.1.shelve (f.afresh now), .ok (f.afresh now)) :=
    Workspace.importFlow_toJson (h.sound (Palette.current_kind definitions)) h.inBounds hsize hkey
      hfree hnow
  refine ⟨hdeleted, by rw [himported], ?_⟩
  rw [himported]
  exact Workspace.find_shelve (f := f.afresh now) hkey hsame

theorem an_export_brings_a_published_greeting_back :
    ∃ (f : Flow) (w : Workspace), f.status = .published ∧ f.versions.length = 1 ∧
      f.edges.length = 1 ∧ Homegrown ⟨{}, .standard, ⟨1000, by decide⟩⟩ f ∧
      (f.nodes.length : Int) ≤ 500 ∧ w.find f.id = .ok f ∧ Clock.isDated 0 = true ∧
      ((w.deleteFlow f.id).1.importFlow ⟨{}, .standard, ⟨1000, by decide⟩⟩ 0 f.toJson).1.find f.id =
        .ok (f.afresh 0) := by
  obtain ⟨f, hf, hedges, hstatus, hversions, hnodes, hkey, hsame⟩ := exists_published_greeting
  have hsize : (f.nodes.length : Int) ≤ 500 := by omega
  have hfind : (({} : Workspace).shelve f).find f.id = .ok f := Workspace.find_shelve hkey hsame
  have hnow : Clock.isDated 0 = true := by decide
  exact ⟨f, _, hstatus, hversions, hedges, hf, hsize, hfind, hnow,
    (an_export_brings_a_homegrown_flow_back [] hf hsize hfind hnow).2.2⟩

end Dialogue
