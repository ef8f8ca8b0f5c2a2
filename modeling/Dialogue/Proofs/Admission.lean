-- What comes of an import. Where all ids and references can be looked up and put in order, and no
-- node is nested too deep, a flow is let in or refused as one that is there already or is not valid,
-- and then nothing has changed. An id that cannot be looked up ends the import with another fault.
import Dialogue.Proofs.Lifetime
import Dialogue.Proofs.Imported
import Dialogue.Proofs.Ways

namespace Dialogue

open Json

/-! ## Faults -/

namespace Outcome

variable {α β : Type} {P : Fault → Prop}

/-- It ends well, or with a fault of that kind. -/
def FailsOnly (P : Fault → Prop) (x : Outcome α) : Prop := ∀ fault, x = .error fault → P fault

/-- It ends well, or the fault tells what is wrong with the data. -/
abbrev FailsOnData (x : Outcome α) : Prop := FailsOnly (·.isAboutData = true) x

/-- It ends well. -/
abbrev NeverFails (x : Outcome α) : Prop := FailsOnly (fun _ => False) x

namespace FailsOnly

theorem ok (a : α) : FailsOnly P (.ok a) := fun _ h => nomatch h

theorem error {fault : Fault} (h : P fault) : FailsOnly P (.error fault : Outcome α) := by
  intro other hother
  cases hother
  exact h

theorem bind {x : Outcome α} {next : α → Outcome β} (hx : FailsOnly P x)
    (hnext : ∀ a, x = .ok a → FailsOnly P (next a)) : FailsOnly P (x >>= next) := by
  cases x with
  | ok a => exact hnext a rfl
  | error fault => exact .error (hx fault rfl)

theorem mapM {read : α → Outcome β} {xs : List α} (h : ∀ x ∈ xs, FailsOnly P (read x)) :
    FailsOnly P (xs.mapM read) := by
  induction xs with
  | nil => exact .ok []
  | cons x rest ih =>
    rw [List.mapM_cons]
    refine (h x List.mem_cons_self).bind fun y _ => ?_
    refine (ih fun z hz => h z (List.mem_cons_of_mem x hz)).bind fun ys _ => ?_
    exact .ok (y :: ys)

end FailsOnly

end Outcome

/-! ## Faults of reading -/

open Outcome

theorem failsOnData_fields? (j : Json) : FailsOnData j.fields? := by
  unfold fields?
  split
  · exact .ok _
  · exact .error rfl

theorem failsOnData_need (fs : Fields) (key : String) : FailsOnData (need fs key) := by
  unfold need
  split
  · exact .ok _
  · exact .error rfl

theorem failsOnData_asList (j : Json) : FailsOnData j.asList := by
  unfold asList
  split
  · exact .ok _
  · exact .error rfl

theorem failsOnData_listed {α : Type} (list : String) (ofWord? : String → Option α) (j : Json) :
    FailsOnData (Dialogue.listed list ofWord? j) := by
  unfold Dialogue.listed
  split
  · exact .ok _
  · exact .error rfl

theorem failsOnData_entriesOfPairs (place : Nat) (entries : List (Json × Json))
    (pairs : List Json) : FailsOnData (entriesOfPairs place entries pairs) := by
  induction pairs generalizing place entries with
  | nil => exact .ok _
  | cons pair rest ih =>
    rw [entriesOfPairs]
    split
    · exact .error rfl
    · split
      · exact ih _ _
      · exact .error rfl
    · exact .error rfl

theorem failsOnData_asEntries (j : Json) : FailsOnData j.asEntries := by
  unfold asEntries
  split
  · exact .ok _
  · exact .ok _
  · exact (failsOnData_asList _).bind fun pairs _ => failsOnData_entriesOfPairs 0 [] pairs

/-- The data of a node can be read unless it leaves no room for a copy. -/
theorem failsOnData_nodeData {room : Nat} {k : NodeKind} {j : Json} (h : j.copyDepth + 1 ≤ room) :
    FailsOnData (NodeData.ofJson room k j) := by
  unfold NodeData.ofJson
  split
  · exact .error rfl
  · split
    · exact .error rfl
    · dsimp only
      split
      · exact .error rfl
      · split
        · exact .error rfl
        · rw [if_neg (by omega)]
          split
          · split
            · exact .ok _
            · exact .error rfl
          · exact .error rfl

theorem eq_obj_of_fields? {j : Json} {fs : Fields} (h : j.fields? = .ok fs) : j = .obj fs := by
  unfold fields? at h
  split at h
  · cases h
    rfl
  · cases h

theorem fieldsCopyDepth_of_lookup {fs : Fields} {key : String} {j : Json}
    (h : fs.lookup key = some j) : j.copyDepth ≤ fieldsCopyDepth fs := by
  induction fs with
  | nil => cases h
  | cons field rest ih =>
    obtain ⟨k, value⟩ := field
    rw [List.lookup_cons] at h
    unfold fieldsCopyDepth
    split at h
    · cases h
      exact Nat.le_max_left _ _
    · exact Nat.le_trans (ih h) (Nat.le_max_right _ _)

/-- A node can be read unless it leaves no room for a copy. -/
theorem failsOnData_node {room : Nat} {j : Json} (hwide : 6 ≤ room) (h : j.copyDepth + 1 ≤ room) :
    FailsOnData (Node.ofJson room j) := by
  unfold Node.ofJson
  refine (failsOnData_fields? j).bind fun fs hfs => ?_
  have hdata : ((fs.lookup "data").getD (.obj [])).copyDepth + 1 ≤ room - 2 := by
    cases hlookup : fs.lookup "data" with
    | none =>
      have hempty : (Json.obj []).copyDepth = 3 := rfl
      rw [Option.getD_none, hempty]
      omega
    | some given =>
      have hdepth : j.copyDepth = fieldsCopyDepth fs + 2 := by
        rw [eq_obj_of_fields? hfs]
        rfl
      have hle := fieldsCopyDepth_of_lookup hlookup
      rw [Option.getD_some]
      omega
  refine (failsOnData_need fs "type").bind fun kindWord _ => ?_
  refine (failsOnData_listed _ _ kindWord).bind fun kind _ => ?_
  refine (failsOnData_need fs "id").bind fun id _ => ?_
  refine (failsOnData_asEntries _).bind fun position _ => ?_
  refine (failsOnData_nodeData hdata).bind fun data _ => ?_
  exact (failsOnData_asList _).bind fun connections _ => .ok _

theorem failsOnData_edge (j : Json) : FailsOnData (Edge.ofJson j) := by
  unfold Edge.ofJson
  refine (failsOnData_fields? j).bind fun fs _ => ?_
  refine (failsOnData_need fs "id").bind fun id _ => ?_
  refine (failsOnData_need fs "source").bind fun source _ => ?_
  exact (failsOnData_need fs "target").bind fun target _ => .ok _

/-- What is given for the nodes of a flow, each by itself. -/
def nodesGiven (data : Json) : List Json :=
  match data with
  | .obj fs => (((fs.lookup "nodes").getD (.arr [])).elements?).getD []
  | _ => []

theorem nodesGiven_of_asList {fs : Fields} {nodes : List Json}
    (h : asList ((fs.lookup "nodes").getD (.arr [])) = .ok nodes) : nodesGiven (.obj fs) = nodes := by
  unfold asList at h
  split at h
  · rename_i xs hxs
    cases h
    unfold nodesGiven
    dsimp only
    rw [hxs]
    rfl
  · cases h

theorem failsOnData_flow {room : Nat} {now : Int} {data : Json} (hnow : Clock.isDated now = true)
    (hwide : 8 ≤ room) (h : ∀ n ∈ nodesGiven data, n.copyDepth + 3 ≤ room) :
    FailsOnData (Flow.ofJson room now data) := by
  have hdated : Clock.dated now = .ok now := by
    unfold Clock.dated
    rw [if_pos hnow]
  unfold Flow.ofJson
  rw [hdated]
  refine (FailsOnly.ok now).bind fun now _ => ?_
  refine (failsOnData_fields? data).bind fun fs hfs => ?_
  refine (failsOnData_need fs "id").bind fun id _ => ?_
  refine (failsOnData_need fs "name").bind fun name _ => ?_
  refine (failsOnData_listed _ _ _).bind fun status _ => ?_
  refine (failsOnData_asList _).bind fun nodes hnodes => ?_
  rw [eq_obj_of_fields? hfs, nodesGiven_of_asList hnodes] at h
  refine (FailsOnly.mapM fun n hn => ?_).bind fun nodes _ => ?_
  · have hdepth := h n hn
    exact failsOnData_node (by omega) (by omega)
  refine (failsOnData_asList _).bind fun edges _ => ?_
  exact (FailsOnly.mapM fun e _ => failsOnData_edge e).bind fun edges _ => .ok _

/-! ## Flows that can be checked -/

theorem neverFails_keysOnly {xs : List Json} (h : ∀ x ∈ xs, x.isKey = true) :
    NeverFails (keysOnly xs) := by
  unfold keysOnly
  rw [if_pos (List.all_eq_true.mpr h)]
  exact .ok ()

namespace Flow

/-- All that validation asks of a flow: the ids of its nodes, the references to these and the labels
can be looked up, and at each node the connections and the targets of the edges can be put in order. -/
structure Legible (f : Flow) : Prop where
  ids : ∀ n ∈ f.nodes, n.id.isKey = true
  ends : ∀ e ∈ f.edges, e.source.isKey = true ∧ e.target.isKey = true
  labels : ∀ e ∈ f.edges, e.label.isKey = true
  connections : ∀ n ∈ f.nodes, ∀ c ∈ n.connections, c.isKey = true
  ordered : ∀ n ∈ f.nodes, (sorted? n.connections).isSome = true ∧
    (sorted? ((f.outgoing n.id).map (·.target))).isSome = true

/-- All ids, references and labels can be looked up, and at each node the connections and the targets
of the edges can be put in order. -/
structure Checkable (f : Flow) : Prop extends Legible f where
  id : f.id.isKey = true

theorem sorted?_of_texts {xs : List Json} (h : ∀ x ∈ xs, x.IsText) :
    (sorted? xs).isSome = true := by
  obtain ⟨ts, rfl⟩ := exists_map_str h
  rw [sorted?_map_str]
  rfl

/-- So it is where the ids and the references are texts, whatever the labels are that can be looked
up. -/
theorem legible {f : Flow} (h : f.unlabelled.Worded)
    (hlabels : ∀ e ∈ f.edges, e.label.isKey = true) : f.Legible := by
  have hends := List.forall_mem_map.mp h.ends
  constructor
  case ids => exact fun n hn => (h.ids n hn).isWord.isKey
  case ends => exact fun e he => ⟨(hends e he).1.isWord.isKey, (hends e he).2.isWord.isKey⟩
  case labels => exact hlabels
  case connections => exact fun n hn c hc => (h.connections n hn c hc).isWord.isKey
  case ordered =>
    intro n hn
    refine ⟨sorted?_of_texts (h.connections n hn), sorted?_of_texts fun t ht => ?_⟩
    obtain ⟨e, he, rfl⟩ := List.mem_map.mp ht
    exact (hends e (List.mem_of_mem_filter he)).2

theorem Worded.checkable {f : Flow} (h : f.Worded) (hid : f.id.isKey = true) : f.Checkable :=
  ⟨legible h.unlabelled fun e he => (h.labels e he).isKey, hid⟩

namespace Legible

variable {f : Flow}

theorem successors (h : f.Legible) (id : Json) : ∀ t ∈ f.successors id, t.isKey = true :=
  forall_successors (fun n hn => forall_namedTargets (fun _ => rfl) (h.connections n hn))
    (fun e he => (h.ends e he).2) id

theorem reached (h : f.Legible) : ∀ t ∈ f.reached, t.isKey = true :=
  forall_reached h.ids h.successors

theorem connectionsMatch (h : f.Legible) {n : Node} (hn : n ∈ f.nodes) :
    NeverFails (f.connectionsMatch n) := by
  obtain ⟨hconnections, htargets⟩ := h.ordered n hn
  obtain ⟨connections, hc⟩ := Option.isSome_iff_exists.mp hconnections
  obtain ⟨targets, ht⟩ := Option.isSome_iff_exists.mp htargets
  unfold Flow.connectionsMatch
  rw [hc, ht]
  exact .ok _

theorem connectionIssues (h : f.Legible) : NeverFails f.connectionIssues := by
  unfold Flow.connectionIssues
  refine (FailsOnly.mapM fun n hn => ?_).bind fun issues _ => .ok _
  exact (h.connectionsMatch hn).bind fun _ _ => .ok _

/-- Validation of such a flow comes to an end. -/
theorem issues (h : f.Legible) (most : Int) : NeverFails (f.issues most) := by
  have hids : ∀ id ∈ f.ids, id.isKey = true := by
    intro id hid
    obtain ⟨n, hn, rfl⟩ := mem_ids.mp hid
    exact h.ids n hn
  have hends : ∀ id ∈ f.edges.flatMap fun e => [e.source, e.target], id.isKey = true := by
    intro id hid
    obtain ⟨e, he, hid⟩ := List.mem_flatMap.mp hid
    simp only [List.mem_cons, List.not_mem_nil, or_false] at hid
    rcases hid with rfl | rfl
    · exact (h.ends e he).1
    · exact (h.ends e he).2
  have hlabels : ∀ l ∈ f.branches.map (·.2.label), l.isKey = true := by
    intro l hl
    obtain ⟨b, hb, rfl⟩ := List.mem_map.mp hl
    exact h.labels _ (mem_edges_of_mem_branches hb)
  have hnext : ∀ id ∈ (f.nodes.filter (·.kind != .finish)).flatMap fun n => f.successors n.id,
      id.isKey = true := by
    intro id hid
    obtain ⟨n, -, hid⟩ := List.mem_flatMap.mp hid
    exact h.successors n.id id hid
  unfold Flow.issues
  refine (neverFails_keysOnly hids).bind fun _ _ => ?_
  refine (neverFails_keysOnly hends).bind fun _ _ => ?_
  refine (neverFails_keysOnly hlabels).bind fun _ _ => ?_
  refine h.connectionIssues.bind fun connections _ => ?_
  refine (neverFails_keysOnly h.reached).bind fun _ _ => ?_
  exact (neverFails_keysOnly hnext).bind fun _ _ => .ok _

theorem validate (h : f.Legible) (most : Int) {now : Int} (hnow : Clock.isDated now = true) :
    NeverFails (f.validate most now) := by
  unfold Flow.validate Clock.dated
  refine (h.issues most).bind fun issues _ => ?_
  rw [if_pos hnow]
  exact .ok _

end Legible

end Flow

/-! ## The import -/

/-- The flow is there already, or it is not valid. -/
def Fault.IsRefusal : Fault → Prop
  | .flow (.alreadyExists _) | .flow (.invalid _ _) => True
  | _ => False

namespace Workspace

variable {s : Setup} {w : Workspace} {now : Int} {data : Json} {f : Flow}

/-- A flow that is let in is the one that was read. -/
theorem ofJson_of_checkImport (h : w.checkImport s now data = .ok f) :
    Flow.ofJson (s.room.steps - 1) now data = .ok f := by
  unfold checkImport at h
  cases hread : Flow.ofJson (s.room.steps - 1) now data with
  | error fault =>
    rw [hread] at h
    dsimp only at h
    split at h <;> cases h
  | ok g =>
    rw [hread] at h
    simp only [pure_bind] at h
    split at h
    · cases h
    · split at h
      · cases h
      · cases hreport : g.validate s.settings.canvas.maxNodes now with
        | error fault =>
          rw [hreport] at h
          cases h
        | ok r =>
          rw [hreport] at h
          simp only [bind, Except.bind] at h
          split at h <;> cases h
          rfl

theorem failsOnly_checkImport (hread : FailsOnData (Flow.ofJson (s.room.steps - 1) now data))
    (hnow : Clock.isDated now = true)
    (hcheckable : ∀ f, Flow.ofJson (s.room.steps - 1) now data = .ok f → f.Checkable) :
    FailsOnly Fault.IsRefusal (w.checkImport s now data) := by
  unfold checkImport
  cases hgiven : Flow.ofJson (s.room.steps - 1) now data with
  | error fault =>
    dsimp only
    rw [if_pos (hread fault hgiven)]
    exact .error trivial
  | ok f =>
    have hf := hcheckable f hgiven
    simp only [pure_bind, hf.id, Bool.not_true, Bool.false_eq_true, if_false]
    split
    · exact .error trivial
    · refine FailsOnly.bind (fun fault hfault => ?_) fun report _ => ?_
      · exact (hf.validate _ hnow fault hfault).elim
      · split
        · exact .ok f
        · exact .error trivial

/-- A flow with a new id leaves the desk as it is. -/
theorem desk_shelve_new (h : w.store.Backs w.desk) (hnew : w.store.get? f.id = none) :
    (w.shelve f).desk = w.desk := by
  unfold shelve
  cases hd : w.desk with
  | none => rfl
  | some d =>
    have htrue := h.desk d hd
    exact congrArg some (htrue.unlinked_eq fun g hg => Store.not_same_of_get?_none hnew hg)

/-! ## The law -/

/-- What an import does: it stores the flow that was read, behind all others and under a new id, or
refuses it and leaves everything as it was. -/
inductive Admits (s : Setup) (w : Workspace) (now : Int) (data : Json) :
    Workspace × Outcome Flow → Prop where
  | stored {w' : Workspace} {f : Flow} (hread : Flow.ofJson (s.room.steps - 1) now data = .ok f)
      (hflows : w'.store.flows = w.store.flows ++ [f]) (hfind : w'.find f.id = .ok f)
      (hdesk : w'.desk = w.desk) : Admits s w now data (w', .ok f)
  | alreadyThere (id : Json) : Admits s w now data (w, .error (.flow (.alreadyExists id)))
  | notValid (message issues : Json) :
      Admits s w now data (w, .error (.flow (.invalid message issues)))

/-- An import stores a flow or refuses it, in every workspace, if the nodes leave room to be copied,
and if the ids and references of the flow can be looked up and put in order. -/
theorem an_import_stores_or_refuses (hw : w.InUse) (hnow : Clock.isDated now = true)
    (hroom : ∀ n ∈ nodesGiven data, n.copyDepth + 4 ≤ s.room.steps)
    (hcheckable : ∀ f, Flow.ofJson (s.room.steps - 1) now data = .ok f → f.Checkable) :
    w.Admits s now data (w.importFlow s now data) := by
  have hwide := s.room.isWide
  have hread : FailsOnData (Flow.ofJson (s.room.steps - 1) now data) := by
    refine failsOnData_flow hnow (by omega) fun n hn => ?_
    have hdepth := hroom n hn
    omega
  have hfails := failsOnly_checkImport (w := w) hread hnow hcheckable
  unfold importFlow
  cases hcheck : w.checkImport s now data with
  | ok f =>
    obtain ⟨hkey, hnew, -⟩ := checkImport_spec hcheck
    exact .stored (ofJson_of_checkImport hcheck) (Store.put_new hnew)
      (find_shelve hkey (same_self hkey)) (desk_shelve_new hw.backs hnew)
  | error fault =>
    have hrefusal := hfails fault hcheck
    unfold Fault.IsRefusal at hrefusal
    split at hrefusal
    · exact .alreadyThere _
    · exact .notValid _ _
    · exact hrefusal.elim

/-- The fan comes into a workspace in which a new flow is open. -/
theorem the_fan_is_stored_behind_an_open_flow :
    let s : Setup := ⟨{}, .standard, ⟨990, by decide⟩⟩
    let w := ({} : Workspace).afterAll
      [⟨s, 0, .create (.str "Greeting") (.str "") (.str "")⟩, ⟨s, 0, .select (.str (Ids.full 2))⟩]
    let data := Flow.fanFlow.toJson
    w.InUse ∧ Clock.isDated 0 = true ∧
      (∀ n ∈ nodesGiven data, n.copyDepth + 4 ≤ s.room.steps) ∧
      (∀ f, Flow.ofJson (s.room.steps - 1) 0 data = .ok f → f.Checkable) ∧
      w.Admits s 0 data (w.importFlow s 0 data) ∧ w.desk.isSome = true ∧
      (w.importFlow s 0 data).2 = .ok (Flow.fanFlow.afresh 0) := by
  intro s w data
  have hw : w.InUse := InUse.empty.afterAll _
  have hnow : Clock.isDated 0 = true := by decide
  have hroom : ∀ n ∈ nodesGiven data, n.copyDepth + 4 ≤ s.room.steps := by decide +kernel
  have hbounds : Flow.fanFlow.InBounds := by
    simp [Flow.InBounds, Flow.fanFlow, NodeData.InBounds]
  have hread : Flow.ofJson (s.room.steps - 1) 0 data = .ok (Flow.fanFlow.afresh 0) :=
    Flow.ofJson_toJson hbounds (by decide) hnow
  have hcheckable : ∀ f, Flow.ofJson (s.room.steps - 1) 0 data = .ok f → f.Checkable := by
    intro f hf
    cases hread.symm.trans hf
    have hworded : (Flow.fanFlow.afresh 0).Worded :=
      ⟨Flow.fanFlow_worded.ids, Flow.fanFlow_worded.ends, Flow.fanFlow_worded.labels,
        Flow.fanFlow_worded.connections⟩
    exact hworded.checkable rfl
  have hedges : Flow.fanFlow.TellsEdges := by simp [Flow.TellsEdges, Flow.fanFlow, isText_str]
  have hsound : Flow.fanFlow.Sound := Flow.fanFlow_lawful.sound Flow.fanFlow_worded hedges
  have himport : w.importFlow s 0 data = _ :=
    importFlow_toJson hsound hbounds (by decide) rfl (by decide +kernel) hnow
  refine ⟨hw, hnow, hroom, hcheckable, an_import_stores_or_refuses hw hnow hroom hcheckable,
    by decide +kernel, ?_⟩
  rw [himport]

/-- A list as the id of a flow ends the import with another fault, before anything is checked. -/
theorem an_id_that_is_a_list_is_another_fault :
    let s : Setup := ⟨{}, .standard, ⟨990, by decide⟩⟩
    let data : Json := .obj [("id", .arr []), ("name", .str "Nameless")]
    (({} : Workspace).importFlow s 0 data).2 = .error .wrongKind ∧
      ¬ ({} : Workspace).Admits s 0 data (({} : Workspace).importFlow s 0 data) := by
  intro s data
  have hfault : ({} : Workspace).importFlow s 0 data = ({}, .error .wrongKind) := rfl
  rw [hfault]
  exact ⟨rfl, fun hadmits => nomatch hadmits⟩

end Workspace

end Dialogue
