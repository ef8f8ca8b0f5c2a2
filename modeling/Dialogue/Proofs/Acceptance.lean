-- What the editor accepts and what validation allows are one. In a flow without errors two nodes can
-- be connected exactly when the flow with the new edge has no errors either, under one of the labels
-- that the request leaves open.
import Dialogue.Proofs.NextSteps

namespace Dialogue

open Json

theorem Outcome.ok_of_bind {α β : Type} {x : Outcome α} {next : α → Outcome β} {b : β}
    (h : x >>= next = .ok b) : ∃ a, x = .ok a ∧ next a = .ok b := by
  cases x with
  | error fault => cases h
  | ok a => exact ⟨a, rfl, h⟩

namespace Flow

variable {f : Flow} {x : Edge} {most now : Int}

/-! ## What validation allows -/

/-- Validation comes to a verdict, and finds no error. -/
def Passes (f : Flow) (most now : Int) : Prop := ∃ r, f.validate most now = .ok r ∧ r.errors = []

theorem passes_iff (h : f.Worded) : f.Passes most now ↔
    Clock.isDated now = true ∧ f.Lawful ∧ (f.nodes.length : Int) ≤ most := by
  constructor
  · rintro ⟨r, hr, hnone⟩
    have hnow := isDated_of_validate hr
    obtain ⟨r', hr', hvalid⟩ := validation_passes_exactly_the_lawful_flows h most hnow
    cases hr.symm.trans hr'
    exact ⟨hnow, hvalid.mp (List.isEmpty_iff.mpr hnone)⟩
  · rintro ⟨hnow, hlawful⟩
    obtain ⟨r, hr, hvalid⟩ := validation_passes_exactly_the_lawful_flows h most hnow
    exact ⟨r, hr, List.isEmpty_iff.mp (hvalid.mpr hlawful)⟩

theorem mem_of_issues {found : List Issue} (h : f.issues most = .ok found) :
    ∀ i ∈ f.issuesOfEdges [] f.edges, i ∈ found := by
  obtain ⟨_, -, h⟩ := Outcome.ok_of_bind h
  obtain ⟨_, -, h⟩ := Outcome.ok_of_bind h
  obtain ⟨_, -, h⟩ := Outcome.ok_of_bind h
  obtain ⟨connections, -, h⟩ := Outcome.ok_of_bind h
  obtain ⟨_, -, h⟩ := Outcome.ok_of_bind h
  obtain ⟨_, -, h⟩ := Outcome.ok_of_bind h
  cases h
  intro i hi
  simp [hi]

theorem Passes.issuesOfEdges_eq_nil (h : f.Passes most now) : f.issuesOfEdges [] f.edges = [] := by
  obtain ⟨r, hr, hnone⟩ := h
  obtain ⟨found, hfound, hr⟩ := Outcome.ok_of_bind hr
  obtain ⟨_, -, hr⟩ := Outcome.ok_of_bind hr
  cases hr
  rw [List.eq_nil_iff_forall_not_mem]
  intro i hi
  rw [Report.errors, List.filter_eq_nil_iff] at hnone
  exact hnone i (mem_of_issues hfound i hi) (issuesOfEdges_errors f [] f.edges i hi)

theorem ends_known_of_issuesOfEdges (hids : ∀ n ∈ f.nodes, n.id.IsText) {earlier edges : List Edge}
    (h : f.issuesOfEdges earlier edges = []) :
    ∀ x ∈ edges, x.source ∈ f.ids ∧ x.target ∈ f.ids := by
  induction edges generalizing earlier with
  | nil => simp
  | cons y rest ih =>
    rw [issuesOfEdges, List.append_eq_nil_iff] at h
    refine List.forall_mem_cons.mpr ⟨?_, ih h.2⟩
    by_contra hunknown
    have hissue := h.1
    unfold issuesOfEdge at hissue
    rw [(ends?_eq_none_iff hids y).mpr hunknown] at hissue
    cases hissue

/-- Whatever else a flow holds, it passes only if every edge leads from a node to a node. -/
theorem Passes.ends_known (h : f.Passes most now) (hids : ∀ n ∈ f.nodes, n.id.IsText) :
    ∀ x ∈ f.edges, x.source ∈ f.ids ∧ x.target ∈ f.ids :=
  ends_known_of_issuesOfEdges hids h.issuesOfEdges_eq_nil

/-! ## A flow with one edge more -/

theorem worded_addEdge (h : f.Worded) (hids : f.ids.Nodup) (hsource : x.source.IsText)
    (htarget : x.target.IsText) (hlabel : x.label.IsWord) : (f.addEdge x).Worded where
  ids := by
    intro m hm
    obtain ⟨n, hn, hid, -⟩ := mem_addEdge h.ids hids hm
    exact hid ▸ h.ids n hn
  ends := List.forall_mem_append.mpr ⟨h.ends, by simpa using ⟨hsource, htarget⟩⟩
  labels := List.forall_mem_append.mpr ⟨h.labels, by simpa using hlabel⟩
  connections := by
    intro m hm
    obtain ⟨n, hn, -, -, hconnections⟩ := mem_addEdge h.ids hids hm
    rw [hconnections]
    refine List.forall_mem_append.mpr ⟨h.connections n hn, ?_⟩
    split
    · simpa using htarget
    · simp

/-- A lawful flow with one edge more is lawful only if the edge may stand there. -/
theorem admits_of_lawful (htext : ∀ n ∈ f.nodes, n.id.IsText) (h : f.Lawful)
    (hx : (f.addEdge x).Lawful) : f.Admits x := by
  have hnew : x ∈ (f.addEdge x).edges := by simp [edges_addEdge]
  have hnodes := nodes_addEdge htext h.ids_nodup x
  have hfits : f.Fits x := by
    refine (hx.edges_fit x hnew).transfer (fun id hid _ => ids_addEdge f x ▸ hid) fun n hn _ => ?_
    rw [hnodes]
    exact ⟨_, List.mem_map_of_mem hn, rfl, rfl⟩
  refine ⟨hfits, ?_, ?_⟩
  · have hends := hx.ends_nodup
    rw [edges_addEdge, List.map_append, List.map_singleton, List.nodup_append] at hends
    intro hmem
    exact hends.2.2 x.ends hmem x.ends (by simp) rfl
  · intro n hn hid hcondition
    have hequals : x.source.equals n.id = true :=
      (equals_iff_of_right (htext n hn).isWord).mpr hid.symm
    have hmem := List.mem_map_of_mem
      (f := fun n : Node => { n with connections :=
        n.connections ++ (if n.id.equals x.source then [x.target] else []) }) hn
    rw [← hnodes] at hmem
    obtain ⟨hnodup, hlabels⟩ := hx.branches _ hmem hcondition
    simp only [outgoing_addEdge, hequals, if_true, List.map_append, List.map_singleton,
      List.nodup_append] at hnodup hlabels
    refine ⟨hlabels x.label (by simp), fun hold => ?_⟩
    exact hnodup.2.2 x.label hold x.label (by simp) rfl

/-- An edge may stand in a flow that passes exactly when the flow passes with it. -/
theorem passes_addEdge_iff (h : f.Worded) (hf : f.Passes most now) (hlabel : x.label.IsWord) :
    (f.addEdge x).Passes most now ↔ f.Admits x := by
  obtain ⟨hnow, hlawful, hsize⟩ := (passes_iff h).mp hf
  have hworded : x.source ∈ f.ids ∧ x.target ∈ f.ids → (f.addEdge x).Worded := by
    rintro ⟨hsource, htarget⟩
    exact worded_addEdge h hlawful.ids_nodup (h.isText_of_mem_ids hsource)
      (h.isText_of_mem_ids htarget) hlabel
  constructor
  · intro hpasses
    have htext : ∀ m ∈ (f.addEdge x).nodes, m.id.IsText := by
      intro m hm
      obtain ⟨n, hn, hid, -⟩ := mem_addEdge h.ids hlawful.ids_nodup hm
      exact hid ▸ h.ids n hn
    have hknown := hpasses.ends_known htext x (by simp [edges_addEdge])
    rw [ids_addEdge] at hknown
    exact admits_of_lawful h.ids hlawful ((passes_iff (hworded hknown)).mp hpasses).2.1
  · intro hadmits
    have hknown := And.intro hadmits.fits.source_known hadmits.fits.target_known
    refine (passes_iff (hworded hknown)).mpr ⟨hnow, lawful_addEdge h.ids hlawful hadmits, ?_⟩
    rw [nodes_addEdge h.ids hlawful.ids_nodup, List.length_map]
    exact hsize

end Flow

/-! ## What the editor accepts -/

/-- The handle that a request goes by: its own, or else that of a connection drawn from the
source. -/
inductive Gesture.Settles (g : Gesture) (source : Json) : Option Handle → Option Handle → Prop where
  | own (h : Handle) : Settles g source (some h) (some h)
  | drawn (hsource : g.source = source) : Settles g source none (some g.handle)
  | neither (hsource : g.source ≠ source) : Settles g source none none

/-- The branches that are left open by the handle that a request goes by. -/
def Handle.leavesOpen : Option Handle → List String
  | some .yes => ["Yes"]
  | some .no => ["No"]
  | some .default | none => ["Yes", "No"]

/-- The labels that a request to connect two nodes permits. -/
inductive Editor.Permits (e : Editor) (source : Json) (handle : Option Handle) : Json → Prop where
  | plain (h : ∀ n ∈ e.flow.nodes, n.id = source → n.kind ≠ .condition) :
      Permits e source handle .null
  | branch {n : Node} {settled : Option Handle} {label : String} (hn : n ∈ e.flow.nodes)
      (hid : n.id = source) (hkind : n.kind = .condition)
      (hsettled : e.gesture.Settles source handle settled)
      (hlabel : label ∈ Handle.leavesOpen settled) : Permits e source handle (.str label)

theorem Gesture.settles_iff (g : Gesture) {source : Json} (hsource : source.IsText)
    (handle settled : Option Handle) :
    g.Settles source handle settled ↔ handle.or (g.handleFor? source) = settled := by
  have hsame := same_iff_of_right (a := g.source) hsource.isWord
  unfold handleFor?
  constructor
  · rintro (h | hs | hs)
    · rfl
    · rw [if_pos (hsame.mpr hs), Option.none_or]
    · rw [if_neg (fun h => hs (hsame.mp h)), Option.none_or]
  · rintro rfl
    cases handle with
    | some h => exact .own h
    | none =>
      by_cases hs : g.source.same source = true
      · rw [if_pos hs]
        exact .drawn (hsame.mp hs)
      · rw [if_neg hs]
        exact .neither fun heq => hs (hsame.mpr heq)

namespace Editor

variable {e : Editor}

theorem branchLabel_ok_iff (settled : Option Handle) (taken : List Json) :
    (∃ l, branchLabel settled taken = .ok l) ↔
      ∃ l ∈ Handle.leavesOpen settled, Json.str l ∉ taken := by
  have hin : ∀ l, Json.str l ∉ taken ↔ (Json.str l).isIn taken = false := by
    intro l
    rw [← isIn_iff (isText_str l).isWord, Bool.not_eq_true]
  simp only [hin]
  unfold branchLabel
  cases hyes : (Json.str "Yes").isIn taken <;> cases hno : (Json.str "No").isIn taken <;>
    rcases settled with _ | _ | _ | _ <;>
    simp [Handle.leavesOpen, Handle.branch?, List.find?, hyes, hno]

theorem mem_leavesOpen {settled : Option Handle} {l : String}
    (h : l ∈ Handle.leavesOpen settled) : l = "Yes" ∨ l = "No" := by
  rcases settled with _ | _ | _ | _ <;> simp [Handle.leavesOpen] at h <;> simp [h]

/-- A condition gives out a branch exactly when one of the permitted ones is free. -/
theorem exists_branchLabel_iff (h : e.flow.Worded) {s : Node} (hs : s ∈ e.flow.nodes)
    (hcondition : s.kind = .condition) (handle : Option Handle) (taken : List Json) :
    (∃ l, branchLabel (handle.or (e.gesture.handleFor? s.id)) taken = .ok l) ↔
      ∃ label, e.Permits s.id handle label ∧ (label = .str "Yes" ∨ label = .str "No") ∧
        label ∉ taken := by
  have hsettles := e.gesture.settles_iff (h.ids s hs) handle
  rw [branchLabel_ok_iff]
  constructor
  · rintro ⟨l, hopen, hfree⟩
    refine ⟨.str l, .branch hs rfl hcondition ((hsettles _).mpr rfl) hopen, ?_, hfree⟩
    rcases mem_leavesOpen hopen with rfl | rfl
    · exact Or.inl rfl
    · exact Or.inr rfl
  · rintro ⟨label, hpermits, -, hfree⟩
    cases hpermits with
    | plain hplain => exact absurd hcondition (hplain s hs rfl)
    | branch _ _ _ hsettled hopen =>
      rw [(hsettles _).mp hsettled]
      exact ⟨_, hopen, hfree⟩

theorem permits_null (hids : e.flow.ids.Nodup) {s : Node} (hs : s ∈ e.flow.nodes)
    (hplain : s.kind ≠ .condition) (handle : Option Handle) : e.Permits s.id handle .null := by
  refine .plain fun n hn hid => ?_
  rw [Flow.node_eq_of_id_eq hids hn hs hid]
  exact hplain

theorem isKey_labels (h : e.flow.Worded) (id : Json) :
    ((e.flow.outgoing id).map (·.label)).all Json.isKey = true := by
  rw [List.all_eq_true]
  intro l hl
  obtain ⟨x, hx, rfl⟩ := List.mem_map.mp hl
  exact (h.labels x (List.mem_of_mem_filter hx)).isKey

/-- An edge is drawn exactly when the flow may have it under one of the permitted labels. -/
theorem addEdge_done_iff (h : e.flow.Worded) (hids : e.flow.ids.Nodup) (nextId : Nat)
    (id source target : Json) (handle : Option Handle) :
    (∃ product, (e.addEdge nextId source target handle).reply = .done product) ↔
      ∃ label, e.Permits source handle label ∧ e.flow.Admits ⟨id, source, target, label⟩ := by
  have hrefused : ∀ r, ¬ ∃ product, (e.refuse nextId r).reply = .done product := by
    rintro r ⟨product, hdone⟩
    cases hdone
  unfold addEdge
  split
  · rename_i hnone
    refine iff_of_false (hrefused _) ?_
    rintro ⟨label, -, hadmits⟩
    exact (h.node?_eq_none_iff source).mp hnone hadmits.fits.source_known
  · rename_i hnone _
    refine iff_of_false (hrefused _) ?_
    rintro ⟨label, -, hadmits⟩
    exact (h.node?_eq_none_iff target).mp hnone hadmits.fits.target_known
  · rename_i s t hfound htfound
    obtain ⟨hs, rfl⟩ := h.node?_spec hfound
    obtain ⟨ht, rfl⟩ := h.node?_spec htfound
    simp only [admits_iff_checks h hids hs ht]
    split
    · rename_i hloop
      exact iff_of_false (hrefused _) fun ⟨_, _, hchecks⟩ => hchecks.1 hloop
    · rename_i hloop
      split
      · rename_i hstart
        exact iff_of_false (hrefused _) fun ⟨_, _, hchecks⟩ => hchecks.2.1 hstart
      · rename_i hstart
        split
        · rename_i hfinish
          exact iff_of_false (hrefused _) fun ⟨_, _, hchecks⟩ => hchecks.2.2.1 hfinish
        · rename_i hfinish
          split
          · rename_i hpair
            exact iff_of_false (hrefused _) fun ⟨_, _, hchecks⟩ => hchecks.2.2.2.1 hpair
          · rename_i hpair
            split
            · rename_i hcondition
              rw [beq_iff_eq] at hcondition
              rw [if_pos (isKey_labels h s.id)]
              have hbranch := exists_branchLabel_iff h hs hcondition handle
                ((e.flow.outgoing s.id).map (·.label))
              constructor
              · rintro ⟨product, hdone⟩
                split at hdone
                · cases hdone
                · rename_i l hl
                  obtain ⟨label, hpermits, hlabel⟩ := hbranch.mp ⟨l, hl⟩
                  exact ⟨label, hpermits, hloop, hstart, hfinish, hpair, fun _ => hlabel⟩
              · rintro ⟨label, hpermits, -, -, -, -, hlabel⟩
                obtain ⟨l, hl⟩ := hbranch.mpr ⟨label, hpermits, hlabel hcondition⟩
                rw [hl]
                exact ⟨_, rfl⟩
            · rename_i hplain
              rw [beq_iff_eq] at hplain
              exact iff_of_true ⟨_, rfl⟩ ⟨.null, permits_null hids hs hplain handle, hloop, hstart,
                hfinish, hpair, fun hcondition => absurd hcondition hplain⟩

end Editor

/-! ## The law -/

/-- In a flow that passes validation two nodes can be connected exactly when the flow with the edge
passes as well, under some label that the request permits. Whatever is drawn or selected meanwhile,
and whatever id the edge is to have. -/
theorem the_editor_accepts_what_validation_allows {e : Editor} (h : e.flow.Worded) {most now : Int}
    {r : Report} (hr : e.flow.validate most now = .ok r) (hnone : r.errors = []) (nextId : Nat)
    (id source target : Json) (handle : Option Handle) :
    (∃ product, (e.addEdge nextId source target handle).reply = .done product) ↔
      ∃ label, e.Permits source handle label ∧
        ∃ r', (e.flow.addEdge ⟨id, source, target, label⟩).validate most now = .ok r' ∧
          r'.errors = [] := by
  have hpasses : e.flow.Passes most now := ⟨r, hr, hnone⟩
  have hlawful := ((Flow.passes_iff h).mp hpasses).2.1
  rw [Editor.addEdge_done_iff h hlawful.ids_nodup nextId id]
  refine exists_congr fun label => and_congr_right fun hpermits => ?_
  have hlabel : label.IsWord := by
    cases hpermits with
    | plain _ => exact Or.inl rfl
    | branch _ _ _ _ _ => exact (isText_str _).isWord
  exact (Flow.passes_addEdge_iff h hpasses hlabel).symm

/-- So a fork that has one of its branches gives out the other one to a connection that is drawn from
its handle, and to nobody the one it has. -/
theorem the_fork_gives_out_its_free_branch :
    ∃ (e : Editor) (r : Report) (asked bye : Json), e.flow.Worded ∧
      e.flow.validate 4 0 = .ok r ∧ r.errors = [] ∧
      (∃ n ∈ e.flow.nodes, n.id = asked ∧ n.kind = .condition) ∧
      e.gesture.source = asked ∧ e.gesture.handle = .no ∧
      (∃ label, e.Permits asked none label ∧
        ∃ r', (e.flow.addEdge ⟨.str "third", asked, bye, label⟩).validate 4 0 = .ok r' ∧
          r'.errors = []) ∧
      ¬ ∃ label, e.Permits asked (some .yes) label ∧
        ∃ r', (e.flow.addEdge ⟨.str "third", asked, bye, label⟩).validate 4 0 = .ok r' ∧
          r'.errors = [] := by
  let f : Flow :=
    { Flow.forkFlow with nodes := Flow.forkFlow.nodes ++ [⟨.str "bye", .finish {}, [], []⟩] }
  let asked : Json := .str "asked"
  let bye : Json := .str "bye"
  let e : Editor := { flow := f, gesture := ⟨asked, .no⟩ }
  let r := (f.validate 4 0).toOption.get (by decide +kernel)
  have hwords : f.Worded := by
    constructor <;> simp [f, Flow.forkFlow, isText_str, Json.IsWord]
  have hr : f.validate 4 0 = .ok r := Outcome.eq_ok_get _
  have hnone : r.errors = [] := List.isEmpty_iff.mp (by decide +kernel : r.errors.isEmpty = true)
  have hcondition : ∃ n ∈ f.nodes, n.id = asked ∧ n.kind = .condition :=
    ⟨f.nodes[1], List.getElem_mem _, rfl, rfl⟩
  have hlaw := the_editor_accepts_what_validation_allows (e := e) hwords hr hnone 0 (.str "third")
    asked bye
  have hdrawn : ∃ product, (e.addEdge 0 asked bye none).reply = .done product := ⟨_, rfl⟩
  have htaken : (e.addEdge 0 asked bye (some .yes)).reply =
      .refused (.branchTaken (some "Yes")) := rfl
  refine ⟨e, r, asked, bye, hwords, hr, hnone, hcondition, rfl, rfl, (hlaw none).mp hdrawn, ?_⟩
  rw [← hlaw (some .yes), htaken]
  rintro ⟨product, hdone⟩
  cases hdone

end Dialogue
