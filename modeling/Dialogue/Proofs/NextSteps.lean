-- The warning of a node without a next step. Validation looks at all that may follow a node at once,
-- and a run asks for one next node, by the edges first and by what the node names itself after that.
-- In a flow that validation passes, the warning stands exactly where a run cannot go on.
import Dialogue.Proofs.Imported
import Dialogue.Proofs.Ways

namespace Dialogue

open Json

namespace Flow

/-- No run goes on from the node: by no answer from a condition, and by default from the others. -/
def IsStuckAt (f : Flow) (n : Node) : Prop :=
  if n.kind = .condition then ∀ matched, Session.branchNext f n matched = none
  else Session.defaultNext f n = none

variable {f : Flow} {n : Node}

/-! ## What follows a node -/

theorem Worded.node?_eq_none_iff (h : f.Worded) (id : Json) : f.node? id = none ↔ id ∉ f.ids := by
  unfold node?
  rw [List.find?_eq_none, mem_ids]
  constructor
  · rintro hn ⟨n, hmem, hid⟩
    exact hn n hmem ((equals_iff_of_left (h.ids n hmem).isWord).mpr hid)
  · intro hn n hmem hs
    exact hn ⟨n, hmem, (equals_iff_of_left (h.ids n hmem).isWord).mp hs⟩

/-- What a node names itself are its connections and the targets of its branches. -/
theorem mem_namedTargets_iff {t : Json} : t ∈ n.namedTargets ↔
    t ∈ n.connections ∨ ∃ matched id, Session.namedBranch n.data matched = some id ∧ t = .str id := by
  constructor
  · intro ht
    unfold Node.namedTargets at ht
    split at ht
    · rename_i d hdata
      rcases List.mem_append.mp ht with ht | ht
      · exact Or.inl ht
      · obtain ⟨id, hid, rfl⟩ := List.mem_map.mp ht
        obtain ⟨hid, hne⟩ := List.mem_filter.mp hid
        rw [hdata]
        rcases List.mem_append.mp hid with hyes | hno
        · exact Or.inr ⟨true, id, Option.filter_eq_some_iff.mpr ⟨by simpa using hyes, hne⟩, rfl⟩
        · exact Or.inr ⟨false, id, Option.filter_eq_some_iff.mpr ⟨by simpa using hno, hne⟩, rfl⟩
    · exact Or.inl ht
  · rintro (hc | ⟨matched, id, hid, rfl⟩)
    · exact mem_namedTargets_of_connection hc
    · exact mem_namedTargets_of_branch hid

theorem namedBranch_eq_none (hplain : n.kind ≠ .condition) (matched : Bool) :
    Session.namedBranch n.data matched = none := by
  unfold Session.namedBranch
  split
  · rename_i d hdata
    exact absurd (congrArg NodeData.kind hdata) hplain
  · rfl

/-- Where ids are not repeated, the successors of a node are the targets of its edges and what it
names itself. -/
theorem mem_successors_iff (h : f.Worded) (hids : f.ids.Nodup) (hn : n ∈ f.nodes) {t : Json} :
    t ∈ f.successors n.id ↔ (∃ e ∈ f.outgoing n.id, e.target = t) ∨ t ∈ n.namedTargets := by
  constructor
  · intro ht
    rcases mem_of_mem_foldl_addNew ht with ht | ht
    · obtain ⟨e, he, rfl⟩ := List.mem_map.mp ht
      obtain ⟨he, hsource⟩ := List.mem_filter.mp he
      rw [same_iff_of_left (h.ends e he).1.isWord] at hsource
      refine Or.inl ⟨e, List.mem_filter.mpr ⟨he, ?_⟩, rfl⟩
      exact (equals_iff_of_left (h.ends e he).1.isWord).mpr hsource
    · obtain ⟨m, hm, ht⟩ := List.mem_flatMap.mp ht
      obtain ⟨hm, hid⟩ := List.mem_filter.mp hm
      rw [same_iff_of_left (h.ids m hm).isWord] at hid
      exact Or.inr (node_eq_of_id_eq hids hm hn hid ▸ ht)
  · rintro (⟨e, he, rfl⟩ | ht)
    · exact outgoing_target_mem_successors h.unlabelled he
    · exact mem_successors_of_named h hn ht

/-- A known node follows exactly where an edge leaves the node or a branch names a known one. -/
theorem hasNext_eq_false_iff (h : f.Worded) (hl : f.Lawful) (hn : n ∈ f.nodes) :
    f.hasNext n = false ↔ f.outgoing n.id = [] ∧
      ∀ matched id, Session.namedBranch n.data matched = some id → .str id ∉ f.ids := by
  have hknown : ∀ e ∈ f.outgoing n.id, e.target ∈ f.ids := fun e he =>
    (hl.edges_fit e (List.mem_of_mem_filter he)).target_known
  have hnext : f.hasNext n = false ↔ ∀ t ∈ f.successors n.id, t ∉ f.ids := by
    unfold hasNext
    rw [List.any_eq_false]
    exact forall₂_congr fun t ht => not_congr (isIn_iff (h.successors n.id t ht) _)
  rw [hnext]
  constructor
  · intro hall
    refine ⟨List.eq_nil_iff_forall_not_mem.mpr fun e he => ?_, fun matched id hid => ?_⟩
    · exact hall _ (outgoing_target_mem_successors h.unlabelled he) (hknown e he)
    · exact hall _ (mem_successors_of_named h hn (mem_namedTargets_of_branch hid))
  · rintro ⟨hout, hbranch⟩ t ht
    rcases (mem_successors_iff h hl.ids_nodup hn).mp ht with ⟨e, he, -⟩ | ht
    · simp [hout] at he
    · rcases mem_namedTargets_iff.mp ht with hc | ⟨matched, id, hid, rfl⟩
      · have hc := (hl.matched n hn).subset hc
        simp [hout] at hc
      · exact hbranch matched id hid

/-! ## The next node of a run -/

/-- By default a run goes on from every node that an edge leaves, and from no other. -/
theorem defaultNext_eq_none_iff (h : f.Worded) (hl : f.Lawful) (hn : n ∈ f.nodes) :
    Session.defaultNext f n = none ↔ f.outgoing n.id = [] := by
  have hknown : ∀ e ∈ f.outgoing n.id, f.node? e.target ≠ none := fun e he hnone =>
    (h.node?_eq_none_iff _).mp hnone (hl.edges_fit e (List.mem_of_mem_filter he)).target_known
  have hmatched := hl.matched n hn
  unfold Session.defaultNext
  constructor
  · intro hnone
    split at hnone
    · rename_i e he
      exact absurd hnone (hknown e (List.mem_of_find?_eq_some he))
    · -- A first connection would be the target of an edge, and so a known node.
      cases hconnections : n.connections with
      | nil =>
        rw [hconnections] at hmatched
        exact List.map_eq_nil_iff.mp hmatched.nil_eq.symm
      | cons c rest =>
        rw [hconnections] at hnone hmatched
        obtain ⟨e, he, rfl⟩ := List.mem_map.mp (hmatched.subset List.mem_cons_self)
        exact absurd hnone (hknown e he)
  · intro hout
    rw [hout] at hmatched ⊢
    rw [hmatched.eq_nil]
    rfl

/-- A condition goes on by a branch that has an edge, or else names a known node. -/
theorem branchNext_eq_none_iff (h : f.Worded) (hl : f.Lawful) (matched : Bool) :
    Session.branchNext f n matched = none ↔
      (∀ e ∈ f.outgoing n.id, e.label ≠ .str (Session.branchWord matched)) ∧
        ∀ id, Session.namedBranch n.data matched = some id → .str id ∉ f.ids := by
  unfold Session.branchNext
  split
  · rename_i e he
    have hmem := List.mem_of_find?_eq_some he
    have hlabel := List.find?_some he
    rw [same_iff_of_right (isText_str _).isWord] at hlabel
    rw [h.node?_eq_none_iff]
    constructor
    · exact fun hnot =>
        absurd (hl.edges_fit e (List.mem_of_mem_filter hmem)).target_known hnot
    · exact fun hnone => absurd hlabel (hnone.1 e hmem)
  · rename_i hnone
    rw [List.find?_eq_none] at hnone
    have hlabels : ∀ e ∈ f.outgoing n.id, e.label ≠ .str (Session.branchWord matched) :=
      fun e he hlabel => hnone e he ((same_iff_of_right (isText_str _).isWord).mpr hlabel)
    simp only [Option.bind_eq_none_iff, h.node?_eq_none_iff]
    exact (and_iff_right hlabels).symm

/-- All edges of a condition belong to its branches. -/
theorem outgoing_eq_nil_iff (hl : f.Lawful) (hn : n ∈ f.nodes) (hcondition : n.kind = .condition) :
    f.outgoing n.id = [] ↔
      ∀ matched, ∀ e ∈ f.outgoing n.id, e.label ≠ .str (Session.branchWord matched) := by
  constructor
  · intro hout matched e he
    simp [hout] at he
  · intro hnone
    refine List.eq_nil_iff_forall_not_mem.mpr fun e he => ?_
    rcases (hl.branches n hn hcondition).2 e.label (List.mem_map.mpr ⟨e, he, rfl⟩) with hyes | hno
    · exact hnone true e he hyes
    · exact hnone false e he hno

/-- A run is stuck where validation sees nothing that follows. -/
theorem isStuckAt_iff (h : f.Worded) (hl : f.Lawful) (hn : n ∈ f.nodes) :
    f.IsStuckAt n ↔ f.hasNext n = false := by
  rw [hasNext_eq_false_iff h hl hn]
  unfold IsStuckAt
  split
  · rename_i hcondition
    simp only [branchNext_eq_none_iff h hl, outgoing_eq_nil_iff hl hn hcondition, forall_and]
  · rename_i hplain
    rw [defaultNext_eq_none_iff h hl hn]
    refine (and_iff_left fun matched id hid => ?_).symm
    rw [namedBranch_eq_none hplain] at hid
    cases hid

/-! ## The warning -/

/-- What the ways of a flow are like is all that validation warns of. -/
theorem warnings_of_report {broken : List Issue} (h : ∀ i ∈ broken, i.isError = true)
    (most now : Int) :
    (Report.mk (broken ++ f.wayIssues ++ f.sizeIssues most) now).warnings = f.wayIssues := by
  have hnone : ∀ is : List Issue, (∀ i ∈ is, i.isError = true) →
      is.filter (!·.isError) = [] := by
    intro is his
    rw [List.filter_eq_nil_iff]
    exact fun i hi => by simp [his i hi]
  have hways : f.wayIssues.filter (!·.isError) = f.wayIssues := by
    rw [List.filter_eq_self]
    intro i hi
    have hwarned := List.filter_eq_nil_iff.mp (wayIssues_not_errors f) i hi
    simpa using hwarned
  unfold Report.warnings
  simp only [List.filter_append, hnone broken h, hnone _ (sizeIssues_errors f most), hways,
    List.nil_append, List.append_nil]

theorem noNextStep_mem_wayIssues_iff (hids : f.ids.Nodup) (hn : n ∈ f.nodes) :
    .noNextStep n.id ∈ f.wayIssues ↔ n.kind ≠ .finish ∧ f.hasNext n = false := by
  unfold wayIssues
  simp only [List.mem_flatMap, List.mem_append, List.mem_ite_nil_right, List.mem_singleton,
    reduceCtorEq, and_false, false_or, Issue.noNextStep.injEq, Bool.and_eq_true, bne_iff_ne,
    Bool.not_eq_true']
  constructor
  · rintro ⟨m, hm, hwarned, hid⟩
    rw [node_eq_of_id_eq hids hn hm hid]
    exact hwarned
  · exact fun hwarned => ⟨n, hn, hwarned, rfl⟩

/-- Where validation passes a flow, it warns of a node without a next step exactly if a run that
comes to the node cannot go on from it. End nodes are not meant to lead on. -/
theorem a_dead_end_is_warned_of_iff_runs_are_stuck (h : f.Worded) {most now : Int} {r : Report}
    (hr : f.validate most now = .ok r) (hvalid : r.valid = true) (hn : n ∈ f.nodes)
    (hfinish : n.kind ≠ .finish) : .noNextStep n.id ∈ r.warnings ↔ f.IsStuckAt n := by
  have hl := lawful_of_valid h hr hvalid
  obtain ⟨broken, hreport, herrors, -⟩ := validate_spec h most (isDated_of_validate hr)
  cases hr.symm.trans hreport
  rw [warnings_of_report herrors, noNextStep_mem_wayIssues_iff hl.ids_nodup hn,
    isStuckAt_iff h hl hn]
  exact and_iff_right hfinish

/-- A start node that leads to a condition. The condition has one of its branches only, to a message
with nothing after it. -/
def forkFlow : Flow where
  id := .str "fork"
  name := .str "Fork"
  description := .str ""
  category := .str ""
  status := .draft
  label := .str firstLabel
  nodes :=
    [⟨.str "start", .start {}, [], [.str "asked"]⟩,
      ⟨.str "asked", .condition {}, [], [.str "hello"]⟩, ⟨.str "hello", .message {}, [], []⟩]
  edges :=
    [⟨.str "first", .str "start", .str "asked", .null⟩,
      ⟨.str "second", .str "asked", .str "hello", .str "Yes"⟩]
  createdAt := 0
  updatedAt := 0

/-- Of the message it is said that no step follows, of the condition it is not. -/
theorem the_message_of_the_fork_is_a_dead_end :
    ∃ r asked hello, forkFlow.Worded ∧ forkFlow.validate 3 0 = .ok r ∧ r.valid = true ∧
      asked ∈ forkFlow.nodes ∧ asked.kind = .condition ∧ .noNextStep asked.id ∉ r.warnings ∧
      hello ∈ forkFlow.nodes ∧ hello.kind = .message ∧ .noNextStep hello.id ∈ r.warnings := by
  let r := (forkFlow.validate 3 0).toOption.get (by decide +kernel)
  have hwords : forkFlow.Worded := by constructor <;> simp [forkFlow, isText_str, Json.IsWord]
  have hr : forkFlow.validate 3 0 = .ok r := Outcome.eq_ok_get _
  have hvalid : r.valid = true := by decide +kernel
  let asked := forkFlow.nodes[1]
  let hello := forkFlow.nodes[2]
  have hasked : asked ∈ forkFlow.nodes := List.getElem_mem _
  have hhello : hello ∈ forkFlow.nodes := List.getElem_mem _
  refine ⟨r, asked, hello, hwords, hr, hvalid, hasked, rfl, ?_, hhello, rfl, ?_⟩
  · rw [a_dead_end_is_warned_of_iff_runs_are_stuck hwords hr hvalid hasked (by decide)]
    intro hstuck
    exact Option.some_ne_none _ (hstuck true : Session.branchNext forkFlow asked true = none)
  · exact (a_dead_end_is_warned_of_iff_runs_are_stuck hwords hr hvalid hhello (by decide)).mpr rfl

end Flow

end Dialogue
