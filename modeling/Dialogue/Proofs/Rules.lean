-- The graph rules, and what validation says of them. Among flows whose ids are texts, validation
-- always comes to an end, and it finds no error but that of the size exactly when the flow keeps
-- every rule.
import Dialogue.Proofs.Words
import Mathlib.Data.List.Perm.Basic

namespace Dialogue

open Json

/-- The two ends of an edge. -/
def Edge.ends (e : Edge) : Json × Json := (e.source, e.target)

/-- No label stands twice, and each is the word of a branch. -/
def BranchLabels (labels : List Json) : Prop :=
  labels.Nodup ∧ ∀ l ∈ labels, l = .str "Yes" ∨ l = .str "No"

namespace Flow

/-- The ids of the nodes and all references to them are texts, and a label is a text or null. -/
structure Worded (f : Flow) : Prop where
  ids : ∀ n ∈ f.nodes, n.id.IsText
  ends : ∀ e ∈ f.edges, e.source.IsText ∧ e.target.IsText
  labels : ∀ e ∈ f.edges, e.label.IsWord
  connections : ∀ n ∈ f.nodes, ∀ c ∈ n.connections, c.IsText

/-- An edge that may stand in the flow. -/
structure Fits (f : Flow) (e : Edge) : Prop where
  source_known : e.source ∈ f.ids
  target_known : e.target ∈ f.ids
  no_loop : e.source ≠ e.target
  not_into_start : ∀ n ∈ f.nodes, n.id = e.target → n.kind ≠ .start
  not_out_of_finish : ∀ n ∈ f.nodes, n.id = e.source → n.kind ≠ .finish

/-- The graph rules. -/
structure Lawful (f : Flow) : Prop where
  ids_nodup : f.ids.Nodup
  one_start : (f.nodes.filter (·.kind == .start)).length = 1
  edges_fit : ∀ e ∈ f.edges, f.Fits e
  ends_nodup : (f.edges.map Edge.ends).Nodup
  branches : ∀ n ∈ f.nodes, n.kind = .condition → BranchLabels ((f.outgoing n.id).map (·.label))
  matched : ∀ n ∈ f.nodes, n.connections.Perm ((f.outgoing n.id).map (·.target))

theorem mem_ids {f : Flow} {id : Json} : id ∈ f.ids ↔ ∃ n ∈ f.nodes, n.id = id := by
  unfold ids
  rw [List.mem_map]

theorem Worded.isText_of_mem_ids {f : Flow} (h : f.Worded) {id : Json} (hid : id ∈ f.ids) :
    id.IsText := by
  obtain ⟨n, hn, rfl⟩ := mem_ids.mp hid
  exact h.ids n hn

/-- Where no id stands twice, an id names one node. -/
theorem node_eq_of_id_eq {f : Flow} (h : f.ids.Nodup) {n m : Node} (hn : n ∈ f.nodes)
    (hm : m ∈ f.nodes) (he : n.id = m.id) : n = m :=
  List.inj_on_of_nodup_map h hn hm he

/-! ## Nodes -/

theorem startIssues_eq_nil_iff (f : Flow) :
    f.startIssues = [] ↔ (f.nodes.filter (·.kind == .start)).length = 1 := by
  unfold startIssues
  cases f.nodes.filter (·.kind == .start) with
  | nil => simp
  | cons n more => cases more <;> simp

theorem repeatIssues_eq_nil_iff {f : Flow} (h : f.Worded) :
    f.repeatIssues = [] ↔ f.ids.Nodup := by
  unfold repeatIssues
  rw [← tally_le_one_iff (fun x hx => (h.isText_of_mem_ids hx).isWord), List.map_eq_nil_iff,
    List.filter_eq_nil_iff]
  simp only [decide_eq_true_eq, Nat.not_lt]

theorem Worded.node?_spec {f : Flow} (h : f.Worded) {id : Json} {n : Node}
    (hn : f.node? id = some n) : n ∈ f.nodes ∧ n.id = id := by
  unfold node? at hn
  have hmem := List.mem_of_find?_eq_some hn
  have hid := List.find?_some hn
  exact ⟨hmem, (equals_iff_of_left (h.ids n hmem).isWord).mp hid⟩

theorem Worded.node?_eq_some {f : Flow} (h : f.Worded) (hids : f.ids.Nodup) {n : Node}
    (hn : n ∈ f.nodes) : f.node? n.id = some n := by
  have hsome : (f.node? n.id).isSome = true := by
    unfold node?
    rw [List.find?_isSome]
    exact ⟨n, hn, (equals_iff_of_left (h.ids n hn).isWord).mpr rfl⟩
  obtain ⟨m, hm⟩ := Option.isSome_iff_exists.mp hsome
  obtain ⟨hmem, hid⟩ := h.node?_spec hm
  rw [hm, node_eq_of_id_eq hids hmem hn hid]

theorem lastNode?_eq_none_iff {f : Flow} (hids : ∀ n ∈ f.nodes, n.id.IsText) (id : Json) :
    f.lastNode? id = none ↔ id ∉ f.ids := by
  unfold lastNode?
  rw [List.find?_eq_none, mem_ids]
  constructor
  · rintro hn ⟨n, hmem, hid⟩
    exact hn n (by simpa using hmem) ((same_iff_of_left (hids n hmem).isWord).mpr hid)
  · intro hn n hmem hs
    have hmem : n ∈ f.nodes := by simpa using hmem
    exact hn ⟨n, hmem, (same_iff_of_left (hids n hmem).isWord).mp hs⟩

theorem lastNode?_spec {f : Flow} (h : f.Worded) {id : Json} {n : Node}
    (hn : f.lastNode? id = some n) : n ∈ f.nodes ∧ n.id = id := by
  unfold lastNode? at hn
  have hmem : n ∈ f.nodes := by simpa using List.mem_of_find?_eq_some hn
  have hs := List.find?_some hn
  exact ⟨hmem, (same_iff_of_left (h.ids n hmem).isWord).mp hs⟩

/-! ## Edges -/

theorem samePair_iff {f : Flow} (h : f.Worded) {a : Edge} (ha : a ∈ f.edges) (b : Edge) :
    samePair a b = true ↔ a.ends = b.ends := by
  unfold samePair Edge.ends
  rw [Bool.and_eq_true, same_iff_of_left (h.ends a ha).1.isWord,
    same_iff_of_left (h.ends a ha).2.isWord, Prod.mk.injEq]

theorem ends?_eq_none_iff {f : Flow} (hids : ∀ n ∈ f.nodes, n.id.IsText) (e : Edge) :
    f.ends? e = none ↔ ¬ (e.source ∈ f.ids ∧ e.target ∈ f.ids) := by
  have hs := lastNode?_eq_none_iff hids e.source
  have ht := lastNode?_eq_none_iff hids e.target
  unfold ends?
  rw [not_and_or, ← hs, ← ht]
  cases f.lastNode? e.source <;> cases f.lastNode? e.target <;> simp

theorem ends?_spec {f : Flow} (h : f.Worded) {e : Edge} {s t : Node}
    (he : f.ends? e = some (s, t)) :
    (s ∈ f.nodes ∧ s.id = e.source) ∧ t ∈ f.nodes ∧ t.id = e.target := by
  unfold ends? at he
  rcases hs : f.lastNode? e.source with _ | s'
  · simp [hs] at he
  · rcases ht : f.lastNode? e.target with _ | t'
    · simp [hs, ht] at he
    · simp only [hs, ht, Option.bind_eq_bind, Option.bind_some, Option.pure_def,
        Option.some.injEq, Prod.mk.injEq] at he
      obtain ⟨rfl, rfl⟩ := he
      exact ⟨lastNode?_spec h hs, lastNode?_spec h ht⟩

/-- An edge after others has no issue exactly when it fits and joins nodes that no other joins. -/
theorem issuesOfEdge_eq_nil_iff {f : Flow} (h : f.Worded) (hids : f.ids.Nodup)
    (earlier : List Edge) {e : Edge} (he : e ∈ f.edges) :
    f.issuesOfEdge earlier e = [] ↔ f.Fits e ∧ e.ends ∉ earlier.map Edge.ends := by
  unfold issuesOfEdge
  rcases hends : f.ends? e with _ | ⟨s, t⟩
  · have hunknown := (ends?_eq_none_iff h.ids e).mp hends
    simp only [List.cons_ne_nil, false_iff]
    rintro ⟨hfits, -⟩
    exact hunknown ⟨hfits.source_known, hfits.target_known⟩
  · obtain ⟨⟨hs, hsid⟩, ht, htid⟩ := ends?_spec h hends
    have hsource : ∀ n ∈ f.nodes, n.id = e.source → n = s := fun n hn hid =>
      node_eq_of_id_eq hids hn hs (hid.trans hsid.symm)
    have htarget : ∀ n ∈ f.nodes, n.id = e.target → n = t := fun n hn hid =>
      node_eq_of_id_eq hids hn ht (hid.trans htid.symm)
    have hpair : earlier.any (samePair e) = true ↔ e.ends ∈ earlier.map Edge.ends := by
      rw [List.any_eq_true, List.mem_map]
      simp only [samePair_iff h he, eq_comm]
    simp only [List.append_eq_nil_iff, ite_eq_right_iff, List.cons_ne_nil, imp_false, beq_iff_eq,
      hpair, equals_iff_of_left (h.ends e he).1.isWord]
    constructor
    · rintro ⟨⟨⟨hloop, hstart⟩, hfinish⟩, hnew⟩
      refine ⟨⟨mem_ids.mpr ⟨s, hs, hsid⟩, mem_ids.mpr ⟨t, ht, htid⟩, hloop, ?_, ?_⟩, hnew⟩
      · intro n hn hid
        exact htarget n hn hid ▸ hstart
      · intro n hn hid
        exact hsource n hn hid ▸ hfinish
    · rintro ⟨hfits, hnew⟩
      exact ⟨⟨⟨hfits.no_loop, hfits.not_into_start t ht htid⟩,
        hfits.not_out_of_finish s hs hsid⟩, hnew⟩

theorem issuesOfEdges_eq_nil_iff {f : Flow} (h : f.Worded) (hids : f.ids.Nodup)
    (earlier edges : List Edge) (hall : ∀ e ∈ edges, e ∈ f.edges) :
    f.issuesOfEdges earlier edges = [] ↔
      (∀ e ∈ edges, f.Fits e) ∧ (edges.map Edge.ends).Nodup ∧
        ∀ e ∈ edges, e.ends ∉ earlier.map Edge.ends := by
  induction edges generalizing earlier with
  | nil => simp [issuesOfEdges]
  | cons e rest ih =>
    rw [issuesOfEdges, List.append_eq_nil_iff,
      issuesOfEdge_eq_nil_iff h hids earlier (hall e (by simp)),
      ih (earlier ++ [e]) (fun x hx => hall x (by simp [hx]))]
    simp only [List.map_append, List.map_cons, List.map_nil, List.mem_append, List.mem_singleton,
      List.nodup_cons, List.forall_mem_cons, not_or, List.mem_map, not_exists, not_and]
    constructor
    · rintro ⟨⟨hfit, hnew⟩, hfits, hnodup, hlater⟩
      exact ⟨⟨hfit, hfits⟩, ⟨fun x hx => (hlater x hx).2, hnodup⟩, hnew, fun x hx =>
        (hlater x hx).1⟩
    · rintro ⟨⟨hfit, hfits⟩, ⟨hne, hnodup⟩, hnew, hlater⟩
      exact ⟨⟨hfit, hnew⟩, hfits, hnodup, fun x hx => ⟨hlater x hx, hne x hx⟩⟩

/-! ## Branches -/

theorem ends?_eq_some {f : Flow} (h : f.Worded) (hids : f.ids.Nodup) {e : Edge} {s : Node}
    (hfits : f.Fits e) (hs : s ∈ f.nodes) (hid : s.id = e.source) :
    ∃ t, f.ends? e = some (s, t) := by
  rcases hends : f.ends? e with _ | ⟨s', t⟩
  · exact absurd ⟨hfits.source_known, hfits.target_known⟩ ((ends?_eq_none_iff h.ids e).mp hends)
  · obtain ⟨⟨hs', hid'⟩, -⟩ := ends?_spec h hends
    rw [node_eq_of_id_eq hids hs hs' (hid.trans hid'.symm)]
    exact ⟨t, rfl⟩

theorem mem_edges_of_mem_branches {f : Flow} {b : Json × Edge} (hb : b ∈ f.branches) :
    b.2 ∈ f.edges := by
  unfold branches at hb
  obtain ⟨e, he, hb⟩ := List.mem_filterMap.mp hb
  split at hb
  · rw [Option.ite_none_right_eq_some] at hb
    rw [← Option.some.inj hb.2]
    exact he
  · cases hb

theorem mem_branches {f : Flow} (h : f.Worded) (hids : f.ids.Nodup)
    (hfits : ∀ e ∈ f.edges, f.Fits e) (b : Json × Edge) :
    b ∈ f.branches ↔
      b.2 ∈ f.edges ∧ ∃ n ∈ f.nodes, n.kind = .condition ∧ n.id = b.2.source ∧ n.id = b.1 := by
  unfold branches
  rw [List.mem_filterMap]
  constructor
  · rintro ⟨e, he, hb⟩
    rcases hends : f.ends? e with _ | ⟨s, t⟩
    · simp [hends] at hb
    · obtain ⟨⟨hs, hid⟩, -⟩ := ends?_spec h hends
      simp only [hends, Option.ite_none_right_eq_some, beq_iff_eq, Option.some.injEq] at hb
      obtain ⟨hkind, rfl⟩ := hb
      exact ⟨he, s, hs, hkind, hid, rfl⟩
  · rintro ⟨he, n, hn, hkind, hsource, hid⟩
    obtain ⟨t, ht⟩ := ends?_eq_some h hids (hfits _ he) hn hsource
    refine ⟨b.2, he, ?_⟩
    simp only [ht, hkind, beq_self_eq_true, if_true, hid]

theorem branchLabels_eq {f : Flow} (h : f.Worded) (hids : f.ids.Nodup)
    (hfits : ∀ e ∈ f.edges, f.Fits e) {n : Node} (hn : n ∈ f.nodes) (hkind : n.kind = .condition) :
    f.branchLabels n.id = (f.outgoing n.id).map (·.label) := by
  unfold branchLabels branches outgoing
  rw [List.filter_filterMap, List.map_filterMap, ← List.filterMap_eq_map, List.filterMap_filter]
  apply List.filterMap_congr
  intro e he
  have hword := (h.ids n hn).isWord
  obtain ⟨s, hs, hsid⟩ := mem_ids.mp (hfits e he).source_known
  obtain ⟨t, ht⟩ := ends?_eq_some h hids (hfits e he) hs hsid
  rw [ht]
  by_cases heq : s = n
  · subst heq
    have hsame : s.id.same s.id = true := (same_iff_of_left hword).mpr rfl
    have hequals : e.source.equals s.id = true := (equals_iff_of_right hword).mpr hsid.symm
    simp [hkind, hsame, hequals]
  · have hne : s.id ≠ n.id := fun hid => heq (node_eq_of_id_eq hids hs hn hid)
    have hsame : ¬ s.id.same n.id = true := fun hs => hne ((same_iff_of_right hword).mp hs)
    have hequals : ¬ e.source.equals n.id = true := fun hs =>
      hne (hsid.trans ((equals_iff_of_right hword).mp hs))
    by_cases hs' : s.kind = .condition <;> simp [hs', hsame, hequals]

theorem isBranchLabel_iff (l : Json) :
    isBranchLabel l = true ↔ l = .str "Yes" ∨ l = .str "No" := by
  unfold isBranchLabel
  rw [Bool.or_eq_true, same_iff_of_right (isText_str _).isWord,
    same_iff_of_right (isText_str _).isWord]

theorem issuesOfBranches_eq_nil_iff (f : Flow) (id : Json)
    (h : ∀ l ∈ f.branchLabels id, l.IsWord) :
    f.issuesOfBranches id = [] ↔ BranchLabels (f.branchLabels id) := by
  unfold issuesOfBranches BranchLabels
  rw [← tally_le_one_iff h, List.filterMap_eq_nil_iff]
  constructor
  · intro hnone
    refine ⟨fun t ht => ?_, fun l hl => ?_⟩
    · by_contra hmany
      have := hnone t ht
      simp only [Nat.not_le.mp hmany, if_true] at this
      split at this <;> simp at this
    · have := hnone (l, ((f.branchLabels id).filter (·.same l)).length)
        ((mem_tally h _).mpr ⟨hl, rfl⟩)
      rw [← isBranchLabel_iff]
      by_contra hbad
      simp only [Bool.not_eq_true] at hbad
      simp [hbad] at this
  · rintro ⟨honce, hlabels⟩ t ht
    have hgood := (isBranchLabel_iff t.1).mpr (hlabels t.1 ((mem_tally h t).mp ht).1)
    simp [hgood, honce t ht]

theorem branchIssues_eq_nil_iff {f : Flow} (h : f.Worded) (hids : f.ids.Nodup)
    (hfits : ∀ e ∈ f.edges, f.Fits e) :
    f.branchIssues = [] ↔
      ∀ n ∈ f.nodes, n.kind = .condition → BranchLabels ((f.outgoing n.id).map (·.label)) := by
  have hwords : ∀ id, ∀ l ∈ f.branchLabels id, l.IsWord := by
    intro id l hl
    unfold branchLabels at hl
    simp only [List.mem_map, List.mem_filter] at hl
    obtain ⟨b, ⟨hb, -⟩, rfl⟩ := hl
    exact h.labels _ (mem_edges_of_mem_branches hb)
  have hids' : ∀ id ∈ f.branches.map (·.1), id.IsWord := by
    intro id hid
    obtain ⟨b, hb, rfl⟩ := List.mem_map.mp hid
    obtain ⟨-, n, hn, -, -, hid⟩ := (mem_branches h hids hfits b).mp hb
    exact hid ▸ (h.ids n hn).isWord
  unfold branchIssues
  rw [List.flatMap_eq_nil_iff]
  simp only [mem_distinct hids', issuesOfBranches_eq_nil_iff _ _ (hwords _)]
  constructor
  · intro hall n hn hkind
    rw [← branchLabels_eq h hids hfits hn hkind]
    by_cases hany : n.id ∈ f.branches.map (·.1)
    · exact hall n.id hany
    · have hnone : f.branchLabels n.id = [] := by
        unfold branchLabels
        rw [List.map_eq_nil_iff, List.filter_eq_nil_iff]
        intro b hb hs
        rw [same_iff_of_right (h.ids n hn).isWord] at hs
        exact hany (List.mem_map.mpr ⟨b, hb, hs⟩)
      rw [hnone]
      exact ⟨List.nodup_nil, by simp⟩
  · intro hall id hid
    obtain ⟨b, hb, rfl⟩ := List.mem_map.mp hid
    obtain ⟨-, n, hn, hkind, -, hid⟩ := (mem_branches h hids hfits b).mp hb
    rw [← hid, branchLabels_eq h hids hfits hn hkind]
    exact hall n hn hkind

/-! ## Connections -/

theorem mapM_str?_map_str (ts : List String) : (ts.map Json.str).mapM Json.str? = some ts := by
  induction ts with
  | nil => rfl
  | cons t rest ih => simp [Json.str?, ih]

theorem exists_map_str {xs : List Json} (h : ∀ x ∈ xs, x.IsText) :
    ∃ ts : List String, xs = ts.map Json.str := by
  induction xs with
  | nil => exact ⟨[], rfl⟩
  | cons x rest ih =>
    obtain ⟨s, rfl⟩ := h x (by simp)
    obtain ⟨ts, rfl⟩ := ih fun y hy => h y (by simp [hy])
    exact ⟨s :: ts, rfl⟩

theorem sameItems_map_str (ts us : List String) :
    Json.sameItems (ts.map .str) (us.map .str) = true ↔ ts = us := by
  induction ts generalizing us with
  | nil => cases us <;> simp [Json.sameItems]
  | cons t rest ih =>
    cases us with
    | nil => simp [Json.sameItems]
    | cons u others =>
      simp [Json.sameItems, same_iff_of_left (isText_str t).isWord, ih]

/-- Two lists of texts sort to one list exactly when one is a rearrangement of the other. -/
theorem mergeSort_eq_iff_perm (ts us : List String) :
    (ts.mergeSort fun a b => !(b < a)) = (us.mergeSort fun a b => !(b < a)) ↔ ts.Perm us := by
  have hle : ∀ a b : String, (!decide (b < a)) = true ↔ a ≤ b := by
    intro a b
    rw [Bool.not_eq_true', decide_eq_false_iff_not, String.not_lt]
  have hsorted : ∀ l : List String, (l.mergeSort fun a b => !(b < a)).Pairwise (· ≤ ·) := by
    intro l
    refine (List.pairwise_mergeSort (fun a b c hab hbc => ?_) (fun a b => ?_) l).imp (hle _ _).mp
    · exact (hle a c).mpr (String.le_trans ((hle a b).mp hab) ((hle b c).mp hbc))
    · rw [Bool.or_eq_true, hle, hle]
      exact String.le_total a b
  constructor
  · intro heq
    exact (List.mergeSort_perm ts _).symm.trans (heq ▸ List.mergeSort_perm us _)
  · intro hperm
    refine List.Perm.eq_of_pairwise (fun a b _ _ hab hba => String.le_antisymm hab hba)
      (hsorted ts) (hsorted us) ?_
    exact (List.mergeSort_perm ts _).trans (hperm.trans (List.mergeSort_perm us _).symm)

theorem sorted?_map_str (ts : List String) :
    Json.sorted? (ts.map .str) = some ((ts.mergeSort fun a b => !(b < a)).map .str) := by
  unfold Json.sorted?
  rw [mapM_str?_map_str]

theorem connectionsMatch_spec {f : Flow} (h : f.Worded) {n : Node} (hn : n ∈ f.nodes) :
    ∃ b, f.connectionsMatch n = .ok b ∧
      (b = true ↔ n.connections.Perm ((f.outgoing n.id).map (·.target))) := by
  obtain ⟨cs, hcs⟩ := exists_map_str (h.connections n hn)
  have htargets : ∀ t ∈ (f.outgoing n.id).map (·.target), t.IsText := by
    intro t ht
    obtain ⟨e, he, rfl⟩ := List.mem_map.mp ht
    exact (h.ends e (List.mem_of_mem_filter he)).2
  obtain ⟨ts, hts⟩ := exists_map_str htargets
  unfold connectionsMatch
  rw [hcs, hts]
  refine ⟨_, by simp only [sorted?_map_str]; rfl, ?_⟩
  rw [sameItems_map_str, mergeSort_eq_iff_perm]
  exact (List.map_perm_map_iff fun a b hab => Json.str.inj hab).symm

/-- Checks of all elements that each end well end well together. -/
theorem mapM_spec {α β : Type} {check : α → Outcome (List β)} {good : α → Prop} {fine : β → Prop}
    {xs : List α}
    (h : ∀ x ∈ xs, ∃ ys, check x = .ok ys ∧ (ys = [] ↔ good x) ∧ ∀ y ∈ ys, fine y) :
    ∃ yss, xs.mapM check = .ok yss ∧ (yss.flatten = [] ↔ ∀ x ∈ xs, good x) ∧
      ∀ y ∈ yss.flatten, fine y := by
  induction xs with
  | nil => exact ⟨[], rfl, by simp, by simp⟩
  | cons x rest ih =>
    obtain ⟨ys, hys, hgood, hfine⟩ := h x (by simp)
    obtain ⟨yss, hyss, hgoods, hfines⟩ := ih fun z hz => h z (by simp [hz])
    refine ⟨ys :: yss, by simp [List.mapM_cons, hys, hyss]; rfl, ?_, ?_⟩
    · simp only [List.flatten_cons, List.append_eq_nil_iff, hgood, hgoods, List.forall_mem_cons]
    · rw [List.flatten_cons]
      exact List.forall_mem_append.mpr ⟨hfine, hfines⟩

theorem connectionIssues_spec {f : Flow} (h : f.Worded) :
    ∃ is, f.connectionIssues = .ok is ∧
      (is = [] ↔ ∀ n ∈ f.nodes, n.connections.Perm ((f.outgoing n.id).map (·.target))) ∧
      ∀ i ∈ is, i.isError = true := by
  have hcheck : ∀ n ∈ f.nodes, ∃ is,
      (do return if ← f.connectionsMatch n then [] else [Issue.unmatchedConnections n.id]) =
        (Except.ok is : Outcome (List Issue)) ∧
      (is = [] ↔ n.connections.Perm ((f.outgoing n.id).map (·.target))) ∧
      ∀ i ∈ is, i.isError = true := by
    intro n hn
    obtain ⟨b, hb, hperm⟩ := connectionsMatch_spec h hn
    refine ⟨_, by rw [hb]; rfl, ?_, ?_⟩
    · rw [← hperm]
      cases b <;> simp
    · cases b <;> simp [Issue.isError]
  obtain ⟨iss, hiss, hperm, herrors⟩ := mapM_spec hcheck
  refine ⟨iss.flatten, ?_, hperm, herrors⟩
  unfold connectionIssues
  rw [hiss]
  rfl

/-! ## Ways -/

section

variable {P : Json → Prop} {f : Flow}

theorem forall_takeOut {arcs : Arcs} (h : ∀ a ∈ arcs, ∀ x ∈ a.2, P x) (id : Json) :
    (∀ x ∈ (arcs.takeOut id).1, P x) ∧ ∀ a ∈ (arcs.takeOut id).2, ∀ x ∈ a.2, P x := by
  induction arcs with
  | nil => simp [Arcs.takeOut]
  | cons a rest ih =>
    obtain ⟨hfound, hleft⟩ := ih fun b hb => h b (by simp [hb])
    have ha := h a (by simp)
    simp only [Arcs.takeOut]
    split
    · exact ⟨ha, fun b hb => h b (by simp [hb])⟩
    · exact ⟨hfound, List.forall_mem_cons.mpr ⟨ha, hleft⟩⟩

/-- A search finds only what it starts from and what follows something. -/
theorem forall_explore (arcs : Arcs) (queue seen : List Json)
    (harcs : ∀ a ∈ arcs, ∀ x ∈ a.2, P x) (hqueue : ∀ x ∈ queue, P x)
    (hseen : ∀ x ∈ seen, P x) : ∀ x ∈ arcs.explore queue seen, P x := by
  induction arcs, queue, seen using Arcs.explore.induct with
  | case1 arcs seen => simpa [Arcs.explore] using hseen
  | case2 arcs seen id rest hin ih =>
    rw [Arcs.explore, if_pos hin]
    exact ih harcs (fun x hx => hqueue x (by simp [hx])) hseen
  | case3 arcs seen id rest hin ih =>
    obtain ⟨hfound, hleft⟩ := forall_takeOut harcs id
    rw [Arcs.explore, if_neg hin]
    refine ih hleft ?_ ?_
    · exact List.forall_mem_append.mpr ⟨fun x hx => hqueue x (by simp [hx]), hfound⟩
    · exact List.forall_mem_append.mpr ⟨hseen, by simpa using hqueue id (by simp)⟩

/-- What a node names are its connections, and texts. -/
theorem forall_namedTargets (htexts : ∀ s, P (.str s)) {n : Node} (h : ∀ c ∈ n.connections, P c) :
    ∀ t ∈ n.namedTargets, P t := by
  unfold Node.namedTargets
  split
  · refine List.forall_mem_append.mpr ⟨h, fun t ht => ?_⟩
    obtain ⟨s, -, rfl⟩ := List.mem_map.mp ht
    exact htexts s
  · exact h

theorem forall_successors (hnamed : ∀ n ∈ f.nodes, ∀ t ∈ n.namedTargets, P t)
    (htargets : ∀ e ∈ f.edges, P e.target) (id : Json) : ∀ t ∈ f.successors id, P t := by
  intro t ht
  unfold Flow.successors at ht
  rcases mem_of_mem_foldl_addNew ht with ht | ht
  · obtain ⟨e, he, rfl⟩ := List.mem_map.mp ht
    exact htargets e (List.mem_of_mem_filter he)
  · obtain ⟨n, hn, ht⟩ := List.mem_flatMap.mp ht
    exact hnamed n (List.mem_of_mem_filter hn) t ht

theorem forall_reached (hids : ∀ n ∈ f.nodes, P n.id) (hnext : ∀ id, ∀ t ∈ f.successors id, P t) :
    ∀ t ∈ f.reached, P t := by
  unfold Flow.reached
  split
  · rename_i start hstart
    refine forall_explore f.arcs [start.id] [] ?_ ?_ (by simp)
    · intro a ha x hx
      obtain ⟨id, -, rfl⟩ := List.mem_map.mp ha
      exact hnext id x hx
    · simpa using hids start (List.mem_of_find?_eq_some hstart)
  · simp

end

theorem Worded.namedTargets {f : Flow} (h : f.Worded) {n : Node} (hn : n ∈ f.nodes) :
    ∀ t ∈ n.namedTargets, t.IsWord :=
  forall_namedTargets (fun s => (isText_str s).isWord) fun c hc => (h.connections n hn c hc).isWord

/-- What the nodes with an id name are words. -/
theorem Worded.named {f : Flow} (h : f.Worded) (id : Json) :
    ∀ t ∈ (f.nodes.filter (·.id.same id)).flatMap Node.namedTargets, t.IsWord := by
  intro t ht
  obtain ⟨n, hn, ht⟩ := List.mem_flatMap.mp ht
  exact h.namedTargets (List.mem_of_mem_filter hn) t ht

theorem Worded.successors {f : Flow} (h : f.Worded) (id : Json) :
    ∀ t ∈ f.successors id, t.IsWord :=
  forall_successors (fun _ hn => h.namedTargets hn) (fun e he => (h.ends e he).2.isWord) id

theorem Worded.reached {f : Flow} (h : f.Worded) : ∀ t ∈ f.reached, t.IsWord :=
  forall_reached (fun n hn => (h.ids n hn).isWord) h.successors

theorem wayIssues_not_errors (f : Flow) : f.wayIssues.filter (·.isError) = [] := by
  rw [List.filter_eq_nil_iff]
  intro i hi
  unfold wayIssues at hi
  obtain ⟨n, -, hi⟩ := List.mem_flatMap.mp hi
  rcases List.mem_append.mp hi with hi | hi <;> split at hi <;> simp_all [Issue.isError]

/-! ## All together -/

theorem startIssues_errors (f : Flow) : ∀ i ∈ f.startIssues, i.isError = true := by
  unfold startIssues
  split
  · simp [Issue.isError]
  · simp [Issue.isError]

theorem repeatIssues_errors (f : Flow) : ∀ i ∈ f.repeatIssues, i.isError = true := by
  unfold repeatIssues
  simp only [List.mem_map]
  rintro i ⟨t, -, rfl⟩
  rfl

theorem issuesOfEdges_errors (f : Flow) (earlier edges : List Edge) :
    ∀ i ∈ f.issuesOfEdges earlier edges, i.isError = true := by
  have hone : ∀ earlier e, ∀ i ∈ f.issuesOfEdge earlier e, i.isError = true := by
    intro earlier e i hi
    unfold issuesOfEdge at hi
    split at hi
    · rw [List.mem_singleton.mp hi]
      rfl
    · simp only [List.mem_append, List.mem_ite_nil_right, List.mem_singleton] at hi
      rcases hi with ((⟨-, rfl⟩ | ⟨-, rfl⟩) | ⟨-, rfl⟩) | ⟨-, rfl⟩ <;> rfl
  induction edges generalizing earlier with
  | nil => simp [issuesOfEdges]
  | cons e rest ih =>
    rw [issuesOfEdges]
    exact List.forall_mem_append.mpr ⟨hone earlier e, ih _⟩

theorem branchIssues_errors (f : Flow) : ∀ i ∈ f.branchIssues, i.isError = true := by
  intro i hi
  unfold branchIssues at hi
  obtain ⟨id, -, hi⟩ := List.mem_flatMap.mp hi
  unfold issuesOfBranches at hi
  obtain ⟨t, -, hi⟩ := List.mem_filterMap.mp hi
  split at hi
  · rw [← Option.some.inj hi]
    rfl
  · split at hi
    · rw [← Option.some.inj hi]
      rfl
    · cases hi

theorem sizeIssues_errors (f : Flow) (most : Int) : ∀ i ∈ f.sizeIssues most, i.isError = true := by
  unfold sizeIssues
  split <;> simp [Issue.isError]

theorem sizeIssues_eq_nil_iff (f : Flow) (most : Int) :
    f.sizeIssues most = [] ↔ (f.nodes.length : Int) ≤ most := by
  unfold sizeIssues
  rw [ite_eq_right_iff, ← Int.not_lt]
  simp only [List.cons_ne_nil, imp_false]

/-- Among flows of words, validation comes to an end. What it finds before the ways are errors, and
there are none exactly when the flow keeps the rules. -/
theorem issues_spec {f : Flow} (h : f.Worded) (most : Int) :
    ∃ broken, f.issues most = .ok (broken ++ f.wayIssues ++ f.sizeIssues most) ∧
      (∀ i ∈ broken, i.isError = true) ∧ (broken = [] ↔ f.Lawful) := by
  obtain ⟨connections, hconnections, hmatched, herrors⟩ := connectionIssues_spec h
  have hids : keysOnly f.ids = .ok () :=
    keysOnly_of_words fun id hid => (h.isText_of_mem_ids hid).isWord
  have hends : keysOnly (f.edges.flatMap fun e => [e.source, e.target]) = .ok () := by
    refine keysOnly_of_words fun id hid => ?_
    obtain ⟨e, he, hid⟩ := List.mem_flatMap.mp hid
    simp only [List.mem_cons, List.not_mem_nil, or_false] at hid
    rcases hid with rfl | rfl
    · exact (h.ends e he).1.isWord
    · exact (h.ends e he).2.isWord
  have hlabels : keysOnly (f.branches.map (·.2.label)) = .ok () := by
    refine keysOnly_of_words fun l hl => ?_
    obtain ⟨b, hb, rfl⟩ := List.mem_map.mp hl
    exact h.labels _ (mem_edges_of_mem_branches hb)
  have hnext : keysOnly ((f.nodes.filter (·.kind != .finish)).flatMap fun n => f.successors n.id)
      = .ok () := by
    refine keysOnly_of_words fun id hid => ?_
    obtain ⟨n, -, hid⟩ := List.mem_flatMap.mp hid
    exact h.successors n.id id hid
  refine ⟨f.startIssues ++ f.repeatIssues ++ f.issuesOfEdges [] f.edges ++ f.branchIssues
    ++ connections, ?_, ?_, ?_⟩
  · unfold issues
    rw [hids, hends, hlabels, hconnections, keysOnly_of_words h.reached, hnext]
    rfl
  · exact List.forall_mem_append.mpr ⟨List.forall_mem_append.mpr ⟨List.forall_mem_append.mpr
      ⟨List.forall_mem_append.mpr ⟨startIssues_errors f, repeatIssues_errors f⟩,
        issuesOfEdges_errors f [] f.edges⟩, branchIssues_errors f⟩, herrors⟩
  · simp only [List.append_eq_nil_iff, startIssues_eq_nil_iff, repeatIssues_eq_nil_iff h, hmatched]
    constructor
    · rintro ⟨⟨⟨⟨hstart, hnodup⟩, hedges⟩, hbranches⟩, hmatch⟩
      obtain ⟨hfits, hpairs, -⟩ :=
        (issuesOfEdges_eq_nil_iff h hnodup [] f.edges fun e he => he).mp hedges
      exact ⟨hnodup, hstart, hfits, hpairs,
        (branchIssues_eq_nil_iff h hnodup hfits).mp hbranches, hmatch⟩
    · intro hl
      refine ⟨⟨⟨⟨hl.one_start, hl.ids_nodup⟩, ?_⟩, ?_⟩, hl.matched⟩
      · refine (issuesOfEdges_eq_nil_iff h hl.ids_nodup [] f.edges fun e he => he).mpr ?_
        exact ⟨hl.edges_fit, hl.ends_nodup, by simp⟩
      · exact (branchIssues_eq_nil_iff h hl.ids_nodup hl.edges_fit).mpr hl.branches

/-! ## The verdict -/

/-- The report on a flow of words: what breaks the rules, then what is said of the ways and of the
size. -/
theorem validate_spec {f : Flow} (h : f.Worded) (most : Int) {now : Int}
    (hnow : Clock.isDated now = true) :
    ∃ broken, f.validate most now = .ok ⟨broken ++ f.wayIssues ++ f.sizeIssues most, now⟩ ∧
      (∀ i ∈ broken, i.isError = true) ∧ (broken = [] ↔ f.Lawful) := by
  obtain ⟨broken, hissues, herrors, hlawful⟩ := issues_spec h most
  refine ⟨broken, ?_, herrors, hlawful⟩
  unfold validate Clock.dated
  rw [hissues, if_pos hnow]
  rfl

/-- What the ways of a flow are like does not count as an error. -/
theorem errors_of_report {f : Flow} {broken : List Issue} (h : ∀ i ∈ broken, i.isError = true)
    (most now : Int) :
    (Report.mk (broken ++ f.wayIssues ++ f.sizeIssues most) now).errors =
      broken ++ f.sizeIssues most := by
  unfold Report.errors
  simp only [List.filter_append, wayIssues_not_errors, List.append_nil,
    List.filter_eq_self.mpr h, List.filter_eq_self.mpr (sizeIssues_errors f most)]

theorem valid_of_report {f : Flow} {broken : List Issue} (h : ∀ i ∈ broken, i.isError = true)
    (hlawful : broken = [] ↔ f.Lawful) (most now : Int) :
    (Report.mk (broken ++ f.wayIssues ++ f.sizeIssues most) now).valid = true ↔
      f.Lawful ∧ (f.nodes.length : Int) ≤ most := by
  unfold Report.valid
  rw [errors_of_report h, List.isEmpty_iff, List.append_eq_nil_iff, hlawful, sizeIssues_eq_nil_iff]

/-- Validation always comes to a verdict on a flow of words, and it passes the flow exactly when the
flow keeps every rule and has no more nodes than it may have. -/
theorem validation_passes_exactly_the_lawful_flows {f : Flow} (h : f.Worded) (most : Int)
    {now : Int} (hnow : Clock.isDated now = true) :
    ∃ r, f.validate most now = .ok r ∧
      (r.valid = true ↔ f.Lawful ∧ (f.nodes.length : Int) ≤ most) := by
  obtain ⟨broken, hr, herrors, hlawful⟩ := validate_spec h most hnow
  exact ⟨_, hr, valid_of_report herrors hlawful most now⟩

/-- A start node that leads to a message and to an end node. It names them in another order than its
edges do. -/
def fanFlow : Flow where
  id := .str "fan"
  name := .str "Fan"
  description := .str ""
  category := .str ""
  status := .draft
  label := .str firstLabel
  nodes :=
    [⟨.str "start", .start {}, [], [.str "end", .str "hello"]⟩,
      ⟨.str "hello", .message {}, [], []⟩, ⟨.str "end", .finish {}, [], []⟩]
  edges :=
    [⟨.str "first", .str "start", .str "hello", .null⟩,
      ⟨.str "second", .str "start", .str "end", .null⟩]
  createdAt := 0
  updatedAt := 0

theorem fanFlow_worded : fanFlow.Worded where
  ids := by simp [fanFlow, isText_str]
  ends := by simp [fanFlow, isText_str]
  labels := by simp [fanFlow, Json.IsWord]
  connections := by simp [fanFlow, isText_str]

theorem fanFlow_lawful : fanFlow.Lawful where
  ids_nodup := by simp [fanFlow, ids]
  one_start := rfl
  edges_fit := by
    have hkinds : ∀ n ∈ fanFlow.nodes, n.id ≠ .str "start" → n.kind ≠ .start := by
      simp [fanFlow, Node.kind, NodeData.kind]
    have hends : ∀ n ∈ fanFlow.nodes, n.id = .str "start" → n.kind ≠ .finish := by
      simp [fanFlow, Node.kind, NodeData.kind]
    intro e he
    have hsource : e.source = .str "start" := by
      revert e
      simp [fanFlow]
    have htarget : e.target = .str "hello" ∨ e.target = .str "end" := by
      revert e
      simp [fanFlow]
    constructor
    case source_known => simp [hsource, fanFlow, ids]
    case target_known => rcases htarget with h | h <;> simp [h, fanFlow, ids]
    case no_loop => rcases htarget with h | h <;> simp [h, hsource]
    case not_into_start =>
      intro n hn hid
      refine hkinds n hn ?_
      rcases htarget with h | h <;> simp [hid, h]
    case not_out_of_finish => exact fun n hn hid => hends n hn (hid.trans hsource)
  ends_nodup := by simp [fanFlow, Edge.ends]
  branches := by simp [fanFlow, Node.kind, NodeData.kind]
  matched := by
    intro n hn
    have hcases : n = fanFlow.nodes[0] ∨ n = fanFlow.nodes[1] ∨ n = fanFlow.nodes[2] := by
      simpa [fanFlow] using hn
    rcases hcases with rfl | rfl | rfl
    · exact List.Perm.swap _ _ _
    · exact List.Perm.refl _
    · exact List.Perm.refl _

theorem fanFlow_passes :
    fanFlow.Worded ∧ Clock.isDated 0 = true ∧
      ∃ r, fanFlow.validate 3 0 = .ok r ∧ r.valid = true := by
  have hnow : Clock.isDated 0 = true := by decide
  obtain ⟨r, hr, hvalid⟩ :=
    validation_passes_exactly_the_lawful_flows fanFlow_worded 3 hnow
  exact ⟨fanFlow_worded, hnow, r, hr, hvalid.mpr ⟨fanFlow_lawful, by decide⟩⟩

end Flow

end Dialogue
