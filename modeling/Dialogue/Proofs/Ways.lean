-- Where a run can go on to. The ids that validation takes for reachable hold the start node, and
-- they are closed: whichever way a run takes from one of them, it comes to one of them.
import Dialogue.Proofs.Rules
import Dialogue.Run.Walk

namespace Dialogue

open Json

/-! ## What a search finds -/

namespace Arcs

variable {arcs : Arcs} {queue seen : List Json}

theorem mem_of_mem_takeOut {id : Json} {a : Json × List Json} (h : a ∈ (takeOut id arcs).2) :
    a ∈ arcs := by
  induction arcs with
  | nil => exact h
  | cons b rest ih =>
    rw [takeOut] at h
    split at h
    · exact List.mem_cons_of_mem b h
    · rcases List.mem_cons.mp h with rfl | h
      · exact List.mem_cons_self
      · exact List.mem_cons_of_mem b (ih h)

/-- Taking out one id leaves the entries of the others. -/
theorem mem_takeOut {id : Json} (hid : id.IsWord) {a : Json × List Json} (ha : a ∈ arcs)
    (hne : a.1 ≠ id) : a ∈ (takeOut id arcs).2 := by
  induction arcs with
  | nil => exact ha
  | cons b rest ih =>
    rw [takeOut]
    split
    · rename_i hsame
      rw [same_iff_of_right hid] at hsame
      rcases List.mem_cons.mp ha with rfl | ha
      · exact absurd hsame hne
      · exact ha
    · rcases List.mem_cons.mp ha with rfl | ha
      · exact List.mem_cons_self
      · exact List.mem_cons_of_mem _ (ih ha)

theorem takeOut_eq {next : Json → List Json} (harcs : ∀ a ∈ arcs, a.2 = next a.1) {id : Json}
    (hid : id.IsWord) (hin : ∃ a ∈ arcs, a.1 = id) : (takeOut id arcs).1 = next id := by
  induction arcs with
  | nil =>
    obtain ⟨a, ha, -⟩ := hin
    cases ha
  | cons b rest ih =>
    rw [takeOut]
    split
    · rename_i hsame
      rw [same_iff_of_right hid] at hsame
      have hb := harcs b (by simp)
      rwa [hsame] at hb
    · rename_i hother
      rw [same_iff_of_right hid] at hother
      refine ih (fun a ha => harcs a (List.mem_cons_of_mem b ha)) ?_
      obtain ⟨a, ha, rfl⟩ := hin
      rcases List.mem_cons.mp ha with rfl | ha
      · exact absurd rfl hother
      · exact ⟨a, ha, rfl⟩

/-- A search that is under way. Of the known ids, those seen have sent on the ids that follow them,
and those not seen still have their entries. -/
structure Searches (next : Json → List Json) (known : List Json) (arcs : Arcs)
    (queue seen : List Json) : Prop where
  entries : ∀ a ∈ arcs, a.2 = next a.1
  words : ∀ a ∈ arcs, ∀ t ∈ a.2, t.IsWord
  queue_words : ∀ t ∈ queue, t.IsWord
  sent : ∀ id ∈ seen, id ∈ known → ∀ t ∈ next id, t ∈ seen ∨ t ∈ queue
  unsent : ∀ id ∈ known, id ∉ seen → ∃ a ∈ arcs, a.1 = id

namespace Searches

variable {next : Json → List Json} {known rest : List Json} {id : Json}

/-- An id that was seen is passed over. -/
theorem skip (h : Searches next known arcs (id :: rest) seen) (hin : id.isIn seen = true) :
    Searches next known arcs rest seen where
  entries := h.entries
  words := h.words
  queue_words t ht := h.queue_words t (List.mem_cons_of_mem id ht)
  sent x hx hknown t ht := by
    have hid : id ∈ seen := (isIn_iff (h.queue_words id (by simp)) seen).mp hin
    rcases h.sent x hx hknown t ht with hseen | hqueue
    · exact Or.inl hseen
    · rcases List.mem_cons.mp hqueue with rfl | hqueue
      · exact Or.inl hid
      · exact Or.inr hqueue
  unsent := h.unsent

/-- Another id gives up its entry. -/
theorem visit (h : Searches next known arcs (id :: rest) seen) (hin : ¬ id.isIn seen = true) :
    Searches next known (takeOut id arcs).2 (rest ++ (takeOut id arcs).1) (seen ++ [id]) := by
  have hid : id.IsWord := h.queue_words id (by simp)
  have hnew : id ∉ seen := fun hmem => hin ((isIn_iff hid seen).mpr hmem)
  obtain ⟨hfound, hleft⟩ := Flow.forall_takeOut h.words id
  constructor
  case entries => exact fun a ha => h.entries a (mem_of_mem_takeOut ha)
  case words => exact hleft
  case queue_words =>
    exact List.forall_mem_append.mpr
      ⟨fun t ht => h.queue_words t (List.mem_cons_of_mem id ht), hfound⟩
  case sent =>
    intro x hx hknown t ht
    rcases List.mem_append.mp hx with hx | hx
    · rcases h.sent x hx hknown t ht with hseen | hqueue
      · exact Or.inl (by simp [hseen])
      · rcases List.mem_cons.mp hqueue with rfl | hqueue
        · exact Or.inl (by simp)
        · exact Or.inr (by simp [hqueue])
    · obtain rfl := List.mem_singleton.mp hx
      rw [takeOut_eq h.entries hid (h.unsent x hknown hnew)]
      exact Or.inr (by simp [ht])
  case unsent =>
    intro x hknown hx
    simp only [List.mem_append, List.mem_singleton, not_or] at hx
    obtain ⟨a, ha, rfl⟩ := h.unsent x hknown hx.1
    exact ⟨a, mem_takeOut hid ha hx.2, rfl⟩

/-- What was seen, and what is in the queue, is found. -/
theorem mem_explore (h : Searches next known arcs queue seen) {x : Json}
    (hx : x ∈ seen ∨ x ∈ queue) : x ∈ arcs.explore queue seen := by
  induction arcs, queue, seen using explore.induct with
  | case1 arcs seen => simpa [explore] using hx
  | case2 arcs seen id rest hin ih =>
    rw [explore, if_pos hin]
    have hid : id ∈ seen := (isIn_iff (h.queue_words id (by simp)) seen).mp hin
    refine ih (h.skip hin) ?_
    rcases hx with hx | hx
    · exact Or.inl hx
    · rcases List.mem_cons.mp hx with rfl | hx
      · exact Or.inl hid
      · exact Or.inr hx
  | case3 arcs seen id rest hin ih =>
    rw [explore, if_neg hin]
    refine ih (h.visit hin) ?_
    rcases hx with hx | hx
    · exact Or.inl (by simp [hx])
    · rcases List.mem_cons.mp hx with rfl | hx
      · exact Or.inl (by simp)
      · exact Or.inr (by simp [hx])

/-- With a known id, the ids that follow it are found. -/
theorem closed (h : Searches next known arcs queue seen) {x t : Json}
    (hx : x ∈ arcs.explore queue seen) (hknown : x ∈ known) (ht : t ∈ next x) :
    t ∈ arcs.explore queue seen := by
  induction arcs, queue, seen using explore.induct with
  | case1 arcs seen =>
    rw [explore] at hx ⊢
    simpa using h.sent x hx hknown t ht
  | case2 arcs seen id rest hin ih =>
    rw [explore, if_pos hin] at hx ⊢
    exact ih (h.skip hin) hx
  | case3 arcs seen id rest hin ih =>
    rw [explore, if_neg hin] at hx ⊢
    exact ih (h.visit hin) hx

end Searches

end Arcs

/-! ## What validation takes for reachable -/

namespace Flow

variable {f : Flow}

theorem mem_successors_of_edge (h : f.Worded) {e : Edge} (he : e ∈ f.edges) :
    e.target ∈ f.successors e.source := by
  have hsame : e.source.same e.source = true := (same_iff_of_left (h.ends e he).1.isWord).mpr rfl
  refine (mem_foldl_addNew (h.named _) _ _).mpr (Or.inl (List.mem_map.mpr ⟨e, ?_, rfl⟩))
  exact List.mem_filter.mpr ⟨he, hsame⟩

theorem mem_successors_of_named (h : f.Worded) {n : Node} (hn : n ∈ f.nodes) {t : Json}
    (ht : t ∈ n.namedTargets) : t ∈ f.successors n.id := by
  have hsame : n.id.same n.id = true := (same_iff_of_left (h.ids n hn).isWord).mpr rfl
  refine (mem_foldl_addNew (h.named _) _ _).mpr (Or.inr (List.mem_flatMap.mpr ⟨n, ?_, ht⟩))
  exact List.mem_filter.mpr ⟨hn, hsame⟩

theorem searches_start (h : f.Worded) {start : Node} (hstart : start ∈ f.nodes) :
    Arcs.Searches f.successors f.ids f.arcs [start.id] [] where
  entries a ha := by
    obtain ⟨id, -, rfl⟩ := List.mem_map.mp ha
    rfl
  words a ha := by
    obtain ⟨id, -, rfl⟩ := List.mem_map.mp ha
    exact h.successors id
  queue_words := by simpa using (h.ids start hstart).isWord
  sent _ hid := absurd hid List.not_mem_nil
  unsent id hid _ := by
    have hwords : ∀ x ∈ f.ids, x.IsWord := fun x hx => (h.isText_of_mem_ids hx).isWord
    exact ⟨_, List.mem_map.mpr ⟨id, (mem_distinct hwords id).mpr hid, rfl⟩, rfl⟩

theorem start_mem_reached (h : f.Worded) {start : Node} (hstart : f.startNode? = some start) :
    start.id ∈ f.reached := by
  have hmem : start ∈ f.nodes := List.mem_of_find?_eq_some hstart
  unfold reached
  rw [hstart]
  exact (searches_start h hmem).mem_explore (by simp)

theorem reached_closed (h : f.Worded) {id t : Json} (hid : id ∈ f.reached) (hknown : id ∈ f.ids)
    (ht : t ∈ f.successors id) : t ∈ f.reached := by
  unfold reached at hid ⊢
  split at hid
  · rename_i start hstart
    exact (searches_start h (List.mem_of_find?_eq_some hstart)).closed hid hknown ht
  · cases hid

/-! ## Labels

The search does not look at the labels of the edges. A run does, but whatever they are, each way that
it takes is one that the search goes as well. -/

/-- The flow without the labels of its edges. -/
def unlabelled (f : Flow) : Flow :=
  { f with edges := f.edges.map fun x => { x with label := .null } }

theorem Worded.unlabelled (h : f.Worded) : f.unlabelled.Worded where
  ids := h.ids
  ends := List.forall_mem_map.mpr h.ends
  labels := List.forall_mem_map.mpr fun _ _ => Or.inl rfl
  connections := h.connections

theorem successors_unlabelled (f : Flow) : f.unlabelled.successors = f.successors := by
  funext id
  unfold successors Flow.unlabelled
  simp only [List.filter_map, List.map_map]
  rfl

theorem reached_unlabelled (f : Flow) : f.unlabelled.reached = f.reached := by
  unfold reached arcs
  rw [successors_unlabelled]
  rfl

/-! ## The ways that a run takes -/

theorem outgoing_target_mem_successors (h : f.unlabelled.Worded) {n : Node} {e : Edge}
    (he : e ∈ f.outgoing n.id) : e.target ∈ f.successors n.id := by
  obtain ⟨he, hsource⟩ := List.mem_filter.mp he
  have hplain : { e with label := .null } ∈ f.unlabelled.edges := List.mem_map_of_mem he
  have hsent := mem_successors_of_edge h hplain
  rw [equals_iff_of_left (h.ends _ hplain).1.isWord] at hsource
  rwa [successors_unlabelled, hsource] at hsent

theorem mem_successors_of_unlabelled (h : f.unlabelled.Worded) {n : Node} (hn : n ∈ f.nodes)
    {t : Json} (ht : t ∈ n.namedTargets) : t ∈ f.successors n.id := by
  rw [← successors_unlabelled]
  exact mem_successors_of_named h hn ht

theorem mem_namedTargets_of_connection {n : Node} {c : Json} (hc : c ∈ n.connections) :
    c ∈ n.namedTargets := by
  unfold Node.namedTargets
  split
  · exact List.mem_append_left _ hc
  · exact hc

theorem mem_namedTargets_of_branch {n : Node} {matched : Bool} {t : String}
    (ht : Session.namedBranch n.data matched = some t) : .str t ∈ n.namedTargets := by
  have hbranch : ∃ d, n.data = .condition d ∧
      t ∈ (d.yesTo.toList ++ d.noTo.toList).filter (· != "") := by
    unfold Session.namedBranch at ht
    split at ht
    · rename_i d hdata
      obtain ⟨htarget, hne⟩ := Option.filter_eq_some_iff.mp ht
      refine ⟨d, hdata, List.mem_filter.mpr ⟨?_, hne⟩⟩
      cases matched
      · exact List.mem_append_right _ (by simpa using htarget)
      · exact List.mem_append_left _ (by simpa using htarget)
    · cases ht
  obtain ⟨d, hdata, hmem⟩ := hbranch
  unfold Node.namedTargets
  rw [hdata]
  exact List.mem_append_right _ (List.mem_map.mpr ⟨t, hmem, rfl⟩)

/-- The usual way on from a node leads to a node that validation takes for its successor. -/
theorem defaultNext_mem (h : f.unlabelled.Worded) {n m : Node} (hn : n ∈ f.nodes)
    (hm : Session.defaultNext f n = some m) : m ∈ f.nodes ∧ m.id ∈ f.successors n.id := by
  unfold Session.defaultNext at hm
  split at hm
  · rename_i e he
    obtain ⟨hmem, hid⟩ := h.node?_spec hm
    exact ⟨hmem, hid ▸ outgoing_target_mem_successors h (List.mem_of_find?_eq_some he)⟩
  · obtain ⟨c, hc, hm⟩ := Option.bind_eq_some_iff.mp hm
    obtain ⟨hmem, rfl⟩ := h.node?_spec hm
    have hnamed := mem_namedTargets_of_connection (List.mem_of_mem_head? hc)
    exact ⟨hmem, mem_successors_of_unlabelled h hn hnamed⟩

/-- And so does the way of a branch. -/
theorem branchNext_mem (h : f.unlabelled.Worded) {n m : Node} (hn : n ∈ f.nodes) {matched : Bool}
    (hm : Session.branchNext f n matched = some m) :
    m ∈ f.nodes ∧ m.id ∈ f.successors n.id := by
  unfold Session.branchNext at hm
  split at hm
  · rename_i e he
    obtain ⟨hmem, hid⟩ := h.node?_spec hm
    exact ⟨hmem, hid ▸ outgoing_target_mem_successors h (List.mem_of_find?_eq_some he)⟩
  · obtain ⟨t, ht, hm⟩ := Option.bind_eq_some_iff.mp hm
    obtain ⟨hmem, hid⟩ := h.node?_spec hm
    have hnamed := mem_namedTargets_of_branch ht
    exact ⟨hmem, mem_successors_of_unlabelled h hn (hid ▸ hnamed)⟩

end Flow

end Dialogue
