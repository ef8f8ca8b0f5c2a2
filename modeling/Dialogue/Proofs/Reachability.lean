-- Which nodes are said to be out of reach. The search that validation makes goes through its queue to
-- the end, and what it has found then are the ids that a path leads to from the first start node.
import Mathlib.Logic.Relation
import Dialogue.Proofs.Acceptance
import Dialogue.Proofs.Admission

namespace Dialogue

open Json

/-! ## A search that comes to its end -/

/-- A search that starts with some ids in its queue and some seen, and ends with all it has seen. An id
at the front of the queue that was seen is passed over. Any other sends the ids that follow it to the
end of the queue. -/
inductive Search (next : Json → List Json) : List Json → List Json → List Json → Prop where
  | ended (seen : List Json) : Search next [] seen seen
  | passed {id : Json} {rest seen found : List Json} (hseen : id ∈ seen)
      (h : Search next rest seen found) : Search next (id :: rest) seen found
  | visited {id : Json} {rest seen found : List Json} (hnew : id ∉ seen)
      (h : Search next (rest ++ next id) (seen ++ [id]) found) : Search next (id :: rest) seen found

/-- A search finds nothing but what it starts with and what follows that. -/
theorem Search.forall_found {next : Json → List Json} {queue seen found : List Json} {P : Json → Prop}
    (h : Search next queue seen found) (hnext : ∀ id, P id → ∀ t ∈ next id, P t)
    (hqueue : ∀ id ∈ queue, P id) (hseen : ∀ id ∈ seen, P id) : ∀ id ∈ found, P id := by
  induction h with
  | ended seen => exact hseen
  | passed _ _ ih => exact ih (List.forall_mem_cons.mp hqueue).2 hseen
  | visited _ _ ih =>
    obtain ⟨hid, hrest⟩ := List.forall_mem_cons.mp hqueue
    refine ih (List.forall_mem_append.mpr ⟨hrest, hnext _ hid⟩) ?_
    exact List.forall_mem_append.mpr ⟨hseen, by simpa using hid⟩

namespace Arcs

variable {arcs : Arcs}

theorem takeOut_eq_nil {id : Json} (hid : id.IsWord) (h : ∀ a ∈ arcs, a.1 ≠ id) :
    (takeOut id arcs).1 = [] := by
  induction arcs with
  | nil => rfl
  | cons a rest ih =>
    obtain ⟨ha, hrest⟩ := List.forall_mem_cons.mp h
    rw [takeOut, if_neg (mt (same_iff_of_right hid).mp ha)]
    exact ih hrest

/-- The ids that follow an id, if it is a known one. -/
def nextOfKnown (next : Json → List Json) (known : List Json) (id : Json) : List Json :=
  if id.isIn known then next id else []

/-- Where each entry belongs to a known id, it makes no difference that the entries are taken out on the
way: an id that was seen is not asked for the ids that follow it again. -/
theorem Searches.search {next : Json → List Json} {known queue seen : List Json}
    (h : Searches next known arcs queue seen) (hknown : ∀ a ∈ arcs, a.1 ∈ known) :
    Search (nextOfKnown next known) queue seen (arcs.explore queue seen) := by
  induction arcs, queue, seen using explore.induct with
  | case1 arcs seen =>
    rw [explore]
    exact .ended seen
  | case2 arcs seen id rest hin ih =>
    rw [explore, if_pos hin]
    exact .passed ((isIn_iff (h.queue_words id List.mem_cons_self) seen).mp hin)
      (ih (h.skip hin) hknown)
  | case3 arcs seen id rest hin ih =>
    have hid : id.IsWord := h.queue_words id List.mem_cons_self
    have hnew : id ∉ seen := mt (isIn_iff hid seen).mpr hin
    have hnext : (takeOut id arcs).1 = nextOfKnown next known id := by
      unfold nextOfKnown
      split
      · rename_i hmem
        exact takeOut_eq h.entries hid (h.unsent id ((isIn_iff hid known).mp hmem) hnew)
      · rename_i hmem
        refine takeOut_eq_nil hid fun a ha heq => hmem ((isIn_iff hid known).mpr ?_)
        exact heq ▸ hknown a ha
    have hleft := ih (h.visit hin) fun a ha => hknown a (mem_of_mem_takeOut ha)
    rw [explore, if_neg hin]
    rw [hnext] at hleft ⊢
    exact .visited hnew hleft

end Arcs

/-! ## Paths -/

namespace Flow

variable {f : Flow}

/-- The arcs that a path through the flow is made of: an edge that a node of the flow is the source of,
a connection of a node, and a branch for which a condition stores a target. -/
inductive Arc (f : Flow) : Json → Json → Prop where
  | edge {x : Edge} (hx : x ∈ f.edges) (hsource : x.source ∈ f.ids) : Arc f x.source x.target
  | connection {n : Node} {t : Json} (hn : n ∈ f.nodes) (ht : t ∈ n.connections) : Arc f n.id t
  | branch {n : Node} {d : ConditionData} {t : String} (hn : n ∈ f.nodes)
      (hdata : n.data = .condition d) (ht : d.yesTo = some t ∨ d.noTo = some t) (hgiven : t ≠ "") :
      Arc f n.id (.str t)

/-- The ids that follow a node of the flow. Nothing follows an id that no node has. -/
def onward (f : Flow) : Json → List Json := Arcs.nextOfKnown f.successors f.ids

theorem arc_of_namedTarget {n : Node} (hn : n ∈ f.nodes) {t : Json} (ht : t ∈ n.namedTargets) :
    f.Arc n.id t := by
  unfold Node.namedTargets at ht
  split at ht
  · rename_i d hdata
    rcases List.mem_append.mp ht with ht | ht
    · exact .connection hn ht
    · obtain ⟨target, htarget, rfl⟩ := List.mem_map.mp ht
      obtain ⟨htarget, hgiven⟩ := List.mem_filter.mp htarget
      refine .branch hn hdata ?_ (bne_iff_ne.mp hgiven)
      simpa using htarget
  · exact .connection hn ht

theorem namedTarget_of_branch {n : Node} {d : ConditionData} {t : String}
    (hdata : n.data = .condition d) (ht : d.yesTo = some t ∨ d.noTo = some t) (hgiven : t ≠ "") :
    .str t ∈ n.namedTargets := by
  unfold Node.namedTargets
  rw [hdata]
  refine List.mem_append_right _ (List.mem_map_of_mem (List.mem_filter.mpr ⟨?_, ?_⟩))
  · simpa using ht
  · exact bne_iff_ne.mpr hgiven

theorem mem_onward_iff (h : f.Worded) {a b : Json} : b ∈ f.onward a ↔ f.Arc a b := by
  unfold onward Arcs.nextOfKnown
  constructor
  · intro hb
    split at hb
    · rename_i hin
      -- An id that is known is that of a node, so it is a text.
      have ha : a ∈ f.ids := by
        obtain ⟨id, hid, hsame⟩ := List.any_eq_true.mp hin
        rwa [(same_iff_of_right (h.isText_of_mem_ids hid).isWord).mp hsame]
      rcases mem_of_mem_foldl_addNew hb with hb | hb
      · obtain ⟨x, hx, rfl⟩ := List.mem_map.mp hb
        obtain ⟨hmem, hsource⟩ := List.mem_filter.mp hx
        rw [same_iff_of_left (h.ends x hmem).1.isWord] at hsource
        subst hsource
        exact .edge hmem ha
      · obtain ⟨n, hn, hnamed⟩ := List.mem_flatMap.mp hb
        obtain ⟨hmem, hid⟩ := List.mem_filter.mp hn
        rw [same_iff_of_left (h.ids n hmem).isWord] at hid
        subst hid
        exact arc_of_namedTarget hmem hnamed
    · cases hb
  · intro harc
    have hsent : a ∈ f.ids ∧ b ∈ f.successors a := by
      cases harc with
      | edge hx hsource => exact ⟨hsource, mem_successors_of_edge h hx⟩
      | connection hn ht =>
        have hnamed := mem_successors_of_named h hn (mem_namedTargets_of_connection ht)
        exact ⟨List.mem_map_of_mem hn, hnamed⟩
      | branch hn hdata ht hgiven =>
        have hnamed := mem_successors_of_named h hn (namedTarget_of_branch hdata ht hgiven)
        exact ⟨List.mem_map_of_mem hn, hnamed⟩
    rw [if_pos ((isIn_iff (h.isText_of_mem_ids hsent.1).isWord _).mpr hsent.1)]
    exact hsent.2

/-- The search from the first start node goes through its queue to the end. -/
theorem search_reached (h : f.Worded) {start : Node} (hstart : f.startNode? = some start) :
    Search f.onward [start.id] [] f.reached := by
  have hwords : ∀ id ∈ f.ids, id.IsWord := fun id hid => (h.isText_of_mem_ids hid).isWord
  have hknown : ∀ a ∈ f.arcs, a.1 ∈ f.ids := by
    intro a ha
    obtain ⟨id, hid, rfl⟩ := List.mem_map.mp ha
    exact (mem_distinct hwords id).mp hid
  unfold reached
  rw [hstart]
  exact (searches_start h (List.mem_of_find?_eq_some hstart)).search hknown

/-- What it finds are the ids that a path leads to. -/
theorem mem_reached_iff (h : f.Worded) {start : Node} (hstart : f.startNode? = some start) (id : Json) :
    id ∈ f.reached ↔ Relation.ReflTransGen f.Arc start.id id := by
  constructor
  · refine (search_reached h hstart).forall_found (P := Relation.ReflTransGen f.Arc start.id) ?_ ?_
      nofun id
    · exact fun a ha t ht => ha.tail ((mem_onward_iff h).mp ht)
    · exact List.forall_mem_singleton.mpr .refl
  · intro hpath
    induction hpath with
    | refl => exact start_mem_reached h hstart
    | @tail a b _ harc ih =>
      have hb := (mem_onward_iff h).mpr harc
      unfold onward Arcs.nextOfKnown at hb
      split at hb
      · rename_i hin
        exact reached_closed h ih ((isIn_iff (h.reached a ih) _).mp hin) hb
      · cases hb

/-! ## The warning -/

/-- Whether something is said to be out of reach hangs on whether there is a start node at all. -/
theorem unreachable_mem_wayIssues_iff (h : f.Worded) (id : Json) :
    .unreachable id ∈ f.wayIssues ↔ f.startNode?.isSome = true ∧ id ∈ f.ids ∧ id ∉ f.reached := by
  have hin : ∀ n ∈ f.nodes, (!n.id.isIn f.reached) = true ↔ n.id ∉ f.reached := by
    intro n hn
    rw [Bool.not_eq_true', ← Bool.not_eq_true, isIn_iff (h.ids n hn).isWord]
  unfold wayIssues
  simp only [List.mem_flatMap, List.mem_append, List.mem_ite_nil_right, List.mem_singleton,
    reduceCtorEq, and_false, or_false, Issue.unreachable.injEq, Bool.and_eq_true, mem_ids]
  constructor
  · rintro ⟨n, hn, ⟨hstart, hnone⟩, rfl⟩
    exact ⟨hstart, ⟨n, hn, rfl⟩, (hin n hn).mp hnone⟩
  · rintro ⟨hstart, ⟨n, hn, rfl⟩, hnone⟩
    exact ⟨n, hn, ⟨hstart, (hin n hn).mpr hnone⟩, rfl⟩

/-! ## Labels

A path does not look at the labels of the edges either. -/

/-- The ids of the flow and of its nodes, and all references to these, are texts. A label can be
anything. -/
structure HasTextIds (f : Flow) : Prop where
  id : f.id.IsText
  ids : ∀ n ∈ f.nodes, n.id.IsText
  ends : ∀ x ∈ f.edges, x.source.IsText ∧ x.target.IsText
  connections : ∀ n ∈ f.nodes, ∀ c ∈ n.connections, c.IsText

theorem HasTextIds.worded_unlabelled (h : f.HasTextIds) : f.unlabelled.Worded where
  ids := h.ids
  ends := List.forall_mem_map.mpr h.ends
  labels := List.forall_mem_map.mpr fun _ _ => Or.inl rfl
  connections := h.connections

theorem wayIssues_unlabelled (f : Flow) : f.unlabelled.wayIssues = f.wayIssues := by
  unfold wayIssues hasNext
  rw [successors_unlabelled, reached_unlabelled]
  rfl

theorem onward_unlabelled (f : Flow) : f.unlabelled.onward = f.onward := by
  unfold onward
  rw [successors_unlabelled]
  rfl

theorem arc_unlabelled (f : Flow) : f.unlabelled.Arc = f.Arc := by
  funext a b
  apply propext
  constructor
  · intro harc
    cases harc with
    | edge hx hsource =>
      obtain ⟨y, hy, rfl⟩ := List.mem_map.mp hx
      have hplain : f.Arc y.source y.target := .edge hy hsource
      exact hplain
    | connection hn ht => exact .connection hn ht
    | branch hn hdata ht hgiven => exact .branch hn hdata ht hgiven
  · intro harc
    cases harc with
    | @edge x hx hsource =>
      let y : Edge := { x with label := .null }
      have hy : y ∈ f.unlabelled.edges := List.mem_map_of_mem hx
      have hplain : f.unlabelled.Arc y.source y.target := .edge hy hsource
      exact hplain
    | connection hn ht => exact .connection hn ht
    | branch hn hdata ht hgiven => exact .branch hn hdata ht hgiven

/-! ## What validation warns of -/

theorem connectionIssues_errors {found : List Issue} (h : f.connectionIssues = .ok found) :
    ∀ i ∈ found, i.isError = true := by
  have hall : ∀ (ns : List Node) (iss : List (List Issue)),
      ns.mapM (fun n => do
        return if ← f.connectionsMatch n then [] else [Issue.unmatchedConnections n.id]) =
          (Except.ok iss : Outcome _) → ∀ i ∈ iss.flatten, i.isError = true := by
    intro ns
    induction ns with
    | nil =>
      intro iss hiss
      cases hiss
      nofun
    | cons n rest ih =>
      intro iss hiss
      rw [List.mapM_cons] at hiss
      obtain ⟨is, his, hiss⟩ := Outcome.ok_of_bind hiss
      obtain ⟨more, hmore, hiss⟩ := Outcome.ok_of_bind hiss
      obtain ⟨b, -, his⟩ := Outcome.ok_of_bind his
      cases hiss
      cases his
      refine List.forall_mem_append.mpr ⟨?_, ih more hmore⟩
      cases b <;> simp [Issue.isError]
  obtain ⟨iss, hiss, hfound⟩ := Outcome.ok_of_bind h
  cases hfound
  exact hall f.nodes iss hiss

/-- A report warns of nothing but what the ways are like. -/
theorem warnings_of_validate {most now : Int} {r : Report} (h : f.validate most now = .ok r) :
    r.warnings = f.wayIssues := by
  obtain ⟨found, hfound, h⟩ := Outcome.ok_of_bind h
  obtain ⟨_, -, h⟩ := Outcome.ok_of_bind h
  cases h
  obtain ⟨_, -, hfound⟩ := Outcome.ok_of_bind hfound
  obtain ⟨_, -, hfound⟩ := Outcome.ok_of_bind hfound
  obtain ⟨_, -, hfound⟩ := Outcome.ok_of_bind hfound
  obtain ⟨connections, hconnections, hfound⟩ := Outcome.ok_of_bind hfound
  obtain ⟨_, -, hfound⟩ := Outcome.ok_of_bind hfound
  obtain ⟨_, -, hfound⟩ := Outcome.ok_of_bind hfound
  cases hfound
  refine warnings_of_report ?_ most _
  exact List.forall_mem_append.mpr ⟨List.forall_mem_append.mpr ⟨List.forall_mem_append.mpr
    ⟨List.forall_mem_append.mpr ⟨startIssues_errors f, repeatIssues_errors f⟩,
      issuesOfEdges_errors f [] f.edges⟩, branchIssues_errors f⟩, connectionIssues_errors hconnections⟩

/-- Where all that is referred to is a text, there is a report as soon as the labels can be looked
up. -/
theorem exists_report (h : f.unlabelled.Worded) (hlabels : ∀ x ∈ f.edges, x.label.isKey = true)
    (most : Int) {now : Int} (hnow : Clock.isDated now = true) :
    ∃ r, f.validate most now = .ok r := by
  have hends := (legible h hlabels).validate most hnow
  cases hr : f.validate most now with
  | ok r => exact ⟨r, rfl⟩
  | error fault => exact (hends fault hr).elim

/-- Of an id that the search from the start finds, it is never said that it cannot be reached. -/
theorem not_warned_of_reached (h : f.unlabelled.Worded) {id : Json} (hid : id ∈ f.reached)
    {most now : Int} {r : Report} (hr : f.validate most now = .ok r) :
    .unreachable id ∉ r.issues := by
  intro hwarned
  have hwarning : .unreachable id ∈ r.warnings := List.mem_filter.mpr ⟨hwarned, rfl⟩
  rw [warnings_of_validate hr, ← wayIssues_unlabelled, unreachable_mem_wayIssues_iff h,
    reached_unlabelled] at hwarning
  exact hwarning.2.2 hid

/-- The search that validation makes comes to its end. Where there is a start node, a report says of a
node that it is out of reach exactly if no path leads to its id from the first start node, and where there
is none it says so of nothing. There is a report wherever the labels of the edges can be looked up. -/
theorem a_node_is_out_of_reach_iff_no_path_leads_there (h : f.HasTextIds) (most now : Int) :
    (∀ start, f.startNode? = some start → Search f.onward [start.id] [] f.reached) ∧
    (Clock.isDated now = true → (∀ x ∈ f.edges, x.label.isKey = true) →
      ∃ r, f.validate most now = .ok r) ∧
    ∀ r, f.validate most now = .ok r →
      (∀ start, f.startNode? = some start → ∀ n ∈ f.nodes,
        .unreachable n.id ∈ r.warnings ↔ ¬ Relation.ReflTransGen f.Arc start.id n.id) ∧
      (f.startNode? = none → ∀ id, .unreachable id ∉ r.warnings) := by
  have hwords := h.worded_unlabelled
  refine ⟨fun start hstart => ?_, fun hnow hlabels => ?_, fun r hr => ?_⟩
  · rw [← onward_unlabelled, ← reached_unlabelled]
    exact search_reached hwords hstart
  · exact exists_report hwords hlabels most hnow
  · rw [warnings_of_validate hr, ← wayIssues_unlabelled]
    constructor
    · intro start hstart n hn
      have hsome : f.unlabelled.startNode?.isSome = true := Option.isSome_of_mem hstart
      have hknown : n.id ∈ f.unlabelled.ids := List.mem_map_of_mem hn
      rw [unreachable_mem_wayIssues_iff hwords, mem_reached_iff hwords hstart, arc_unlabelled,
        and_iff_right hsome, and_iff_right hknown]
    · intro hnone id hwarned
      rw [unreachable_mem_wayIssues_iff hwords] at hwarned
      have hsome : f.startNode?.isSome = true := hwarned.1
      rw [hnone] at hsome
      cases hsome

/-- A start node that leads to a condition, and through a stored branch to a message. The message leads
back, and to an id that no node has. From there an edge leads on to a last message. -/
def ghostFlow : Flow where
  id := .str "ghost"
  name := .str "Ghost"
  description := .str ""
  category := .str ""
  status := .draft
  label := .str firstLabel
  nodes :=
    [⟨.str "start", .start {}, [], [.str "asked"]⟩,
      ⟨.str "asked", .condition { yesTo := some "hello", noTo := some "" }, [], []⟩,
      ⟨.str "hello", .message {}, [], [.str "asked", .str "nobody"]⟩,
      ⟨.str "island", .message {}, [], [.str "hello"]⟩]
  edges := [⟨.str "bridge", .str "nobody", .str "island", .int 5⟩]
  createdAt := 0
  updatedAt := 0

theorem ghostFlow_hasTextIds : ghostFlow.HasTextIds := by
  constructor <;> simp [ghostFlow, isText_str]

/-- The edge is no arc of a path, for no node is at its source, and nothing else leads where it leads. -/
theorem ghostFlow_arc {a b : Json} (h : ghostFlow.Arc a b) : b ≠ .str "island" := by
  cases h with
  | edge hx hsource =>
    rw [List.mem_singleton.mp hx] at hsource
    simp [ghostFlow, ids] at hsource
  | @connection n _ hn ht =>
    rintro rfl
    have hnamed : ∀ n ∈ ghostFlow.nodes, .str "island" ∉ n.connections := by simp [ghostFlow]
    exact hnamed n hn ht
  | @branch n d t hn hdata ht _ =>
    rintro ⟨⟩
    have hstored : ∀ n ∈ ghostFlow.nodes, ∀ d, n.data = .condition d →
        d.yesTo ≠ some "island" ∧ d.noTo ≠ some "island" := by
      simp [ghostFlow]
    exact ht.elim (hstored n hn d hdata).1 (hstored n hn d hdata).2

/-- So the last message is said to be out of reach, and the first one is not. -/
theorem only_the_island_of_the_ghost_is_out_of_reach :
    ghostFlow.HasTextIds ∧ ∃ r, ghostFlow.validate 4 0 = .ok r ∧
      .unreachable (.str "hello") ∉ r.warnings ∧ .unreachable (.str "island") ∈ r.warnings := by
  let start := ghostFlow.nodes[0]
  let asked := ghostFlow.nodes[1]
  obtain ⟨-, hends, hwarned⟩ :=
    a_node_is_out_of_reach_iff_no_path_leads_there ghostFlow_hasTextIds 4 0
  obtain ⟨r, hr⟩ := hends (by decide) (by simp [ghostFlow, Json.isKey])
  have hwarned := (hwarned r hr).1 start rfl
  refine ⟨ghostFlow_hasTextIds, r, hr, ?_, ?_⟩
  · intro hsaid
    refine (hwarned ghostFlow.nodes[2] (List.getElem_mem _)).mp hsaid ?_
    have hfirst : ghostFlow.Arc start.id asked.id :=
      .connection (List.getElem_mem _) List.mem_cons_self
    have hsecond : ghostFlow.Arc asked.id (.str "hello") :=
      .branch (n := asked) (List.getElem_mem _) rfl (Or.inl rfl) (by decide)
    exact (Relation.ReflTransGen.single hfirst).tail hsecond
  · refine (hwarned ghostFlow.nodes[3] (List.getElem_mem _)).mpr fun hpath => ?_
    rcases hpath.cases_tail with hstart | ⟨id, -, harc⟩
    · exact absurd hstart (by simp [start, ghostFlow])
    · exact ghostFlow_arc harc rfl

end Flow

end Dialogue
