-- The nodes that runs visit, in histories in which anyone may listen. A run of a flow visits none
-- but those that validation takes for reachable.
import Dialogue.Proofs.Reachability
import Dialogue.Proofs.Run.Ground

namespace Dialogue

/-- What happens where any listener may come, also one that calls back into the session. -/
inductive Incident where
  | happens (h : Happening)
  | joins (l : Listener)

/-- If a run is started, it is one of the flow. -/
def Incident.StartsOnly (f : Flow) : Incident → Prop
  | happens (.start g _) => g = f
  | _ => True

namespace Bench

def undergo (lab : Lab) (b : Bench) (now : Moment) : Incident → Bench
  | .happens h => b.happen lab now h
  | .joins l => (b.atMoment now).onSession fun s => s.subscribe l

/-- What has become of a bench in the course of such a history. -/
def outcome (lab : Lab) (b : Bench) (history : List (Moment × Incident)) : Bench :=
  history.foldl (fun b i => b.undergo lab i.1 i.2) b

/-- A trace that a visit to a node leaves: the run has come to it, an event of the run is about it,
an event was heard about it from a place on, or a task sleeps at it that is not older than the
given generation. -/
inductive HasTrace (b : Bench) (place least : Nat) : Json → Prop
  | current (h : 0 < b.session.run.stats.visited) : HasTrace b place least b.session.run.current
  | told {e : Event} (he : e ∈ b.session.run.events.toList) (hnode : e.notice.node ≠ .null) :
      HasTrace b place least e.notice.node
  | heard {h : String × Event} (hh : h ∈ b.session.heard.since place)
      (hnode : h.2.notice.node ≠ .null) : HasTrace b place least h.2.notice.node
  | asleep {x : Sleeper} {n : Node} (hx : x ∈ b.sleepers) (hyoung : least ≤ x.generation)
      (hn : x.stage.node? = some n) : HasTrace b place least n.id

/-- Wherever a task comes to a node it leaves a trace, for it sleeps once the node is announced. -/
theorem hasTrace_of_enter {lab : Lab} {s : Session} {n : Node} {generation least : Nat}
    (hmore : s.run.steps < lab.settings.maxSteps) (hreturn : lab.PausesReturn)
    (hleast : least ≤ generation) (b : Bench) (task place : Nat) (errand : Errand) :
    (b.file task errand generation (s.enter lab n)).HasTrace place least n.id := by
  obtain ⟨us, hus⟩ := hreturn.stepDelay
  have henter : (s.enter lab n).2 = .asleep us (.announced n) := by
    unfold Session.enter
    rw [if_neg (Nat.not_le.mpr hmore), hus]
    rfl
  let x : Sleeper := ⟨task, errand, generation, (s.enter lab n).1.now + us, .announced n⟩
  have hx : x ∈ (b.file task errand generation (s.enter lab n)).sleepers := by
    unfold file
    rw [henter]
    exact (lieDown_perm x b.sleepers).symm.subset List.mem_cons_self
  exact .asleep hx hleast rfl

/-! ## On a ground -/

/-- The session is on the ground, and so are the tasks that are not older than the given
generation. None is younger than the session. -/
structure IsOnGround (G : Ground) (place least : Nat) (b : Bench) : Prop where
  session : b.session.IsOn G place least
  old : ∀ x ∈ b.sleepers, x.generation ≤ b.session.generation
  tasks : ∀ x ∈ b.sleepers, least ≤ x.generation → x.stage.IsOn G

variable {G : Ground} {place least : Nat} {b : Bench} {lab : Lab}

theorem IsOnGround.ids_of_trace (h : b.IsOnGround G place least) {id : Json}
    (htrace : b.HasTrace place least id) : G.ids id := by
  cases htrace with
  | current hvisited => exact h.session.run.current hvisited
  | told he hnode => exact h.session.run.told _ he hnode
  | heard hh hnode => exact h.session.heard _ hh hnode
  | @asleep x n hx hyoung hn => exact G.covers n ((h.tasks x hx hyoung).node hn)

/-- A stretch on the ground, filed under a generation that the session has had. -/
theorem isOnGround_file {task generation : Nat} {errand : Errand} {r : Stretch}
    (hsession : r.1.IsOn G place least) (hhalt : least ≤ generation → r.2.IsOn G)
    (hgeneration : generation ≤ r.1.generation)
    (hold : ∀ x ∈ b.sleepers, x.generation ≤ r.1.generation)
    (htasks : ∀ x ∈ b.sleepers, least ≤ x.generation → x.stage.IsOn G) :
    (b.file task errand generation r).IsOnGround G place least := by
  constructor
  case session => rwa [file_session]
  case old =>
    intro x hx
    rw [file_session]
    rcases mem_file_sleepers b task errand generation r hx with hx | ⟨hx, -⟩
    · exact hold x hx
    · exact hx ▸ hgeneration
  case tasks =>
    intro x hx hleast
    rcases mem_file_sleepers b task errand generation r hx with hx | ⟨hx, span, hspan⟩
    · exact htasks x hx hleast
    · have hon := hhalt (hx ▸ hleast)
      rwa [hspan] at hon

/-- A change of the session under which the generation does not fall. -/
theorem IsOnGround.onSession (h : b.IsOnGround G place least) (change : Session → Session)
    (hchange : (change b.session).IsOn G place b.session.generation) :
    (b.onSession change).IsOnGround G place least :=
  ⟨hchange.lower h.session.least, fun x hx => Nat.le_trans (h.old x hx) hchange.least, h.tasks⟩

/-- A task that may go on sleeps on the ground, and any other does nothing to the run. -/
theorem IsOnGround.wake (h : b.IsOnGround G place least)
    (hdated : Clock.isDated b.session.now = true) (index : Nat) :
    (b.wake lab index).IsOnGround G place least := by
  unfold Bench.wake
  split
  · exact h
  · rename_i x hx
    have hmem := List.mem_of_getElem? hx
    have hr : (b.session.tryResume lab x.generation x.stage).1.IsOn G place b.session.generation ∧
        (least ≤ x.generation →
          (b.session.tryResume lab x.generation x.stage).2.IsOn G) := by
      rw [Session.tryResume_eq hdated]
      by_cases hcurrent : b.session.generation = x.generation
      · have hyoung : least ≤ x.generation := hcurrent ▸ h.session.least
        have hresume : (b.session.resume lab x.generation x.stage).IsOn G place
            b.session.generation :=
          h.session.raise.resume x.generation (h.tasks x hmem hyoung)
        exact ⟨hresume.session, fun _ => hresume.halt⟩
      · rw [Session.resume_stale lab hcurrent]
        exact ⟨h.session.raise.dice _, fun _ => Halt.isOn_stopped _⟩
    obtain ⟨hsession, hhalt⟩ := hr
    exact isOnGround_file (hsession.lower h.session.least) hhalt
      (Nat.le_trans (h.old x hmem) hsession.least)
      (fun y hy => Nat.le_trans (h.old y (List.mem_of_mem_eraseIdx hy)) hsession.least)
      fun y hy => h.tasks y (List.mem_of_mem_eraseIdx hy)

theorem IsOnGround.submit (h : b.IsOnGround G place least)
    (hdated : Clock.isDated b.session.now = true) {r : Option Stretch}
    (hr : ∀ r', r = some r' → r'.IsOn G place b.session.generation) :
    (b.submit lab false r).IsOnGround G place least := by
  unfold Bench.submit
  rw [Session.tryAnswer_eq hdated]
  cases r with
  | none => exact ⟨h.session, h.old, h.tasks⟩
  | some r =>
    have hon := hr r rfl
    exact isOnGround_file (hon.session.lower h.session.least) (fun _ => hon.halt)
      hon.session.least (fun x hx => Nat.le_trans (h.old x hx) hon.session.least) h.tasks

/-- A start comes to the ground of its flow, wherever the bench was before. -/
theorem isOnGround_start {f : Flow} (hf : f.LiesOn G) (hdated : Clock.isDated b.session.now = true)
    (hheard : ∀ h ∈ b.session.heard.since place, h.2.notice.IsOn G)
    (hleast : least ≤ b.session.generation + 1)
    (hold : ∀ x ∈ b.sleepers, x.generation ≤ b.session.generation)
    (htasks : ∀ x ∈ b.sleepers, least ≤ x.generation → x.stage.IsOn G) (channel : Channel) :
    (b.start lab f channel false).IsOnGround G place least := by
  have hr : (b.session.tryStart lab f channel).IsOn G place (b.session.generation + 1) := by
    rw [Session.tryStart_eq hdated]
    split
    · exact ⟨⟨Run.isOn_empty G, hheard, Nat.le_refl _⟩, trivial⟩
    · exact Session.isOn_start hf hheard (Nat.le_refl _) channel
  have hrise := hr.session.least
  exact isOnGround_file (hr.session.lower hleast) (fun _ => hr.halt) hrise
    (fun x hx => Nat.le_trans (hold x hx) (Nat.le_trans (Nat.le_succ _) hrise)) htasks

/-! ## Histories -/

theorem IsOnGround.atMoment (h : b.IsOnGround G place least) (now : Moment) :
    (b.atMoment now).IsOnGround G place least :=
  ⟨h.session.now now.1, h.old, h.tasks⟩

/-- Whatever happens, the bench stays on the ground, if a run that is started lies on it. -/
theorem IsOnGround.undergo (h : b.IsOnGround G place least) (now : Moment) {i : Incident}
    (hstart : ∀ f channel, i = .happens (.start f channel) → f.LiesOn G) :
    (b.undergo lab now i).IsOnGround G place least := by
  have hdated : Clock.isDated (b.atMoment now).session.now = true := now.2
  have h := h.atMoment now
  have hsame := h.session.raise
  cases i with
  | joins l => exact h.onSession (·.subscribe l) (hsame.subscribe l)
  | happens happening =>
    cases happening with
    | start f channel =>
      exact isOnGround_start (hstart f channel rfl) hdated h.session.heard
        (Nat.le_succ_of_le h.session.least) h.old h.tasks channel
    | say said =>
      cases said with
      | str text => exact h.submit hdated fun r hr => hsame.taken (Session.isTaken_submitText hr)
      | _ => exact ⟨h.session, h.old, h.tasks⟩
    | press digits => exact h.submit hdated fun r hr => hsame.taken (Session.isTaken_submitKeys hr)
    | endCall =>
      have hover := hsame.endCall
      rw [← Session.tryEndCall_eq hdated] at hover
      exact h.onSession (·.tryEndCall.1) hover
    | reset => exact h.onSession .reset hsame.reset
    | subscribe l => exact h.onSession (·.subscribe l) (hsame.subscribe l)
    | unsubscribe name => exact h.onSession (·.dismiss name) (hsame.dismiss name)
    | wake index => exact h.wake hdated index

theorem IsOnGround.outcome (h : b.IsOnGround G place least) {history : List (Moment × Incident)}
    (hstart : ∀ i ∈ history, ∀ f channel, i.2 = .happens (.start f channel) → f.LiesOn G) :
    (b.outcome lab history).IsOnGround G place least := by
  induction history generalizing b with
  | nil => exact h
  | cons i rest ih =>
    exact ih (h.undergo i.1 (hstart i (by simp))) fun j hj => hstart j (List.mem_cons_of_mem i hj)

theorem isOnGround_fresh (G : Ground) (dice : Dice) : (fresh dice).IsOnGround G 0 0 where
  session := ⟨Run.isOn_empty G, fun _ hh => absurd hh List.not_mem_nil, Nat.le_refl _⟩
  old _ hx := absurd hx List.not_mem_nil
  tasks _ hx := absurd hx List.not_mem_nil

end Bench

/-! ## The ground of a flow -/

/-- The nodes that validation takes for reachable. -/
def Flow.ground (f : Flow) : Ground :=
  ⟨fun n => n ∈ f.nodes ∧ n.id ∈ f.reached, (· ∈ f.reached), fun _ h => h.2⟩

theorem Flow.liesOn_ground {f : Flow} (h : f.unlabelled.Worded) : f.LiesOn f.ground := by
  have hclosed : ∀ n m : Node, n ∈ f.nodes ∧ n.id ∈ f.reached → m.id ∈ f.successors n.id →
      m.id ∈ f.reached := by
    intro n m hn hm
    rw [← reached_unlabelled] at hn ⊢
    rw [← successors_unlabelled] at hm
    exact reached_closed h hn.2 (mem_ids.mpr ⟨n, hn.1, rfl⟩) hm
  constructor
  case start =>
    intro n hn
    have hreached : n.id ∈ f.unlabelled.reached := start_mem_reached h hn
    exact ⟨List.mem_of_find?_eq_some hn, reached_unlabelled f ▸ hreached⟩
  case default =>
    intro n m hn hm
    obtain ⟨hmem, hsuccessor⟩ := defaultNext_mem h hn.1 hm
    exact ⟨hmem, hclosed n m hn hsuccessor⟩
  case branch =>
    intro n m matched hn hm
    obtain ⟨hmem, hsuccessor⟩ := branchNext_mem h hn.1 hm
    exact ⟨hmem, hclosed n m hn hsuccessor⟩

namespace Bench

/-- Whatever went on before a run of a flow is started, and whatever goes on after that but runs of
other flows: each node of which there is a trace since the start is one that validation takes for
reachable, so no report warns of it. The labels of the edges can be anything. There is a report
wherever they can be looked up. -/
theorem runs_visit_only_reachable_nodes (lab : Lab) (dice : Dice)
    (before later : List (Moment × Incident)) (now : Moment) {f : Flow} (hf : f.unlabelled.Worded)
    (channel : Channel) (hlater : ∀ i ∈ later, i.2.StartsOnly f) :
    let b := (fresh dice).outcome lab before
    let b' := (b.undergo lab now (.happens (.start f channel))).outcome lab later
    ∀ id, b'.HasTrace b.session.heard.size (b.session.generation + 1) id →
      id ∈ f.reached ∧ ∀ most checkedAt,
        (∀ r, f.validate most checkedAt = .ok r → .unreachable id ∉ r.issues) ∧
        (Clock.isDated checkedAt = true → (∀ e ∈ f.edges, e.label.isKey = true) →
          ∃ r, f.validate most checkedAt = .ok r) := by
  intro b b' id htrace
  have hbefore : b.IsOnGround .everywhere 0 0 :=
    (isOnGround_fresh _ dice).outcome fun _ _ g _ _ => g.liesOn_everywhere
  have hnothing : b.session.heard.since b.session.heard.size = [] := by simp [Log.since]
  have hstarted : (b.undergo lab now (.happens (.start f channel))).IsOnGround f.ground
      b.session.heard.size (b.session.generation + 1) := by
    refine isOnGround_start (b := b.atMoment now) (f.liesOn_ground hf) now.2 ?_ (Nat.le_refl _)
      hbefore.old ?_ channel
    · intro h hh
      exact absurd (hnothing ▸ hh : h ∈ []) List.not_mem_nil
    · intro x hx hyoung
      exact absurd (hbefore.old x hx) (Nat.not_le.mpr hyoung)
  have hafter : b'.IsOnGround f.ground b.session.heard.size (b.session.generation + 1) := by
    refine hstarted.outcome fun i hi g c hstart => ?_
    have honly := hlater i hi
    rw [hstart] at honly
    obtain rfl : g = f := honly
    exact g.liesOn_ground hf
  have hreached : id ∈ f.reached := hafter.ids_of_trace htrace
  refine ⟨hreached, fun most checkedAt => ⟨fun r hr => ?_, fun hdated hlabels => ?_⟩⟩
  · exact Flow.not_warned_of_reached hf hreached hr
  · exact Flow.exists_report hf hlabels most hdated

end Bench

/-- A question that leads back to the start. Two nodes have its id, one edge leads nowhere, and so
does one connection. One label is a number. -/
def loopingFlow : Flow where
  id := .str "looping"
  name := .str "Looping"
  description := .str ""
  category := .str ""
  status := .draft
  label := .str firstLabel
  nodes :=
    [⟨.str "start", .start {}, [], [.str "ask"]⟩,
      ⟨.str "ask", .condition { value := "yes", yesTo := some "start" }, [], []⟩,
      ⟨.str "ask", .message {}, [], [.str "nowhere"]⟩]
  edges :=
    [⟨.str "first", .str "start", .str "ask", .int 5⟩,
      ⟨.str "second", .str "ask", .str "nowhere", .str "No"⟩]
  createdAt := 0
  updatedAt := 0

theorem loopingFlow_worded : loopingFlow.unlabelled.Worded where
  ids := by simp [Flow.unlabelled, loopingFlow, Json.isText_str]
  ends := by simp [Flow.unlabelled, loopingFlow, Json.isText_str]
  labels := by simp [Flow.unlabelled, loopingFlow, Json.IsWord]
  connections := by simp [Flow.unlabelled, loopingFlow, Json.isText_str]

namespace Bench

/-- A listener discards a call while it is being connected. Then the question is answered, and the
run comes to the start again. -/
theorem a_looping_run_visits_only_reachable_nodes :
    let before : List (Moment × Incident) :=
      [(newYear, .joins { name := "ear", cue := .str "Initiating", reaction := some .reset }),
        (newYear, .happens (.start askingFlow .voice))]
    let later : List (Moment × Incident) :=
      [(newYear, .happens (.wake 0)), (newYear, .happens (.wake 0)),
        (newYear, .happens (.wake 0)), (newYear, .happens (.say (.str "yes"))),
        (newYear, .happens (.wake 0))]
    let b := (fresh {}).outcome usualLab before
    let started := b.undergo usualLab newYear (.happens (.start loopingFlow .chat))
    let b' := started.outcome usualLab later
    loopingFlow.unlabelled.Worded ∧ (∀ i ∈ later, i.2.StartsOnly loopingFlow) ∧
      b'.session.run.stats.visited = 3 ∧ b'.session.run.current ∈ loopingFlow.reached ∧
      ∃ r, loopingFlow.validate 500 0 = .ok r ∧ .unreachable b'.session.run.current ∉ r.issues := by
  intro before later b started b'
  have hlater : ∀ i ∈ later, i.2.StartsOnly loopingFlow := by simp [later, Incident.StartsOnly]
  have hvisited : b'.session.run.stats.visited = 3 := by decide +kernel
  have htrace : b'.HasTrace b.session.heard.size (b.session.generation + 1)
      b'.session.run.current := .current (by omega)
  obtain ⟨hreached, hwarned⟩ := runs_visit_only_reachable_nodes usualLab {} before later newYear
    loopingFlow_worded .chat hlater b'.session.run.current htrace
  obtain ⟨hsilent, hends⟩ := hwarned 500 0
  obtain ⟨r, hr⟩ := hends (by decide) (by simp [loopingFlow, Json.isKey])
  exact ⟨loopingFlow_worded, hlater, hvisited, hreached, r, hr, hsilent r hr⟩

end Bench

end Dialogue
