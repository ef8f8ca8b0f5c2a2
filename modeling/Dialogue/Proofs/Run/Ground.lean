-- The ground of a run: nodes that it never leaves. It does not leave them whoever listens, even
-- where a listener hangs up or discards the run in the middle of a stretch.
import Dialogue.Proofs.Ways
import Dialogue.Proofs.Run.History

namespace Dialogue

/-- Some nodes, and ids among which are theirs. -/
structure Ground where
  nodes : Node → Prop
  ids : Json → Prop
  covers : ∀ n, nodes n → ids n.id

/-- The ground on which any run stays. -/
def Ground.everywhere : Ground := ⟨fun _ => True, fun _ => True, fun _ h => h⟩

/-- The flow starts on the ground, and no way in it leads off the ground. -/
structure Flow.LiesOn (f : Flow) (G : Ground) : Prop where
  start : ∀ n, f.startNode? = some n → G.nodes n
  default : ∀ n m, G.nodes n → Session.defaultNext f n = some m → G.nodes m
  branch : ∀ n m matched, G.nodes n → Session.branchNext f n matched = some m → G.nodes m

theorem Flow.liesOn_everywhere (f : Flow) : f.LiesOn .everywhere :=
  ⟨fun _ _ => trivial, fun _ _ _ _ => trivial, fun _ _ _ _ _ => trivial⟩

/-- It is about no node, or about one of the ground. -/
def Notice.IsOn (G : Ground) (n : Notice) : Prop := n.node ≠ .null → G.ids n.node

/-- The node at which a task sleeps is one of the ground. -/
def Stage.IsOn (G : Ground) : Stage → Prop
  | connecting n | announced n | spoken n | inEffect n _ | weighing n _ | keyed n _ => G.nodes n
  | closing => True

def Halt.IsOn (G : Ground) : Halt → Prop
  | asleep _ stage => stage.IsOn G
  | _ => True

structure Run.IsOn (G : Ground) (r : Run) : Prop where
  flow : ∀ f, r.flow = some f → f.LiesOn G
  current : 0 < r.stats.visited → G.ids r.current
  waiting : ∀ n, r.waiting = some n → G.nodes n
  told : ∀ e ∈ r.events.toList, e.notice.IsOn G

/-- The run is on the ground, all that was heard from a place on is about the ground, and the
generation is not lower than the given one. -/
structure Session.IsOn (G : Ground) (place least : Nat) (s : Session) : Prop where
  run : s.run.IsOn G
  heard : ∀ h ∈ s.heard.since place, h.2.notice.IsOn G
  least : least ≤ s.generation

/-- The same of a session after a stretch, and the task sleeps at a node of the ground. -/
structure Stretch.IsOn (G : Ground) (place least : Nat) (r : Stretch) : Prop where
  session : r.1.IsOn G place least
  halt : r.2.IsOn G

variable {G : Ground} {place least : Nat}

theorem Ground.about (G : Ground) {n : Node} (hn : G.nodes n) (speaker : Speaker) (content : Json)
    (mark : Option Mark) : Notice.IsOn G ⟨speaker, content, n.id, mark⟩ :=
  fun _ => G.covers n hn

theorem Ground.aboutNone (G : Ground) (speaker : Speaker) (content : Json) (mark : Option Mark) :
    Notice.IsOn G ⟨speaker, content, .null, mark⟩ :=
  fun hne => absurd rfl hne

theorem Run.isOn_empty (G : Ground) : ({} : Run).IsOn G where
  flow _ h := by cases h
  current h := absurd h (by decide)
  waiting _ h := by cases h
  told _ h := by cases h

theorem Stage.IsOn.node {stage : Stage} (h : stage.IsOn G) {n : Node}
    (hn : stage.node? = some n) : G.nodes n := by
  cases stage with
  | closing => cases hn
  | _ =>
    cases hn
    exact h

theorem Stage.IsAnswerAt.isOn {n : Node} {text : String} {state : RunState} {stage : Stage}
    (h : stage.IsAnswerAt n text state) (hn : G.nodes n) : stage.IsOn G := by
  cases h <;> exact hn

/-- Wherever a run goes on to from a stage on the ground is on the ground. -/
theorem Stage.IsOn.onward {stage : Stage} (h : stage.IsOn G) {flow : Option Flow}
    (hflow : ∀ f, flow = some f → f.LiesOn G) {n : Node} (hn : stage.onward flow = some n) :
    G.nodes n := by
  cases stage with
  | connecting start =>
    cases hn
    exact h
  | closing => cases hn
  | weighing m text =>
    obtain ⟨f, hf, hn⟩ := Option.bind_eq_some_iff.mp hn
    exact (hflow f hf).branch m n _ h hn
  | announced m | spoken m | inEffect m _ | keyed m _ =>
    obtain ⟨f, hf, hn⟩ := Option.bind_eq_some_iff.mp hn
    exact (hflow f hf).default m n h hn

/-- A line that is told at a stage on the ground is about the ground. -/
theorem Notice.IsLine.isOn {lab : Lab} {stage : Stage} {r : Run} {notice : Notice}
    (h : notice.IsLine lab stage r) (hstage : stage.IsOn G) : notice.IsOn G := by
  intro hne
  rcases h.node with hnone | ⟨n, hn, hnode⟩
  · exact absurd hnone hne
  · rw [hnode]
    exact G.covers n (hstage.node hn)

theorem Halt.isOn_pause (span : Outcome Nat) {stage : Stage} (h : stage.IsOn G) :
    (Halt.pause span stage).IsOn G := by
  cases span with
  | ok us => exact h
  | error fault => trivial

theorem Halt.isOn_stopped (fault : Option Fault) : (Halt.stopped fault).IsOn G := by
  cases fault <;> trivial

theorem Log.mem_since_push {α : Type} {l : Log α} {a x : α}
    (hx : x ∈ (l.push a).since place) : x ∈ l.since place ∨ x = a := by
  rw [Log.since_eq_drop, Log.toList_push, List.drop_append] at hx
  rw [Log.since_eq_drop]
  rcases List.mem_append.mp hx with hx | hx
  · exact Or.inl hx
  · exact Or.inr (List.mem_singleton.mp (List.mem_of_mem_drop hx))

namespace Session

variable {s t : Session} {lab : Lab}

/-! ## Events -/

/-- A change of the run that leaves the run on the ground leaves the session there. -/
theorem IsOn.setRun (h : s.IsOn G place least) (change : Run → Run)
    (hchange : s.run.IsOn G → (change s.run).IsOn G) : (s.setRun change).IsOn G place least :=
  ⟨hchange h.run, h.heard, h.least⟩

theorem IsOn.dice (h : s.IsOn G place least) (dice : Dice) :
    IsOn G place least { s with dice } := ⟨h.run, h.heard, h.least⟩

theorem IsOn.now (h : s.IsOn G place least) (now : Int) :
    IsOn G place least { s with now } := ⟨h.run, h.heard, h.least⟩

theorem IsOn.reset (h : s.IsOn G place least) : s.reset.IsOn G place least :=
  ⟨Run.isOn_empty G, h.heard, Nat.le_succ_of_le h.least⟩

theorem IsOn.dismiss (h : s.IsOn G place least) (name : String) :
    (s.dismiss name).IsOn G place least := ⟨h.run, h.heard, h.least⟩

theorem IsOn.subscribe (h : s.IsOn G place least) (l : Listener) :
    (s.subscribe l).IsOn G place least := ⟨h.run, h.heard, h.least⟩

theorem IsOn.lower (h : s.IsOn G place least) {least' : Nat} (hle : least' ≤ least) :
    s.IsOn G place least' := ⟨h.run, h.heard, Nat.le_trans hle h.least⟩

/-- The same under the generation that the session has by now. -/
theorem IsOn.raise (h : s.IsOn G place least) : s.IsOn G place s.generation :=
  ⟨h.run, h.heard, Nat.le_refl _⟩

theorem robust_isOn {n : Notice} (hn : n.IsOn G) : Robust n (Session.IsOn G place least) where
  heard he h := by
    refine ⟨h.run, fun x hx => ?_, h.least⟩
    rcases Log.mem_since_push hx with hx | rfl
    · exact h.heard x hx
    · rw [he]
      exact hn
  reset h := h.reset
  dismiss name h := h.dismiss name

section Listeners

variable {hang : Session → Session}
  (hhang : ∀ s : Session, s.IsOn G place least → (hang s).IsOn G place least)

include hhang

theorem IsOn.post (h : s.IsOn G place least) {n : Notice} (hn : n.IsOn G) :
    (s.post hang n).IsOn G place least := by
  have hlogged : IsOn G place least (s.logged n) := by
    refine ⟨⟨h.run.flow, h.run.current, h.run.waiting, fun e he => ?_⟩, h.heard, h.least⟩
    rw [logged, Log.toList_push] at he
    rcases List.mem_append.mp he with he | he
    · exact h.run.told e he
    · rw [List.mem_singleton.mp he]
      exact hn
  exact (robust_isOn hn).post hlogged (Or.inr hhang)

theorem IsOn.hangUpWith (h : s.IsOn G place least) : (s.hangUpWith hang).IsOn G place least := by
  have hoff := h.setRun
    (fun r => { r with callLength := s.run.callSpan s.now, onCall := false })
    fun hr => ⟨hr.flow, hr.current, hr.waiting, hr.told⟩
  exact hoff.post hhang (G.aboutNone _ _ _)

end Listeners

theorem IsOn.finish (h : s.IsOn G place least) (result : RunResult) :
    (s.finish result).IsOn G place least :=
  h.setRun _ fun hr => ⟨hr.flow, hr.current, hr.waiting, hr.told⟩

theorem IsOn.endCallWith (h : s.IsOn G place least) {hang : Session → Session}
    (hhang : ∀ s : Session, s.IsOn G place least → (hang s).IsOn G place least) :
    (s.endCallWith hang).IsOn G place least := by
  unfold Session.endCallWith
  split
  · have hraised : IsOn G place least { s.setRun fun r => { r with waiting := none } with
        generation := s.generation + 1 } :=
      ⟨⟨h.run.flow, h.run.current, fun _ hn => (by cases hn), h.run.told⟩, h.heard,
        Nat.le_succ_of_le h.least⟩
    exact (hraised.hangUpWith hhang).finish .success
  · exact h

theorem IsOn.nestedHangUp (depth : Nat) (s : Session) (h : s.IsOn G place least) :
    (Session.nestedHangUp depth s).IsOn G place least :=
  nestedHangUp_keeps (fun hhang _ hs => hs.endCallWith hhang) depth s h

theorem IsOn.emit (h : s.IsOn G place least) {n : Notice} (hn : n.IsOn G) :
    (s.emit n).IsOn G place least :=
  h.post (IsOn.nestedHangUp deepest) hn

theorem IsOn.hangUp (h : s.IsOn G place least) : s.hangUp.IsOn G place least :=
  h.hangUpWith (IsOn.nestedHangUp deepest)

theorem IsOn.hangUpIfOn (h : s.IsOn G place least) : s.hangUpIfOn.IsOn G place least := by
  unfold Session.hangUpIfOn
  split
  · exact h.hangUp
  · exact h

theorem IsOn.endCall (h : s.IsOn G place least) : s.endCall.1.IsOn G place least :=
  h.endCallWith (IsOn.nestedHangUp deepest)

/-! ## A stretch -/

theorem IsOn.countError (h : s.IsOn G place least) :
    (s.setRun Run.countError).IsOn G place least :=
  h.setRun _ fun hr => ⟨hr.flow, hr.current, hr.waiting, hr.told⟩

section Node

variable {n : Node} (hn : G.nodes n)

include hn

theorem IsOn.waitFor (h : s.IsOn G place least) (state : RunState) :
    (s.waitFor n state).IsOn G place least :=
  h.setRun _ fun hr => ⟨hr.flow, hr.current, fun _ hm => Option.some.inj hm ▸ hn, hr.told⟩

theorem IsOn.enter (h : s.IsOn G place least) : (s.enter lab n).IsOn G place least := by
  unfold Session.enter
  split
  · exact ⟨((h.countError.emit (G.about hn _ _ _)).hangUpIfOn).finish .error, trivial⟩
  · have hcame := h.setRun (countVisit n) fun hr =>
      ⟨hr.flow, fun _ => G.covers n hn, hr.waiting, hr.told⟩
    exact ⟨hcame.emit (G.about hn _ _ _), Halt.isOn_pause _ hn⟩

end Node

theorem IsOn.deadEnd (h : s.IsOn G place least) : s.deadEnd.IsOn G place least :=
  h.hangUpIfOn.finish .success

/-- What a task tells at a stage on the ground is about the ground. -/
theorem IsOn.talks (h : s.IsOn G place least) {stage : Stage} (hstage : stage.IsOn G)
    (ht : Talks lab s stage t) : t.IsOn G place least := by
  induction ht with
  | silent => exact h
  | tells ht hcurrent hline ih => exact ih.emit (hline.isOn hstage)
  | @counts n notice count _ hcount hline =>
    have hcounted : (count s).IsOn G place least := by
      rcases hcount with rfl | rfl
      · exact h.setRun _ fun hr => ⟨hr.flow, hr.current, hr.waiting, hr.told⟩
      · exact h.setRun _ fun hr => ⟨hr.flow, hr.current, hr.waiting, hr.told⟩
    exact hcounted.emit (hline.isOn hstage)
  | fails ht hcurrent hn detail ih => exact ih.countError.emit (G.about (hstage.node hn) _ _ _)
  | draws ht dice ih => exact ih.dice dice

theorem IsOn.walks (h : s.IsOn G place least) {stage : Stage} (hstage : stage.IsOn G) {r : Stretch}
    (hr : Walks lab s stage r) : r.IsOn G place least := by
  cases hr with
  | pauses ht hat hlater =>
    subst hat
    refine ⟨h.talks hstage ht, Halt.isOn_pause _ ?_⟩
    cases hlater with
    | spoken => exact hstage
    | inEffect => exact hstage
    | closing => trivial
  | breaks ht => exact ⟨h.talks hstage ht, trivial⟩
  | stops ht => exact ⟨h.talks hstage ht, trivial⟩
  | enters ht hcurrent hleaves hn =>
    have hsaid := h.talks hstage ht
    exact hsaid.enter (hstage.onward hsaid.run.flow hn)
  | ends ht => exact ⟨(h.talks hstage ht).deadEnd, trivial⟩
  | connects hat =>
    subst hat
    have hsaid : (s.emit callConnected).IsOn G place least := h.emit (G.aboutNone _ _ _)
    have hon : s.connected.IsOn G place least := hsaid.setRun _ fun hr =>
      ⟨hr.flow, hr.current, hr.waiting, hr.told⟩
    exact hon.enter hstage
  | closes => exact ⟨h.hangUp.finish .success, trivial⟩
  | finishes hat =>
    subst hat
    exact ⟨(h.emit (G.about hstage _ _ _)).finish .success, trivial⟩
  | asksForText hat =>
    subst hat
    exact ⟨(h.emit (G.about hstage _ _ _)).waitFor hstage _, trivial⟩
  | @asksForKeys n d hat hdata =>
    subst hat
    have hline : (s.prompt n d).IsLine lab (.announced n) s.run := .prompt rfl d
    exact ⟨((h.emit (hline.isOn hstage)).emit (G.about hstage _ _ _)).waitFor hstage _, trivial⟩

theorem IsOn.resume (h : s.IsOn G place least) (generation : Nat) {stage : Stage}
    (hstage : stage.IsOn G) : (s.resume lab generation stage).IsOn G place least := by
  by_cases hcurrent : s.generation = generation
  · subst hcurrent
    exact h.walks hstage (walks_resume lab s stage)
  · rw [resume_stale lab hcurrent]
    exact ⟨h.dice _, Halt.isOn_stopped _⟩

/-! ### Controls -/

/-- A new run comes to the ground of its flow, wherever the run before was. -/
theorem isOn_opens {f : Flow} (hf : f.LiesOn G)
    (hheard : ∀ h ∈ s.heard.since place, h.2.notice.IsOn G) (hleast : least ≤ s.generation + 1)
    {channel : Channel} {r : Stretch} (hr : Opens lab s f channel r) : r.IsOn G place least := by
  have hbegun : ∀ channel, (s.atOutset f channel).IsOn G place least := by
    intro channel
    refine ⟨⟨fun g hg => ?_, fun hlt => absurd hlt (by simp [atOutset, begun]), fun _ hn => ?_,
      fun _ he => ?_⟩, hheard, hleast⟩
    · cases hg
      exact hf
    · cases hn
    · cases he
  cases hr with
  | lost => exact ⟨((hbegun channel).countError.emit (G.aboutNone _ _ _)).finish .error, trivial⟩
  | calls hstart =>
    exact ⟨(hbegun .voice).emit (G.aboutNone _ _ _), Halt.isOn_pause _ (hf.start _ hstart)⟩
  | enters hstart =>
    have hsaid : ((s.atOutset f .chat).emit sessionStarted).IsOn G place least :=
      (hbegun .chat).emit (G.aboutNone _ _ _)
    exact hsaid.enter (hf.start _ hstart)

theorem isOn_start {f : Flow} (hf : f.LiesOn G)
    (hheard : ∀ h ∈ s.heard.since place, h.2.notice.IsOn G) (hleast : least ≤ s.generation + 1)
    (channel : Channel) : (s.start lab f channel).IsOn G place least :=
  isOn_opens hf hheard hleast (opens_start lab s f channel)

theorem IsOn.takeUp (h : s.IsOn G place least) : s.takeUp.IsOn G place least :=
  h.setRun _ fun hr => ⟨hr.flow, hr.current, fun _ hn => (by cases hn), hr.told⟩

theorem IsOn.taken (h : s.IsOn G place least) {r : Stretch} (hr : IsTaken lab s r) :
    r.IsOn G place least := by
  obtain ⟨n, text, stage, hanswer, hn, notice, hline, rfl⟩ := hr
  have hstage : stage.IsOn G := hanswer.isOn (h.run.waiting n hn)
  exact ⟨h.takeUp.emit (hline.isOn hstage), Halt.isOn_pause _ hstage⟩

end Session

end Dialogue
