-- Runs adrift. Where an effect breaks off, its task is gone and its run is still running, on its
-- call if it was on one. No task may go on with it, and nothing answers it, until it is hung up,
-- replaced or discarded. Only a task that fails leaves a run so.
import Dialogue.Proofs.Run.HangUps
import Dialogue.Proofs.Run.Tasks

namespace Dialogue

/-! ## Effects that break off -/

/-- Whether a node of the kind asks for an effect. -/
def NodeKind.hasEffect : NodeKind → Bool
  | start | message | condition | dtmf | finish => false
  | _ => true

/-- The fault at which the effect of a node breaks off as it starts: the time that it takes is no
span, or it takes none and goes wrong at once. -/
def Node.faultAtStart? (lab : Lab) (n : Node) (channel : Option Channel) (dice : Dice) :
    Option Fault :=
  match (lab.effects n.kind).span n channel with
  | some (.ok _) => none
  | some (.error fault) => some fault
  | none => (Stage.inEffect n channel).fault? lab dice

namespace Session

/-- The fault at which an effect breaks off when the run goes on from the stage. -/
def effectFault? (lab : Lab) (s : Session) : Stage → Option Fault
  | .announced n =>
    if n.kind.hasEffect then n.faultAtStart? lab s.run.channel s.dice else none
  | stage => stage.fault? lab s.dice

variable {lab : Lab} {s t : Session} {n : Node}

/-! ## What an event can be to a run -/

/-- What becomes of a session in which a notice is told: it is logged and nothing else becomes of
the run, or somebody ends or discards the run as they hear of it. -/
inductive Tells (s : Session) (n : Notice) (t : Session) : Prop
  | logs (hgeneration : t.generation = s.generation) (hdice : t.dice = s.dice)
      (hrun : t.run = (s.logged n).run)
  | stops (hgeneration : s.generation < t.generation) (hstate : t.run.state ≠ .running)

theorem robust_tells (s : Session) (n : Notice) : Robust n (Tells s n) where
  heard _ h := by
    cases h with
    | logs hgeneration hdice hrun => exact .logs hgeneration hdice hrun
    | stops hgeneration hstate => exact .stops hgeneration hstate
  reset h := by
    refine .stops ?_ (by simp [reset])
    cases h with
    | logs hgeneration hdice hrun => exact Nat.lt_succ_of_le (Nat.le_of_eq hgeneration.symm)
    | stops hgeneration hstate => exact Nat.lt_succ_of_lt hgeneration
  dismiss _ h := by
    cases h with
    | logs hgeneration hdice hrun => exact .logs hgeneration hdice hrun
    | stops hgeneration hstate => exact .stops hgeneration hstate

theorem Tells.nestedHangUp {n : Notice} (h : Tells s n t) (depth : Nat) :
    Tells s n (nestedHangUp depth t) := by
  cases depth with
  | zero => exact h
  | succ depth =>
    rw [Session.nestedHangUp]
    cases hcan : t.canHangUp with
    | false =>
      rw [endCallWith_of_not_canHangUp _ hcan]
      exact h
    | true =>
      have hended := (advances_endCallWith (advances_nestedHangUp depth) hcan).generation
      have hover := (isHungUp_endCallWith depth hcan).state
      have hrise : s.generation ≤ t.generation := by
        cases h with
        | logs hgeneration => exact Nat.le_of_eq hgeneration.symm
        | stops hgeneration => exact Nat.le_of_lt hgeneration
      exact .stops (Nat.lt_of_lt_of_le (Nat.lt_succ_of_le hrise) hended) (by simp [hover])

theorem tells_emit (s : Session) (n : Notice) : Tells s n (s.emit n) :=
  (robust_tells s n).post (.logs rfl rfl rfl) (Or.inr fun _ ht => ht.nestedHangUp deepest)

/-! ## What a stretch leaves of a run -/

/-- The run is in the state in which it was, or it was ended or discarded meanwhile. -/
inductive Rests (s t : Session) : Prop
  | still (hgeneration : t.generation = s.generation) (hstate : t.run.state = s.run.state)
  | lost (hgeneration : s.generation < t.generation) (hstate : t.run.state ≠ .running)

/-- What a stretch leaves of a run that was running. It is so still if and only if the task has not
returned from it. -/
inductive Settles (s : Session) (r : Stretch) : Prop
  | goesOn (hgeneration : r.1.generation = s.generation) (hstate : r.1.run.state = s.run.state)
      (hhalt : r.2 ≠ .done)
  | returns (hgeneration : r.1.generation = s.generation) (hstate : r.1.run.state ≠ .running)
      (hhalt : r.2 = .done)
  | lost (hgeneration : s.generation < r.1.generation) (hstate : r.1.run.state ≠ .running)

theorem Rests.refl (s : Session) : Rests s s := .still rfl rfl

theorem Rests.trans {u : Session} (h : Rests s t) (h' : Rests t u) : Rests s u := by
  cases h with
  | still hgeneration hstate =>
    cases h' with
    | still hgeneration' hstate' =>
      exact .still (hgeneration'.trans hgeneration) (hstate'.trans hstate)
    | lost hgeneration' hstate' => exact .lost (hgeneration ▸ hgeneration') hstate'
  | lost hgeneration hstate =>
    cases h' with
    | still hgeneration' hstate' =>
      exact .lost (hgeneration'.symm ▸ hgeneration) (hstate'.symm ▸ hstate)
    | lost hgeneration' hstate' => exact .lost (Nat.lt_trans hgeneration hgeneration') hstate'

/-- A change of the run that leaves its state alone. -/
theorem Rests.setRun (h : Rests s t) {change : Run → Run}
    (hstate : (change t.run).state = t.run.state) : Rests s (t.setRun change) :=
  h.trans (.still rfl hstate)

theorem Rests.emit (h : Rests s t) (n : Notice) : Rests s (t.emit n) := by
  refine h.trans ?_
  cases tells_emit t n with
  | logs hgeneration hdice hrun => exact .still hgeneration (hrun ▸ rfl)
  | stops hgeneration hstate => exact .lost hgeneration hstate

/-- A stretch that goes on after the first session was left. -/
theorem Rests.settles (h : Rests s t) {r : Stretch} (h' : Settles t r) : Settles s r := by
  cases h with
  | still hgeneration hstate =>
    cases h' with
    | goesOn hgeneration' hstate' hhalt =>
      exact .goesOn (hgeneration'.trans hgeneration) (hstate'.trans hstate) hhalt
    | returns hgeneration' hstate' hhalt =>
      exact .returns (hgeneration'.trans hgeneration) hstate' hhalt
    | lost hgeneration' hstate' => exact .lost (hgeneration ▸ hgeneration') hstate'
  | lost hgeneration hstate =>
    cases h' with
    | goesOn hgeneration' hstate' =>
      exact .lost (hgeneration'.symm ▸ hgeneration) (hstate'.symm ▸ hstate)
    | returns hgeneration' hstate' => exact .lost (hgeneration'.symm ▸ hgeneration) hstate'
    | lost hgeneration' hstate' => exact .lost (Nat.lt_trans hgeneration hgeneration') hstate'

/-- The task stops before it has returned. -/
theorem Rests.settles_halt (h : Rests s t) {halt : Halt} (hhalt : halt ≠ .done) :
    Settles s (t, halt) :=
  h.settles (.goesOn rfl rfl hhalt)

/-- The task returns and leaves the run in a state in which it does not run. -/
theorem Rests.settles_setRun (h : Rests s t) {change : Run → Run}
    (hstate : (change t.run).state ≠ .running) : Settles s (t.setRun change, .done) :=
  h.settles (.returns rfl hstate rfl)

theorem Rests.settles_finish (h : Rests s t) (result : RunResult) :
    Settles s (t.finish result, .done) :=
  h.settles_setRun (by simp)

theorem pause_ne_done (span : Outcome Nat) (stage : Stage) : Halt.pause span stage ≠ .done := by
  cases span <;> simp [Halt.pause]

/-! ### Walks -/

theorem rests_hangUp (s : Session) : Rests s s.hangUp := by
  have hoff : Rests s (s.setRun fun r =>
      { r with callLength := s.run.callSpan s.now, onCall := false }) := (Rests.refl s).setRun rfl
  exact hoff.emit _

theorem rests_hangUpIfOn (s : Session) : Rests s s.hangUpIfOn := by
  unfold hangUpIfOn
  split
  · exact rests_hangUp s
  · exact .refl s

theorem settles_enter (s : Session) (n : Node) : Settles s (s.enter lab n) := by
  unfold enter
  split
  · have hcounted : Rests s (s.setRun Run.countError) := (Rests.refl s).setRun rfl
    have hsaid := hcounted.emit (limitReached lab.settings.maxSteps n)
    exact (hsaid.trans (rests_hangUpIfOn _)).settles_finish .error
  · have hcounted : Rests s (s.setRun (countVisit n)) := (Rests.refl s).setRun rfl
    exact (hcounted.emit _).settles_halt (pause_ne_done _ _)

/-- What a task tells leaves the run in its state. -/
theorem rests_talks {stage : Stage} (ht : Talks lab s stage t) : Rests s t := by
  induction ht with
  | silent => exact .refl s
  | tells _ _ _ ih => exact ih.emit _
  | counts _ hcount =>
    rcases hcount with rfl | rfl
    · exact ((Rests.refl s).setRun rfl).emit _
    · exact ((Rests.refl s).setRun rfl).emit _
  | fails _ _ _ _ ih => exact (ih.setRun rfl).emit _
  | draws _ dice ih => exact ih.trans (.still rfl rfl)

/-- What a task that may go on leaves of its run. -/
theorem settles_walks (hrun : s.run.state = .running) {stage : Stage} {r : Stretch}
    (hr : Walks lab s stage r) : Settles s r := by
  have hself : Rests s s := .refl s
  cases hr with
  | pauses ht => exact (rests_talks ht).settles_halt (pause_ne_done _ _)
  | breaks ht => exact (rests_talks ht).settles_halt (by simp)
  | stops ht hstays =>
    -- A task that may not go on returns from a run that was lost.
    cases rests_talks ht with
    | still hgeneration hstate => exact absurd (hstate.trans hrun) (hstays hgeneration)
    | lost hgeneration hstate => exact .lost hgeneration hstate
  | enters ht => exact (rests_talks ht).settles (settles_enter _ _)
  | ends ht => exact ((rests_talks ht).trans (rests_hangUpIfOn _)).settles_finish .success
  | connects =>
    have hon : Rests s s.connected := (hself.emit callConnected).setRun rfl
    exact hon.settles (settles_enter _ _)
  | closes => exact (rests_hangUp s).settles_finish .success
  | finishes => exact (hself.emit _).settles_finish .success
  | asksForText => exact (hself.emit _).settles_setRun (by simp)
  | asksForKeys => exact ((hself.emit _).emit _).settles_setRun (by simp)

theorem settles_resume (hrun : s.run.state = .running) (stage : Stage) :
    Settles s (s.resume lab s.generation stage) :=
  settles_walks hrun (walks_resume lab s stage)

/-! ### Starts and answers -/

theorem settles_opens {f : Flow} {channel : Channel} {r : Stretch} (hr : Opens lab s f channel r) :
    Settles (s.atOutset f channel) r := by
  cases hr with
  | lost => exact (((Rests.refl _).setRun rfl).emit _).settles_finish .error
  | calls => exact ((Rests.refl _).emit _).settles_halt (pause_ne_done _ _)
  | enters => exact ((Rests.refl _).emit _).settles (settles_enter _ _)

/-- An answer that is taken up, where the run was waiting for one. -/
theorem settles_taken {r : Stretch} (hr : IsTaken lab s r) :
    s.run.state ≠ .running ∧ Settles s.takeUp r := by
  refine ⟨fun hrun => not_isTaken (by simp [hrun]) (by simp [hrun]) r hr, ?_⟩
  obtain ⟨n, text, stage, -, -, notice, -, rfl⟩ := hr
  exact ((Rests.refl s.takeUp).emit notice).settles_halt (pause_ne_done _ _)

/-! ### A fault -/

/-- The second session is where the first one is, and the effects go as they would there. -/
structure Bides (s t : Session) : Prop where
  generation : t.generation = s.generation
  dice : t.dice = s.dice
  stance : t.run.stance = s.run.stance
  onCall : t.run.onCall = s.run.onCall
  channel : t.run.channel = s.run.channel

theorem Bides.emit (h : Bides s t) {notice : Notice}
    (hstill : (t.emit notice).generation = t.generation) : Bides s (t.emit notice) := by
  cases tells_emit t notice with
  | logs hgeneration hdice hrun =>
    exact ⟨hgeneration.trans h.generation, hdice.trans h.dice, hrun ▸ h.stance, hrun ▸ h.onCall,
      hrun ▸ h.channel⟩
  | stops hrise => exact absurd hstill (Nat.ne_of_gt hrise)

theorem afterEffect_of_fault {channel : Option Channel} {fault : Fault}
    (h : (Stage.inEffect n channel).fault? lab s.dice = some fault) (generation : Nat) :
    ∃ dice, s.afterEffect lab generation n channel = ({ s with dice }, .failed fault) := by
  rw [Stage.fault?] at h
  unfold afterEffect
  rcases hact : (lab.effects n.kind).act n channel s.dice with ⟨outcome, dice⟩
  rw [hact] at h
  cases outcome with
  | ok r => cases h
  | error fault =>
    cases h
    exact ⟨dice, rfl⟩

theorem startEffect_of_fault {fault : Fault}
    (h : n.faultAtStart? lab s.run.channel s.dice = some fault) (generation : Nat) :
    ∃ dice, s.startEffect lab generation n = ({ s with dice }, .failed fault) := by
  unfold Node.faultAtStart? at h
  unfold startEffect
  dsimp only
  split at h
  · cases h
  · rename_i hspan
    cases h
    rw [hspan]
    exact ⟨s.dice, rfl⟩
  · rename_i hspan
    rw [hspan]
    exact afterEffect_of_fault h generation

/-- Nothing becomes of a session whose run was lost before the effect of its task started. -/
theorem generation_startEffect_of_lost {generation : Nat} (h : s.generation ≠ generation)
    (n : Node) : (s.startEffect lab generation n).1.generation = s.generation := by
  unfold startEffect
  dsimp only
  split
  · rfl
  · unfold afterEffect
    rcases (lab.effects n.kind).act n s.run.channel s.dice with ⟨outcome, dice⟩
    cases outcome with
    | error fault => rfl
    | ok r =>
      dsimp only
      rw [if_neg (by simpa [isCurrent] using h)]

/-- A node that asks for an effect says so first. -/
theorem visit_of_hasEffect (lab : Lab) (s : Session) (h : n.kind.hasEffect = true)
    (generation : Nat) :
    ∃ t notice, Bides s t ∧
      s.visit lab generation n = (t.emit notice).startEffect lab generation n := by
  have hself : Bides s s := ⟨rfl, rfl, rfl, rfl, rfl⟩
  have hcounted : Bides s s.countIntegration := ⟨rfl, rfl, rfl, rfl, rfl⟩
  unfold Node.kind at h
  unfold visit
  cases hdata : n.data with
  | start d => simp [hdata, NodeData.kind, NodeKind.hasEffect] at h
  | message d => simp [hdata, NodeData.kind, NodeKind.hasEffect] at h
  | condition d => simp [hdata, NodeData.kind, NodeKind.hasEffect] at h
  | dtmf d => simp [hdata, NodeData.kind, NodeKind.hasEffect] at h
  | finish d => simp [hdata, NodeData.kind, NodeKind.hasEffect] at h
  | apiCall d => exact ⟨s.countCall, _, ⟨rfl, rfl, rfl, rfl, rfl⟩, rfl⟩
  | assistant d => exact ⟨s, _, hself, rfl⟩
  | transfer d =>
    unfold announceTransfer
    dsimp only
    split
    · exact ⟨s, _, hself, rfl⟩
    · exact ⟨s, _, hself, rfl⟩
  | channel app d => exact ⟨s.countIntegration, _, hcounted, rfl⟩
  | ticket desk d => exact ⟨s.countIntegration, _, hcounted, rfl⟩
  | crm base d => exact ⟨s.countIntegration, _, hcounted, rfl⟩

/-- Where an effect breaks off and nobody has ended or discarded the run by then, the task fails and
leaves the run where it was. -/
theorem resume_of_effectFault {stage : Stage} {fault : Fault}
    (h : s.effectFault? lab stage = some fault)
    (hstill : (s.resume lab s.generation stage).1.generation = s.generation) :
    (s.resume lab s.generation stage).2 = .failed fault ∧
      (s.resume lab s.generation stage).1.run.stance = s.run.stance ∧
      (s.resume lab s.generation stage).1.run.onCall = s.run.onCall := by
  rw [resume_current rfl] at hstill ⊢
  cases stage with
  | inEffect n channel =>
    obtain ⟨dice, heq⟩ := afterEffect_of_fault h s.generation
    dsimp only
    rw [heq]
    exact ⟨rfl, rfl, rfl⟩
  | announced n =>
    dsimp only at hstill ⊢
    unfold effectFault? at h
    dsimp only at h
    split at h
    · rename_i heffect
      obtain ⟨t, notice, hbides, hvisit⟩ := visit_of_hasEffect lab s heffect s.generation
      rw [hvisit] at hstill ⊢
      by_cases hsame : (t.emit notice).generation = s.generation
      · have hsaid : Bides s (t.emit notice) := hbides.emit (hsame.trans hbides.generation.symm)
        rw [← hsaid.channel, ← hsaid.dice] at h
        obtain ⟨dice, heq⟩ := startEffect_of_fault h s.generation
        rw [heq]
        exact ⟨rfl, hsaid.stance, hsaid.onCall⟩
      · rw [generation_startEffect_of_lost hsame] at hstill
        exact absurd hstill hsame
    · cases h
  | connecting start => cases h
  | spoken n => cases h
  | closing => cases h
  | weighing n text => cases h
  | keyed n digits => cases h

end Session

namespace Bench

variable {lab : Lab} {b : Bench}

/-! ## Benches whose runs are tended -/

/-- A task has failed. -/
def HasFailed (b : Bench) : Prop := ∃ e ∈ b.endings, ∃ fault, e.2 = .failed fault

/-- At most one task may go on, and only with a run that is running. If none goes on with such a
run, a task has failed. -/
structure IsTended (b : Bench) : Prop where
  old : ∀ x ∈ b.sleepers, x.generation ≤ b.session.generation
  one : b.stages.length ≤ 1
  running : b.stages ≠ [] → b.session.run.state = .running
  missed : b.session.run.state = .running → b.stages = [] → b.HasFailed

theorem isTended_fresh (dice : Dice) : (fresh dice).IsTended := by
  refine ⟨fun _ hx => absurd hx List.not_mem_nil, Nat.zero_le 1, fun h => absurd rfl h, ?_⟩
  intro h
  cases h

/-- No task may go on, and the run is not running. -/
theorem isTended_of_rest (hold : ∀ x ∈ b.sleepers, x.generation < b.session.generation)
    (hstate : b.session.run.state ≠ .running) : b.IsTended := by
  have hnone : b.stages = [] := stages_eq_nil_iff.mpr fun x hx => Nat.ne_of_lt (hold x hx)
  exact ⟨fun x hx => Nat.le_of_lt (hold x hx), hnone ▸ Nat.zero_le 1, fun h => absurd hnone h,
    fun h => absurd h hstate⟩

/-- Neither the generation nor the state of the run changes, and the same tasks may go on. -/
theorem IsTended.still {b' : Bench} (h : b.IsTended)
    (hgeneration : b'.session.generation = b.session.generation)
    (hstate : b'.session.run.state = b.session.run.state)
    (hsleepers : ∀ x ∈ b'.sleepers, x ∈ b.sleepers) (hstages : b'.stages = b.stages)
    (hendings : ∀ e ∈ b.endings, e ∈ b'.endings) : b'.IsTended where
  old x hx := hgeneration ▸ h.old x (hsleepers x hx)
  one := hstages ▸ h.one
  running hsome := hstate ▸ h.running (hstages ▸ hsome)
  missed hrun hnone := by
    obtain ⟨e, he, hfault⟩ := h.missed (hstate ▸ hrun) (hstages ▸ hnone)
    exact ⟨e, hendings e he, hfault⟩

/-- The session changes, but neither its generation nor the state of its run. -/
theorem IsTended.withSession (h : b.IsTended) {s : Session}
    (hgeneration : s.generation = b.session.generation)
    (hstate : s.run.state = b.session.run.state) : IsTended { b with session := s } := by
  refine h.still hgeneration hstate (fun _ hx => hx) ?_ fun _ he => he
  unfold stages current
  dsimp only
  rw [hgeneration]

/-- A task has ended at once. -/
theorem IsTended.endsAtOnce (h : b.IsTended) (ending : Ending) : IsTended { b with
    tasks := b.tasks + 1
    endings := b.endings ++ [(b.tasks + 1, ending)] } :=
  h.still rfl rfl (fun _ hx => hx) rfl fun _ he => List.mem_append_left _ he

theorem hasFailed_file {r : Stretch} {fault : Fault} (h : r.2 = .failed fault) (task : Nat)
    (errand : Errand) (generation : Nat) : (b.file task errand generation r).HasFailed := by
  obtain ⟨s, halt⟩ := r
  cases h
  exact ⟨(task, .failed fault), List.mem_append_right _ (List.mem_singleton_self _), fault, rfl⟩

/-- A stretch is all that may go on, and it leaves the run running just while the task has not
returned. -/
theorem isTended_of_files {r : Stretch} (hfiles : Files r b)
    (hold : ∀ x ∈ b.sleepers, x.generation ≤ b.session.generation)
    (hruns : r.1.run.state = .running ↔ r.2 ≠ .done)
    (hfailed : ∀ fault, r.2 = .failed fault → b.HasFailed) : b.IsTended := by
  refine ⟨hold, ?_, ?_, ?_⟩
  · rw [hfiles.stages]
    cases r.2 <;> simp [Halt.stages]
  · rw [hfiles.stages, hfiles.session, hruns]
    rintro hsome hdone
    rw [hdone] at hsome
    exact hsome rfl
  · rw [hfiles.stages, hfiles.session, hruns]
    intro hhalt hnone
    cases hstop : r.2 with
    | asleep span stage =>
      rw [hstop] at hnone
      cases hnone
    | done => exact absurd hstop hhalt
    | failed fault => exact hfailed fault hstop

/-- A stretch of the one task that may go on is filed. -/
theorem isTended_file {s : Session} {r : Stretch} (hr : Session.Settles s r)
    (hrun : s.run.state = .running) (hothers : ∀ x ∈ b.sleepers, x.generation < s.generation)
    (task : Nat) (errand : Errand) : (b.file task errand s.generation r).IsTended := by
  have hkept : r.1.generation = s.generation → (r.1.run.state = .running ↔ r.2 ≠ .done) →
      (b.file task errand s.generation r).IsTended := by
    intro hsame hruns
    rw [← hsame] at hothers ⊢
    have hfiles : Files r (b.file task errand r.1.generation r) :=
      files_file task errand fun x hx => Nat.ne_of_lt (hothers x hx)
    refine isTended_of_files hfiles ?_ hruns fun _ hfault => hasFailed_file hfault _ _ _
    intro x hx
    rw [file_session]
    rcases mem_file_sleepers b task errand _ r hx with hx | ⟨hx, -⟩
    · exact Nat.le_of_lt (hothers x hx)
    · exact Nat.le_of_eq hx
  cases hr with
  | goesOn hsame hstate hhalt => exact hkept hsame (iff_of_true (hstate.trans hrun) hhalt)
  | returns hsame hstate hhalt => exact hkept hsame (iff_of_false hstate (not_not.mpr hhalt))
  | lost hrise hstate =>
    refine isTended_of_rest ?_ (by rwa [file_session])
    intro x hx
    rw [file_session]
    rcases mem_file_sleepers b task errand _ r hx with hx | ⟨hx, -⟩
    · exact Nat.lt_trans (hothers x hx) hrise
    · exact hx ▸ hrise

/-- While a task may go on, all others that sleep are older. -/
theorem IsTended.others_older (h : b.IsTended) {place : Nat} {x : Sleeper}
    (hx : b.sleepers[place]? = some x) (hcurrent : x.generation = b.session.generation) :
    ∀ y ∈ b.sleepers.eraseIdx place, y.generation < b.session.generation := by
  obtain ⟨-, hothers⟩ := others_old hx hcurrent h.one
  intro y hy
  exact Nat.lt_of_le_of_ne (h.old y (List.mem_of_mem_eraseIdx hy)) (hothers y hy)

theorem IsTended.wake (h : b.IsTended) (hdated : Clock.isDated b.session.now = true) (place : Nat) :
    (b.wake lab place).IsTended := by
  unfold Bench.wake
  split
  · exact h
  · rename_i x hx
    rw [Session.tryResume_eq hdated]
    by_cases hcurrent : x.generation = b.session.generation
    · have hrun : b.session.run.state = .running := by
        obtain ⟨hstages, -⟩ := others_old hx hcurrent h.one
        exact h.running (by simp [hstages])
      rw [hcurrent]
      have hothers := h.others_older hx hcurrent
      exact isTended_file (Session.settles_resume hrun x.stage) hrun hothers _ _
    · rw [Session.resume_stale lab (Ne.symm hcurrent)]
      have hmem : ∀ y ∈ b.sleepers.eraseIdx place, y ∈ b.sleepers :=
        fun y hy => List.mem_of_mem_eraseIdx hy
      cases x.stage.fault? lab b.session.dice with
      | none =>
        exact h.still rfl rfl hmem (stages_drop hx hcurrent rfl rfl)
          fun e he => List.mem_append_left _ he
      | some fault =>
        exact h.still rfl rfl hmem (stages_drop hx hcurrent rfl rfl)
          fun e he => List.mem_append_left _ he

theorem IsTended.submit (h : b.IsTended) (hdated : Clock.isDated b.session.now = true)
    {r : Option Stretch} (hr : ∀ r', r = some r' → Session.IsTaken lab b.session r') :
    (b.submit lab false r).IsTended := by
  unfold Bench.submit
  rw [Session.tryAnswer_eq hdated]
  cases r with
  | none => exact h.endsAtOnce _
  | some r =>
    obtain ⟨hstate, hsettles⟩ := Session.settles_taken (hr r rfl)
    have hnone : b.stages = [] := by
      by_contra hsome
      exact hstate (h.running hsome)
    have hothers : ∀ x ∈ b.sleepers, x.generation < b.session.generation := by
      intro x hx
      exact Nat.lt_of_le_of_ne (h.old x hx) (stages_eq_nil_iff.mp hnone x hx)
    exact isTended_file (b := { b with tasks := b.tasks + 1 }) hsettles rfl hothers _ _

theorem IsTended.start (h : b.IsTended) (hdated : Clock.isDated b.session.now = true) (f : Flow)
    (channel : Channel) : (b.start lab f channel false).IsTended := by
  have hothers : ∀ x ∈ b.sleepers, x.generation < b.session.generation + 1 :=
    fun x hx => Nat.lt_succ_of_le (h.old x hx)
  unfold Bench.start
  rw [Session.tryStart_eq hdated]
  split
  · exact isTended_of_rest hothers (by simp [Bench.begin, file, Session.reset])
  · exact isTended_file (b := { b with tasks := b.tasks + 1 })
      (Session.settles_opens (Session.opens_start lab b.session f channel)) rfl hothers _ _

/-- Whatever happens, the run is tended. -/
theorem IsTended.undergo (h : b.IsTended) (now : Moment) (i : Incident) :
    (b.undergo lab now i).IsTended := by
  have hdated : Clock.isDated (b.atMoment now).session.now = true := now.2
  have h : (b.atMoment now).IsTended := h.withSession rfl rfl
  have hothers : ∀ x ∈ b.sleepers, x.generation < b.session.generation + 1 :=
    fun x hx => Nat.lt_succ_of_le (h.old x hx)
  cases i with
  | joins l => exact h.withSession rfl rfl
  | happens happening =>
    cases happening with
    | start f channel => exact h.start hdated f channel
    | say said =>
      cases said with
      | str text => exact h.submit hdated fun _ => Session.isTaken_submitText
      | _ => exact h.endsAtOnce _
    | press digits => exact h.submit hdated fun _ => Session.isTaken_submitKeys
    | endCall =>
      unfold Bench.undergo happen
      dsimp only
      cases hcan : (b.atMoment now).session.canHangUp with
      | false =>
        have hsame : (b.atMoment now).session.tryEndCall.1 = (b.atMoment now).session := by
          rw [Session.tryEndCall_eq hdated]
          exact Session.endCallWith_of_not_canHangUp _ hcan
        unfold onSession
        dsimp only
        rw [hsame]
        exact h
      | true =>
        have hover := (isHungUpSince_endCall h.old hdated hcan).isOver
        exact isTended_of_rest hover.stale (by simp [hover.hungUp.state])
    | reset => exact isTended_of_rest hothers RunState.noConfusion
    | subscribe l => exact h.withSession rfl rfl
    | unsubscribe name => exact h.withSession rfl rfl
    | wake place => exact h.wake hdated place

theorem IsTended.outcome (h : b.IsTended) (history : List (Moment × Incident)) :
    (b.outcome lab history).IsTended := by
  induction history generalizing b with
  | nil => exact h
  | cons i rest ih => exact ih (h.undergo i.1 i.2)

/-- At every point of every history, whoever listens: exactly one task may go on with a run that is
running, unless a task has failed. So where all tasks have returned, no run is left running. -/
theorem a_running_run_is_tended_unless_a_task_has_failed (lab : Lab) (dice : Dice)
    (history : List (Moment × Incident)) :
    let b := (fresh dice).outcome lab history
    b.session.run.state = .running → b.current.length = 1 ∨ b.HasFailed := by
  intro b hrun
  have htended : b.IsTended := (isTended_fresh dice).outcome history
  have hlength : b.stages.length = b.current.length := List.length_map _
  rw [← hlength]
  by_cases hnone : b.stages = []
  · exact Or.inr (htended.missed hrun hnone)
  · have hsome : b.stages.length ≠ 0 := fun h => hnone (List.length_eq_zero_iff.mp h)
    have hone := htended.one
    exact Or.inl (by omega)

/-! ## Runs adrift -/

/-- The run is running, but no task may go on with it. -/
structure IsAdrift (b : Bench) (r : Run) : Prop where
  run : b.session.run = r
  running : r.state = .running
  stale : ∀ x ∈ b.sleepers, x.generation < b.session.generation

variable {r : Run}

theorem IsAdrift.isLeft (h : b.IsAdrift r) : b.IsLeft r :=
  ⟨h.run, by simp [h.running], by simp [h.running], h.stale⟩

/-- What can still become of a run adrift: it stays so, or its call is hung up. -/
def EndsUp (b : Bench) (r : Run) : Prop :=
  b.IsAdrift r ∨ r.channel = some .voice ∧ ∃ r', b.IsOver r'

theorem EndsUp.isLeft (h : b.EndsUp r) : ∃ r', b.IsLeft r' := by
  rcases h with hadrift | ⟨-, r', hover⟩
  · exact ⟨r, hadrift.isLeft⟩
  · exact ⟨r', hover.isLeft⟩

theorem EndsUp.undergo (h : b.EndsUp r) (now : Moment) {i : Incident} (hi : ¬ i.Restarts) :
    (b.undergo lab now i).EndsUp r := by
  rcases h with hadrift | ⟨hvoice, r', hover⟩
  · rcases hadrift.isLeft.undergo lab now hi with hleft | ⟨rfl, hcan⟩
    · exact Or.inl ⟨hleft.run, hadrift.running, hleft.stale⟩
    · have hold : ∀ x ∈ b.sleepers, x.generation ≤ b.session.generation :=
        fun x hx => Nat.le_of_lt (hadrift.stale x hx)
      have hhung := isHungUpSince_endCall (b := b.atMoment now) hold now.2 hcan
      have hvoice : b.session.run.channel = some .voice := by
        unfold Session.canHangUp at hcan
        rw [Bool.and_eq_true, beq_iff_eq] at hcan
        exact hcan.1
      exact Or.inr ⟨hadrift.run ▸ hvoice, _, hhung.isOver⟩
  · exact Or.inr ⟨hvoice, r', hover.undergo now hi⟩

theorem EndsUp.outcome (h : b.EndsUp r) {later : List (Moment × Incident)}
    (hlater : ∀ i ∈ later, ¬ i.2.Restarts) : (b.outcome lab later).EndsUp r := by
  induction later generalizing b with
  | nil => exact h
  | cons i rest ih =>
    exact ih (h.undergo i.1 (hlater i (by simp))) fun j hj => hlater j (List.mem_cons_of_mem i hj)

/-- What a task leaves behind whose effect breaks off. -/
structure BreaksOff (b b' : Bench) (task : Nat) (fault : Fault) : Prop where
  ending : b'.endings = b.endings ++ [(task, .failed fault)]
  adrift : b'.IsAdrift b'.session.run
  stance : b'.session.run.stance = b.session.run.stance
  onCall : b'.session.run.onCall = b.session.run.onCall

theorem breaksOff_wake (h : b.IsTended) (hdated : Clock.isDated b.session.now = true) {place : Nat}
    {x : Sleeper} (hx : b.sleepers[place]? = some x) {fault : Fault}
    (hfault : b.session.effectFault? lab x.stage = some fault)
    (hstill : (b.wake lab place).session.generation = x.generation) :
    b.BreaksOff (b.wake lab place) x.task fault := by
  unfold Bench.wake at hstill ⊢
  rw [hx] at hstill ⊢
  dsimp only at hstill ⊢
  rw [file_session, Session.tryResume_eq hdated] at hstill
  rw [Session.tryResume_eq hdated]
  by_cases hcurrent : x.generation = b.session.generation
  · obtain ⟨hstages, -⟩ := others_old hx hcurrent h.one
    have hrun : b.session.run.state = .running := h.running (by simp [hstages])
    have hothers := h.others_older hx hcurrent
    rw [hcurrent] at hstill ⊢
    obtain ⟨hhalt, hstance, honCall⟩ := Session.resume_of_effectFault hfault hstill
    have hstate : (b.session.resume lab b.session.generation x.stage).1.run.state = .running :=
      (congrArg Stance.state hstance).trans hrun
    rcases hr : b.session.resume lab b.session.generation x.stage with ⟨s, halt⟩
    rw [hr] at hstill hhalt hstance honCall hstate
    dsimp only at hstill hhalt hstance honCall hstate
    subst hhalt
    exact ⟨rfl, ⟨rfl, hstate, fun y hy => hstill ▸ hothers y hy⟩, hstance, honCall⟩
  · rw [Session.resume_stale lab (Ne.symm hcurrent)] at hstill
    exact absurd hstill.symm hcurrent

/-- Take any history in which anyone may listen, and wake a task whose effect breaks off. If nobody
has ended or discarded its run by then, the task fails, and the run is where it was: running, and on
its call if it was on one. No task may go on with it, and whatever is said or pressed is refused.
Whatever happens, it stays so until a run is started or the run is discarded. Only a call can be
hung up before that. -/
theorem an_effect_that_breaks_off_leaves_its_run_adrift (lab : Lab) (dice : Dice)
    (before later : List (Moment × Incident)) (now : Moment) {place : Nat} {x : Sleeper}
    (hx : ((fresh dice).outcome lab before).sleepers[place]? = some x) {fault : Fault}
    (hfault : ((fresh dice).outcome lab before).session.effectFault? lab x.stage = some fault)
    (hstill : (((fresh dice).outcome lab before).undergo lab now
      (.happens (.wake place))).session.generation = x.generation)
    (hlater : ∀ i ∈ later, ¬ i.2.Restarts) :
    let b := (fresh dice).outcome lab before
    let b' := b.undergo lab now (.happens (.wake place))
    let b'' := b'.outcome lab later
    b.BreaksOff b' x.task fault ∧ b''.EndsUp b'.session.run ∧
      (∀ text, b''.session.submitText lab text = none) ∧
      ∀ digits, b''.session.submitKeys lab digits = none := by
  intro b b' b''
  have htended : (b.atMoment now).IsTended :=
    ((isTended_fresh dice).outcome before).withSession rfl rfl
  have hbreaks : b.BreaksOff b' x.task fault := by
    obtain ⟨hending, hadrift, hstance, honCall⟩ :=
      breaksOff_wake (b := b.atMoment now) htended now.2 hx hfault hstill
    exact ⟨hending, hadrift, hstance, honCall⟩
  have hends : b''.EndsUp b'.session.run := EndsUp.outcome (Or.inl hbreaks.adrift) hlater
  obtain ⟨r, hleft⟩ := hends.isLeft
  exact ⟨hbreaks, hends, hleft.submitText, hleft.submitKeys⟩

/-- Runs in which every request breaks off. -/
def faultyLab : Lab := { usualLab with
  effects := usualLab.effects.replace .apiCall
    (.fixed (some (.ok 10)) (.error (.brokeOff "no route"))) }

/-- A start node and a request. -/
def requestingFlow : Flow := { askingFlow with
  nodes := [⟨.str "start", .start {}, [], []⟩, ⟨.str "ask", .apiCall {}, [], []⟩] }

/-- A chat comes to a request that breaks off. Neither words nor a hang-up move it after that. -/
theorem a_chat_whose_request_breaks_off_is_adrift :
    let before : List (Moment × Incident) :=
      [(newYear, .happens (.start requestingFlow .chat)), (newYear, .happens (.wake 0)),
        (newYear, .happens (.wake 0))]
    let later : List (Moment × Incident) :=
      [(newYear, .happens (.say (.str "yes"))), (newYear, .happens .endCall)]
    let b := (fresh {}).outcome faultyLab before
    let b' := b.undergo faultyLab newYear (.happens (.wake 0))
    ∃ x, b.sleepers[0]? = some x ∧
      b.session.effectFault? faultyLab x.stage = some (.brokeOff "no route") ∧
      b'.session.generation = x.generation ∧ (∀ i ∈ later, ¬ i.2.Restarts) ∧
      b.BreaksOff b' x.task (.brokeOff "no route") ∧
      (b'.outcome faultyLab later).IsAdrift b'.session.run := by
  intro before later b b'
  let x : Sleeper := b.sleepers[0]?.get (by decide +kernel)
  have hx : b.sleepers[0]? = some x := (Option.some_get _).symm
  have hfault : b.session.effectFault? faultyLab x.stage = some (.brokeOff "no route") := by rfl
  have hstill : b'.session.generation = x.generation := by decide +kernel
  have hlater : ∀ i ∈ later, ¬ i.2.Restarts := by simp [later, Incident.Restarts]
  have hchat : b'.session.run.channel ≠ some .voice := by decide +kernel
  obtain ⟨hbreaks, hends, -⟩ := an_effect_that_breaks_off_leaves_its_run_adrift faultyLab {} before
    later newYear hx hfault hstill hlater
  rcases hends with hadrift | ⟨hvoice, -⟩
  · exact ⟨x, hx, hfault, hstill, hlater, hbreaks, hadrift⟩
  · exact absurd hvoice hchat

/-- All tasks have ended, but the run is running and its call is on. -/
theorem a_call_whose_request_breaks_off_stays_on :
    let b := (fresh {}).outcome faultyLab
      [(newYear, .happens (.start requestingFlow .voice)), (newYear, .happens (.wake 0)),
        (newYear, .happens (.wake 0)), (newYear, .happens (.wake 0)), (newYear, .happens (.wake 0))]
    b.sleepers.length = 0 ∧ b.endings.length = 1 ∧ b.session.run.state = .running ∧
      b.session.run.onCall = true := by
  exact ⟨by decide +kernel, by decide +kernel, by decide +kernel, by decide +kernel⟩

end Bench

end Dialogue
