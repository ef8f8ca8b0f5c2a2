-- Histories do nothing but deeds to a run. Under passive listeners that holds of every stretch and of
-- every happening, and the run stays in a phase that fits its tasks.
import Dialogue.Proofs.Run.Deeds
import Dialogue.Proofs.Run.Order

namespace Dialogue

namespace Session

variable {s t u : Session} {lab : Lab}

/-! ## Stretches -/

/-- The stretch has done nothing but deeds to the run, which fits where the task sleeps. -/
structure Treads (lab : Lab) (s : Session) (r : Stretch) : Prop where
  deeds : s.run.Deeds lab r.1.run
  fits : r.1.run.Fits r.2.stages

variable {r : Stretch} {n : Node} {generation : Nat}

theorem Says.has (h : Says lab s t) (hn : s.run.Has n) : t.run.Has n := by
  obtain ⟨f, hf, hmem⟩ := hn
  exact ⟨f, (stance_flow h.quiet).trans hf, hmem⟩

theorem Treads.after (h : Says lab s t) (hr : Treads lab t r) : Treads lab s r :=
  ⟨h.deeds.trans hr.deeds, hr.fits⟩

/-- The task stops without a pause. -/
theorem Says.treads (h : Says lab s t) {halt : Halt} (hhalt : halt.stages = []) :
    Treads lab s (t, halt) := by
  refine ⟨h.deeds, .going h.going, ?_⟩
  intro stage hstage
  rw [hhalt] at hstage
  cases hstage

/-- Where a pause is no span of time, the task does not sleep. -/
theorem suits_pause {r : Run} (stage : Stage) (h : stage.Suits r) (span : Outcome Nat) :
    ∀ later ∈ (Halt.pause span stage).stages, later.Suits r := by
  intro later hlater
  cases span with
  | ok us =>
    rw [List.mem_singleton.mp hlater]
    exact h
  | error fault => cases hlater

theorem Says.treads_pause (h : Says lab s t) (stage : Stage) (hstage : stage.Suits t.run)
    (span : Outcome Nat) : Treads lab s (t, .pause span stage) :=
  ⟨h.deeds, .going h.going, suits_pause stage hstage span⟩

/-- The run waits at the node. -/
theorem Says.treads_waitFor (h : Says lab s t) (hn : s.run.Has n) {state : RunState}
    (hstate : state ≠ .idle ∧ state ≠ .ended) : Treads lab s (t.waitFor n state, .done) := by
  refine ⟨?_, ?_, fun _ hstage => ?_⟩
  · exact h.deeds.tail (.turns h.going (some n) hstate)
  · refine .going ⟨?_, h.going.onCall, ?_, h.going.calls⟩
    · simp [waitFor, setRun, Run.isOver, hstate]
    · intro m hm
      cases hm
      exact h.has hn
  · cases hstage

theorem run_finish (h : s.IsPassive) (result : RunResult) : (s.hangUpIfOn.finish result).run =
    (s.run.hungUpIfOn (Ids.full s.nextEvent) s.now).finished s.now result := by
  rw [← run_hangUpIfOn h, ← (quiet_hangUpIfOn h).now]
  rfl

theorem treads_finish (h : s.IsPassive) (hgoing : s.run.IsGoing) {result : RunResult}
    (hresult : result = .error → 0 < s.run.stats.errors) :
    Treads lab s (s.hangUpIfOn.finish result, .done) := by
  have hrun := run_finish h result
  refine ⟨?_, ?_, fun _ hstage => ?_⟩
  · rw [hrun]
    exact .single (.ends hgoing _ _ hresult)
  · rw [hrun]
    refine .closed ⟨rfl, ?_⟩
    unfold Run.hungUpIfOn
    split <;> exact hgoing.calls
  · cases hstage

theorem treads_enter (h : s.IsPassive) (hgoing : s.run.IsGoing) (hn : s.run.Has n) :
    Treads lab s (s.enter lab n) := by
  unfold enter
  split
  · have hsays : Says lab s _ := says_error h hgoing (n := limitReached lab.settings.maxSteps n) rfl
    have herror := run_emit (quiet_countError h).passive (limitReached lab.settings.maxSteps n)
    refine .after hsays (treads_finish hsays.quiet.passive hsays.going fun _ => ?_)
    rw [herror]
    exact Nat.succ_pos _
  · rename_i hmore
    have hcount : IsPassive (s.setRun (countVisit n)) := h
    have hrun := run_emit hcount (announcement lab.palette n)
    have hlater : Run.IsGoing ((s.setRun (countVisit n)).emit (announcement lab.palette n)).run := by
      rw [hrun]
      exact ⟨hgoing.state, hgoing.onCall, hgoing.waiting, Nat.le_succ_of_le hgoing.calls⟩
    have hsuits : (Stage.announced n).Suits
        ((s.setRun (countVisit n)).emit (announcement lab.palette n)).run := by
      refine ⟨⟨hlater, ?_⟩, ?_⟩
      · rw [hrun]
        exact hn
      · rw [hrun]
        exact Nat.lt_succ_of_le hgoing.calls
    refine ⟨?_, .going hlater, suits_pause _ hsuits _⟩
    rw [hrun]
    exact .single (.arrives hgoing n (Nat.lt_of_not_le hmore) rfl)

/-! ## Ways on -/

theorem defaultNext_found {f : Flow} {m : Node} (h : defaultNext f n = some m) : m ∈ f.nodes := by
  unfold defaultNext at h
  split at h
  · exact List.mem_of_find?_eq_some h
  · obtain ⟨id, -, hid⟩ := Option.bind_eq_some_iff.mp h
    exact List.mem_of_find?_eq_some hid

theorem branchNext_found {f : Flow} {m : Node} {matched : Bool}
    (h : branchNext f n matched = some m) : m ∈ f.nodes := by
  unfold branchNext at h
  split at h
  · exact List.mem_of_find?_eq_some h
  · obtain ⟨id, -, hid⟩ := Option.bind_eq_some_iff.mp h
    exact List.mem_of_find?_eq_some hid

/-- Wherever a stage leads to is a node of the flow, if the stage suits the run. -/
theorem has_of_onward {run : Run} {stage : Stage} (hstage : ∀ start, stage ≠ .connecting start)
    (hn : stage.onward run.flow = some n) : run.Has n := by
  have hfound : ∀ next : Flow → Option Node, (∀ f m, next f = some m → m ∈ f.nodes) →
      run.flow.bind next = some n → run.Has n := by
    intro next hnext hbind
    obtain ⟨f, hf, hm⟩ := Option.bind_eq_some_iff.mp hbind
    exact ⟨f, hf, hnext f n hm⟩
  cases stage with
  | connecting start => exact absurd rfl (hstage start)
  | closing => cases hn
  | weighing m text => exact hfound _ (fun _ _ => branchNext_found) hn
  | _ => exact hfound _ (fun _ _ => defaultNext_found) hn

/-! ## Walks -/

theorem suits_going {run : Run} {stage : Stage} (h : stage.Suits run)
    (hstage : ∀ start, stage ≠ .connecting start) : run.IsGoing := by
  cases stage with
  | connecting start => exact absurd rfl (hstage start)
  | announced n => exact h.1.1
  | _ => exact h.1

theorem suits_has {run : Run} {stage : Stage} (h : stage.Suits run) (hn : stage.node? = some n) :
    run.Has n := by
  cases stage with
  | closing => cases hn
  | announced m =>
    cases hn
    exact h.1.2
  | _ =>
    cases hn
    exact h.2

/-- What a task tells and counts at a stage that suits its run. -/
theorem says_talks (h : s.IsPassive) {stage : Stage} (hsuits : stage.Suits s.run)
    (ht : Talks lab s stage t) : Says lab s t := by
  induction ht with
  | silent hstage => exact .refl h (suits_going hsuits hstage)
  | tells ht hcurrent hline ih =>
    have htalk := hline.isTalk fun m hm => ih.has (suits_has hsuits hm)
    exact ih.trans (says_emit ih.quiet.passive ih.going htalk)
  | counts hstage hcount hline =>
    subst hstage
    have hcounted : Says lab s _ := says_counted h hsuits.1.1 hsuits.2 hcount
    have htalk := hline.isTalk fun m hm => hcounted.has (suits_has hsuits hm)
    exact hcounted.trans (says_emit hcounted.quiet.passive hcounted.going htalk)
  | fails ht hcurrent hn detail ih =>
    exact ih.trans (says_error ih.quiet.passive ih.going rfl)
  | draws ht dice ih =>
    exact ⟨ih.quiet.trans (quiet_dice ih.quiet.passive dice), ih.deeds, ih.going, ih.onCall⟩

theorem treads_walks (h : s.IsPassive) {stage : Stage} (hsuits : stage.Suits s.run)
    (hr : Walks lab s stage r) : Treads lab s r := by
  cases hr with
  | pauses ht hstage hlater =>
    subst hstage
    have hsaid := says_talks h hsuits ht
    have hhas := hsaid.has hsuits.1.2
    refine hsaid.treads_pause _ ?_ _
    cases hlater with
    | spoken => exact ⟨hsaid.going, hhas⟩
    | inEffect => exact ⟨hsaid.going, hhas⟩
    | closing hkind hvoice hon => exact ⟨hsaid.going, hsaid.onCall.trans hon⟩
  | breaks ht hwhy => exact (says_talks h hsuits ht).treads rfl
  | stops ht hstays => exact (says_talks h hsuits ht).treads rfl
  | enters ht hcurrent hleaves hn =>
    have hsaid := says_talks h hsuits ht
    exact .after hsaid
      (treads_enter hsaid.quiet.passive hsaid.going (has_of_onward ht.ne_connecting hn))
  | ends ht hcurrent hleaves hnone =>
    have hsaid := says_talks h hsuits ht
    exact .after hsaid (treads_finish hsaid.quiet.passive hsaid.going (by simp))
  | @connects start hstage =>
    subst hstage
    obtain ⟨hdialing, hstart⟩ := hsuits
    have hrun : s.connected.run = { s.run.told ⟨Ids.full s.nextEvent, s.now, callConnected⟩ with
        onCall := true, connectedAt := some s.now } := by
      change { (s.emit callConnected).run with
        onCall := true, connectedAt := some (s.emit callConnected).now } = _
      rw [run_emit h callConnected, (quiet_emit h callConnected).now]
    have hgoing : s.connected.run.IsGoing := by
      rw [hrun]
      refine ⟨?_, ?_, ?_, hdialing.calls⟩
      · simp [Run.isOver, Run.told, hdialing.state]
      · simp [Run.told, hdialing.channel]
      · simp [Run.told, hdialing.waiting]
    have hhas : s.connected.run.Has start := by
      rw [hrun]
      exact hstart
    have henter : Treads lab s.connected (s.connected.enter lab start) :=
      treads_enter (quiet_connected h).passive hgoing hhas
    refine ⟨.head ?_ henter.deeds, henter.fits⟩
    rw [hrun]
    exact .connects hdialing _ _
  | closes hstage =>
    subst hstage
    have hon : s.hangUp = s.hangUpIfOn := (if_pos hsuits.2).symm
    rw [hon]
    exact treads_finish h hsuits.1 (by simp)
  | @finishes n hstage hkind hoff =>
    subst hstage
    have hgoing := hsuits.1.1
    have hline : Notice.IsLine lab (.announced n) s.run
        ⟨.system, .str "Test completed", n.id, some .success⟩ := .telling rfl _ _
    have hsaid : Says lab s (s.tell n .success "Test completed") :=
      says_talks h hsuits (.tells (.silent nofun) rfl hline)
    have hstill : (s.tell n .success "Test completed").hangUpIfOn =
        s.tell n .success "Test completed" := by
      have hon : s.run.onCall ≠ true := by
        intro hon
        have hvoice := hgoing.onCall.symm.trans hon
        exact hoff ⟨beq_iff_eq.mp hvoice, hon⟩
      unfold hangUpIfOn
      rw [hsaid.onCall, if_neg hon]
    rw [← hstill]
    exact .after hsaid (treads_finish hsaid.quiet.passive hsaid.going (by simp))
  | @asksForText n d hstage hdata =>
    subst hstage
    have hsaid : Says lab s (s.emit (question n d)) :=
      says_talks h hsuits (.tells (.silent nofun) rfl (.question rfl d))
    exact hsaid.treads_waitFor hsuits.1.2 (by simp)
  | @asksForKeys n d hstage hdata =>
    subst hstage
    have hspoken : Says lab s (s.emit (s.prompt n d)) :=
      says_talks h hsuits (.tells (.silent nofun) rfl (.prompt rfl d))
    have hline : (keysQuestion n d).IsLine lab (.announced n) (s.emit (s.prompt n d)).run :=
      .keysQuestion rfl d
    have htalk := hline.isTalk fun m hm => hspoken.has (suits_has hsuits hm)
    have hsaid := hspoken.trans (says_emit hspoken.quiet.passive hspoken.going htalk)
    exact hsaid.treads_waitFor hsuits.1.2 (by simp)

theorem treads_resume (h : s.IsPassive) (hcurrent : s.generation = generation) {stage : Stage}
    (hsuits : stage.Suits s.run) : Treads lab s (s.resume lab generation stage) := by
  subst hcurrent
  exact treads_walks h hsuits (walks_resume lab s stage)

/-! ## Controls -/

theorem treads_opens (h : s.IsPassive) {f : Flow} {channel : Channel}
    (hr : Opens lab s f channel r) : Treads lab s r := by
  have hbegun : ∀ channel, IsPassive (s.atOutset f channel) := fun _ => h
  cases hr with
  | lost hnone =>
    have herror := quiet_countError (hbegun channel)
    have hsaid := quiet_emit herror.passive noStartFound
    have hrun := run_emit herror.passive noStartFound
    have hfinished : ((((s.atOutset f channel).setRun Run.countError).emit noStartFound).finish
        .error).run = ((((begun f channel s.now).countError.told
          ⟨Ids.full s.nextEvent, s.now, noStartFound⟩).finished s.now .error)) := by
      change Run.finished _ (((s.atOutset f channel).setRun Run.countError).emit noStartFound).now
        .error = _
      rw [hrun, hsaid.now]
      rfl
    refine ⟨?_, ?_, fun _ hstage => ?_⟩
    · exact hfinished ▸ .single (.loses s.run hnone channel _ s.now)
    · refine .closed (hfinished ▸ ⟨rfl, Nat.le_refl _⟩)
    · cases hstage
  | @calls start hstart =>
    have hsome : f.startNode?.isSome = true := by rw [hstart]; rfl
    have hrun := run_emit (hbegun .voice) callStarted
    have hdialing : Run.IsDialing ((s.atOutset f .voice).emit callStarted).run := by
      rw [hrun]
      exact ⟨rfl, rfl, rfl, rfl, rfl, Nat.le_refl _⟩
    have hhas : Run.Has ((s.atOutset f .voice).emit callStarted).run start := by
      rw [hrun]
      exact ⟨f, rfl, List.mem_of_find?_eq_some hstart⟩
    refine ⟨?_, .dialing hdialing, suits_pause (.connecting start) ⟨hdialing, hhas⟩ _⟩
    exact hrun ▸ .single (.dials s.run hsome _ s.now)
  | @enters start hstart =>
    have hsome : f.startNode?.isSome = true := by rw [hstart]; rfl
    have hrun := run_emit (hbegun .chat) sessionStarted
    have hgoing : Run.IsGoing ((s.atOutset f .chat).emit sessionStarted).run := by
      rw [hrun]
      exact ⟨rfl, rfl, fun _ hn => (by cases hn), Nat.le_refl _⟩
    have hhas : Run.Has ((s.atOutset f .chat).emit sessionStarted).run start := by
      rw [hrun]
      exact ⟨f, rfl, List.mem_of_find?_eq_some hstart⟩
    have henter : Treads lab ((s.atOutset f .chat).emit sessionStarted) _ :=
      treads_enter (quiet_emit (hbegun .chat) sessionStarted).passive hgoing hhas
    refine ⟨.head ?_ henter.deeds, henter.fits⟩
    exact hrun ▸ .opens s.run hsome _ s.now

theorem treads_start (h : s.IsPassive) (f : Flow) (channel : Channel) :
    Treads lab s (s.start lab f channel) :=
  treads_opens h (opens_start lab s f channel)

theorem suits_answer {run : Run} {text : String} {state : RunState} {stage : Stage}
    (h : stage.IsAnswerAt n text state) (hgoing : run.IsGoing) (hn : run.Has n) :
    stage.Suits run := by
  cases h <;> exact ⟨hgoing, hn⟩

/-- An answer is taken up and told, and then the node weighs it. -/
theorem treads_taken (h : s.IsPassive) (hgoing : s.run.IsGoing) (hr : IsTaken lab s r) :
    Treads lab s r := by
  obtain ⟨n, text, stage, hanswer, hn, notice, hline, rfl⟩ := hr
  have htaken : s.takeUp.run.IsGoing :=
    ⟨rfl, hgoing.onCall, fun _ hm => (by cases hm), hgoing.calls⟩
  have hpassive : s.takeUp.IsPassive := h
  have hhas : s.takeUp.run.Has n := hgoing.waiting n hn
  have htalk := hline.isTalk fun m hm => suits_has (suits_answer hanswer htaken hhas) hm
  have hsaid : Says lab s.takeUp (s.takeUp.emit notice) := says_emit hpassive htaken htalk
  have hrest := hsaid.treads_pause stage (suits_answer hanswer hsaid.going (hsaid.has hhas))
    (lab.settings.span lab.settings.inputEval)
  exact ⟨.head (.turns hgoing none (by simp)) hrest.deeds, hrest.fits⟩

/-- A hang-up from outside is one deed, whatever the call was at. -/
theorem treads_endCall (h : s.IsPassive) (hcan : s.canHangUp = true)
    (hphase : s.run.IsDialing ∨ s.run.IsGoing) : Treads lab s (s.endCall.1, .done) := by
  have hvoice : s.run.channel = some .voice := by
    have hboth := hcan
    rw [canHangUp, Bool.and_eq_true, beq_iff_eq] at hboth
    exact hboth.1
  let s0 := { s.setRun fun r => { r with waiting := none } with generation := s.generation + 1 }
  have hpassive : IsPassive s0 := h
  have hrun : s.endCall.1.run =
      ({ s.run with waiting := none }.hungUp (Ids.full s.nextEvent) s.now).finished s.now
        .success := by
    unfold endCall endCallWith
    rw [if_pos hcan]
    change s0.hangUp.run.finished s0.hangUp.now .success = _
    rw [run_hangUp hpassive, (quiet_hangUp hpassive).now]
    rfl
  have hcalls : s.run.calls ≤ s.run.stats.visited := by
    rcases hphase with h | h
    · exact h.calls
    · exact h.calls
  refine ⟨?_, ?_, fun _ hstage => ?_⟩
  · exact hrun ▸ .single (.hangsUp hphase hvoice _ _)
  · exact .closed (hrun ▸ ⟨rfl, hcalls⟩)
  · cases hstage

end Session

/-! ## Benches -/

namespace Bench

/-- Nothing but deeds was done to the run of the first bench, and the run of the second fits its
tasks. -/
structure Does (lab : Lab) (b b' : Bench) : Prop where
  deeds : b.session.run.Deeds lab b'.session.run
  fits : b'.session.run.Fits b'.stages

variable {lab : Lab} {b b' : Bench}

/-- A stretch is filed where no other task may go on. -/
theorem does_file {r : Stretch} (hr : Session.Treads lab b.session r) (tasks task : Nat)
    (errand : Errand) {sleepers : List Sleeper}
    (hothers : ∀ x ∈ sleepers, x.generation ≠ r.1.generation) :
    Does lab b ({ b with tasks, sleepers }.file task errand r.1.generation r) := by
  have hfiles : Files r _ := files_file (b := { b with tasks, sleepers }) task errand hothers
  refine ⟨?_, ?_⟩
  · rw [hfiles.session]
    exact hr.deeds
  · rw [hfiles.session, hfiles.stages]
    exact hr.fits

/-- The run is as it was, and so are the tasks that may go on. -/
theorem does_nothing (hfits : b.session.run.Fits b.stages)
    (hrun : b'.session.run = b.session.run) (hstages : b'.stages = b.stages) : Does lab b b' := by
  refine ⟨?_, ?_⟩
  · rw [hrun]
  · rw [hrun, hstages]
    exact hfits

theorem does_clear (haged : b.IsAged) (hsession : b'.session = b.session.reset)
    (hsleepers : b'.sleepers = b.sleepers) : Does lab b b' := by
  have hnone : b'.stages = [] := by
    refine stages_of_rise haged hsleepers ?_
    rw [hsession]
    exact Nat.lt_succ_self _
  refine ⟨?_, ?_⟩
  · rw [hsession]
    exact .single (.clears _)
  · rw [hsession, hnone]
    exact ⟨.blank rfl, fun _ hstage => by cases hstage⟩

theorem does_start (hb : b.Stands lab) (hdated : Clock.isDated b.session.now = true) (f : Flow)
    (channel : Channel) : Does lab b (b.start lab f channel false) := by
  have hpassive := hb.aged.passive
  have hstart : b.start lab f channel false = { b with tasks := b.tasks + 1 }.file (b.tasks + 1)
      .start (b.session.generation + 1) (b.session.tryStart lab f channel) := rfl
  rw [hstart, Session.tryStart_eq hdated]
  split
  · exact does_clear hb.aged (file_session _ _ _ _ _) rfl
  · have hrise : (b.session.start lab f channel).1.generation = b.session.generation + 1 :=
      (Session.starts_start hpassive f channel).calm.generation
    rw [← hrise]
    refine does_file (Session.treads_start hpassive f channel) _ _ _ fun x hx => ?_
    have hold := hb.aged.old x hx
    omega

theorem does_endCall (hb : b.Stands lab) (hfits : b.session.run.Fits b.stages)
    (hdated : Clock.isDated b.session.now = true) :
    Does lab b (b.onSession fun s => s.tryEndCall.1) := by
  have hpassive := hb.aged.passive
  unfold onSession
  dsimp only
  rw [Session.tryEndCall_eq hdated]
  rcases Session.endCall_spec hpassive with ⟨-, hsame⟩ | ⟨hcan, -, hcalm, -⟩
  · exact does_nothing hfits (by rw [hsame]) (by rw [hsame])
  · have hopen : b.session.run.isOver = false := by
      have hboth := hcan
      rw [Session.canHangUp, Bool.and_eq_true, Bool.not_eq_true'] at hboth
      exact hboth.2
    have hphase : b.session.run.IsDialing ∨ b.session.run.IsGoing := by
      cases hfits.phase with
      | blank h =>
        rw [h] at hopen
        cases hopen
      | dialing h => exact Or.inl h
      | going h => exact Or.inr h
      | closed h =>
        rw [Run.isOver, h.state] at hopen
        cases hopen
    have htreads : Session.Treads lab b.session _ := Session.treads_endCall hpassive hcan hphase
    have hnone : stages { b with session := b.session.endCall.1 } = [] := by
      refine stages_of_rise hb.aged rfl ?_
      rw [hcalm.generation]
      exact Nat.lt_succ_self _
    refine ⟨htreads.deeds, ?_⟩
    rw [hnone]
    exact htreads.fits

/-- A run that waits for an answer is going. -/
theorem going_of_waiting (hfits : b.session.run.Fits b.stages)
    (hstate : b.session.run.state = .waitingForKeys ∨ b.session.run.state = .waitingForText) :
    b.session.run.IsGoing := by
  cases hfits.phase with
  | blank h =>
    rw [h] at hstate
    rcases hstate with h | h <;> cases h
  | dialing h =>
    rw [h.state] at hstate
    rcases hstate with h | h <;> cases h
  | going h => exact h
  | closed h =>
    rw [h.state] at hstate
    rcases hstate with h | h <;> cases h

theorem does_submit (hb : b.Stands lab) (hfits : b.session.run.Fits b.stages)
    (hdated : Clock.isDated b.session.now = true) {r : Option Stretch}
    (hr : ∀ r', r = some r' → Session.IsTaken lab b.session r') :
    Does lab b (b.submit lab false r) := by
  have hpassive := hb.aged.passive
  unfold submit
  rw [Session.tryAnswer_eq hdated]
  cases r with
  | none => exact does_nothing hfits rfl rfl
  | some r =>
    obtain ⟨n, text, stage, htakes⟩ := hr r rfl
    have hgoing := going_of_waiting hfits htakes.answer.waits
    have hnone : b.stages = [] := hb.run.none_of_waiting htakes.waiting
    have hgeneration : r.1.generation = b.session.generation :=
      (htakes.answers hpassive).quiet.generation
    have hdone := does_file (Session.treads_taken hpassive hgoing (hr r rfl)) (b.tasks + 1)
      (b.tasks + 1) .answer (hgeneration ▸ stages_eq_nil_iff.mp hnone)
    rw [hgeneration] at hdone
    exact hdone

theorem does_wake (hb : b.Stands lab) (hfits : b.session.run.Fits b.stages)
    (hdated : Clock.isDated b.session.now = true) (place : Nat) : Does lab b (b.wake lab place) := by
  have hpassive := hb.aged.passive
  unfold wake
  cases hx : b.sleepers[place]? with
  | none => exact does_nothing hfits rfl rfl
  | some x =>
    dsimp only
    rw [Session.tryResume_eq hdated]
    by_cases hcurrent : x.generation = b.session.generation
    · obtain ⟨hstages, hothers⟩ := others_old hx hcurrent hb.run.length_le
      have hsuits : x.stage.Suits b.session.run := hfits.suits x.stage (by simp [hstages])
      have htreads : Session.Treads lab b.session (b.session.resume lab x.generation x.stage) :=
        Session.treads_resume hpassive hcurrent.symm hsuits
      have hgeneration : (b.session.resume lab x.generation x.stage).1.generation =
          b.session.generation :=
        (Session.moves_resume hpassive hcurrent.symm x.stage).calm.generation
      have hdone := does_file htreads b.tasks x.task x.errand (hgeneration ▸ hothers)
      rw [hgeneration] at hdone
      rw [hcurrent] at hdone ⊢
      exact hdone
    · rw [Session.resume_stale lab (Ne.symm hcurrent)]
      refine does_nothing hfits (by rw [file_session]) ?_
      cases x.stage.fault? lab b.session.dice with
      | none => exact stages_drop hx hcurrent rfl rfl
      | some fault => exact stages_drop hx hcurrent rfl rfl

/-- The bench is in order, and its run fits the tasks that may go on. -/
structure Fits (lab : Lab) (b : Bench) : Prop where
  stands : b.Stands lab
  run : b.session.run.Fits b.stages

theorem fits_fresh (lab : Lab) (dice : Dice) : (fresh dice).Fits lab :=
  ⟨stands_fresh lab dice, .blank rfl, fun _ hstage => absurd hstage List.not_mem_nil⟩

/-- Whatever happens does nothing but deeds to the run. -/
theorem happen_does (hb : b.Fits lab) (now : Moment) (h : Happening) :
    Does lab b (b.happen lab now h) := by
  have hstands : (b.atMoment now).Stands lab := ⟨⟨hb.stands.aged.passive, hb.stands.aged.old⟩,
    hb.stands.run⟩
  have hfits : (b.atMoment now).session.run.Fits (b.atMoment now).stages := hb.run
  have hdated : Clock.isDated (b.atMoment now).session.now = true := now.2
  have hdoes : Does lab (b.atMoment now) (b.happen lab now h) := by
    cases h with
    | start f channel => exact does_start hstands hdated f channel
    | say said =>
      cases said with
      | str text => exact does_submit hstands hfits hdated fun _ => Session.isTaken_submitText
      | _ => exact does_nothing hfits rfl rfl
    | press digits => exact does_submit hstands hfits hdated fun _ => Session.isTaken_submitKeys
    | endCall => exact does_endCall hstands hfits hdated
    | reset => exact does_clear hstands.aged rfl rfl
    | subscribe l => exact does_nothing hfits rfl rfl
    | unsubscribe name => exact does_nothing hfits rfl rfl
    | wake place => exact does_wake hstands hfits hdated place
  exact ⟨hdoes.deeds, hdoes.fits⟩

theorem happen_fits (hb : b.Fits lab) (now : Moment) (h : Happening) :
    (b.happen lab now h).Fits lab :=
  ⟨happen_stands hb.stands now h, (happen_does hb now h).fits⟩

/-- Whatever happened, the bench fits, and nothing but deeds were done to its run. -/
theorem replay_does (hb : b.Fits lab) (history : List (Moment × Happening)) :
    b.session.run.Deeds lab (b.replay lab history).session.run ∧
      (b.replay lab history).Fits lab := by
  induction history generalizing b with
  | nil => exact ⟨.refl, hb⟩
  | cons h rest ih =>
    have hstep := happen_does hb h.1 h.2
    obtain ⟨hdeeds, hfits⟩ := ih (happen_fits hb h.1 h.2)
    exact ⟨hstep.deeds.trans hdeeds, hfits⟩

end Bench

end Dialogue
