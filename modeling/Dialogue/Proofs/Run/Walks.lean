-- All that a stretch of a walk can do, whoever listens. A task that may go on tells lines at its stage,
-- and then it pauses, breaks off, stops, comes to a node, ends the run, or waits for an answer. The
-- same is said here of how runs start and of how answers are taken up.
import Dialogue.Proofs.Run.SideBySide

namespace Dialogue

/-- The stage at which a text that answers the node is taken in. -/
inductive Stage.IsAnswerAt (n : Node) (text : String) : RunState → Stage → Prop
  | weighing : IsAnswerAt n text .waitingForText (weighing n text)
  | keyed (digits : String) : IsAnswerAt n text .waitingForKeys (keyed n digits)

theorem Stage.IsAnswerAt.waits {n : Node} {text : String} {state : RunState} {stage : Stage}
    (h : stage.IsAnswerAt n text state) : state = .waitingForKeys ∨ state = .waitingForText := by
  cases h with
  | weighing => exact Or.inr rfl
  | keyed => exact Or.inl rfl

namespace Session

variable {lab : Lab} {s t : Session} {stage : Stage} {r : Stretch}

/-! ## What a task tells -/

/-- The second session comes from the first one by what a task tells, counts and draws at its stage as
long as it may go on. -/
inductive Talks (lab : Lab) (s : Session) (stage : Stage) : Session → Prop
  | silent (hstage : ∀ start, stage ≠ .connecting start) : Talks lab s stage s
  | tells {t : Session} {notice : Notice} (ht : Talks lab s stage t)
      (hcurrent : t.generation = s.generation) (hline : notice.IsLine lab stage t.run) :
      Talks lab s stage (t.emit notice)
  | counts {n : Node} {notice : Notice} {count : Session → Session} (hstage : stage = .announced n)
      (hcount : count = countCall ∨ count = countIntegration)
      (hline : notice.IsLine lab stage (count s).run) : Talks lab s stage ((count s).emit notice)
  | fails {t : Session} {n : Node} (ht : Talks lab s stage t)
      (hcurrent : t.generation = s.generation) (hn : stage.node? = some n) (detail : Json) :
      Talks lab s stage ((t.setRun Run.countError).emit (failure n detail))
  | draws {t : Session} (ht : Talks lab s stage t) (dice : Dice) : Talks lab s stage { t with dice }

/-- Nothing is told of a call before it is connected. -/
theorem Talks.ne_connecting (h : Talks lab s stage t) (start : Node) : stage ≠ .connecting start := by
  induction h with
  | silent hstage => exact hstage start
  | counts hstage =>
    subst hstage
    nofun
  | tells _ _ _ ih => exact ih
  | fails _ _ _ _ ih => exact ih
  | draws _ _ ih => exact ih

/-! ## What it comes to -/

/-- All that a task of the session's generation can come to from a stage. -/
inductive Walks (lab : Lab) (s : Session) (stage : Stage) : Stretch → Prop
  | pauses {t : Session} {n : Node} {later : Stage} {span : Outcome Nat} (ht : Talks lab s stage t)
      (hstage : stage = .announced n) (hlater : later.Pauses lab s.run n span) :
      Walks lab s stage (t, .pause span later)
  | breaks {t : Session} {fault : Fault} (ht : Talks lab s stage t) (hwhy : lab.Breaks t.run fault) :
      Walks lab s stage (t, .failed fault)
  | stops {t : Session} (ht : Talks lab s stage t)
      (hstays : t.generation = s.generation → t.run.state ≠ .running) : Walks lab s stage (t, .done)
  | enters {t : Session} {n : Node} (ht : Talks lab s stage t)
      (hcurrent : t.generation = s.generation) (hleaves : stage.Leaves)
      (hn : stage.onward t.run.flow = some n) : Walks lab s stage (t.enter lab n)
  | ends {t : Session} (ht : Talks lab s stage t) (hcurrent : t.generation = s.generation)
      (hleaves : stage.Leaves) (hnone : stage.onward t.run.flow = none) :
      Walks lab s stage (t.deadEnd, .done)
  | connects {start : Node} (hstage : stage = .connecting start) :
      Walks lab s stage (s.connected.enter lab start)
  | closes (hstage : stage = .closing) : Walks lab s stage (s.hangUp.finish .success, .done)
  | finishes {n : Node} (hstage : stage = .announced n) (hkind : n.kind = .finish)
      (hoff : ¬ (s.run.channel = some .voice ∧ s.run.onCall = true)) :
      Walks lab s stage ((s.tell n .success "Test completed").finish .success, .done)
  | asksForText {n : Node} {d : ConditionData} (hstage : stage = .announced n)
      (hdata : n.data = .condition d) :
      Walks lab s stage ((s.emit (question n d)).waitFor n .waitingForText, .done)
  | asksForKeys {n : Node} {d : DtmfData} (hstage : stage = .announced n)
      (hdata : n.data = .dtmf d) :
      Walks lab s stage
        (((s.emit (s.prompt n d)).emit (keysQuestion n d)).waitFor n .waitingForKeys, .done)

/-- Walks from one session tell the same if their labs have the same effects. -/
theorem alongside_self (lab lab' : Lab) (hpalette : lab'.palette = lab.palette)
    (heffects : lab'.effects = lab.effects) (s : Session) (stage : Stage) :
    Alongside lab lab' s.generation s.generation stage s s
      fun t t' => t' = t ∧ Talks lab s stage t where
  palette := hpalette
  takesTime _ _ := by rw [heffects]
  sees := by
    rintro t _ ⟨rfl, -⟩
    exact ⟨rfl, rfl, rfl, rfl, rfl⟩
  begins hstage := ⟨rfl, .silent hstage⟩
  tells := by
    rintro t _ notice ⟨rfl, ht⟩ hcurrent hline
    exact ⟨rfl, .tells ht hcurrent hline⟩
  counts hstage hcount hline := ⟨rfl, .counts hstage hcount hline⟩
  fails := by
    rintro t _ n ⟨rfl, ht⟩ hcurrent hn detail
    exact ⟨rfl, .fails ht hcurrent hn detail⟩
  acts := by
    rintro t _ n ⟨rfl, ht⟩ - channel
    rw [heffects]
    exact ⟨_, _, _, rfl, rfl, rfl, .draws ht _⟩

/-- A walk beside itself. -/
theorem sideBySide_self (lab : Lab) (s : Session) (stage : Stage) :
    SideBySide lab lab s.generation s.generation stage s s
      (fun t t' => t' = t ∧ Talks lab s stage t) (fun r _ => Walks lab s stage r) where
  toAlongside := alongside_self lab lab rfl rfl s stage
  pauses ht hstage hlater _ := .pauses ht.2 hstage hlater
  breaks ht hwhy := .breaks ht.2 hwhy
  stops ht hstays := .stops ht.2 hstays
  enters ht hcurrent hleaves hn := .enters ht.2 hcurrent hleaves hn
  ends ht hcurrent hleaves hnone := .ends ht.2 hcurrent hleaves hnone
  connects := .connects
  closes := .closes
  finishes := .finishes
  asksForText := .asksForText
  asksForKeys := .asksForKeys

theorem walks_resume (lab : Lab) (s : Session) (stage : Stage) :
    Walks lab s stage (s.resume lab s.generation stage) :=
  (sideBySide_self lab s stage).resume rfl rfl

/-! ## How a run starts -/

/-- The session when a run of a flow has just begun, before its first event. -/
def atOutset (s : Session) (f : Flow) (channel : Channel) : Session :=
  { s.reset with run := begun f channel s.now }

/-- What the start of a run can come to. -/
inductive Opens (lab : Lab) (s : Session) (f : Flow) : Channel → Stretch → Prop
  | lost {channel : Channel} (hnone : f.startNode? = none) :
      Opens lab s f channel
        ((((s.atOutset f channel).setRun Run.countError).emit noStartFound).finish .error, .done)
  | calls {start : Node} (hstart : f.startNode? = some start) :
      Opens lab s f .voice ((s.atOutset f .voice).emit callStarted,
        .pause (lab.settings.span lab.settings.callConnect) (.connecting start))
  | enters {start : Node} (hstart : f.startNode? = some start) :
      Opens lab s f .chat (((s.atOutset f .chat).emit sessionStarted).enter lab start)

/-- Runs of a flow that start in two sessions. -/
theorem rel_start (lab lab' : Lab) (s s' : Session) {f : Flow} {channel : Channel}
    {Q : Stretch → Stretch → Prop}
    (hlost : f.startNode? = none →
      Q ((((s.atOutset f channel).setRun Run.countError).emit noStartFound).finish .error, .done)
        ((((s'.atOutset f channel).setRun Run.countError).emit noStartFound).finish .error, .done))
    (hcalls : ∀ start, f.startNode? = some start → channel = .voice →
      Q ((s.atOutset f channel).emit callStarted,
          .pause (lab.settings.span lab.settings.callConnect) (.connecting start))
        ((s'.atOutset f channel).emit callStarted,
          .pause (lab'.settings.span lab'.settings.callConnect) (.connecting start)))
    (henters : ∀ start, f.startNode? = some start → channel = .chat →
      Q (((s.atOutset f channel).emit sessionStarted).enter lab start)
        (((s'.atOutset f channel).emit sessionStarted).enter lab' start)) :
    Q (s.start lab f channel) (s'.start lab' f channel) := by
  unfold start
  dsimp only
  split
  · rename_i hnone
    exact hlost hnone
  · rename_i start hstart
    cases channel with
    | voice => exact hcalls start hstart rfl
    | chat => exact henters start hstart rfl

theorem opens_start (lab : Lab) (s : Session) (f : Flow) (channel : Channel) :
    Opens lab s f channel (s.start lab f channel) := by
  refine rel_start lab lab s s (Q := fun r _ => Opens lab s f channel r) .lost ?_ ?_
  · rintro start hstart rfl
    exact .calls hstart
  · rintro start hstart rfl
    exact .enters hstart

/-! ## How an answer is taken up -/

/-- An answer that is taken up: it is told, and after a pause the walk goes on from the stage. -/
structure TakesUp (lab : Lab) (s : Session) (n : Node) (text : String) (stage : Stage)
    (r : Stretch) : Prop where
  answer : stage.IsAnswerAt n text s.run.state
  waiting : s.run.waiting = some n
  told : ∃ notice : Notice, notice.IsLine lab stage s.takeUp.run ∧
    r = (s.takeUp.emit notice, .pause (lab.settings.span lab.settings.inputEval) stage)

theorem takesUp_submitKeys {digits : String} (hr : s.submitKeys lab digits = some r) :
    s.run.state = .waitingForKeys ∧ ∃ n, TakesUp lab s n digits (.keyed n digits) r := by
  unfold submitKeys at hr
  split at hr
  · cases hr
  · rename_i hwaits
    rw [Bool.or_eq_true, not_or, bne_iff_ne, Decidable.not_not] at hwaits
    obtain ⟨n, hn, rfl⟩ := Option.map_eq_some_iff.mp hr
    refine ⟨hwaits.2, n, hwaits.2 ▸ .keyed digits, hn, _, ?_, rfl⟩
    exact .of_speaker (by simp) (by simp) (Or.inl rfl)

theorem takesUp_submitText {text : String} (hr : s.submitText lab text = some r) :
    (s.run.state = .waitingForText ∧ ∃ n, TakesUp lab s n text (.weighing n text) r) ∨
      s.run.state = .waitingForKeys ∧
        ∃ n, TakesUp lab s n text (.keyed n (Text.strip text)) r := by
  unfold submitText at hr
  split at hr
  · cases hr
  · split at hr
    · obtain ⟨hstate, n, -, hn, htold⟩ := takesUp_submitKeys hr
      exact Or.inr ⟨hstate, n, hstate ▸ .keyed _, hn, htold⟩
    · split at hr
      · cases hr
      · rename_i hstate
        rw [bne_iff_ne, Decidable.not_not] at hstate
        obtain ⟨n, hn, rfl⟩ := Option.map_eq_some_iff.mp hr
        refine Or.inl ⟨hstate, n, hstate ▸ .weighing, hn, _, ?_, rfl⟩
        exact .of_speaker (by simp) (by simp) (Or.inl rfl)

/-- The stretch comes of an answer that is taken up, whatever was said or pressed. -/
def IsTaken (lab : Lab) (s : Session) (r : Stretch) : Prop :=
  ∃ n text stage, TakesUp lab s n text stage r

theorem isTaken_submitKeys {digits : String} (hr : s.submitKeys lab digits = some r) :
    IsTaken lab s r := by
  obtain ⟨-, n, htaken⟩ := takesUp_submitKeys hr
  exact ⟨n, digits, _, htaken⟩

theorem isTaken_submitText {text : String} (hr : s.submitText lab text = some r) :
    IsTaken lab s r := by
  rcases takesUp_submitText hr with ⟨-, n, htaken⟩ | ⟨-, n, htaken⟩
  · exact ⟨n, text, _, htaken⟩
  · exact ⟨n, text, _, htaken⟩

/-- Nothing is taken up by a run that waits for no answer. -/
theorem not_isTaken (hkeys : s.run.state ≠ .waitingForKeys) (htext : s.run.state ≠ .waitingForText)
    (r : Stretch) : ¬ IsTaken lab s r := by
  rintro ⟨n, text, stage, htaken⟩
  rcases htaken.answer.waits with hwaits | hwaits
  · exact hkeys hwaits
  · exact htext hwaits

theorem submitKeys_eq_none (hkeys : s.run.state ≠ .waitingForKeys)
    (htext : s.run.state ≠ .waitingForText) (digits : String) : s.submitKeys lab digits = none :=
  Option.eq_none_iff_forall_ne_some.mpr fun r hr =>
    not_isTaken hkeys htext r (isTaken_submitKeys hr)

theorem submitText_eq_none (hkeys : s.run.state ≠ .waitingForKeys)
    (htext : s.run.state ≠ .waitingForText) (text : String) : s.submitText lab text = none :=
  Option.eq_none_iff_forall_ne_some.mpr fun r hr =>
    not_isTaken hkeys htext r (isTaken_submitText hr)

/-! ### In two sessions -/

section Two

variable {lab' : Lab} {s' : Session} {Q : Stretch → Stretch → Prop}
  (hstate : s'.run.state = s.run.state) (hwaiting : s'.run.waiting = s.run.waiting)
  (htaken : ∀ {n : Node} {text : String} {stage : Stage} (notice : Notice),
    stage.IsAnswerAt n text s.run.state →
      Q (s.takeUp.emit notice, .pause (lab.settings.span lab.settings.inputEval) stage)
        (s'.takeUp.emit notice, .pause (lab'.settings.span lab'.settings.inputEval) stage))

include hstate hwaiting htaken

/-- Sessions that wait alike take up the same keys, and in the same words. -/
theorem rel_submitKeys (digits : String) :
    Option.Rel Q (s.submitKeys lab digits) (s'.submitKeys lab' digits) := by
  unfold submitKeys
  rw [hstate, hwaiting]
  split
  · exact .none
  · rename_i hwaits
    rw [Bool.or_eq_true, not_or, bne_iff_ne, Decidable.not_not] at hwaits
    cases s.run.waiting with
    | none => exact .none
    | some n =>
      have hanswer : (Stage.keyed n digits).IsAnswerAt n digits s.run.state :=
        hwaits.2 ▸ .keyed digits
      exact .some (htaken _ hanswer)

theorem rel_submitText (text : String) :
    Option.Rel Q (s.submitText lab text) (s'.submitText lab' text) := by
  unfold submitText
  rw [hstate, hwaiting]
  split
  · exact .none
  · split
    · exact rel_submitKeys hstate hwaiting htaken _
    · split
      · exact .none
      · rename_i htext
        rw [bne_iff_ne, Decidable.not_not] at htext
        cases s.run.waiting with
        | none => exact .none
        | some n =>
          have hanswer : (Stage.weighing n text).IsAnswerAt n text s.run.state :=
            htext ▸ .weighing
          exact .some (htaken _ hanswer)

end Two

end Session

end Dialogue
