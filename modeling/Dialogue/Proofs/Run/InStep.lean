-- Two runs that keep step. Their labs differ in pace, nobody listens to them, and both are at the
-- same stage. So they say the same, and stop at the same stage again.
import Dialogue.Proofs.Run.Moves
import Dialogue.Proofs.Run.Pace
import Mathlib.Data.List.Forall2

namespace Dialogue

/-! ## Runs that keep step -/

/-- The run without all that tells of its time: moments, the length of its call, and its events. -/
def Run.timeless (r : Run) : Run :=
  { r with
    stats := { r.stats with startedAt := none, endedAt := none }
    connectedAt := none
    callLength := 0
    events := {} }

/-- Both say the same. On a call, both may say that it was hung up after a length of its own. -/
def Notice.SaysAs (channel : Option Channel) (n n' : Notice) : Prop :=
  n' = n ∨ channel = some .voice ∧
    ∃ span span', n = Session.callEnded span ∧ n' = Session.callEnded span'

/-- The runs are in the same place, and have said the same. Only a voice run is on a call. -/
structure Run.InStep (r r' : Run) : Prop where
  timeless : r'.timeless = r.timeless
  events : List.Forall₂ (fun e e' => e.notice.SaysAs r.channel e'.notice) r.events.toList
    r'.events.toList
  call : r.onCall = true → r.channel = some .voice

/-- Nobody listens to either session, and each has the given generation. -/
structure Session.InStep (generation generation' : Nat) (s s' : Session) : Prop where
  run : s.run.InStep s'.run
  dice : s'.dice = s.dice
  alone : s.listeners = []
  alone' : s'.listeners = []
  generation : s.generation = generation
  generation' : s'.generation = generation'

/-- A stage at which there is a call. -/
def Stage.IsOfCall : Stage → Prop
  | connecting _ | closing => True
  | _ => False

/-- Both stop at the same stage, or are done, or fail. -/
inductive Halt.InStep : Halt → Halt → Prop
  | asleep (span span' : Nat) (stage : Stage) : InStep (.asleep span stage) (.asleep span' stage)
  | done : InStep .done .done
  | failed (fault fault' : Fault) : InStep (.failed fault) (.failed fault')

/-- A stretch that stops at a stage of a call is one of a voice run. -/
structure Stretch.InStep (generation generation' : Nat) (r r' : Stretch) : Prop where
  session : r.1.InStep generation generation' r'.1
  halt : r.2.InStep r'.2
  call : ∀ span stage, r.2 = .asleep span stage → stage.IsOfCall →
    r.1.run.channel = some .voice

theorem Halt.inStep_pause {span span' : Outcome Nat} (h : SamePause span span') (stage : Stage) :
    (Halt.pause span stage).InStep (Halt.pause span' stage) := by
  cases h with
  | spans us us' => exact .asleep us us' stage
  | none fault fault' => exact .failed fault fault'

namespace Stretch

variable {s s' : Session} {g g' : Nat}

theorem inStep_done (h : s.InStep g g' s') : InStep g g' (s, .done) (s', .done) :=
  ⟨h, .done, fun _ _ hhalt => by cases hhalt⟩

theorem inStep_failed (h : s.InStep g g' s') (fault fault' : Fault) :
    InStep g g' (s, .failed fault) (s', .failed fault') :=
  ⟨h, .failed fault fault', fun _ _ hhalt => by cases hhalt⟩

theorem inStep_pause (h : s.InStep g g' s') {span span' : Outcome Nat}
    (hspan : SamePause span span') {stage : Stage}
    (hcall : stage.IsOfCall → s.run.channel = some .voice) :
    InStep g g' (s, .pause span stage) (s', .pause span' stage) := by
  refine ⟨h, Halt.inStep_pause hspan stage, fun us stage' hhalt hstage => ?_⟩
  cases span with
  | ok us =>
    cases hhalt
    exact hcall hstage
  | error fault => cases hhalt

end Stretch

namespace Run.InStep

variable {r r' : Run} (h : r.InStep r')

include h

theorem state : r'.state = r.state := (congrArg Run.state h.timeless :)

theorem channel : r'.channel = r.channel := (congrArg Run.channel h.timeless :)

theorem flow : r'.flow = r.flow := (congrArg Run.flow h.timeless :)

theorem waiting : r'.waiting = r.waiting := (congrArg Run.waiting h.timeless :)

theorem steps : r'.steps = r.steps := (congrArg Run.steps h.timeless :)

theorem onCall : r'.onCall = r.onCall := (congrArg Run.onCall h.timeless :)

/-- What is done to both alike, but for their times, and says nothing leaves them in step. -/
theorem after {t t' : Run} (htimeless : t'.timeless = t.timeless) (hevents : t.events = r.events)
    (hevents' : t'.events = r'.events) (hchannel : t.channel = r.channel)
    (hcall : t.onCall = true → r.channel = some .voice) : t.InStep t' where
  timeless := htimeless
  events := by
    rw [hevents, hevents', hchannel]
    exact h.events
  call hon := by
    rw [hchannel]
    exact hcall hon

end Run.InStep

namespace Session

variable {lab lab' : Lab} {s s' : Session} {g g' : Nat}

/-! ## Events -/

/-- Where nobody listens, an event is appended and no more. -/
theorem post_alone (h : s.listeners = []) (hang : Session → Session) (n : Notice) :
    s.post hang n = s.logged n := by
  have hlogged : (s.logged n).listeners = [] := h
  change (s.logged n).listeners.foldl _ (s.logged n) = _
  rw [hlogged]
  rfl

theorem InStep.setRun (h : s.InStep g g' s') (change change' : Run → Run)
    (hrun : (change s.run).InStep (change' s'.run)) :
    (s.setRun change).InStep g g' (s'.setRun change') :=
  ⟨hrun, h.dice, h.alone, h.alone', h.generation, h.generation'⟩

/-- What is done to both runs alike, whatever their times, and leaves their events and their calls
leaves them in step. -/
theorem InStep.setBoth (h : s.InStep g g' s') (change : Run → Run)
    (hchange : ∀ r, (change r).timeless = change r.timeless ∧ (change r).events = r.events ∧
      (change r).channel = r.channel ∧ (change r).onCall = r.onCall) :
    (s.setRun change).InStep g g' (s'.setRun change) := by
  obtain ⟨htimeless, hevents, hchannel, hcall⟩ := hchange s.run
  obtain ⟨htimeless', hevents', -, -⟩ := hchange s'.run
  refine h.setRun _ _ (h.run.after ?_ hevents hevents' hchannel fun hon => h.run.call (hcall ▸ hon))
  rw [htimeless', htimeless, h.run.timeless]

theorem InStep.post (h : s.InStep g g' s') (hang hang' : Session → Session) {n n' : Notice}
    (hsame : n.SaysAs s.run.channel n') : (s.post hang n).InStep g g' (s'.post hang' n') := by
  rw [post_alone h.alone, post_alone h.alone']
  refine ⟨⟨h.run.timeless, ?_, h.run.call⟩, h.dice, h.alone, h.alone', h.generation,
    h.generation'⟩
  simp only [logged, Log.toList_push]
  exact List.rel_append h.run.events (.cons hsame .nil)

theorem InStep.emit (h : s.InStep g g' s') (n : Notice) : (s.emit n).InStep g g' (s'.emit n) :=
  h.post _ _ (Or.inl rfl)

/-- An event leaves the channel. -/
theorem channel_post (h : s.listeners = []) (hang : Session → Session) (n : Notice) :
    (s.post hang n).run.channel = s.run.channel := by
  rw [post_alone h]
  rfl

theorem InStep.connected (h : s.InStep g g' s') (hvoice : s.run.channel = some .voice) :
    s.connected.InStep g g' s'.connected := by
  have hsaid := h.emit callConnected
  have hvoice : (s.emit callConnected).run.channel = some .voice :=
    (channel_post h.alone _ _).trans hvoice
  exact hsaid.setRun
    (fun r => { r with onCall := true, connectedAt := some (s.emit callConnected).now })
    (fun r => { r with onCall := true, connectedAt := some (s'.emit callConnected).now })
    (hsaid.run.after (congrArg (fun r : Run => { r with onCall := true }) hsaid.run.timeless)
      rfl rfl rfl fun _ => hvoice)

theorem InStep.hangUp (h : s.InStep g g' s') (hvoice : s.run.channel = some .voice) :
    s.hangUp.InStep g g' s'.hangUp := by
  have hoff := h.setRun
    (fun r => { r with callLength := s.run.callSpan s.now, onCall := false })
    (fun r => { r with callLength := s'.run.callSpan s'.now, onCall := false })
    (h.run.after (congrArg (fun r : Run => { r with onCall := false }) h.run.timeless) rfl rfl rfl
      fun _ => hvoice)
  exact hoff.post _ _ (Or.inr ⟨hvoice, _, _, rfl, rfl⟩)

theorem InStep.hangUpIfOn (h : s.InStep g g' s') :
    s.hangUpIfOn.InStep g g' s'.hangUpIfOn := by
  unfold Session.hangUpIfOn
  rw [h.run.onCall]
  split
  · rename_i hon
    exact h.hangUp (h.run.call hon)
  · exact h

theorem InStep.finish (h : s.InStep g g' s') (result : RunResult) :
    (s.finish result).InStep g g' (s'.finish result) :=
  h.setRun _ _ (h.run.after
    (congrArg (fun r : Run => { r with state := .ended, result := some result }) h.run.timeless)
    rfl rfl rfl h.run.call)

theorem InStep.countError (h : s.InStep g g' s') :
    (s.setRun Run.countError).InStep g g' (s'.setRun Run.countError) :=
  h.setBoth _ fun _ => ⟨rfl, rfl, rfl, rfl⟩

theorem InStep.waitFor (h : s.InStep g g' s') (n : Node) (state : RunState) :
    (s.waitFor n state).InStep g g' (s'.waitFor n state) :=
  h.setBoth _ fun _ => ⟨rfl, rfl, rfl, rfl⟩

theorem InStep.takeUp (h : s.InStep g g' s') : s.takeUp.InStep g g' s'.takeUp :=
  h.setBoth _ fun _ => ⟨rfl, rfl, rfl, rfl⟩

theorem InStep.deadEnd (h : s.InStep g g' s') : s.deadEnd.InStep g g' s'.deadEnd :=
  h.hangUpIfOn.finish .success

/-- The sessions keep step wherever their clocks stand. -/
theorem InStep.at_moments (h : s.InStep g g' s') (now now' : Int) :
    InStep g g' { s with now := now } { s' with now := now' } :=
  ⟨h.run, h.dice, h.alone, h.alone', h.generation, h.generation'⟩

/-! ## Stretches that keep step -/

theorem InStep.isCurrent (h : s.InStep g g' s') : s.isCurrent g = true := by
  simp [Session.isCurrent, h.generation]

theorem InStep.isCurrent' (h : s.InStep g g' s') : s'.isCurrent g' = true := by
  simp [Session.isCurrent, h.generation']

theorem InStep.dice_eq (h : s.InStep g g' s') (dice : Dice) :
    InStep g g' { s with dice } { s' with dice } :=
  ⟨h.run, rfl, h.alone, h.alone', h.generation, h.generation'⟩

section Labs

variable (hlab : lab.DifferInPace lab')

include hlab

theorem InStep.enter (h : s.InStep g g' s') (n : Node) :
    Stretch.InStep g g' (s.enter lab n) (s'.enter lab' n) := by
  unfold Session.enter stopAtLimit
  rw [hlab.settings.maxSteps, h.run.steps, hlab.palette]
  split
  · exact Stretch.inStep_done ((h.countError.emit _).hangUpIfOn.finish .error)
  · have hcame := h.setBoth (countVisit n) fun _ => ⟨rfl, rfl, rfl, rfl⟩
    have hpause := hlab.settings.pauses .stepDelay
    exact Stretch.inStep_pause (hcame.emit _) hpause (fun hcall => False.elim hcall)

/-- Tasks at the same stage walk in step. -/
theorem InStep.sideBySide (h : s.InStep g g' s') {stage : Stage}
    (hcall : stage.IsOfCall → s.run.channel = some .voice) :
    SideBySide lab lab' g g' stage s s'
      (fun t t' => t.InStep g g' t' ∧ t.run.channel = s.run.channel) (Stretch.InStep g g') where
  palette := hlab.palette
  takesTime n c := by
    have hspan := (hlab.effects n.kind).span n c
    generalize (lab.effects n.kind).span n c = span at hspan
    generalize (lab'.effects n.kind).span n c = span' at hspan
    cases hspan <;> simp
  sees ht := ⟨ht.1.run.channel, ht.1.run.onCall, ht.1.run.state, ht.1.run.flow,
    ht.1.isCurrent'.trans ht.1.isCurrent.symm⟩
  begins _ := ⟨h, rfl⟩
  tells ht _ _ := ⟨ht.1.emit _, (channel_post ht.1.alone _ _).trans ht.2⟩
  counts _ hcount _ := by
    rcases hcount with rfl | rfl
    · have hcounted : s.countCall.InStep g g' s'.countCall :=
        h.setBoth _ fun _ => ⟨rfl, rfl, rfl, rfl⟩
      exact ⟨hcounted.emit _, channel_post hcounted.alone _ _⟩
    · have hcounted : s.countIntegration.InStep g g' s'.countIntegration :=
        h.setBoth _ fun _ => ⟨rfl, rfl, rfl, rfl⟩
      exact ⟨hcounted.emit _, channel_post hcounted.alone _ _⟩
  fails ht _ _ _ := by
    have hcounted := ht.1.countError
    exact ⟨hcounted.emit _, (channel_post hcounted.alone _ _).trans ht.2⟩
  acts {t t' n} ht _ channel := by
    refine ⟨_, _, _, rfl, ?_, ht.1.dice_eq _, ht.2⟩
    rw [(hlab.effects n.kind).act, ht.1.dice]
  pauses {t t' n later span span'} ht _ hpauses hpauses' := by
    have hsame : SamePause span span' :=
      hpauses.compare hpauses' (hlab.settings.pauses .message) (hlab.settings.pauses .callEnd)
        fun c _ _ hspan hspan' => (hlab.effects n.kind).pauses hspan hspan'
    refine Stretch.inStep_pause ht.1 hsame fun hlater => ht.2.trans ?_
    cases hpauses with
    | spoken => exact hlater.elim
    | inEffect => exact hlater.elim
    | closing _ hvoice => exact hvoice
  breaks ht _ := Stretch.inStep_failed ht.1 _ _
  stops ht _ := Stretch.inStep_done ht.1
  enters ht _ _ _ := ht.1.enter hlab _
  ends ht _ _ _ := Stretch.inStep_done ht.1.deadEnd
  connects := by
    rintro start rfl
    exact (h.connected (hcall trivial)).enter hlab start
  closes := by
    rintro rfl
    exact Stretch.inStep_done ((h.hangUp (hcall trivial)).finish .success)
  finishes _ _ _ := Stretch.inStep_done ((h.emit _).finish .success)
  asksForText _ _ := Stretch.inStep_done ((h.emit _).waitFor _ _)
  asksForKeys _ _ := Stretch.inStep_done (((h.emit _).emit _).waitFor _ _)

/-- Tasks that may go on from the same stage come to the same. -/
theorem InStep.resume (h : s.InStep g g' s') {stage : Stage}
    (hcall : stage.IsOfCall → s.run.channel = some .voice) :
    Stretch.InStep g g' (s.resume lab g stage) (s'.resume lab' g' stage) :=
  (h.sideBySide hlab hcall).resume h.generation h.generation'

/-! ## Controls -/

omit hlab in
/-- Two sessions to which nobody listens are in step once their runs are discarded. -/
theorem inStep_reset (halone : s.listeners = []) (halone' : s'.listeners = [])
    (hdice : s'.dice = s.dice) :
    s.reset.InStep (s.generation + 1) (s'.generation + 1) s'.reset where
  run := ⟨rfl, .nil, fun hon => by cases hon⟩
  dice := hdice
  alone := halone
  alone' := halone'
  generation := rfl
  generation' := rfl

/-- And they start a flow in step, whatever was before. -/
theorem inStep_start (halone : s.listeners = []) (halone' : s'.listeners = [])
    (hdice : s'.dice = s.dice) (f : Flow) (channel : Channel) :
    Stretch.InStep (s.generation + 1) (s'.generation + 1) (s.start lab f channel)
      (s'.start lab' f channel) := by
  have h : (s.atOutset f channel).InStep (s.generation + 1) (s'.generation + 1)
      (s'.atOutset f channel) :=
    { inStep_reset halone halone' hdice with run := ⟨rfl, .nil, fun hon => by cases hon⟩ }
  refine rel_start lab lab' s s' (fun _ => ?_) (fun start _ hchannel => ?_) fun start _ _ => ?_
  · exact Stretch.inStep_done ((h.countError.emit _).finish .error)
  · have hpause := hlab.settings.pauses .callConnect
    exact Stretch.inStep_pause (h.emit _) hpause fun _ =>
      (channel_post h.alone _ _).trans (congrArg some hchannel)
  · exact (h.emit _).enter hlab start

/-- An answer is taken up in step. -/
theorem InStep.taken (h : s.InStep g g' s') (notice : Notice) {n : Node} {text : String}
    {stage : Stage} (hanswer : stage.IsAnswerAt n text s.run.state) :
    Stretch.InStep g g'
      (s.takeUp.emit notice, .pause (lab.settings.span lab.settings.inputEval) stage)
      (s'.takeUp.emit notice, .pause (lab'.settings.span lab'.settings.inputEval) stage) := by
  refine Stretch.inStep_pause (h.takeUp.emit notice) (hlab.settings.pauses .inputEval) ?_
  generalize s.run.state = state at hanswer
  cases hanswer with
  | weighing => exact False.elim
  | keyed => exact False.elim

theorem InStep.submitKeys (h : s.InStep g g' s') (digits : String) :
    Option.Rel (Stretch.InStep g g') (s.submitKeys lab digits) (s'.submitKeys lab' digits) :=
  rel_submitKeys h.run.state h.run.waiting (fun notice => h.taken hlab notice) digits

theorem InStep.submitText (h : s.InStep g g' s') (text : String) :
    Option.Rel (Stretch.InStep g g') (s.submitText lab text) (s'.submitText lab' text) :=
  rel_submitText h.run.state h.run.waiting (fun notice => h.taken hlab notice) text

end Labs

/-! ## Where a task sleeps -/

theorem passive_of_alone (h : s.listeners = []) : s.IsPassive := by
  intro l hl
  rw [h] at hl
  cases hl

/-- Where a task falls asleep, its run goes on. -/
theorem Moves.running {stage later : Stage} {r : Stretch} (h : Moves lab s stage r)
    (hrunning : s.run.state = .running) {span : Nat} (hr : r.2 = .asleep span later) :
    r.1.run.state = .running := by
  cases h with
  | arrives hleaves hn hmore hcalm hstance hhalt =>
    exact (congrArg Stance.state hstance).trans hrunning
  | stays hstage hlater hquiet hhalt => exact (stance_state hquiet).trans hrunning
  | cut | ends | closes | waits | breaks | idles => cases hr

theorem Starts.running {f : Flow} {channel : Channel} {r : Stretch} {later : Stage}
    (h : Starts lab s f channel r) {span : Nat} (hr : r.2 = .asleep span later) :
    r.1.run.state = .running := by
  cases h with
  | lost => cases hr
  | calls hstart hquiet hhalt => exact stance_state hquiet
  | goes hstart hmoves => exact hmoves.running rfl hr

theorem Answers.running {n : Node} {stage : Stage} {r : Stretch} (h : Answers lab s n stage r) :
    r.1.run.state = .running :=
  stance_state h.quiet

end Session

end Dialogue
