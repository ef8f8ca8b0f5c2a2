-- Sessions that are alike: nobody listens to either, and their runs tell the same at the same time,
-- but for the ids of their events. One of them may have had any number of other runs before. Where
-- no effect consults the dice, the two come to the same in every stretch of a walk.
import Dialogue.Run.Late
import Dialogue.Proofs.Run.InStep

namespace Dialogue

/-! ## Runs without ids -/

def Event.nameless (e : Event) : Event := { e with id := "" }

/-- The run with no ids in its events. -/
def Run.nameless (r : Run) : Run :=
  { r with events := ⟨r.events.latestFirst.map Event.nameless⟩ }

/-- The record of the run with all its events, but without their ids. -/
def Session.account (s : Session) : Outcome Fields :=
  s.record [("events", .arr (s.run.nameless.events.toList.map Event.toJson))]

/-- How an effect goes hangs on its node and its channel, and not on what is drawn. -/
def Lab.IsPlanned (lab : Lab) : Prop :=
  ∀ (k : NodeKind) (n : Node) (c : Option Channel) (d d' : Dice),
    ((lab.effects k).act n c d).1 = ((lab.effects k).act n c d').1

theorem Lab.IsPlanned.act {lab : Lab} (h : lab.IsPlanned) (n : Node) (c : Option Channel)
    (d d' : Dice) : ∃ outcome dice dice', (lab.effects n.kind).act n c d = (outcome, dice) ∧
      (lab.effects n.kind).act n c d' = (outcome, dice') := by
  refine ⟨_, _, ((lab.effects n.kind).act n c d').2, rfl, Prod.ext ?_ rfl⟩
  exact h n.kind n c d' d

theorem Lab.IsPlanned.fault? {lab : Lab} (h : lab.IsPlanned) (d d' : Dice) (stage : Stage) :
    stage.fault? lab d = stage.fault? lab d' := by
  cases stage with
  | inEffect n channel =>
    unfold Stage.fault?
    dsimp only
    rw [h n.kind n channel d d']
  | _ => rfl

/-- Nobody listens to either session, and their runs are the same but for ids. The first is so many
generations older, and a run has been started on the second. -/
structure Session.Alike (older : Nat) (s s' : Session) : Prop where
  run : s.run.nameless = s'.run.nameless
  now : s.now = s'.now
  alone : s.listeners = []
  alone' : s'.listeners = []
  generation : s.generation = s'.generation + older
  begun : 0 < s'.generation

/-- Stretches that come to the same. -/
structure Stretch.Alike (older : Nat) (r r' : Stretch) : Prop where
  session : r.1.Alike older r'.1
  halt : r.2 = r'.2

namespace Session

variable {older : Nat} {s s' : Session}

namespace Alike

variable (h : s.Alike older s')

include h

theorem state : s.run.state = s'.run.state := (congrArg Run.state h.run :)

theorem channel : s.run.channel = s'.run.channel := (congrArg Run.channel h.run :)

theorem flow : s.run.flow = s'.run.flow := (congrArg Run.flow h.run :)

theorem waiting : s.run.waiting = s'.run.waiting := (congrArg Run.waiting h.run :)

theorem steps : s.run.steps = s'.run.steps := (congrArg Run.steps h.run :)

theorem onCall : s.run.onCall = s'.run.onCall := (congrArg Run.onCall h.run :)

theorem connectedAt : s.run.connectedAt = s'.run.connectedAt := (congrArg Run.connectedAt h.run :)

theorem callLength : s.run.callLength = s'.run.callLength := (congrArg Run.callLength h.run :)

theorem stats : s.run.stats = s'.run.stats := (congrArg Run.stats h.run :)

theorem callSpan : s.run.callSpan s.now = s'.run.callSpan s'.now := by
  unfold Run.callSpan
  rw [h.onCall, h.connectedAt, h.callLength, h.now]

theorem isLate : s.isLate = s'.isLate := by
  unfold Session.isLate
  rw [h.now]

theorem canHangUp : s.canHangUp = s'.canHangUp := by
  unfold Session.canHangUp Run.isOver
  rw [h.channel, h.state]

theorem lookAhead (next : Flow → Option Node) : s.lookAhead next = s'.lookAhead next := by
  unfold Session.lookAhead
  rw [h.flow]

/-- A task may go on in one of them if its counterpart may in the other. -/
theorem isCurrent (generation : Nat) :
    s.isCurrent (generation + older) = s'.isCurrent generation := by
  unfold Session.isCurrent
  rw [h.generation, Bool.eq_iff_iff, beq_iff_eq, beq_iff_eq]
  omega

/-- They give the same account of their runs. -/
theorem account : s.account = s'.account := by
  have hfields : ∀ events, s.run.fields s.now events = s'.run.fields s'.now events := by
    intro events
    have hresult : s.run.result = s'.run.result := (congrArg Run.result h.run :)
    have hcurrent : s.run.current = s'.run.current := (congrArg Run.current h.run :)
    unfold Run.fields
    rw [h.state, hresult, h.channel, hcurrent, h.onCall, h.callSpan, h.stats, h.now]
  have htimed : s.run.isTimed = s'.run.isTimed := by
    unfold Run.isTimed
    rw [h.onCall, h.connectedAt, h.stats]
  unfold Session.account record
  rw [h.run, h.isLate, htimed, hfields]

/-! ## Changes of both -/

/-- Where the clocks stand does not matter, if they stand alike. -/
theorem at_moment (now : Int) : Alike older { s with now } { s' with now } :=
  ⟨h.run, rfl, h.alone, h.alone', h.generation, h.begun⟩

theorem dice (dice dice' : Dice) : Alike older { s with dice } { s' with dice := dice' } :=
  ⟨h.run, h.now, h.alone, h.alone', h.generation, h.begun⟩

theorem numbered (next next' : Nat) :
    Alike older { s with nextEvent := next } { s' with nextEvent := next' } :=
  ⟨h.run, h.now, h.alone, h.alone', h.generation, h.begun⟩

theorem risen : s.generation + 1 = s'.generation + 1 + older := by
  have hgeneration := h.generation
  omega

theorem raise :
    Alike older { s with generation := s.generation + 1 }
      { s' with generation := s'.generation + 1 } :=
  ⟨h.run, h.now, h.alone, h.alone', h.risen, Nat.succ_pos _⟩

theorem setRun {change change' : Run → Run}
    (hrun : (change s.run).nameless = (change' s'.run).nameless) :
    (s.setRun change).Alike older (s'.setRun change') :=
  ⟨hrun, h.now, h.alone, h.alone', h.generation, h.begun⟩

/-- What is done to both runs alike, whatever the ids of their events. -/
theorem setBoth (change : Run → Run)
    (hchange : ∀ r, (change r).nameless = change r.nameless) :
    (s.setRun change).Alike older (s'.setRun change) :=
  h.setRun (by rw [hchange, hchange, h.run])

theorem finish (result : RunResult) : (s.finish result).Alike older (s'.finish result) := by
  unfold Session.finish
  rw [h.now]
  exact h.setBoth _ fun _ => rfl

theorem countError : (s.setRun Run.countError).Alike older (s'.setRun Run.countError) :=
  h.setBoth _ fun _ => rfl

theorem takeUp : s.takeUp.Alike older s'.takeUp := h.setBoth _ fun _ => rfl

theorem connect :
    (s.setRun fun r => { r with onCall := true, connectedAt := some s.now }).Alike older
      (s'.setRun fun r => { r with onCall := true, connectedAt := some s'.now }) := by
  rw [h.now]
  exact h.setBoth (fun r => { r with onCall := true, connectedAt := some s'.now }) fun _ => rfl

theorem reset : s.reset.Alike older s'.reset :=
  ⟨rfl, h.now, h.alone, h.alone', h.risen, Nat.succ_pos _⟩

/-! ## Events -/

theorem post (hang hang' : Session → Session) (n : Notice) :
    (s.post hang n).Alike older (s'.post hang' n) := by
  rw [post_alone h.alone, post_alone h.alone']
  have hrun : (s.logged n).run.nameless = (s'.logged n).run.nameless := by
    have hevents := congrArg (fun r : Run =>
      { r with events := r.events.push ⟨"", s.now, n⟩ }) h.run
    unfold logged
    rw [← h.now]
    exact hevents
  exact ⟨hrun, h.now, h.alone, h.alone', h.generation, h.begun⟩

theorem emit (n : Notice) : (s.emit n).Alike older (s'.emit n) := h.post _ _ n

theorem hangUp : s.hangUp.Alike older s'.hangUp := by
  unfold Session.hangUp hangUpWith
  rw [h.callSpan]
  have hoff := h.setBoth
    (fun r => { r with callLength := s'.run.callSpan s'.now, onCall := false }) fun _ => rfl
  exact hoff.post _ _ _

theorem hangUpIfOn : s.hangUpIfOn.Alike older s'.hangUpIfOn := by
  unfold Session.hangUpIfOn
  rw [h.onCall]
  split
  · exact h.hangUp
  · exact h

theorem deadEnd : s.deadEnd.Alike older s'.deadEnd := h.hangUpIfOn.finish .success

theorem endCall : s.endCall.1.Alike older s'.endCall.1 := by
  have hcalm := (h.setBoth (fun r => { r with waiting := none }) fun _ => rfl).raise
  unfold Session.endCall endCallWith
  rw [h.canHangUp]
  dsimp only
  split
  · exact hcalm.hangUp.finish .success
  · exact h

theorem countCall : s.countCall.Alike older s'.countCall := h.setBoth _ fun _ => rfl

theorem countIntegration : s.countIntegration.Alike older s'.countIntegration :=
  h.setBoth _ fun _ => rfl

theorem waitFor (n : Node) (state : RunState) :
    (s.waitFor n state).Alike older (s'.waitFor n state) :=
  h.setBoth _ fun _ => rfl

/-! ## Stretches -/

variable {lab : Lab}

/-- A task that may not go on stops, and so does its counterpart. -/
theorem ifCurrent {generation : Nat} {r r' : Stretch} (hr : Stretch.Alike older r r') :
    Stretch.Alike older (if !s.isCurrent (generation + older) then (s, .done) else r)
      (if !s'.isCurrent generation then (s', .done) else r') := by
  rw [h.isCurrent]
  split
  · exact ⟨h, rfl⟩
  · exact hr

variable (lab) in
theorem enter (n : Node) : Stretch.Alike older (s.enter lab n) (s'.enter lab n) := by
  unfold Session.enter stopAtLimit
  rw [h.steps]
  split
  · exact ⟨(h.countError.emit _).hangUpIfOn.finish .error, rfl⟩
  · have hcame := h.setBoth (countVisit n) fun _ => rfl
    exact ⟨hcame.emit _, rfl⟩

section Planned

variable (hlab : lab.IsPlanned)

include hlab

/-- Tasks of counterparts walk side by side. -/
theorem sideBySide (generation : Nat) (stage : Stage) :
    SideBySide lab lab (generation + older) generation stage s s' (Alike older)
      (Stretch.Alike older) where
  palette := rfl
  takesTime _ _ := Iff.rfl
  sees ht := ⟨ht.channel.symm, ht.onCall.symm, ht.state.symm, ht.flow.symm,
    (ht.isCurrent generation).symm⟩
  begins _ := h
  tells ht _ _ := ht.emit _
  counts _ hcount _ := by
    rcases hcount with rfl | rfl
    · exact h.countCall.emit _
    · exact h.countIntegration.emit _
  fails ht _ _ _ := ht.countError.emit _
  acts {t t' n} ht _ channel := by
    obtain ⟨outcome, dice, dice', hact, hact'⟩ := hlab.act n channel t.dice t'.dice
    exact ⟨outcome, dice, dice', hact, hact', ht.dice dice dice'⟩
  pauses ht _ hpauses hpauses' := ⟨ht, by rw [hpauses.span_eq hpauses']⟩
  breaks ht _ := ⟨ht, rfl⟩
  stops ht _ := ⟨ht, rfl⟩
  enters ht _ _ _ := ht.enter lab _
  ends ht _ _ _ := ⟨ht.deadEnd, rfl⟩
  connects _ := (h.emit callConnected).connect.enter lab _
  closes _ := ⟨h.hangUp.finish .success, rfl⟩
  finishes _ _ _ := ⟨(h.emit _).finish .success, rfl⟩
  asksForText _ _ := ⟨(h.emit _).waitFor _ _, rfl⟩
  asksForKeys _ _ := ⟨((h.emit _).emit _).waitFor _ _, rfl⟩

/-- A task that may go on comes to the same as its counterpart, and any other does nothing. -/
theorem resume (generation : Nat) (stage : Stage) :
    Stretch.Alike older (s.resume lab (generation + older) stage)
      (s'.resume lab generation stage) := by
  have hgeneration := h.generation
  by_cases hcurrent' : s'.generation = generation
  · have hcurrent : s.generation = generation + older := by omega
    exact (h.sideBySide hlab generation stage).resume hcurrent hcurrent'
  · have hstale : s.generation ≠ generation + older := by omega
    rw [resume_stale lab hstale, resume_stale lab hcurrent', hlab.fault? s.dice s'.dice]
    exact ⟨h.dice _ _, rfl⟩

end Planned

/-! ## Late stretches -/

theorem emitLate : Stretch.Alike older s.emitLate s'.emitLate := ⟨h.numbered _ _, rfl⟩

theorem hangUpLate : Stretch.Alike older s.hangUpLate s'.hangUpLate := by
  unfold Session.hangUpLate
  rw [h.onCall]
  split
  · exact ⟨h, rfl⟩
  · exact h.emitLate

theorem deadEndLate : Stretch.Alike older s.deadEndLate s'.deadEndLate := by
  unfold Session.deadEndLate
  rw [h.onCall]
  split
  · exact ⟨h, rfl⟩
  · have hover := h.setBoth
      (fun r => { r with state := .ended, result := some .success }) fun _ => rfl
    exact ⟨hover, rfl⟩

variable (lab) in
theorem enterLate (n : Node) :
    Stretch.Alike older (s.enterLate lab n) (s'.enterLate lab n) := by
  unfold Session.enterLate
  rw [h.steps]
  dsimp only
  split
  · exact h.countError.emitLate
  · exact (h.setBoth (countVisit n) fun _ => rfl).emitLate

variable (lab) in
theorem leaveLate (generation : Nat) (next : Flow → Option Node) :
    Stretch.Alike older (s.leaveLate lab (generation + older) next)
      (s'.leaveLate lab generation next) := by
  unfold Session.leaveLate
  rw [h.lookAhead, h.isCurrent, h.state]
  split
  · exact ⟨h, rfl⟩
  · split
    · split
      · exact h.enterLate lab _
      · exact h.deadEndLate
    · exact ⟨h, rfl⟩

variable (lab) in
theorem visitLate (generation : Nat) (n : Node) :
    Stretch.Alike older (s.visitLate lab (generation + older) n)
      (s'.visitLate lab generation n) := by
  unfold Session.visitLate
  cases n.data with
  | start d => exact h.leaveLate lab generation _
  | apiCall d => exact h.countCall.emitLate
  | channel app d => exact h.countIntegration.emitLate
  | ticket desk d => exact h.countIntegration.emitLate
  | crm base d => exact h.countIntegration.emitLate
  | message d | condition d | dtmf d | assistant d | transfer d | finish d => exact h.emitLate

theorem afterEffectLate (hlab : lab.IsPlanned) (generation : Nat) (n : Node)
    (channel : Option Channel) :
    Stretch.Alike older (s.afterEffectLate lab (generation + older) n channel)
      (s'.afterEffectLate lab generation n channel) := by
  obtain ⟨outcome, dice, dice', hact, hact'⟩ := hlab.act n channel s.dice s'.dice
  unfold Session.afterEffectLate
  rw [hact, hact']
  have hdice := h.dice dice dice'
  cases outcome with
  | error fault => exact ⟨hdice, rfl⟩
  | ok r =>
    dsimp only
    rw [hdice.isCurrent]
    split
    · split
      · exact hdice.emitLate
      · exact hdice.countError.emitLate
    · exact ⟨hdice, rfl⟩

theorem resumeLate (hlab : lab.IsPlanned) (generation : Nat) (stage : Stage) :
    Stretch.Alike older (s.resumeLate lab (generation + older) stage)
      (s'.resumeLate lab generation stage) := by
  unfold Session.resumeLate
  cases stage with
  | inEffect n channel => exact h.afterEffectLate hlab generation n channel
  | announced n => exact h.ifCurrent (h.visitLate lab generation n)
  | spoken n => exact h.ifCurrent (h.leaveLate lab generation _)
  | closing => exact h.ifCurrent h.hangUpLate
  | connecting start | weighing n text | keyed n digits => exact h.ifCurrent h.emitLate

theorem endCallLate : s.endCallLate.1.Alike older s'.endCallLate.1 := by
  have hcalm := (h.setBoth (fun r => { r with waiting := none }) fun _ => rfl).raise
  unfold Session.endCallLate
  rw [h.canHangUp]
  split
  · exact hcalm.hangUpLate.session
  · exact h

/-! ## In time or late -/

theorem tryResume (hlab : lab.IsPlanned) (generation : Nat) (stage : Stage) :
    Stretch.Alike older (s.tryResume lab (generation + older) stage)
      (s'.tryResume lab generation stage) := by
  unfold Session.tryResume
  rw [h.isLate]
  split
  · exact h.resumeLate hlab generation stage
  · exact h.resume hlab generation stage

theorem tryEndCall : s.tryEndCall.1.Alike older s'.tryEndCall.1 := by
  unfold Session.tryEndCall
  rw [h.isLate]
  split
  · exact h.endCallLate
  · exact h.endCall

variable (lab) in
theorem submitKeys (digits : String) :
    Option.Rel (Stretch.Alike older) (s.submitKeys lab digits) (s'.submitKeys lab digits) :=
  rel_submitKeys h.state.symm h.waiting.symm (fun notice _ => ⟨h.takeUp.emit notice, rfl⟩) digits

variable (lab) in
theorem submitText (text : String) :
    Option.Rel (Stretch.Alike older) (s.submitText lab text) (s'.submitText lab text) :=
  rel_submitText h.state.symm h.waiting.symm (fun notice _ => ⟨h.takeUp.emit notice, rfl⟩) text

theorem tryAnswer {r r' : Option Stretch} (hr : Option.Rel (Stretch.Alike older) r r') :
    Option.Rel (Stretch.Alike older) (s.tryAnswer r) (s'.tryAnswer r') := by
  unfold Session.tryAnswer
  rw [h.isLate]
  split
  · cases hr with
    | none => exact .none
    | some hr => exact .some h.takeUp.emitLate
  · exact hr

end Alike

/-! ## A start -/

variable (s s') in
/-- Where a run is discarded nothing is left of those before it, but the number of generations. -/
theorem alike_reset (hnow : s.now = s'.now) (halone : s.listeners = [])
    (halone' : s'.listeners = []) (hfresh : s'.generation = 0) :
    s.reset.Alike s.generation s'.reset :=
  have hrisen : s.generation + 1 = s'.generation + 1 + s.generation := by omega
  ⟨rfl, hnow, halone, halone', hrisen, Nat.succ_pos _⟩

variable {lab : Lab}

variable (lab) in
/-- Whatever was before, runs that start at the same time start alike. -/
theorem alike_tryStart (hreset : s.reset.Alike older s'.reset) (f : Flow) (channel : Channel) :
    Stretch.Alike older (s.tryStart lab f channel) (s'.tryStart lab f channel) := by
  have hbegun : ∀ run : Run, Alike older { s.reset with run } { s'.reset with run } :=
    fun run => { hreset with run := rfl }
  have hnow : s.now = s'.now := hreset.now
  have hlate : s.isLate = s'.isLate := hreset.isLate
  unfold tryStart startLate
  rw [hlate, hnow]
  split
  · exact ⟨hreset, rfl⟩
  · split
    · exact ⟨hbegun _, rfl⟩
    · have h : (s.atOutset f channel).Alike older (s'.atOutset f channel) := by
        unfold atOutset
        rw [hnow]
        exact hbegun _
      refine rel_start lab lab s s' (fun _ => ?_) (fun start _ _ => ?_) fun start _ _ => ?_
      · exact ⟨(h.countError.emit _).finish .error, rfl⟩
      · exact ⟨h.emit _, rfl⟩
      · exact (h.emit _).enter lab start

end Session

end Dialogue
