-- Two walks side by side, whoever listens. Each may be in a lab of its own. As long as they see the
-- same of their runs they do the same: they tell the same, ask the same effects and come to the same
-- node. What a walk does from a stage is gone through here, once for all that is shown of walks.
import Dialogue.Run.Walk

namespace Dialogue

/-! ## Where a stage leads -/

namespace Stage

/-- The node at which a task sleeps. -/
def node? : Stage → Option Node
  | connecting n | announced n | spoken n | inEffect n _ | weighing n _ | keyed n _ => some n
  | closing => none

/-- The node that the run comes to when it leaves its node at the stage. -/
def onward (flow : Option Flow) : Stage → Option Node
  | connecting start => some start
  | announced n | spoken n | inEffect n _ | keyed n _ => flow.bind fun f => Session.defaultNext f n
  | weighing n text => flow.bind fun f => Session.branchNext f n (Session.isMatch n text)
  | closing => none

/-- Whether a run leaves its node at the stage, or may do so. -/
def Leaves : Stage → Prop
  | announced n => n.kind ≠ .condition ∧ n.kind ≠ .dtmf ∧ n.kind ≠ .finish
  | closing => False
  | _ => True

/-- The fault at which the effect breaks off that a task sleeps in. -/
def fault? (lab : Lab) (dice : Dice) : Stage → Option Fault
  | inEffect n channel =>
    match ((lab.effects n.kind).act n channel dice).1 with
    | .ok _ => none
    | .error fault => some fault
  | _ => none

/-- The dice after the effect that a task sleeps in has been asked how it went. -/
def diceAfter (lab : Lab) (dice : Dice) : Stage → Dice
  | inEffect n channel => ((lab.effects n.kind).act n channel dice).2
  | _ => dice

/-- How a run pauses at the node, until which stage and for how long. Only a call is ended with a
pause. -/
inductive Pauses (lab : Lab) (r : Run) (n : Node) : Stage → Outcome Nat → Prop
  | spoken (hleaves : (announced n).Leaves) :
      Pauses lab r n (spoken n) (lab.settings.span lab.settings.message)
  | inEffect (hleaves : (announced n).Leaves) {channel : Option Channel} {span : Outcome Nat}
      (hspan : (lab.effects n.kind).span n channel = some span) :
      Pauses lab r n (inEffect n channel) span
  | closing (hkind : n.kind = .finish) (hvoice : r.channel = some .voice) (hon : r.onCall = true) :
      Pauses lab r n closing (lab.settings.span lab.settings.callEnd)

/-- In two labs, pauses until the same stage compare as the spans of the labs do. -/
theorem Pauses.compare {lab lab' : Lab} {r : Run} {n : Node} {later : Stage}
    {span span' : Outcome Nat} {R : Outcome Nat → Outcome Nat → Prop}
    (h : later.Pauses lab r n span) (h' : later.Pauses lab' r n span')
    (hmessage : R (lab.settings.span lab.settings.message)
      (lab'.settings.span lab'.settings.message))
    (hcallEnd : R (lab.settings.span lab.settings.callEnd)
      (lab'.settings.span lab'.settings.callEnd))
    (heffects : ∀ c span span', (lab.effects n.kind).span n c = some span →
      (lab'.effects n.kind).span n c = some span' → R span span') : R span span' := by
  cases h with
  | spoken =>
    cases h'
    exact hmessage
  | inEffect _ hspan =>
    cases h' with
    | inEffect _ hspan' => exact heffects _ _ _ hspan hspan'
  | closing =>
    cases h'
    exact hcallEnd

theorem Pauses.span_eq {lab : Lab} {r : Run} {n : Node} {later : Stage} {span span' : Outcome Nat}
    (h : later.Pauses lab r n span) (h' : later.Pauses lab r n span') : span' = span :=
  h.compare (R := fun x y => y = x) h' rfl rfl fun _ _ _ hspan hspan' =>
    Option.some.inj (hspan'.symm.trans hspan)

end Stage

/-- How a task stops that may not go on. -/
def Halt.stopped : Option Fault → Halt
  | none => .done
  | some fault => .failed fault

/-! ## Where a walk breaks off -/

/-- Effects come to an end: one that takes time takes a span of it, and then there is a result. -/
structure Lab.EffectsReturn (lab : Lab) : Prop where
  span : ∀ (k : NodeKind) (n : Node) (c : Option Channel) (span : Outcome Nat),
    (lab.effects k).span n c = some span → ∃ us, span = .ok us
  act : ∀ (k : NodeKind) (n : Node) (c : Option Channel) (d : Dice),
    ∃ r d', (lab.effects k).act n c d = (.ok r, d')

/-- Why a walk breaks off with the fault: an effect goes wrong, or there is no flow to look ahead in. -/
inductive Lab.Breaks (lab : Lab) (r : Run) : Fault → Prop
  | effect {n : Node} {channel : Option Channel} {dice dice' : Dice} {fault : Fault}
      (hact : (lab.effects n.kind).act n channel dice = (.error fault, dice')) : Breaks lab r fault
  | lost (hflow : r.flow = none) : Breaks lab r .noSuchPart

theorem Lab.Breaks.why {lab : Lab} {r : Run} {fault : Fault} (h : lab.Breaks r fault) :
    ¬ lab.EffectsReturn ∨ r.flow = none := by
  cases h with
  | @effect n channel dice dice' fault hact =>
    refine Or.inl fun hreturn => ?_
    obtain ⟨result, d, hresult⟩ := hreturn.act n.kind n channel dice
    rw [hact] at hresult
    cases hresult
  | lost hflow => exact Or.inr hflow

/-- A fault of the effect that a task sleeps in breaks off the walk. -/
theorem Lab.Breaks.of_fault? {lab : Lab} (r : Run) {stage : Stage} {dice : Dice} {fault : Fault}
    (h : stage.fault? lab dice = some fault) : lab.Breaks r fault := by
  cases stage with
  | inEffect n channel =>
    rw [Stage.fault?] at h
    rcases hact : (lab.effects n.kind).act n channel dice with ⟨outcome, dice'⟩
    rw [hact] at h
    cases outcome with
    | ok result => cases h
    | error fault =>
      cases h
      exact .effect hact
  | _ => cases h

/-! ## What is told -/

/-- An effect may tell this at the node. -/
def Lab.Tells (lab : Lab) (n : Node) (what : Json) : Prop :=
  ∃ (channel : Option Channel) (dice : Dice) (r : EffectResult),
    ((lab.effects n.kind).act n channel dice).1 = .ok r ∧ r.success = true ∧ r.detail = what

/-- Whether the notice is the end of a call, by its text. -/
def Notice.IsHangUp (n : Notice) : Prop := ∃ span, n = Session.callEnded span

/-- A line of what a run tells at its stage. It is about the node of the stage or about none, and no
error. Only on the phone it is said by voice, and only the words of an effect can read like the end of
the call. -/
structure Notice.IsLine (lab : Lab) (stage : Stage) (r : Run) (n : Notice) : Prop where
  speaker : n.speaker ≠ .error
  voice : n.speaker = .voice → r.channel = some .voice
  node : n.node = .null ∨ ∃ m, stage.node? = some m ∧ n.node = m.id
  hangUp : n.IsHangUp → ∃ m, stage.node? = some m ∧ m.kind = .transfer ∧ m.id = .null ∧
    lab.Tells m n.content

namespace Session

/-- The notice with which something is said on the channel of the run. -/
def saying (s : Session) (n : Node) (what : Json) (how : String) : Notice :=
  if s.run.channel == some .voice then
    ⟨.voice, .str (how ++ ": \"" ++ what.text ++ "\""), n.id, some .success⟩
  else ⟨.bot, what, n.id, none⟩

theorem say_eq (s : Session) (n : Node) (what : Json) (how : String) :
    s.say n what how = s.emit (s.saying n what how) := by
  unfold say saying
  split <;> rfl

/-- The notice that an effect has failed. -/
def failure (n : Node) (detail : Json) : Notice := ⟨.error, detail, n.id, some .error⟩

/-- What a condition asks. -/
def question (n : Node) (d : ConditionData) : Notice :=
  ⟨.system, .str (conditionText d), n.id, some .pending⟩

/-- What is said where keys are to be pressed. -/
def prompt (s : Session) (n : Node) (d : DtmfData) : Notice :=
  s.saying n (.str (orElse d.prompt "Please enter your selection")) "Speaking"

/-- And what is told of them. -/
def keysQuestion (n : Node) (d : DtmfData) : Notice :=
  ⟨.system, .str (keysText d), n.id, some .pending⟩

/-- The session of a call that has just been connected. -/
def connected (s : Session) : Session :=
  (s.emit callConnected).setRun fun r =>
    { r with onCall := true, connectedAt := some (s.emit callConnected).now }

end Session

namespace Notice.IsLine

variable {lab : Lab} {stage : Stage} {r : Run} {s : Session} {n : Node}

/-- Nobody but the voice tells of the end of a call. -/
theorem of_speaker {notice : Notice} (herror : notice.speaker ≠ .error)
    (hvoice : notice.speaker ≠ .voice)
    (hnode : notice.node = .null ∨ ∃ m, stage.node? = some m ∧ notice.node = m.id) :
    notice.IsLine lab stage r := by
  refine ⟨herror, fun h => absurd h hvoice, hnode, ?_⟩
  rintro ⟨span, rfl⟩
  exact absurd rfl hvoice

/-- A node speaks in words of its own. -/
theorem speaking_ne_ended {how : String} {c : Char} (hhow : how.toList.head? = some c)
    (hc : c ≠ 'C') (what rest : String) :
    how ++ ": \"" ++ what ++ "\"" ≠ "Call ended (" ++ rest := by
  intro heq
  have hlist := congrArg (fun s : String => s.toList.head?) heq
  simp [String.toList_append, List.head?_append, hhow] at hlist
  exact hc hlist

theorem saying (hn : stage.node? = some n) (what : Json) {how : String} {c : Char}
    (hhow : how.toList.head? = some c) (hc : c ≠ 'C') :
    (s.saying n what how).IsLine lab stage s.run := by
  unfold Session.saying
  split
  · rename_i hvoice
    refine ⟨by simp, fun _ => by simpa using hvoice, Or.inr ⟨n, hn, rfl⟩, ?_⟩
    rintro ⟨span, hspan⟩
    have hcontent := congrArg Notice.content hspan
    simp only [Session.callEnded, Json.str.injEq, String.append_assoc] at hcontent
    exact absurd (by simpa [String.append_assoc] using hcontent)
      (speaking_ne_ended hhow hc what.text _)
  · exact of_speaker (by simp) (by simp) (Or.inr ⟨n, hn, rfl⟩)

theorem telling (hn : stage.node? = some n) (mark : Option Mark) (content : Json) :
    IsLine lab stage r ⟨.system, content, n.id, mark⟩ :=
  of_speaker (by simp) (by simp) (Or.inr ⟨n, hn, rfl⟩)

/-- The result of a transfer is told by voice on the phone. -/
theorem transferred (hn : stage.node? = some n) (hkind : n.kind = .transfer) {content : Json}
    (htells : lab.Tells n content) :
    IsLine lab stage s.run ⟨s.channelSpeaker, content, n.id, some .success⟩ := by
  unfold Session.channelSpeaker
  split
  · rename_i hvoice
    refine ⟨by simp, fun _ => by simpa using hvoice, Or.inr ⟨n, hn, rfl⟩, ?_⟩
    rintro ⟨span, hspan⟩
    exact ⟨n, hn, hkind, congrArg Notice.node hspan, htells⟩
  · exact telling hn _ _

theorem question (hn : stage.node? = some n) (d : ConditionData) :
    (Session.question n d).IsLine lab stage r :=
  telling hn _ _

theorem prompt (hn : stage.node? = some n) (d : DtmfData) :
    (s.prompt n d).IsLine lab stage s.run :=
  saying hn _ (by simp) (by decide : 'S' ≠ 'C')

theorem keysQuestion (hn : stage.node? = some n) (d : DtmfData) :
    (Session.keysQuestion n d).IsLine lab stage r :=
  telling hn _ _

/-- A call that is marked as going on is no call that has ended. -/
theorem processing (hn : stage.node? = some n) (hvoice : r.channel = some .voice) (content : Json) :
    IsLine lab stage r ⟨.voice, content, n.id, some .processing⟩ := by
  refine ⟨by simp, fun _ => hvoice, Or.inr ⟨n, hn, rfl⟩, ?_⟩
  rintro ⟨span, hspan⟩
  cases congrArg Notice.mark hspan

end Notice.IsLine

namespace Session

/-! ## Two walks -/

/-- What two walks see alike of their runs, and each of its own generation. -/
structure SeesAs (g g' : Nat) (s s' : Session) : Prop where
  channel : s'.run.channel = s.run.channel
  onCall : s'.run.onCall = s.run.onCall
  state : s'.run.state = s.run.state
  flow : s'.run.flow = s.run.flow
  current : s'.isCurrent g' = s.isCurrent g

theorem SeesAs.saying {g g' : Nat} {s s' : Session} (h : SeesAs g g' s s') (n : Node) (what : Json)
    (how : String) : s'.saying n what how = s.saying n what how := by
  unfold Session.saying
  rw [h.channel]

/-- A relation that holds of the sessions of two walks on the way, as they tell, count and draw at a
stage. Before anything is told, the walk has asked whether it may go on, but for what is told between
asking a question and waiting for the answer to it, and as a call is connected. -/
structure Alongside (lab lab' : Lab) (g g' : Nat) (stage : Stage) (s s' : Session)
    (R : Session → Session → Prop) : Prop where
  palette : lab'.palette = lab.palette
  takesTime : ∀ (n : Node) (c : Option Channel),
    (lab'.effects n.kind).span n c = none ↔ (lab.effects n.kind).span n c = none
  sees : ∀ {t t'}, R t t' → SeesAs g g' t t'
  begins : (∀ start, stage ≠ .connecting start) → R s s'
  tells : ∀ {t t' notice}, R t t' → t.generation = g → notice.IsLine lab stage t.run →
    R (t.emit notice) (t'.emit notice)
  counts : ∀ {n notice} {count : Session → Session}, stage = .announced n →
    count = countCall ∨ count = countIntegration → notice.IsLine lab stage (count s).run →
    R ((count s).emit notice) ((count s').emit notice)
  fails : ∀ {t t' n}, R t t' → t.generation = g → stage.node? = some n → ∀ detail,
    R ((t.setRun Run.countError).emit (failure n detail))
      ((t'.setRun Run.countError).emit (failure n detail))
  acts : ∀ {t t' n}, R t t' → stage.node? = some n → ∀ channel, ∃ outcome dice dice',
    (lab.effects n.kind).act n channel t.dice = (outcome, dice) ∧
    (lab'.effects n.kind).act n channel t'.dice = (outcome, dice') ∧
    R { t with dice } { t' with dice := dice' }

/-- What is to be shown of two walks from a stage, so that one relation holds of their sessions on the
way and another one of the stretches that they come to. For each thing that a walk can do there is one
clause. -/
structure SideBySide (lab lab' : Lab) (g g' : Nat) (stage : Stage) (s s' : Session)
    (R : Session → Session → Prop) (Q : Stretch → Stretch → Prop) : Prop
    extends Alongside lab lab' g g' stage s s' R where
  pauses : ∀ {t t' n later span span'}, R t t' → stage = .announced n →
    later.Pauses lab s.run n span → later.Pauses lab' s.run n span' →
    Q (t, .pause span later) (t', .pause span' later)
  breaks : ∀ {t t' fault}, R t t' → lab.Breaks t.run fault →
    Q (t, .failed fault) (t', .failed fault)
  stops : ∀ {t t'}, R t t' → (t.generation = g → t.run.state ≠ .running) → Q (t, .done) (t', .done)
  enters : ∀ {t t' n}, R t t' → t.generation = g → stage.Leaves →
    stage.onward t.run.flow = some n → Q (t.enter lab n) (t'.enter lab' n)
  ends : ∀ {t t'}, R t t' → t.generation = g → stage.Leaves → stage.onward t.run.flow = none →
    Q (t.deadEnd, .done) (t'.deadEnd, .done)
  connects : ∀ {start}, stage = .connecting start →
    Q (s.connected.enter lab start) (s'.connected.enter lab' start)
  closes : stage = .closing → Q (s.hangUp.finish .success, .done) (s'.hangUp.finish .success, .done)
  finishes : ∀ {n}, stage = .announced n → n.kind = .finish →
    ¬ (s.run.channel = some .voice ∧ s.run.onCall = true) →
    Q ((s.tell n .success "Test completed").finish .success, .done)
      ((s'.tell n .success "Test completed").finish .success, .done)
  asksForText : ∀ {n d}, stage = .announced n → n.data = .condition d →
    Q ((s.emit (question n d)).waitFor n .waitingForText, .done)
      ((s'.emit (question n d)).waitFor n .waitingForText, .done)
  asksForKeys : ∀ {n d}, stage = .announced n → n.data = .dtmf d →
    Q (((s.emit (s.prompt n d)).emit (keysQuestion n d)).waitFor n .waitingForKeys, .done)
      (((s'.emit (s.prompt n d)).emit (keysQuestion n d)).waitFor n .waitingForKeys, .done)

namespace SideBySide

variable {lab lab' : Lab} {g g' : Nat} {stage : Stage} {s s' t t' : Session}
  {R : Session → Session → Prop} {Q : Stretch → Stretch → Prop} {n : Node}
  (h : SideBySide lab lab' g g' stage s s' R Q)

include h

/-! ### Leaving a node -/

theorem goOn (hR : R t t') (hcurrent : t.generation = g) (hleaves : stage.Leaves)
    {next : Option Node} (hnext : stage.onward t.run.flow = next) :
    Q (t.goOn lab next) (t'.goOn lab' next) := by
  cases next with
  | some n => exact h.enters hR hcurrent hleaves hnext
  | none => exact h.ends hR hcurrent hleaves hnext

theorem leave (hR : R t t') (hleaves : stage.Leaves) {next : Flow → Option Node}
    (hnext : stage.onward t.run.flow = t.run.flow.bind next) :
    Q (t.leave lab g next) (t'.leave lab' g' next) := by
  have hsees := h.sees hR
  unfold Session.leave lookAhead
  rw [hsees.flow, hsees.current, hsees.state]
  cases hflow : t.run.flow with
  | none => exact h.breaks hR (.lost hflow)
  | some f =>
    rw [hflow] at hnext
    dsimp only
    split
    · rename_i hgoes
      rw [Bool.and_eq_true, isCurrent, beq_iff_eq] at hgoes
      exact h.goOn hR hgoes.1 hleaves (hflow ▸ hnext)
    · rename_i hstays
      exact h.stops hR fun hcurrent hrun => hstays (by simp [isCurrent, hcurrent, hrun])

theorem answered (hR : R t t') (hleaves : stage.Leaves) {next : Flow → Option Node}
    (hnext : stage.onward t.run.flow = t.run.flow.bind next) :
    Q (t.answered lab g next) (t'.answered lab' g' next) := by
  have hsees := h.sees hR
  unfold Session.answered lookAhead
  rw [hsees.flow, hsees.current]
  cases hflow : t.run.flow with
  | none => exact h.breaks hR (.lost hflow)
  | some f =>
    rw [hflow] at hnext
    dsimp only
    split
    · rename_i hgoes
      rw [isCurrent, beq_iff_eq] at hgoes
      exact h.goOn hR hgoes hleaves (hflow ▸ hnext)
    · rename_i hstays
      exact h.stops hR fun hcurrent => absurd (by simp [isCurrent, hcurrent]) hstays

/-! ### Effects -/

theorem say (hR : R t t') (hcurrent : t.generation = g) (hn : stage.node? = some n) (what : Json)
    {how : String} {c : Char} (hhow : how.toList.head? = some c) (hc : c ≠ 'C') :
    R (t.say n what how) (t'.say n what how) := by
  rw [say_eq, say_eq, (h.sees hR).saying]
  exact h.tells hR hcurrent (.saying hn what hhow hc)

theorem report (hR : R t t') (hcurrent : t.generation = g) (hn : stage.node? = some n)
    {r : EffectResult} {speaker : Speaker} (hline : r.success = true →
      Notice.IsLine lab stage t.run ⟨speaker, r.detail, n.id, some .success⟩) :
    R (t.report n r speaker) (t'.report n r speaker) := by
  unfold Session.report
  split
  · rename_i hsuccess
    exact h.tells hR hcurrent (hline hsuccess)
  · exact h.fails hR hcurrent hn r.detail

theorem reportEffect (hR : R t t') (hcurrent : t.generation = g) (hn : stage.node? = some n)
    {r : EffectResult} (htells : r.success = true → lab.Tells n r.detail) :
    R (t.reportEffect n r) (t'.reportEffect n r) := by
  have hspeaker : t'.channelSpeaker = t.channelSpeaker := by
    unfold channelSpeaker
    rw [(h.sees hR).channel]
  unfold Session.reportEffect
  rw [hspeaker]
  split
  · split
    · exact h.say hR hcurrent hn r.detail (by simp) (by decide : 'A' ≠ 'C')
    · exact h.report hR hcurrent hn fun _ => .telling hn _ _
  · rename_i hkind
    exact h.report hR hcurrent hn fun hsuccess => .transferred hn hkind (htells hsuccess)
  · exact h.report hR hcurrent hn fun _ => .telling hn _ _

theorem afterEffect (hR : R t t') (hn : stage.node? = some n) (hleaves : stage.Leaves)
    (hnext : ∀ flow, stage.onward flow = flow.bind fun f => defaultNext f n)
    (channel : Option Channel) :
    Q (t.afterEffect lab g n channel) (t'.afterEffect lab' g' n channel) := by
  obtain ⟨outcome, dice, dice', hact, hact', hdice⟩ := h.acts hR hn channel
  unfold Session.afterEffect
  rw [hact, hact']
  cases outcome with
  | error fault => exact h.breaks hdice (.effect hact)
  | ok r =>
    dsimp only
    rw [(h.sees hdice).current]
    split
    · rename_i hgoes
      rw [isCurrent, beq_iff_eq] at hgoes
      have htells : r.success = true → lab.Tells n r.detail := fun hsuccess =>
        ⟨channel, t.dice, r, by rw [hact], hsuccess, rfl⟩
      exact h.leave (h.reportEffect hdice hgoes hn htells) hleaves (hnext _)
    · rename_i hstays
      exact h.stops hdice fun hcurrent => absurd (by simpa [isCurrent] using hcurrent) hstays

end SideBySide

/-! ### At a node -/

namespace SideBySide

variable {lab lab' : Lab} {g g' : Nat} {n : Node} {s s' t t' : Session}
  {R : Session → Session → Prop} {Q : Stretch → Stretch → Prop}
  (h : SideBySide lab lab' g g' (.announced n) s s' R Q)

include h

/-- A node that was announced starts its effect. -/
theorem startEffect (hR : R t t') (hleaves : (Stage.announced n).Leaves) :
    Q (t.startEffect lab g n) (t'.startEffect lab' g' n) := by
  have htime := h.takesTime n t.run.channel
  unfold Session.startEffect
  rw [(h.sees hR).channel]
  dsimp only
  cases hspan : (lab.effects n.kind).span n t.run.channel with
  | some span =>
    cases hspan' : (lab'.effects n.kind).span n t.run.channel with
    | some span' => exact h.pauses hR rfl (.inEffect hleaves hspan) (.inEffect hleaves hspan')
    | none =>
      rw [htime.mp hspan'] at hspan
      cases hspan
  | none =>
    rw [htime.mpr hspan]
    exact h.afterEffect hR rfl hleaves (fun _ => rfl) _

/-- Once its call is counted. -/
theorem startCounted (hleaves : (Stage.announced n).Leaves) {count : Session → Session}
    (hcount : count = countCall ∨ count = countIntegration) (mark : Mark) (text : String) :
    Q (((count s).tell n mark text).startEffect lab g n)
      (((count s').tell n mark text).startEffect lab' g' n) :=
  h.startEffect (h.counts rfl hcount (.telling rfl _ _)) hleaves

theorem visit (hcurrent : s.generation = g) : Q (s.visit lab g n) (s'.visit lab' g' n) := by
  have hself : R s s' := h.begins nofun
  have hsees := h.sees hself
  have hleaves : ∀ k, n.data.kind = k → k ≠ .condition ∧ k ≠ .dtmf ∧ k ≠ .finish →
      (Stage.announced n).Leaves := by
    rintro k rfl hother
    exact hother
  have htold : ∀ {notice : Notice}, notice.IsLine lab (.announced n) s.run →
      R (s.emit notice) (s'.emit notice) := h.tells hself hcurrent
  unfold Session.visit
  rw [h.palette, hsees.channel, hsees.onCall]
  cases hdata : n.data with
  | start d => exact h.leave hself (hleaves .start (by rw [hdata]; rfl) (by simp)) rfl
  | message d =>
    have hspoken : R (s.speak n (messageText d)) (s'.speak n (messageText d)) :=
      h.say hself hcurrent rfl (.str (messageText d)) (by simp) (by decide : 'S' ≠ 'C')
    have hleaves := hleaves .message (by rw [hdata]; rfl) (by simp)
    exact h.pauses hspoken rfl (.spoken hleaves) (.spoken hleaves)
  | condition d => exact h.asksForText rfl hdata
  | dtmf d =>
    have hasked := h.asksForKeys rfl hdata
    have hsame : s'.prompt n d = s.prompt n d := hsees.saying n _ _
    dsimp only [speak]
    rw [say_eq, say_eq, ← prompt, ← prompt, hsame]
    exact hasked
  | apiCall d =>
    exact h.startCounted (hleaves .apiCall (by rw [hdata]; rfl) (by simp)) (Or.inl rfl) _ _
  | assistant d =>
    exact h.startEffect (htold (.telling rfl _ _))
      (hleaves .assistant (by rw [hdata]; rfl) (by simp))
  | transfer d =>
    refine h.startEffect ?_ (hleaves .transfer (by rw [hdata]; rfl) (by simp))
    unfold announceTransfer
    rw [hsees.channel]
    split
    · rename_i hvoice
      exact htold (.processing rfl (beq_iff_eq.mp hvoice) _)
    · exact htold (.of_speaker (by simp) (by simp) (Or.inr ⟨n, rfl, rfl⟩))
  | channel app d =>
    exact h.startCounted (hleaves (.channel app) (by rw [hdata]; rfl) (by simp)) (Or.inr rfl) _ _
  | ticket desk d =>
    exact h.startCounted (hleaves (.ticket desk) (by rw [hdata]; rfl) (by simp)) (Or.inr rfl) _ _
  | crm base d =>
    exact h.startCounted (hleaves (.crm base) (by rw [hdata]; rfl) (by simp)) (Or.inr rfl) _ _
  | finish d =>
    have hkind : n.kind = .finish := by rw [Node.kind, hdata]; rfl
    dsimp only
    split
    · rename_i hcall
      rw [Bool.and_eq_true, beq_iff_eq] at hcall
      exact h.pauses (htold (.processing rfl hcall.1 _)) rfl (.closing hkind hcall.1 hcall.2)
        (.closing hkind hcall.1 hcall.2)
    · rename_i hcall
      exact h.finishes rfl hkind (by simpa using hcall)

end SideBySide

/-! ### From a stage -/

/-- A task that may go on does as its stage has it. -/
theorem resume_current {lab : Lab} {s : Session} {generation : Nat}
    (hcurrent : s.generation = generation) (stage : Stage) :
    s.resume lab generation stage =
      match stage with
      | .connecting start => s.connected.enter lab start
      | .announced n => s.visit lab generation n
      | .spoken n => s.leave lab generation fun f => defaultNext f n
      | .inEffect n channel => s.afterEffect lab generation n channel
      | .closing => (s.hangUp.finish .success, .done)
      | .weighing n text => (s.emit (verdict (isMatch n text))).answered lab generation fun f =>
          branchNext f n (isMatch n text)
      | .keyed n digits => (s.emit (keysReceived digits)).answered lab generation fun f =>
          defaultNext f n := by
  have hgoes : (!s.isCurrent generation) = false := by simp [isCurrent, hcurrent]
  unfold resume
  cases stage with
  | inEffect n channel => rfl
  | connecting start =>
    dsimp only
    rw [hgoes, if_neg Bool.false_ne_true]
    rfl
  | _ =>
    dsimp only
    rw [hgoes, if_neg Bool.false_ne_true]

variable (lab : Lab) in
/-- A task of another generation stops, whatever the stage. Only an effect is still asked how it
went. -/
theorem resume_stale {s : Session} {generation : Nat} (hstale : s.generation ≠ generation)
    (stage : Stage) :
    s.resume lab generation stage =
      ({ s with dice := stage.diceAfter lab s.dice }, .stopped (stage.fault? lab s.dice)) := by
  unfold resume
  cases stage with
  | inEffect n channel =>
    rw [Stage.diceAfter, Stage.fault?]
    dsimp only
    unfold afterEffect
    rcases (lab.effects n.kind).act n channel s.dice with ⟨outcome, dice⟩
    cases outcome with
    | error fault => rfl
    | ok r =>
      dsimp only
      rw [if_neg (by simp [isCurrent, hstale])]
      rfl
  | _ =>
    dsimp only
    rw [if_pos (by simp [isCurrent, hstale])]
    rfl

/-- Walks that may both go on. -/
theorem SideBySide.resume {lab lab' : Lab} {g g' : Nat} {stage : Stage} {s s' : Session}
    {R : Session → Session → Prop} {Q : Stretch → Stretch → Prop}
    (h : SideBySide lab lab' g g' stage s s' R Q) (hcurrent : s.generation = g)
    (hcurrent' : s'.generation = g') : Q (s.resume lab g stage) (s'.resume lab' g' stage) := by
  rw [resume_current hcurrent, resume_current hcurrent']
  cases stage with
  | inEffect n channel => exact h.afterEffect (h.begins nofun) rfl trivial (fun _ => rfl) channel
  | connecting start => exact h.connects rfl
  | announced n => exact h.visit hcurrent
  | spoken n => exact h.leave (h.begins nofun) trivial rfl
  | closing => exact h.closes rfl
  | weighing n text =>
    have hline : Notice.IsLine lab (.weighing n text) s.run (verdict (isMatch n text)) :=
      .of_speaker (by simp [verdict]) (by simp [verdict]) (Or.inl rfl)
    exact h.answered (h.tells (h.begins nofun) hcurrent hline) trivial rfl
  | keyed n digits =>
    have hline : Notice.IsLine lab (.keyed n digits) s.run (keysReceived digits) :=
      .of_speaker (by simp [keysReceived]) (by simp [keysReceived]) (Or.inl rfl)
    exact h.answered (h.tells (h.begins nofun) hcurrent hline) trivial rfl

end Session

end Dialogue
