-- What persists while runs are walked through. A property of sessions that neither an event takes
-- away, whoever hears it, nor a change of the run that leaves its log and its channel alone, holds
-- after any stretch of a walk if it did before.
import Dialogue.Proofs.Run.Visits

namespace Dialogue

namespace Session

variable {P : Session → Prop} {s t : Session} {lab : Lab}

/-- A property that a walk does not take away. -/
structure Persists (P : Session → Prop) : Prop where
  setRun : ∀ {s : Session} {change : Run → Run}, (change s.run).events = s.run.events →
    (change s.run).channel = s.run.channel → P s → P (s.setRun change)
  dice : ∀ {s : Session} (dice : Dice), P s → P { s with dice }
  emit : ∀ {s : Session} (n : Notice), P s → P (s.emit n)

/-- A property that nothing takes away but the coming of listeners. -/
structure Endures (P : Session → Prop) : Prop extends Persists P where
  now : ∀ {s : Session} (now : Int), P s → P { s with now }
  reset : ∀ {s : Session}, P s → P s.reset
  dismiss : ∀ {s : Session} (name : String), P s → P (s.dismiss name)
  endCall : ∀ {s : Session}, P s → P s.endCall.1
  outset : ∀ {s : Session} (f : Flow) (channel : Channel), P s → P (s.atOutset f channel)

namespace Persists

variable (hP : Persists P)

include hP

/-! ## A stretch -/

theorem hangUpIfOn (h : P s) : P s.hangUpIfOn := by
  unfold Session.hangUpIfOn
  split
  · exact hP.emit _ (hP.setRun rfl rfl h)
  · exact h

theorem finish (h : P s) (result : RunResult) : P (s.finish result) := hP.setRun rfl rfl h

theorem waitFor (h : P s) (n : Node) (state : RunState) : P (s.waitFor n state) :=
  hP.setRun rfl rfl h

theorem enter (h : P s) (n : Node) : P (s.enter lab n).1 := by
  unfold Session.enter
  split
  · exact hP.finish (hP.hangUpIfOn (hP.emit _ (hP.setRun rfl rfl h))) .error
  · exact hP.emit _ (hP.setRun rfl rfl h)

theorem talks (h : P s) {stage : Stage} (ht : Talks lab s stage t) : P t := by
  induction ht with
  | silent => exact h
  | tells _ _ _ ih => exact hP.emit _ ih
  | counts _ hcount =>
    rcases hcount with rfl | rfl
    · exact hP.emit _ (hP.setRun rfl rfl h)
    · exact hP.emit _ (hP.setRun rfl rfl h)
  | fails _ _ _ _ ih => exact hP.emit _ (hP.setRun rfl rfl ih)
  | draws _ dice ih => exact hP.dice dice ih

theorem walks (h : P s) {stage : Stage} {r : Stretch} (hr : Walks lab s stage r) : P r.1 := by
  cases hr with
  | pauses ht => exact hP.talks h ht
  | breaks ht => exact hP.talks h ht
  | stops ht => exact hP.talks h ht
  | enters ht => exact hP.enter (hP.talks h ht) _
  | ends ht => exact hP.finish (hP.hangUpIfOn (hP.talks h ht)) .success
  | connects => exact hP.enter (hP.setRun rfl rfl (hP.emit _ h)) _
  | closes => exact hP.finish (hP.emit _ (hP.setRun rfl rfl h)) .success
  | finishes => exact hP.finish (hP.emit _ h) .success
  | asksForText => exact hP.waitFor (hP.emit _ h) _ _
  | asksForKeys => exact hP.waitFor (hP.emit _ (hP.emit _ h)) _ _

theorem resume (h : P s) (generation : Nat) (stage : Stage) :
    P (s.resume lab generation stage).1 := by
  by_cases hcurrent : s.generation = generation
  · subst hcurrent
    exact hP.walks h (walks_resume lab s stage)
  · rw [resume_stale lab hcurrent]
    exact hP.dice _ h

/-! ## Starts and answers -/

theorem opens {f : Flow} {channel : Channel} (h : P (s.atOutset f channel)) {r : Stretch}
    (hr : Opens lab s f channel r) : P r.1 := by
  cases hr with
  | lost => exact hP.finish (hP.emit _ (hP.setRun rfl rfl h)) .error
  | calls => exact hP.emit _ h
  | enters => exact hP.enter (hP.emit _ h) _

theorem taken (h : P s) {r : Stretch} (hr : IsTaken lab s r) : P r.1 := by
  obtain ⟨n, text, stage, -, -, notice, -, rfl⟩ := hr
  exact hP.emit _ (hP.setRun rfl rfl h)

end Persists

end Session

/-! ## Histories -/

/-- The listener that comes. -/
def Incident.comer? : Incident → Option Listener
  | joins l => some l
  | happens (.subscribe l) => some l
  | _ => none

namespace Bench

variable {P : Session → Prop} {b : Bench} {lab : Lab}

theorem persists_submit (hdated : Clock.isDated b.session.now = true) (h : P b.session)
    {r : Option Stretch} (hr : ∀ r', r = some r' → P r'.1) :
    P (b.submit lab false r).session := by
  unfold Bench.submit
  rw [Session.tryAnswer_eq hdated]
  cases r with
  | none => exact h
  | some r =>
    unfold Bench.begin
    dsimp only
    rw [if_neg Bool.false_ne_true, file_session]
    exact hr r rfl

theorem endures_wake (hP : Session.Endures P) (hdated : Clock.isDated b.session.now = true)
    (h : P b.session) (place : Nat) : P (b.wake lab place).session := by
  unfold Bench.wake
  split
  · exact h
  · rw [file_session, Session.tryResume_eq hdated]
    exact hP.resume h _ _

theorem persists_start (hP : Session.Persists P) (hdated : Clock.isDated b.session.now = true)
    {f : Flow} {channel : Channel} (hreset : P b.session.reset)
    (houtset : P (b.session.atOutset f channel)) :
    P (b.start lab f channel false).session := by
  unfold Bench.start Bench.begin
  dsimp only
  rw [if_neg Bool.false_ne_true, file_session, Session.tryStart_eq hdated]
  split
  · exact hreset
  · exact hP.opens houtset (Session.opens_start _ _ _ _)

/-- Whatever happens leaves the property, if the coming of a listener does. -/
theorem endures_undergo (hP : Session.Endures P) (h : P b.session) (now : Moment) {i : Incident}
    (hcomes : ∀ l, i.comer? = some l → P ((b.atMoment now).session.subscribe l)) :
    P (b.undergo lab now i).session := by
  have hdated : Clock.isDated (b.atMoment now).session.now = true := now.2
  have h : P (b.atMoment now).session := hP.now now.1 h
  cases i with
  | joins l => exact hcomes l rfl
  | happens happening =>
    cases happening with
    | start f channel =>
      exact persists_start hP.toPersists hdated (hP.reset h) (hP.outset f channel h)
    | say said =>
      cases said with
      | str text =>
        exact persists_submit hdated h fun r hr => hP.taken h (Session.isTaken_submitText hr)
      | _ => exact h
    | press digits =>
      exact persists_submit hdated h fun r hr => hP.taken h (Session.isTaken_submitKeys hr)
    | endCall =>
      have hended := hP.endCall h
      rw [← Session.tryEndCall_eq hdated] at hended
      exact hended
    | reset => exact hP.reset h
    | subscribe l => exact hcomes l rfl
    | unsubscribe name => exact hP.dismiss name h
    | wake place => exact endures_wake hP hdated h place

end Bench

end Dialogue
