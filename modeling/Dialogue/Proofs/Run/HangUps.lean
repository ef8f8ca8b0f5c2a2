-- Hanging up. A hang-up from outside is final, whoever listens: until another run is started or the
-- run is discarded, nothing becomes of the run any more. One from inside an event is just as final,
-- unless the run is deaf to hang-ups at that event.
import Dialogue.Proofs.Run.Callbacks

namespace Dialogue

/-- A run is started, or the run is discarded. -/
def Incident.Restarts : Incident → Prop
  | happens (.start _ _) | happens .reset => True
  | _ => False

namespace Session

variable {lab : Lab} {s : Session}

/-- Whatever is offered to the run is refused. -/
structure Refuses (lab : Lab) (s : Session) : Prop where
  text : ∀ text, s.submitText lab text = none
  keys : ∀ digits, s.submitKeys lab digits = none
  hangUp : s.canHangUp = false

theorem IsHungUp.refuses (h : s.IsHungUp) : s.Refuses lab where
  text := submitText_eq_none (by simp [h.state]) (by simp [h.state])
  keys := submitKeys_eq_none (by simp [h.state]) (by simp [h.state])
  hangUp := h.not_canHangUp

theorem hungUpSince_endCall (h : s.canHangUp = true) : HungUpSince s s.endCall.1 :=
  ⟨s, deepest, h, rfl, rfl, (advances_endCallWith (advances_nestedHangUp deepest) h).now.symm, rfl⟩

theorem canHangUp_of_accepted (hdated : Clock.isDated s.now = true)
    (haccepted : s.tryEndCall.2 = .ok true) : s.canHangUp = true := by
  unfold tryEndCall at haccepted
  rw [not_late hdated, if_neg Bool.false_ne_true] at haccepted
  exact Except.ok.inj haccepted

end Session

namespace Bench

variable {lab : Lab} {b : Bench}

/-! ## Runs that are left

A run that waits for no answer and that no task may go on with. -/

structure IsLeft (b : Bench) (r : Run) : Prop where
  run : b.session.run = r
  text : r.state ≠ .waitingForText
  keys : r.state ≠ .waitingForKeys
  stale : ∀ x ∈ b.sleepers, x.generation < b.session.generation

variable {r : Run}

theorem IsLeft.submitText (h : b.IsLeft r) (text : String) :
    b.session.submitText lab text = none :=
  Session.submitText_eq_none (h.run ▸ h.keys) (h.run ▸ h.text) text

theorem IsLeft.submitKeys (h : b.IsLeft r) (digits : String) :
    b.session.submitKeys lab digits = none :=
  Session.submitKeys_eq_none (h.run ▸ h.keys) (h.run ▸ h.text) digits

/-- An answer that is refused leaves nothing but the end of its task. -/
theorem IsLeft.submit_none (h : b.IsLeft r) (hdated : Clock.isDated b.session.now = true) :
    (b.submit lab false none).IsLeft r := by
  unfold Bench.submit
  rw [Session.tryAnswer_eq hdated]
  exact ⟨h.run, h.text, h.keys, h.stale⟩

theorem IsLeft.wake (h : b.IsLeft r) (hdated : Clock.isDated b.session.now = true) (place : Nat) :
    (b.wake lab place).IsLeft r := by
  unfold Bench.wake
  split
  · exact h
  · rename_i x hx
    have hold := h.stale x (List.mem_of_getElem? hx)
    rw [Session.tryResume_eq hdated, Session.resume_stale lab (Nat.ne_of_gt hold)]
    have hstale : ∀ y ∈ b.sleepers.eraseIdx place, y.generation < b.session.generation :=
      fun y hy => h.stale y (List.mem_of_mem_eraseIdx hy)
    cases x.stage.fault? lab b.session.dice with
    | none => exact ⟨h.run, h.text, h.keys, hstale⟩
    | some fault => exact ⟨h.run, h.text, h.keys, hstale⟩

variable (lab) in
/-- Nothing becomes of such a run, unless it can still be hung up. -/
theorem IsLeft.undergo (h : b.IsLeft r) (now : Moment) {i : Incident} (hi : ¬ i.Restarts) :
    (b.undergo lab now i).IsLeft r ∨ i = .happens .endCall ∧ b.session.canHangUp = true := by
  have hdated : Clock.isDated (b.atMoment now).session.now = true := now.2
  have hleft : (b.atMoment now).IsLeft r := ⟨h.run, h.text, h.keys, h.stale⟩
  cases i with
  | joins l => exact Or.inl ⟨h.run, h.text, h.keys, h.stale⟩
  | happens happening =>
    cases happening with
    | start f channel => exact absurd trivial hi
    | reset => exact absurd trivial hi
    | say said =>
      left
      cases said with
      | str text =>
        have hnone : (b.atMoment now).session.submitText lab text = none := hleft.submitText text
        unfold Bench.undergo happen Bench.submitText
        dsimp only
        rw [hnone]
        exact hleft.submit_none hdated
      | _ => exact ⟨h.run, h.text, h.keys, h.stale⟩
    | press digits =>
      left
      have hnone : (b.atMoment now).session.submitKeys lab digits = none :=
        hleft.submitKeys digits
      unfold Bench.undergo happen Bench.submitKeys
      dsimp only
      rw [hnone]
      exact hleft.submit_none hdated
    | endCall =>
      cases hcan : b.session.canHangUp with
      | true => exact Or.inr ⟨rfl, rfl⟩
      | false =>
        left
        have hsame : (b.atMoment now).session.tryEndCall.1 = (b.atMoment now).session := by
          rw [Session.tryEndCall_eq hdated]
          exact Session.endCallWith_of_not_canHangUp _ hcan
        unfold Bench.undergo happen onSession
        dsimp only
        rw [hsame]
        exact hleft
    | subscribe l => exact Or.inl ⟨h.run, h.text, h.keys, h.stale⟩
    | unsubscribe name => exact Or.inl ⟨h.run, h.text, h.keys, h.stale⟩
    | wake place => exact Or.inl (hleft.wake hdated place)

/-! ## After a hang-up -/

/-- The run was hung up, and no task may go on. -/
structure IsOver (b : Bench) (r : Run) : Prop where
  run : b.session.run = r
  hungUp : b.session.IsHungUp
  stale : ∀ x ∈ b.sleepers, x.generation < b.session.generation

theorem IsOver.isLeft (h : b.IsOver r) : b.IsLeft r := by
  have hstate : r.state = .ended := h.run ▸ h.hungUp.state
  exact ⟨h.run, by simp [hstate], by simp [hstate], h.stale⟩

theorem IsOver.undergo (h : b.IsOver r) (now : Moment) {i : Incident} (hi : ¬ i.Restarts) :
    (b.undergo lab now i).IsOver r := by
  rcases h.isLeft.undergo lab now hi with hleft | ⟨-, hcan⟩
  · obtain ⟨⟨honCall, hwaiting⟩, hstate, hresult⟩ := h.hungUp
    rw [h.run, ← hleft.run] at honCall hwaiting hstate hresult
    exact ⟨hleft.run, ⟨⟨honCall, hwaiting⟩, hstate, hresult⟩, hleft.stale⟩
  · rw [h.hungUp.not_canHangUp] at hcan
    cases hcan

theorem IsOver.outcome (h : b.IsOver r) {later : List (Moment × Incident)}
    (hlater : ∀ i ∈ later, ¬ i.2.Restarts) : (b.outcome lab later).IsOver r := by
  induction later generalizing b with
  | nil => exact h
  | cons i rest ih =>
    exact ih (h.undergo i.1 (hlater i (by simp))) fun j hj => hlater j (List.mem_cons_of_mem i hj)

/-! ## A hang-up -/

/-- The session from which an incident sets out, which is that of the new run if it starts one. -/
def outset (b : Bench) (now : Moment) : Incident → Session
  | .happens (.start f channel) => (b.atMoment now).session.atOutset f channel
  | _ => (b.atMoment now).session

/-- A hang-up is accepted in the course of the incident, from outside or from a listener, and the run
is not discarded after that. Only voice runs can be hung up. -/
def HangsUp (lab : Lab) (b : Bench) (now : Moment) (i : Incident) : Prop :=
  let s := b.outset now i
  let s' := (b.undergo lab now i).session
  match i with
  | .happens .endCall => s.tryEndCall.2 = .ok true
  | .happens (.start _ channel) =>
    channel = .voice ∧ s.generation < s'.generation ∧ s'.runs = s.runs
  | _ => s.generation < s'.generation ∧ s'.runs = s.runs

/-- No listener hangs up on a notice that the incident is deaf to. -/
def Spares (lab : Lab) (b : Bench) : Incident → Prop
  | .happens (.start f _) =>
    f.startNode? = none → Session.SpareAt b.session.listeners Session.noStartFound
  | .happens (.wake place) => ∀ x, b.sleepers[place]? = some x → b.session.Spares lab x.stage
  | _ => True

/-- The run is as a hang-up left it, and all tasks are older than the hang-up. -/
structure IsHungUpSince (s : Session) (b : Bench) : Prop where
  run : s.HungUpSince b.session
  stale : ∀ x ∈ b.sleepers, x.generation < b.session.generation

theorem IsHungUpSince.isOver {s : Session} (h : b.IsHungUpSince s) : b.IsOver b.session.run :=
  ⟨rfl, h.run.isHungUp, h.stale⟩

/-- A stretch that respects hang-ups, filed under the generation in which it began. -/
theorem isHungUpSince_file {s : Session} {task : Nat} {errand : Errand} {r : Stretch}
    (hr : s.Respects r.1) (hold : ∀ x ∈ b.sleepers, x.generation ≤ s.generation)
    (hgeneration : s.generation < r.1.generation) (hruns : r.1.runs = s.runs) {generation : Nat}
    (hbegan : generation ≤ s.generation) :
    (b.file task errand generation r).IsHungUpSince s := by
  refine ⟨?_, fun x hx => ?_⟩
  · rw [file_session]
    exact hr hgeneration hruns
  · rw [file_session]
    rcases mem_file_sleepers b task errand generation r hx with hx | ⟨hx, -⟩
    · exact Nat.lt_of_le_of_lt (hold x hx) hgeneration
    · exact hx ▸ Nat.lt_of_le_of_lt hbegan hgeneration

theorem isHungUpSince_wake (hold : ∀ x ∈ b.sleepers, x.generation ≤ b.session.generation)
    (hdated : Clock.isDated b.session.now = true) {place : Nat}
    (hspares : ∀ x, b.sleepers[place]? = some x → b.session.Spares lab x.stage)
    (hgeneration : b.session.generation < (b.wake lab place).session.generation)
    (hruns : (b.wake lab place).session.runs = b.session.runs) :
    (b.wake lab place).IsHungUpSince b.session := by
  unfold Bench.wake at hgeneration hruns ⊢
  split at hgeneration
  · exact absurd hgeneration (Nat.lt_irrefl _)
  · rename_i x hx
    have hmem := List.mem_of_getElem? hx
    rw [hx] at hruns
    dsimp only at hruns
    rw [file_session] at hgeneration hruns
    by_cases hcurrent : b.session.generation = x.generation
    · have hresume : b.session.Respects (b.session.tryResume lab x.generation x.stage).1 := by
        rw [Session.tryResume_eq hdated, ← hcurrent]
        exact Session.respects_resume (hspares x hx)
      exact isHungUpSince_file hresume
        (fun y hy => hold y (List.mem_of_mem_eraseIdx hy)) hgeneration hruns (hold x hmem)
    · rw [Session.tryResume_eq hdated, Session.resume_stale lab hcurrent] at hgeneration
      exact absurd hgeneration (Nat.lt_irrefl _)

theorem isHungUpSince_submit (hold : ∀ x ∈ b.sleepers, x.generation ≤ b.session.generation)
    (hdated : Clock.isDated b.session.now = true) {r : Option Stretch}
    (hr : ∀ r', r = some r' → b.session.Respects r'.1)
    (hgeneration : b.session.generation < (b.submit lab false r).session.generation)
    (hruns : (b.submit lab false r).session.runs = b.session.runs) :
    (b.submit lab false r).IsHungUpSince b.session := by
  unfold Bench.submit at hgeneration hruns ⊢
  rw [Session.tryAnswer_eq hdated] at hgeneration hruns ⊢
  cases r with
  | none => exact absurd hgeneration (Nat.lt_irrefl _)
  | some r =>
    unfold Bench.begin at hgeneration hruns ⊢
    dsimp only at hgeneration hruns ⊢
    rw [if_neg Bool.false_ne_true, file_session] at hgeneration hruns
    rw [if_neg Bool.false_ne_true]
    exact isHungUpSince_file (b := { b with tasks := b.tasks + 1 }) (hr r rfl) hold hgeneration hruns
      (Nat.le_refl _)

theorem isHungUpSince_start (hold : ∀ x ∈ b.sleepers, x.generation ≤ b.session.generation)
    (hdated : Clock.isDated b.session.now = true) {f : Flow}
    (hspares : f.startNode? = none →
      Session.SpareAt b.session.listeners Session.noStartFound)
    (hgeneration : b.session.generation + 1 < (b.start lab f .voice false).session.generation)
    (hruns : (b.start lab f .voice false).session.runs = b.session.runs + 1) :
    (b.start lab f .voice false).IsHungUpSince (b.session.atOutset f .voice) := by
  unfold Bench.start Bench.begin at hgeneration hruns ⊢
  rw [Session.tryStart_eq hdated] at hgeneration hruns ⊢
  dsimp only at hgeneration hruns ⊢
  rw [if_neg Bool.false_ne_true, file_session] at hgeneration hruns
  rw [if_neg Bool.false_ne_true]
  split at hgeneration
  · exact absurd hgeneration (Nat.lt_irrefl _)
  · rename_i hroom
    rw [if_neg hroom] at hruns ⊢
    have hrespects := Session.respects_opens hspares (Session.opens_start lab b.session f .voice)
    exact isHungUpSince_file (b := { b with tasks := b.tasks + 1 }) hrespects
      (fun x hx => Nat.le_succ_of_le (hold x hx)) hgeneration hruns (Nat.le_refl _)

theorem isHungUpSince_endCall (hold : ∀ x ∈ b.sleepers, x.generation ≤ b.session.generation)
    (hdated : Clock.isDated b.session.now = true) (hcan : b.session.canHangUp = true) :
    (b.onSession fun s => s.tryEndCall.1).IsHungUpSince b.session := by
  have hended : b.session.generation + 1 ≤ b.session.endCall.1.generation :=
    (Session.advances_endCallWith (Session.advances_nestedHangUp _) hcan).generation
  unfold onSession
  dsimp only
  rw [Session.tryEndCall_eq hdated]
  exact ⟨Session.hungUpSince_endCall hcan, fun x hx =>
    Nat.lt_of_lt_of_le (Nat.lt_succ_of_le (hold x hx)) hended⟩

/-- Where the listeners spare what is deaf to it, a hang-up that is accepted is the last that becomes
of the run in an incident. -/
theorem isHungUpSince_undergo (hold : ∀ x ∈ b.sleepers, x.generation ≤ b.session.generation)
    {now : Moment} {i : Incident} (hspares : (b.atMoment now).Spares lab i)
    (hhangs : b.HangsUp lab now i) :
    (b.undergo lab now i).IsHungUpSince (b.outset now i) := by
  have hdated : Clock.isDated (b.atMoment now).session.now = true := now.2
  cases i with
  | joins l => exact absurd hhangs.1 (Nat.lt_irrefl _)
  | happens happening =>
    cases happening with
    | start f channel =>
      obtain ⟨rfl, hgeneration, hruns⟩ := hhangs
      exact isHungUpSince_start (b := b.atMoment now) hold hdated hspares hgeneration hruns
    | reset => exact absurd hhangs.2 (Nat.succ_ne_self _)
    | say said =>
      cases said with
      | str text =>
        exact isHungUpSince_submit (b := b.atMoment now) hold hdated
          (fun r hr => Session.respects_taken (Session.isTaken_submitText hr)) hhangs.1 hhangs.2
      | _ => exact absurd hhangs.1 (Nat.lt_irrefl _)
    | press digits =>
      exact isHungUpSince_submit (b := b.atMoment now) hold hdated
        (fun r hr => Session.respects_taken (Session.isTaken_submitKeys hr)) hhangs.1 hhangs.2
    | endCall =>
      have hcan := Session.canHangUp_of_accepted hdated hhangs
      exact isHungUpSince_endCall (b := b.atMoment now) hold hdated hcan
    | subscribe l => exact absurd hhangs.1 (Nat.lt_irrefl _)
    | unsubscribe name => exact absurd hhangs.1 (Nat.lt_irrefl _)
    | wake place =>
      exact isHungUpSince_wake (b := b.atMoment now) hold hdated hspares hhangs.1 hhangs.2

/-! ## The law -/

/-- Take any history in which anyone may listen. If a hang-up is accepted then, from outside or from
a listener, the run stays as the hang-up left it, whatever happens, until a run is started or the run
is discarded. It is ended with success, its call is over, and whatever is offered to it is refused.
Only at a notice to which the run is deaf must no listener hang up. -/
theorem an_accepted_hang_up_is_final (lab : Lab) (dice : Dice)
    (before later : List (Moment × Incident)) (now : Moment) (i : Incident)
    (hspares : (((fresh dice).outcome lab before).atMoment now).Spares lab i)
    (hhangs : ((fresh dice).outcome lab before).HangsUp lab now i)
    (hlater : ∀ j ∈ later, ¬ j.2.Restarts) :
    let b := (fresh dice).outcome lab before
    let b' := b.undergo lab now i
    let b'' := b'.outcome lab later
    (b.outset now i).HungUpSince b'.session ∧ b''.session.run = b'.session.run ∧
      b''.session.run.state = .ended ∧ b''.session.run.result = some .success ∧
      b''.session.run.onCall = false ∧ b''.session.Refuses lab := by
  intro b b' b''
  have hon : b.IsOnGround .everywhere 0 0 :=
    (isOnGround_fresh _ dice).outcome fun _ _ g _ _ => g.liesOn_everywhere
  have hhung : b'.IsHungUpSince (b.outset now i) := isHungUpSince_undergo hon.old hspares hhangs
  have hover : b''.IsOver b'.session.run := hhung.isOver.outcome hlater
  exact ⟨hhung.run, hover.run, hover.hungUp.state, hover.hungUp.result, hover.hungUp.onCall,
    hover.hungUp.refuses⟩

/-- A listener hangs up when the question is announced. Then the question is answered, somebody hangs
up again, and the old task wakes. -/
theorem a_hang_up_at_a_question_is_final :
    let before : List (Moment × Incident) :=
      [(newYear, .joins { name := "ear", cue := .str "Condition", reaction := some .hangUp }),
        (newYear, .happens (.start askingFlow .voice)), (newYear, .happens (.wake 0))]
    let later : List (Moment × Incident) :=
      [(newYear, .happens (.say (.str "yes"))), (newYear, .happens .endCall),
        (newYear, .happens (.wake 0))]
    let b := (fresh {}).outcome usualLab before
    let b' := b.undergo usualLab newYear (.happens (.wake 0))
    let b'' := b'.outcome usualLab later
    (b.atMoment newYear).Spares usualLab (.happens (.wake 0)) ∧
      b.HangsUp usualLab newYear (.happens (.wake 0)) ∧ (∀ j ∈ later, ¬ j.2.Restarts) ∧
      b'.sleepers.length = 1 ∧ b''.session.run = b'.session.run ∧
      b''.session.run.state = .ended ∧ b''.session.run.onCall = false := by
  intro before later b b' b''
  have hlater : ∀ j ∈ later, ¬ j.2.Restarts := by simp [later, Incident.Restarts]
  have hhangs : b.HangsUp usualLab newYear (.happens (.wake 0)) :=
    ⟨by decide +kernel, by decide +kernel⟩
  have hspares : (b.atMoment newYear).Spares usualLab (.happens (.wake 0)) := by
    intro x hx
    have hasks : ((b.atMoment newYear).sleepers[0]?.any (·.stage.asks)) = true := by decide +kernel
    rw [hx] at hasks
    exact Session.spares_of_asks hasks (by decide +kernel)
  have hone : b'.sleepers.length = 1 := by decide +kernel
  obtain ⟨-, hrun, hstate, -, honCall, -⟩ := an_accepted_hang_up_is_final usualLab {} before later
    newYear (.happens (.wake 0)) hspares hhangs hlater
  clear_value before later
  exact ⟨hspares, hhangs, hlater, hone, hrun, hstate, honCall⟩

/-- A run is deaf to a hang-up at the event that the call has been connected. The call is on after
its end, and a node is announced. -/
theorem a_hang_up_as_the_call_connects_is_not_final :
    let before : List (Moment × Incident) :=
      [(newYear, .joins { name := "ear", cue := .str "Call connected", reaction := some .hangUp }),
        (newYear, .happens (.start askingFlow .voice))]
    let b := (fresh {}).outcome usualLab before
    let b' := b.undergo usualLab newYear (.happens (.wake 0))
    b.HangsUp usualLab newYear (.happens (.wake 0)) ∧ b'.session.run.state = .ended ∧
      b'.session.run.onCall = true ∧ b'.session.run.events.toList.length = 4 ∧
      b'.session.run.events.toList[3]?.map (·.notice.node.text) = some "start" := by
  exact ⟨⟨by decide +kernel, by decide +kernel⟩, by decide +kernel, by decide +kernel,
    by decide +kernel, by decide +kernel⟩

end Bench

end Dialogue
