-- What listeners make of a session by calling back into it. They can leave it as it goes on, hang it
-- up or discard its run, and a stretch that asks what has become of the run before it goes on leaves
-- a run that was hung up as the hang-up left it.
import Dialogue.Proofs.Run.Visits

namespace Dialogue

/-- Whether a stretch from the stage asks what has become of the run after whatever it tells, as long
as it does not come to the limit. -/
def Stage.asks : Stage → Bool
  | connecting _ => false
  | announced n => n.kind != .condition && n.kind != .dtmf
  | _ => true

namespace Session

variable {s t u : Session} {lab : Lab}

/-! ## What a hang-up leaves -/

/-- The call is over, and nobody waits. -/
structure IsOff (s : Session) : Prop where
  onCall : s.run.onCall = false
  waiting : s.run.waiting = none

theorem robust_isOff (n : Notice) : Robust n IsOff where
  heard _ h := ⟨h.onCall, h.waiting⟩
  reset _ := ⟨rfl, rfl⟩
  dismiss _ h := ⟨h.onCall, h.waiting⟩

theorem isOff_endCallWith {hang : Session → Session} (hhang : ∀ t, t.IsOff → (hang t).IsOff)
    (hcan : s.canHangUp = true) : (s.endCallWith hang).IsOff := by
  unfold endCallWith hangUpWith
  rw [if_pos hcan]
  let off : Session := { (s.setRun fun r => { r with waiting := none }).setRun fun r =>
      { r with callLength := r.callSpan s.now, onCall := false } with
    generation := s.generation + 1 }
  have hpost : (off.post hang (callEnded (s.run.callSpan s.now))).IsOff :=
    (robust_isOff _).post ⟨rfl, rfl⟩ (Or.inr hhang)
  exact ⟨hpost.onCall, hpost.waiting⟩

theorem isOff_nestedHangUp (depth : Nat) (h : s.IsOff) : (nestedHangUp depth s).IsOff :=
  nestedHangUp_keeps (fun hhang hcan _ => isOff_endCallWith hhang hcan) depth s h

/-- The run is as a hang-up left it that was the first to be accepted since. -/
def HungUpSince (s t : Session) : Prop :=
  ∃ (u : Session) (depth : Nat), u.canHangUp = true ∧ u.generation = s.generation ∧
    u.runs = s.runs ∧ u.now = t.now ∧ t.run = (u.endCallWith (nestedHangUp depth)).run

/-- A run that was ended by a hang-up. -/
structure IsHungUp (s : Session) : Prop extends IsOff s where
  state : s.run.state = .ended
  result : s.run.result = some .success

theorem isHungUp_endCallWith (depth : Nat) (hcan : s.canHangUp = true) :
    (s.endCallWith (nestedHangUp depth)).IsHungUp := by
  refine ⟨isOff_endCallWith (fun t => isOff_nestedHangUp depth) hcan, ?_, ?_⟩
  · unfold endCallWith
    rw [if_pos hcan]
    rfl
  · unfold endCallWith
    rw [if_pos hcan]
    rfl

theorem HungUpSince.isHungUp (h : HungUpSince s t) : t.IsHungUp := by
  obtain ⟨u, depth, hcan, -, -, -, hrun⟩ := h
  obtain ⟨⟨honCall, hwaiting⟩, hstate, hresult⟩ := isHungUp_endCallWith depth hcan
  rw [← hrun] at honCall hwaiting hstate hresult
  exact ⟨⟨honCall, hwaiting⟩, hstate, hresult⟩

theorem IsHungUp.not_canHangUp (h : s.IsHungUp) : s.canHangUp = false := by
  unfold canHangUp Run.isOver
  rw [h.state]
  simp

/-- To end such a run once more makes no difference. -/
theorem HungUpSince.finish (h : HungUpSince s t) : HungUpSince s (t.finish .success) := by
  obtain ⟨u, depth, hcan, hgeneration, hruns, hnow, hrun⟩ := h
  refine ⟨u, depth, hcan, hgeneration, hruns, hnow, ?_⟩
  have htime := (advances_endCallWith (advances_nestedHangUp depth) hcan).now
  obtain ⟨v, hv⟩ : ∃ v : Session, u.endCallWith (nestedHangUp depth) = v.finish .success := by
    unfold endCallWith
    rw [if_pos hcan]
    exact ⟨_, rfl⟩
  rw [hv] at hrun htime ⊢
  have htime : t.now = v.now := hnow.symm.trans htime.symm
  unfold Session.finish setRun
  dsimp only
  rw [hrun, htime]
  rfl

/-! ## An emission -/

/-- The walk has not been disturbed. -/
structure Steady (s t : Session) : Prop where
  generation : t.generation = s.generation
  runs : t.runs = s.runs
  now : t.now = s.now
  steps : t.run.steps = s.run.steps
  listeners : ∀ l ∈ t.listeners, l ∈ s.listeners

theorem Steady.refl (s : Session) : Steady s s := ⟨rfl, rfl, rfl, rfl, fun _ h => h⟩

theorem Steady.setRun (h : Steady s t) {change : Run → Run}
    (hsteps : (change t.run).steps = t.run.steps) : Steady s (t.setRun change) :=
  ⟨h.generation, h.runs, h.now, hsteps.trans h.steps, h.listeners⟩

/-- What becomes of a session while nobody hangs up. -/
inductive Unhung (s t : Session) : Prop
  | steady (h : Steady s t)
  | discarded (hgeneration : s.generation < t.generation) (hruns : s.runs < t.runs)

/-- What listeners can make of a session. -/
inductive Follows (s t : Session) : Prop
  | unhung (h : Unhung s t)
  | hungUp (hgeneration : s.generation < t.generation) (hruns : t.runs = s.runs)
      (h : HungUpSince s t)

theorem Steady.follows (h : Steady s t) : Follows s t := .unhung (.steady h)

theorem robust_unhung (s : Session) (n : Notice) : Robust n (Unhung s) where
  heard _ h := by
    cases h with
    | steady h => exact .steady ⟨h.generation, h.runs, h.now, h.steps, h.listeners⟩
    | discarded hgeneration hruns => exact .discarded hgeneration hruns
  reset h := by
    cases h with
    | steady h => exact .discarded (h.generation ▸ Nat.lt_succ_self _) (h.runs ▸ Nat.lt_succ_self _)
    | discarded hgeneration hruns =>
      exact .discarded (Nat.lt_succ_of_lt hgeneration) (Nat.lt_succ_of_lt hruns)
  dismiss _ h := by
    cases h with
    | steady h =>
      exact .steady ⟨h.generation, h.runs, h.now, h.steps,
        fun l hl => h.listeners l (List.mem_of_mem_eraseP hl)⟩
    | discarded hgeneration hruns => exact .discarded hgeneration hruns

theorem robust_follows (s : Session) (n : Notice) : Robust n (Follows s) where
  heard he h := by
    cases h with
    | unhung h => exact .unhung ((robust_unhung s n).heard he h)
    | hungUp hgeneration hruns h => exact .hungUp hgeneration hruns h
  reset h := by
    cases h with
    | unhung h => exact .unhung ((robust_unhung s n).reset h)
    | hungUp hgeneration hruns h =>
      exact .unhung (.discarded (Nat.lt_succ_of_lt hgeneration) (hruns ▸ Nat.lt_succ_self _))
  dismiss name h := by
    cases h with
    | unhung h => exact .unhung ((robust_unhung s n).dismiss name h)
    | hungUp hgeneration hruns h => exact .hungUp hgeneration hruns h

theorem Advances.discarded (h : Advances t u) (hgeneration : s.generation < t.generation)
    (hruns : s.runs < t.runs) : Unhung s u :=
  .discarded (Nat.lt_of_lt_of_le hgeneration h.generation) (Nat.lt_of_lt_of_le hruns h.runs)

/-- A hang-up is accepted once, until the run is discarded. -/
theorem Follows.nestedHangUp (depth : Nat) (h : Follows s t) :
    Follows s (nestedHangUp depth t) := by
  cases depth with
  | zero => exact h
  | succ depth =>
    have hadvances := advances_nestedHangUp (depth + 1) t
    rw [Session.nestedHangUp] at hadvances ⊢
    cases hcan : t.canHangUp with
    | false =>
      rw [endCallWith_of_not_canHangUp _ hcan]
      exact h
    | true =>
      rcases h with (h | ⟨hgeneration, hruns⟩) | ⟨-, -, h⟩
      · have hended := advances_endCallWith (advances_nestedHangUp depth) hcan
        have hgeneration : s.generation < (t.endCallWith (Session.nestedHangUp depth)).generation :=
          h.generation ▸ hended.generation
        rcases Nat.lt_or_eq_of_le hended.runs with hruns | hruns
        · exact .unhung (.discarded hgeneration (h.runs ▸ hruns))
        · exact .hungUp hgeneration (hruns.symm.trans h.runs)
            ⟨t, depth, hcan, h.generation, h.runs, hended.now.symm, rfl⟩
      · exact .unhung (hadvances.discarded hgeneration hruns)
      · rw [h.isHungUp.not_canHangUp] at hcan
        cases hcan

theorem Steady.emit (h : Steady s t) (n : Notice) : Follows s (t.emit n) :=
  (robust_follows s n).post (.unhung (.steady ⟨h.generation, h.runs, h.now, h.steps, h.listeners⟩))
    (Or.inr fun _ => Follows.nestedHangUp deepest)

/-- Where the listeners spare the notice, it brings no hang-up. -/
theorem Unhung.emit (h : Unhung s t) {n : Notice} (hspare : SpareAt s.listeners n) :
    Unhung s (t.emit n) := by
  cases h with
  | steady h =>
    exact (robust_unhung s n).post (.steady ⟨h.generation, h.runs, h.now, h.steps, h.listeners⟩)
      (Or.inl fun l hl => hspare l (h.listeners l hl))
  | discarded hgeneration hruns =>
    have hadvances : Advances t (t.emit n) :=
      advances_post (advances_nestedHangUp deepest) t n
    exact hadvances.discarded hgeneration hruns

theorem Unhung.setRun (h : Unhung s t) {change : Run → Run}
    (hsteps : (change t.run).steps = t.run.steps) : Unhung s (t.setRun change) := by
  cases h with
  | steady h => exact .steady (h.setRun hsteps)
  | discarded hgeneration hruns => exact .discarded hgeneration hruns

theorem Unhung.hangUpIfOn (h : Unhung s t) (hspare : ∀ span, SpareAt s.listeners (callEnded span)) :
    Unhung s t.hangUpIfOn := by
  unfold Session.hangUpIfOn
  split
  · have hoff : Unhung s (t.setRun fun r => { r with
        callLength := t.run.callSpan t.now, onCall := false }) := h.setRun rfl
    exact hoff.emit (hspare _)
  · exact h

theorem Unhung.finish (h : Unhung s t) (result : RunResult) : Unhung s (t.finish result) :=
  h.setRun rfl

theorem Follows.finish (h : Follows s t) : Follows s (t.finish .success) := by
  cases h with
  | unhung h => exact .unhung (h.finish .success)
  | hungUp hgeneration hruns h => exact .hungUp hgeneration hruns h.finish

theorem Follows.dice (h : Follows s t) (dice : Dice) : Follows s { t with dice } := by
  rcases h with (h | ⟨hgeneration, hruns⟩) | ⟨hgeneration, hruns, h⟩
  · exact .unhung (.steady ⟨h.generation, h.runs, h.now, h.steps, h.listeners⟩)
  · exact .unhung (.discarded hgeneration hruns)
  · exact .hungUp hgeneration hruns h

/-- Under the old generation nothing has happened. -/
theorem Follows.steady (h : Follows s t) (hgeneration : t.generation = s.generation) :
    Steady s t := by
  rcases h with (h | ⟨hlt, -⟩) | ⟨hlt, -, -⟩
  · exact h
  · omega
  · omega

/-! ## A stretch -/

/-- If a hang-up has been accepted and the run was not discarded, the run is as the hang-up left
it. -/
def Respects (s t : Session) : Prop :=
  s.generation < t.generation → t.runs = s.runs → HungUpSince s t

theorem respects_of_generation (h : t.generation = s.generation) : Respects s t :=
  fun hlt => absurd hlt (h ▸ Nat.lt_irrefl _)

theorem Unhung.respects (h : Unhung s t) : Respects s t := by
  cases h with
  | steady h => exact respects_of_generation h.generation
  | discarded _ hruns => exact fun _ heq => absurd heq (Nat.ne_of_gt hruns)

theorem Follows.respects (h : Follows s t) : Respects s t := by
  cases h with
  | unhung h => exact h.respects
  | hungUp _ _ h => exact fun _ _ => h

theorem Steady.respects (h : Steady s t) (h' : Respects t u) : Respects s u := by
  intro hgeneration hruns
  obtain ⟨v, depth, hcan, hv, hvruns, hrest⟩ :=
    h' (h.generation ▸ hgeneration) (hruns.trans h.runs.symm)
  exact ⟨v, depth, hcan, hv.trans h.generation, hvruns.trans h.runs, hrest⟩

/-- The notices after which a stretch goes on with the run without asking what has become of it. -/
inductive IsDeafTo (lab : Lab) (s : Session) : Stage → Notice → Prop
  | connected {start : Node} : IsDeafTo lab s (.connecting start) callConnected
  | question {n : Node} {d : ConditionData} (hd : n.data = .condition d) :
      IsDeafTo lab s (.announced n) ⟨.system, .str (conditionText d), n.id, some .pending⟩
  | prompt {n : Node} {d : DtmfData} (hd : n.data = .dtmf d) :
      IsDeafTo lab s (.announced n)
        (s.saying n (.str (orElse d.prompt "Please enter your selection")) "Speaking")
  | keys {n : Node} {d : DtmfData} (hd : n.data = .dtmf d) :
      IsDeafTo lab s (.announced n) ⟨.system, .str (keysText d), n.id, some .pending⟩
  | limit {stage : Stage} (hmost : lab.settings.maxSteps ≤ s.run.steps) (n : Node) :
      IsDeafTo lab s stage (limitReached lab.settings.maxSteps n)
  | ended {stage : Stage} (hmost : lab.settings.maxSteps ≤ s.run.steps) (span : Int) :
      IsDeafTo lab s stage (callEnded span)

/-- No listener hangs up on a notice that the stretch from the stage is deaf to. -/
def Spares (lab : Lab) (s : Session) (stage : Stage) : Prop :=
  ∀ n, IsDeafTo lab s stage n → SpareAt s.listeners n

/-- No listener hangs up where the run has come to as many nodes as it may. -/
def SparesLimit (lab : Lab) (s : Session) : Prop :=
  lab.settings.maxSteps ≤ s.run.steps →
    (∀ n, SpareAt s.listeners (limitReached lab.settings.maxSteps n)) ∧
      ∀ span, SpareAt s.listeners (callEnded span)

theorem Spares.limit {stage : Stage} (h : Spares lab s stage) : SparesLimit lab s :=
  fun hmost => ⟨fun n => h _ (.limit hmost n), fun span => h _ (.ended hmost span)⟩

/-- Below the limit a run is deaf to hang-ups only where its call connects and where it comes to
wait. -/
theorem spares_of_asks {stage : Stage} (h : stage.asks = true)
    (hmore : s.run.steps < lab.settings.maxSteps) : Spares lab s stage := by
  intro n hdeaf
  cases hdeaf with
  | connected => cases h
  | question hd => simp [Stage.asks, Node.kind, hd, NodeData.kind] at h
  | prompt hd => simp [Stage.asks, Node.kind, hd, NodeData.kind] at h
  | keys hd => simp [Stage.asks, Node.kind, hd, NodeData.kind] at h
  | limit hmost => exact absurd hmost (Nat.not_le.mpr hmore)
  | ended hmost => exact absurd hmost (Nat.not_le.mpr hmore)

theorem Steady.sparesLimit (h : Steady s t) (hspares : SparesLimit lab s) : SparesLimit lab t := by
  intro hmost
  obtain ⟨hlimit, hended⟩ := hspares (h.steps ▸ hmost)
  exact ⟨fun n l hl => hlimit n l (h.listeners l hl),
    fun span l hl => hended span l (h.listeners l hl)⟩

theorem respects_enter (h : SparesLimit lab s) (n : Node) : Respects s (s.enter lab n).1 := by
  unfold enter
  split
  · rename_i hmost
    obtain ⟨hlimit, hended⟩ := h hmost
    have hcounted : Unhung s (s.setRun Run.countError) := .steady ((Steady.refl s).setRun rfl)
    exact (((hcounted.emit (hlimit n)).hangUpIfOn hended).finish .error).respects
  · exact ((Steady.refl (s.setRun (countVisit n))).emit _).respects

theorem advances_enter (s : Session) (n : Node) : Advances s (s.enter lab n).1 := by
  have hemit : ∀ (t : Session) (change : Run → Run) (notice : Notice),
      Advances t ((t.setRun change).emit notice) := by
    intro t change notice
    obtain ⟨hgeneration, hruns, hnow⟩ := advances_emit (t.setRun change) notice
    exact ⟨hgeneration, hruns, hnow⟩
  unfold enter
  split
  · have hcounted := hemit s Run.countError (limitReached lab.settings.maxSteps n)
    unfold stopAtLimit hangUpIfOn
    split
    · obtain ⟨hgeneration, hruns, hnow⟩ := hcounted.trans (hemit _ _ _)
      exact ⟨hgeneration, hruns, hnow⟩
    · exact ⟨hcounted.generation, hcounted.runs, hcounted.now⟩
  · exact hemit s _ _

theorem Unhung.respects_enter (h : Unhung s t) (hspares : SparesLimit lab s) (n : Node) :
    Respects s (t.enter lab n).1 := by
  cases h with
  | steady h => exact h.respects (Session.respects_enter (h.sparesLimit hspares) n)
  | discarded hgeneration hruns =>
    exact ((advances_enter t n).discarded hgeneration hruns).respects

theorem respects_deadEnd (s : Session) : Respects s s.deadEnd := by
  have hended : Follows s s.hangUpIfOn := by
    unfold hangUpIfOn
    split
    · exact ((Steady.refl s).setRun rfl).emit _
    · exact (Steady.refl s).follows
  exact hended.finish.respects

/-- What becomes of the session while a task tells things at its stage. -/
theorem follows_talks {stage : Stage} (ht : Talks lab s stage t) : Follows s t := by
  induction ht with
  | silent => exact (Steady.refl s).follows
  | tells _ hcurrent _ ih => exact (ih.steady hcurrent).emit _
  | counts _ hcount =>
    rcases hcount with rfl | rfl
    · exact ((Steady.refl s).setRun rfl).emit _
    · exact ((Steady.refl s).setRun rfl).emit _
  | fails _ hcurrent _ _ ih => exact ((ih.steady hcurrent).setRun rfl).emit _
  | draws _ dice ih => exact ih.dice dice

/-- Where the listeners spare what it is deaf to, a stretch respects a hang-up. -/
theorem respects_walks {stage : Stage} (h : Spares lab s stage) {r : Stretch}
    (hr : Walks lab s stage r) : Respects s r.1 := by
  cases hr with
  | pauses ht => exact (follows_talks ht).respects
  | breaks ht => exact (follows_talks ht).respects
  | stops ht => exact (follows_talks ht).respects
  | @enters t n ht hcurrent =>
    have hsteady := (follows_talks ht).steady hcurrent
    exact hsteady.respects (respects_enter (hsteady.sparesLimit h.limit) n)
  | @ends t ht hcurrent =>
    exact ((follows_talks ht).steady hcurrent).respects (respects_deadEnd t)
  | @connects start hstage =>
    subst hstage
    have hconnected : Unhung s (s.emit callConnected) :=
      (Unhung.steady (Steady.refl s)).emit (h _ .connected)
    have hon : Unhung s s.connected := hconnected.setRun rfl
    exact hon.respects_enter h.limit start
  | closes =>
    have hended : Follows s s.hangUp := ((Steady.refl s).setRun rfl).emit _
    exact hended.finish.respects
  | finishes => exact ((Steady.refl s).emit _).finish.respects
  | asksForText hstage hdata =>
    subst hstage
    have hasked := (Unhung.steady (Steady.refl s)).emit (h _ (.question hdata))
    exact (hasked.setRun rfl).respects
  | asksForKeys hstage hdata =>
    subst hstage
    have hspoken := (Unhung.steady (Steady.refl s)).emit (h _ (.prompt hdata))
    have hasked := hspoken.emit (h _ (.keys hdata))
    exact (hasked.setRun rfl).respects

theorem respects_resume {stage : Stage} (h : Spares lab s stage) :
    Respects s (s.resume lab s.generation stage).1 :=
  respects_walks h (walks_resume lab s stage)

/-! ## Starts and answers -/

theorem respects_opens {f : Flow} (h : f.startNode? = none → SpareAt s.listeners noStartFound)
    {r : Stretch} (hr : Opens lab s f .voice r) : Respects (s.atOutset f .voice) r.1 := by
  cases hr with
  | lost hnone =>
    have hcounted : Unhung (s.atOutset f .voice) ((s.atOutset f .voice).setRun Run.countError) :=
      .steady ((Steady.refl _).setRun rfl)
    exact ((hcounted.emit (h hnone)).finish .error).respects
  | calls => exact ((Steady.refl (s.atOutset f .voice)).emit callStarted).respects

theorem respects_taken {r : Stretch} (hr : IsTaken lab s r) : Respects s r.1 := by
  obtain ⟨n, text, stage, -, -, notice, -, rfl⟩ := hr
  exact (((Steady.refl s).setRun rfl).emit _).respects

end Session

end Dialogue
