-- How tasks of a run fail. What goes wrong in a run is never trouble with a flow as a whole, which the
-- service would answer with a refusal. So the only task that is refused is an answer that nothing
-- waits for.
import Dialogue.Proofs.Run.Walks
import Dialogue.Run.Bench

namespace Dialogue

/-! ## Faults that refuse -/

/-- Trouble with a flow as a whole. That none is selected is no such trouble, as the service selects
one. -/
def Fault.Refuses : Fault → Prop
  | .flow .noneSelected => False
  | .flow _ => True
  | _ => False

def Outcome.Refuses {α : Type} : Outcome α → Prop
  | .ok _ => False
  | .error fault => fault.Refuses

def Halt.Refuses : Halt → Prop
  | .failed fault => fault.Refuses
  | _ => False

def Ending.Refuses : Ending → Prop
  | .started => False
  | .answered accepted => accepted = false
  | .failed fault => fault.Refuses

theorem Clock.spanOf_not_refuses (seconds : Float) : ¬ (Clock.spanOf seconds).Refuses := by
  unfold Clock.spanOf
  split <;> exact not_false

theorem Halt.pause_not_refuses {span : Outcome Nat} (h : ¬ span.Refuses) (stage : Stage) :
    ¬ (Halt.pause span stage).Refuses := by
  cases span with
  | ok span => exact not_false
  | error fault => exact h

/-! ## Effects -/

/-- No fault of the effect refuses. -/
structure Effect.NeverRefuses (e : Effect) : Prop where
  span : ∀ n channel span, e.span n channel = some span → ¬ span.Refuses
  act : ∀ n channel dice, ¬ (e.act n channel dice).1.Refuses

/-- No effect of the lab refuses. -/
def Lab.NeverRefuses (lab : Lab) : Prop := ∀ k, (lab.effects k).NeverRefuses

theorem SimulationSettings.span_not_refuses (s : SimulationSettings) (seconds : Float) :
    ¬ (s.span seconds).Refuses :=
  Clock.spanOf_not_refuses _

theorem Effect.after_neverRefuses {span : Outcome Nat} (h : ¬ span.Refuses)
    (act : Node → Option Channel → Dice → Bool × String × Dice) :
    (Effect.after span act).NeverRefuses where
  span n channel found hfound := by
    cases hfound
    exact h
  act n channel dice := not_false

theorem Effects.simulated_neverRefuses (s : SimulationSettings) (p : Palette) (k : NodeKind) :
    (Effects.simulated s p k).NeverRefuses := by
  unfold Effects.simulated Effect.apiCall Effect.assistant Effect.channelSend Effect.ticket Effect.crm
  cases k with
  | transfer =>
    refine ⟨fun n channel found hfound => ?_, fun n channel dice => not_false⟩
    cases hfound
    exact s.span_not_refuses _
  | apiCall => exact Effect.after_neverRefuses (s.span_not_refuses s.apiCall) _
  | assistant => exact Effect.after_neverRefuses (s.span_not_refuses s.assistant) _
  | channel _ => exact Effect.after_neverRefuses (s.span_not_refuses s.channelSend) _
  | ticket _ => exact Effect.after_neverRefuses (s.span_not_refuses s.ticket) _
  | crm _ => exact Effect.after_neverRefuses (s.span_not_refuses s.crm) _
  | start | message | condition | dtmf | finish =>
    exact ⟨fun n channel found hfound => (nomatch hfound), fun n channel dice => not_false⟩

/-! ## Walks -/

namespace Session

variable {lab : Lab} {s : Session} {generation : Nat}

theorem not_refuses_of_lookAhead {next : Flow → Option Node} {fault : Fault}
    (h : s.lookAhead next = .error fault) : ¬ fault.Refuses := by
  unfold lookAhead at h
  split at h
  · cases h
  · cases h
    exact not_false

theorem enter_not_refuses (lab : Lab) (s : Session) (n : Node) : ¬ (s.enter lab n).2.Refuses := by
  unfold enter
  split
  · exact not_false
  · exact Halt.pause_not_refuses (lab.settings.span_not_refuses _) _

/-- What breaks off a walk does not refuse. -/
theorem not_refuses_of_breaks (h : lab.NeverRefuses) {r : Run} {fault : Fault}
    (hbreaks : lab.Breaks r fault) : ¬ fault.Refuses := by
  cases hbreaks with
  | @effect n channel dice dice' fault hact =>
    have hnot := (h n.kind).act n channel dice
    rw [hact] at hnot
    exact hnot
  | lost => exact not_false

theorem walks_not_refuses (h : lab.NeverRefuses) {stage : Stage} {r : Stretch}
    (hr : Walks lab s stage r) : ¬ r.2.Refuses := by
  cases hr with
  | pauses ht hstage hlater =>
    refine Halt.pause_not_refuses ?_ _
    cases hlater with
    | spoken => exact lab.settings.span_not_refuses _
    | inEffect hleaves hspan => exact (h _).span _ _ _ hspan
    | closing => exact lab.settings.span_not_refuses _
  | breaks ht hwhy => exact not_refuses_of_breaks h hwhy
  | enters | connects => exact enter_not_refuses lab _ _
  | stops | ends | closes | finishes | asksForText | asksForKeys => exact not_false

theorem resume_not_refuses (h : lab.NeverRefuses) (s : Session) (generation : Nat) (stage : Stage) :
    ¬ (s.resume lab generation stage).2.Refuses := by
  by_cases hcurrent : s.generation = generation
  · subst hcurrent
    exact walks_not_refuses h (walks_resume lab s stage)
  · rw [resume_stale lab hcurrent]
    cases hfault : stage.fault? lab s.dice with
    | none => exact not_false
    | some fault => exact not_refuses_of_breaks h (.of_fault? s.run hfault)

theorem opens_not_refuses {f : Flow} {channel : Channel} {r : Stretch}
    (hr : Opens lab s f channel r) : ¬ r.2.Refuses := by
  cases hr with
  | lost => exact not_false
  | calls => exact Halt.pause_not_refuses (lab.settings.span_not_refuses _) _
  | enters => exact enter_not_refuses lab _ _

theorem taken_not_refuses {r : Stretch} (hr : IsTaken lab s r) : ¬ r.2.Refuses := by
  obtain ⟨n, text, stage, -, -, notice, -, rfl⟩ := hr
  exact Halt.pause_not_refuses (lab.settings.span_not_refuses _) _

/-! ## Late walks

They fail because the time cannot be told, or as walks in time do. -/

theorem leaveLate_not_refuses (lab : Lab) (s : Session) (generation : Nat)
    (next : Flow → Option Node) : ¬ (s.leaveLate lab generation next).2.Refuses := by
  unfold leaveLate
  split
  · rename_i hlook
    exact not_refuses_of_lookAhead hlook
  · split
    · split
      · exact not_false
      · unfold deadEndLate
        split <;> exact not_false
    · exact not_false

theorem resumeLate_not_refuses (h : lab.NeverRefuses) (s : Session) (generation : Nat)
    (stage : Stage) : ¬ (s.resumeLate lab generation stage).2.Refuses := by
  have hvisit : ∀ n, ¬ (s.visitLate lab generation n).2.Refuses := by
    intro n
    unfold visitLate
    split
    · exact leaveLate_not_refuses lab s _ _
    all_goals exact not_false
  unfold resumeLate
  split
  · rename_i n channel
    have hact := (h n.kind).act n channel s.dice
    unfold afterEffectLate
    dsimp only
    split
    · rename_i heq
      rw [heq] at hact
      exact hact
    · split <;> exact not_false
  · split
    · exact not_false
    · split
      · exact hvisit _
      · exact leaveLate_not_refuses lab s _ _
      · unfold hangUpLate
        split <;> exact not_false
      all_goals exact not_false

theorem tryResume_not_refuses (h : lab.NeverRefuses) (s : Session) (generation : Nat)
    (stage : Stage) : ¬ (s.tryResume lab generation stage).2.Refuses := by
  unfold tryResume
  split
  · exact resumeLate_not_refuses h s _ _
  · exact resume_not_refuses h s _ _

theorem tryStart_not_refuses (lab : Lab) (s : Session) (f : Flow) (channel : Channel) :
    ¬ (s.tryStart lab f channel).2.Refuses := by
  unfold tryStart
  split
  · exact not_false
  · split
    · exact not_false
    · exact opens_not_refuses (opens_start lab s f channel)

theorem tryAnswer_not_refuses {answer : Option Stretch} (h : ∀ r, answer = some r → ¬ r.2.Refuses)
    {r : Stretch} (hr : s.tryAnswer answer = some r) : ¬ r.2.Refuses := by
  unfold tryAnswer at hr
  split at hr
  · obtain ⟨r', -, rfl⟩ := Option.map_eq_some_iff.mp hr
    exact not_false
  · exact h r hr

/-- What is not hung up stays as it is. -/
theorem tryEndCall_eq_self (h : s.tryEndCall.2 = .ok false) : s.tryEndCall.1 = s := by
  unfold tryEndCall at h ⊢
  split
  · rename_i hlate
    rw [if_pos hlate] at h
    unfold endCallLate at h ⊢
    split
    · rename_i hcan
      rw [if_pos hcan] at h
      cases h
    · rfl
  · rename_i hintime
    rw [if_neg hintime] at h
    have hcannot : s.canHangUp = false := Except.ok.inj h
    exact if_neg (by simp [hcannot])

theorem tryEndCall_not_refuses (s : Session) : ¬ s.tryEndCall.2.Refuses := by
  unfold tryEndCall endCallLate
  split
  · split <;> exact not_false
  · exact not_false

end Session

/-! ## Tasks -/

namespace Bench

variable {lab : Lab} {b : Bench}

/-- None of the endings that are to be told refuses. -/
def NeverRefuses (b : Bench) : Prop := ∀ x ∈ b.endings, ¬ x.2.Refuses

theorem NeverRefuses.file (h : b.NeverRefuses) (task : Nat) (errand : Errand) (generation : Nat)
    {r : Stretch} (hr : ¬ r.2.Refuses) : (b.file task errand generation r).NeverRefuses := by
  obtain ⟨session, halt⟩ := r
  cases halt with
  | asleep span stage => exact h
  | done =>
    refine List.forall_mem_append.mpr ⟨h, List.forall_mem_singleton.mpr ?_⟩
    cases errand with
    | start => exact not_false
    | answer => exact Bool.noConfusion
  | failed fault => exact List.forall_mem_append.mpr ⟨h, List.forall_mem_singleton.mpr hr⟩

theorem NeverRefuses.wakeFirst (h : b.NeverRefuses) (hlab : lab.NeverRefuses) :
    (b.wakeFirst lab).NeverRefuses := by
  unfold Bench.wakeFirst
  split
  · exact h
  · rename_i x rest hsleepers
    have hwoken : NeverRefuses { b with
        session := { b.session with now := max b.session.now x.due }, sleepers := rest } := h
    exact hwoken.file _ _ _ (Session.tryResume_not_refuses hlab _ _ _)

theorem NeverRefuses.finishTask (h : b.NeverRefuses) (hlab : lab.NeverRefuses) (task times : Nat) :
    (b.finishTask lab task times).NeverRefuses := by
  induction times generalizing b with
  | zero => exact h
  | succ times ih =>
    rw [Bench.finishTask]
    split
    · exact ih (h.wakeFirst hlab)
    · exact h

theorem NeverRefuses.begin (h : b.NeverRefuses) (hlab : lab.NeverRefuses) (errand : Errand)
    (generation : Nat) (wait : Bool) {r : Stretch} (hr : ¬ r.2.Refuses) :
    (b.begin lab errand generation wait r).NeverRefuses := by
  have hcounted : NeverRefuses { b with tasks := b.tasks + 1 } := h
  have hfiled := hcounted.file (b.tasks + 1) errand generation hr
  unfold Bench.begin
  dsimp only
  split
  · exact hfiled.finishTask hlab _ _
  · exact hfiled

theorem NeverRefuses.advance (h : b.NeverRefuses) (hlab : lab.NeverRefuses) (us : Int) :
    (b.advance lab us).NeverRefuses := by
  have hwoken : ∀ (time : Int) (times : Nat) (b : Bench), b.NeverRefuses →
      (b.wakeDue lab time times).NeverRefuses := by
    intro time times
    -- Each sleeper that wakes leaves another bench, so this is shown of all of them.
    induction times with
    | zero => exact fun b h => h
    | succ times ih =>
      intro b h
      rw [wakeDue]
      split
      · exact h
      · split
        · exact ih _ (h.wakeFirst hlab)
        · exact h
  exact hwoken _ _ b h

theorem NeverRefuses.start (h : b.NeverRefuses) (hlab : lab.NeverRefuses) (f : Flow)
    (channel : Channel) (wait : Bool) : (b.start lab f channel wait).NeverRefuses :=
  h.begin hlab _ _ _ (Session.tryStart_not_refuses lab _ f channel)

/-- An answer is taken up by a task that does not refuse, or else it is turned down at once and leaves
everything as it was. -/
theorem NeverRefuses.submit (h : b.NeverRefuses) (hlab : lab.NeverRefuses) (wait : Bool)
    {answer : Option Stretch} (hanswer : ∀ r, answer = some r → ¬ r.2.Refuses) :
    (b.submit lab wait answer).NeverRefuses ∨
      b.submit lab wait answer = { b with
        tasks := b.tasks + 1
        endings := b.endings ++ [(b.tasks + 1, .answered false)] } := by
  unfold Bench.submit
  split
  · rename_i r hr
    exact .inl (h.begin hlab _ _ _ (Session.tryAnswer_not_refuses hanswer hr))
  · exact .inr rfl

end Bench

end Dialogue
