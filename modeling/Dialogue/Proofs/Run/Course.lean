-- Every run takes the tour of its flow. What a run has still ahead of it is a tour, by the answers
-- to come, and each stride visits the next part of it.
import Dialogue.Proofs.Run.Order
import Dialogue.Proofs.Run.Tour
import Mathlib.Algebra.GroupWithZero.Nat

namespace Dialogue

/-! ## The course of a history -/

/-- What a part of a history is to a run: the answers that are given, the ids of the nodes that are
visited, and how often the task of the run is woken. -/
structure Course where
  answers : List String := []
  visits : List Json := []
  steps : Nat := 0

def Course.append (c c' : Course) : Course :=
  ⟨c.answers ++ c'.answers, c.visits ++ c'.visits, c.steps + c'.steps⟩

/-- The node that the run has come to since it had visited so many. -/
def Stance.arrivals (a : Stance) (visited : Nat) : List Json :=
  if visited < a.visited then [a.current] else []

def Bearing.course (visits : List Json) : Bearing → Course
  | nothing => { visits }
  | answer text => { answers := [text], visits }
  | step => { visits, steps := 1 }

def Bench.course (lab : Lab) (b : Bench) : List (Moment × Happening) → Course
  | [] => {}
  | h :: later =>
    let b' := b.happen lab h.1 h.2
    let visits := b'.session.run.stance.arrivals b.session.run.stats.visited
    ((b.bearing h.2).course visits).append (b'.course lab later)

/-! ## What a run has ahead -/

/-- How often a task is woken at most before it leaves the node of its stage. -/
def Stage.weight : Stage → Nat
  | announced _ => 2
  | _ => 1

theorem Stage.weight_pos (stage : Stage) : 0 < stage.weight := by
  cases stage <;> exact Nat.succ_pos _

theorem Stage.weight_le (stage : Stage) : stage.weight ≤ 2 := by
  cases stage <;> simp [weight]

theorem Stage.IsLater.weight_eq {n : Node} {stage : Stage} (h : stage.IsLater n) :
    stage.weight = 1 := by
  cases h <;> rfl

/-- A run beside the stages of the tasks that may go on with it, and what it has ahead by the
answers to come. -/
structure Outlook where
  stance : Stance
  stages : List Stage
  ahead : List String → Tour

namespace Outlook

/-- How often the task of the run can still be woken. -/
def load (lab : Lab) (o : Outlook) : Nat :=
  2 * (lab.settings.maxSteps - o.stance.steps) + (if o.stance.waiting.isSome then 1 else 0)
    + (o.stages.map Stage.weight).sum

/-- The run has ahead what its flow prescribes. Where its task broke off at a pause it could have
had anything ahead. -/
inductive IsTrue (lab : Lab) (f : Flow) : Outlook → Prop
  | walks {a : Stance} {stage : Stage} {ahead : List String → Tour} (hstate : a.state = .running)
      (hwaiting : a.waiting = none)
      (hahead : ∀ answers, ahead answers = stage.tour f (lab.settings.maxSteps - a.steps) answers) :
      IsTrue lab f ⟨a, [stage], ahead⟩
  | waits {a : Stance} {n : Node} {ahead : List String → Tour}
      (hkind : n.kind = .condition ∨ n.kind = .dtmf)
      (hstate : a.state = if n.kind = .condition then .waitingForText else .waitingForKeys)
      (hwaiting : a.waiting = some n)
      (hahead : ∀ answers, ahead answers = f.tourPast (lab.settings.maxSteps - a.steps) n answers) :
      IsTrue lab f ⟨a, [], ahead⟩
  | ended {a : Stance} {result : RunResult} {ahead : List String → Tour} (hstate : a.state = .ended)
      (hwaiting : a.waiting = none) (hresult : a.result = some result)
      (hahead : ∀ answers, ahead answers = ⟨[], .ended result⟩) :
      IsTrue lab f ⟨a, [], ahead⟩
  | adrift {a : Stance} {ahead : List String → Tour} (hpauses : ¬ lab.PausesReturn)
      (hstate : a.state = .running) (hwaiting : a.waiting = none) :
      IsTrue lab f ⟨a, [], ahead⟩

/-- A course that leads from one outlook to another: the run visits the next part of what it had
ahead. -/
structure Leads (lab : Lab) (o : Outlook) (c : Course) (o' : Outlook) : Prop where
  tour : ∀ answers, o.ahead (c.answers ++ answers) = (o'.ahead answers).after c.visits
  count : o.stance.visited + c.visits.length = o'.stance.visited
  load : o'.load lab + c.steps ≤ o.load lab

variable {lab : Lab} {f : Flow} {o o₁ o₂ : Outlook} {c c' : Course}

theorem Leads.refl (lab : Lab) (o : Outlook) : Leads lab o {} o :=
  ⟨fun _ => rfl, rfl, Nat.le_refl _⟩

theorem Leads.trans (h : Leads lab o c o₁) (h' : Leads lab o₁ c' o₂) :
    Leads lab o (c.append c') o₂ := by
  have hload := h.load
  have hload' := h'.load
  have hcount := h.count
  have hcount' := h'.count
  refine ⟨fun answers => ?_, ?_, ?_⟩
  · unfold Course.append
    dsimp only
    rw [List.append_assoc, h.tour, h'.tour]
    simp [Tour.after]
  · unfold Course.append
    dsimp only
    rw [List.length_append]
    omega
  · unfold Course.append
    dsimp only
    omega

theorem IsTrue.length_le (h : o.IsTrue lab f) : o.stages.length ≤ 1 := by
  cases h <;> simp

/-- Where a node waits, no task may go on. -/
theorem IsTrue.none_of_waiting (h : o.IsTrue lab f) {n : Node}
    (hn : o.stance.waiting = some n) : o.stages = [] := by
  cases h with
  | walks hstate hwaiting => cases hwaiting.symm.trans hn
  | _ => rfl

variable {a a' : Stance} {stage : Stage} {halt : Halt} {ahead ahead' : List String → Tour}

theorem isTrue_of_rests (hstate : a.state = .running) (hwaiting : a.waiting = none)
    (hhalt : halt.RestsUntil lab stage) :
    IsTrue lab f ⟨a, halt.stages, stage.tour f (lab.settings.maxSteps - a.steps)⟩ := by
  cases hhalt with
  | asleep span => exact .walks hstate hwaiting fun _ => rfl
  | failed hpauses => exact .adrift hpauses hstate hwaiting

theorem sum_weight_le (h : halt.RestsUntil lab stage) :
    (halt.stages.map Stage.weight).sum ≤ stage.weight := by
  cases h <;> simp [Halt.stages]

theorem arrivals_self (h : a'.visited = a.visited) : a'.arrivals a.visited = [] := by
  simp [Stance.arrivals, h]

/-- A course leads from the outlook to a stance, where again the run has ahead what its flow
prescribes. -/
def Reaches (lab : Lab) (f : Flow) (o : Outlook) (c : Course) (a' : Stance)
    (stages' : List Stage) : Prop :=
  ∃ ahead', IsTrue lab f ⟨a', stages', ahead'⟩ ∧ Leads lab o c ⟨a', stages', ahead'⟩

/-- A run that comes to a node makes the first visit of the tour from there. -/
theorem reaches_arrive {n : Node} (hstate : a.state = .running) (hwaiting : a.waiting = none)
    (hmore : a.steps < lab.settings.maxSteps)
    (hahead : ∀ answers, ahead answers = f.tour (lab.settings.maxSteps - a.steps) (some n) answers)
    (hhalt : halt.RestsUntil lab (.announced n)) :
    Reaches lab f ⟨a, [stage], ahead⟩
      { visits := (a.arrive n).arrivals a.visited, steps := 1 } (a.arrive n) halt.stages := by
  have hleft : lab.settings.maxSteps - a.steps =
      lab.settings.maxSteps - (a.steps + 1) + 1 := by omega
  have hvisit : (a.arrive n).arrivals a.visited = [n.id] := by
    simp [Stance.arrivals, Stance.arrive]
  have hsum := sum_weight_le hhalt
  have hmost := (Stage.announced n).weight_le
  have hweight := stage.weight_pos
  refine ⟨_, isTrue_of_rests hstate hwaiting hhalt, fun answers => ?_, ?_, ?_⟩
  · dsimp only
    rw [List.nil_append, hahead, hleft, Flow.tour_succ, hvisit]
    rfl
  · rw [hvisit]
    rfl
  · -- One visit less is left, which pays for both waits at the new node.
    simp only [load, Stance.arrive, hwaiting, List.map_cons, List.map_nil, List.sum_cons,
      List.sum_nil]
    omega

/-- A run that stays at its node has the same ahead, at a stage that lasts one wait. -/
theorem reaches_later {n : Node} {later : Stage} (hstate : a.state = .running)
    (hwaiting : a.waiting = none)
    (hahead : ∀ answers, ahead answers = f.tourPast (lab.settings.maxSteps - a.steps) n answers)
    (hlater : later.IsLater n) (hhalt : halt.RestsUntil lab later) :
    Reaches lab f ⟨a, [.announced n], ahead⟩
      { visits := a.arrivals a.visited, steps := 1 } a halt.stages := by
  have hsum := sum_weight_le hhalt
  have hone := hlater.weight_eq
  rw [arrivals_self rfl]
  refine ⟨_, isTrue_of_rests hstate hwaiting hhalt, fun answers => ?_, rfl, ?_⟩
  · dsimp only
    rw [List.nil_append, hahead, Stage.tour_of_isLater hlater]
    rfl
  · simp only [load, List.map_cons, List.map_nil, List.sum_cons, List.sum_nil, Stage.weight]
    omega

/-- A run that waits at its node has the same ahead, when it is answered. -/
theorem reaches_wait {n : Node} (hwaiting : a.waiting = none)
    (hkind : n.kind = .condition ∨ n.kind = .dtmf)
    (hahead : ∀ answers, ahead answers = f.tourPast (lab.settings.maxSteps - a.steps) n answers) :
    Reaches lab f ⟨a, [.announced n], ahead⟩
      { visits := (a.waitAt n).arrivals a.visited, steps := 1 } (a.waitAt n) [] := by
  have hnone : (a.waitAt n).arrivals a.visited = [] := arrivals_self rfl
  rw [hnone]
  refine ⟨_, .waits hkind rfl rfl fun _ => rfl, hahead, rfl, ?_⟩
  simp [load, Stance.waitAt, hwaiting, Stage.weight]

/-- A run that ends has nothing ahead any more. -/
theorem reaches_finish {result : RunResult} (hwaiting : a.waiting = none)
    (hahead : ∀ answers, ahead answers = ⟨[], .ended result⟩) :
    Reaches lab f ⟨a, [stage], ahead⟩
      { visits := (a.finished result).arrivals a.visited, steps := 1 } (a.finished result) [] := by
  have hweight := stage.weight_pos
  have hnone : (a.finished result).arrivals a.visited = [] := arrivals_self rfl
  rw [hnone]
  refine ⟨_, .ended rfl hwaiting rfl fun _ => rfl, hahead, rfl, ?_⟩
  simp only [load, Stance.finished, hwaiting, List.map_cons, List.map_nil, List.sum_cons,
    List.sum_nil]
  omega

end Outlook

/-! ## Strides -/

/-- What a task comes to that may go on is what its run had ahead. -/
theorem Session.Moves.reaches {lab : Lab} {s : Session} {stage : Stage} {r : Stretch} {f : Flow}
    {ahead : List String → Tour} (hr : Moves lab s stage r) (heffects : lab.EffectsReturn)
    (hflow : s.run.flow = some f) (h : Outlook.IsTrue lab f ⟨s.run.stance, [stage], ahead⟩) :
    Outlook.Reaches lab f ⟨s.run.stance, [stage], ahead⟩
      { visits := r.1.run.stance.arrivals s.run.stance.visited, steps := 1 } r.1.run.stance
      r.2.stages := by
  cases h with
  | walks hstate hwaiting hahead =>
    cases hr with
    | arrives hleaves hn hmore hcalm hstance hhalt =>
      dsimp only
      rw [hstance]
      refine Outlook.reaches_arrive hstate hwaiting hmore (fun answers => ?_) hhalt
      rw [hahead, Stage.tour_of_leaves hleaves, ← hflow, hn]
    | cut hleaves hn hmost hcalm hstance =>
      have hsteps : s.run.stance.steps = s.run.steps := rfl
      dsimp only
      rw [hstance]
      refine Outlook.reaches_finish hwaiting fun answers => ?_
      rw [hahead, Stage.tour_of_leaves hleaves, ← hflow, hn, hsteps, Nat.sub_eq_zero_of_le hmost,
        Flow.tour_zero]
    | ends hleaves hnone hcalm hstance =>
      dsimp only
      rw [hstance]
      refine Outlook.reaches_finish hwaiting fun answers => ?_
      rw [hahead, Stage.tour_of_leaves hleaves, ← hflow, hnone, Flow.tour_none]
    | closes hcloses hcalm hstance =>
      dsimp only
      rw [hstance]
      refine Outlook.reaches_finish hwaiting fun answers => ?_
      rw [hahead, Stage.tour_of_closes hcloses]
    | stays hstage hlater hquiet hhalt =>
      subst hstage
      dsimp only
      rw [hquiet.stance]
      exact Outlook.reaches_later hstate hwaiting hahead hlater hhalt
    | waits hstage hkind hcalm hstance =>
      subst hstage
      dsimp only
      rw [hstance]
      exact Outlook.reaches_wait hwaiting hkind hahead
    | breaks hwhy hquiet =>
      rcases hwhy with hwhy | hwhy
      · exact absurd heffects hwhy
      · cases hflow.symm.trans hwhy
    | idles hidle hquiet => exact absurd hstate hidle

theorem Session.Moves.flow {lab : Lab} {s : Session} {stage : Stage} {r : Stretch}
    (hr : Moves lab s stage r) : r.1.run.flow = s.run.flow := by
  cases hr with
  | arrives hleaves hn hmore hcalm hstance => exact congrArg Stance.flow hstance
  | cut hleaves hn hmost hcalm hstance => exact congrArg Stance.flow hstance
  | ends hleaves hnone hcalm hstance => exact congrArg Stance.flow hstance
  | closes hcloses hcalm hstance => exact congrArg Stance.flow hstance
  | stays hstage hlater hquiet => exact stance_flow hquiet
  | waits hstage hkind hcalm hstance => exact congrArg Stance.flow hstance
  | breaks hwhy hquiet => exact stance_flow hquiet
  | idles hidle hquiet => exact stance_flow hquiet

/-- The answer that a node takes is the one that its tour goes on with. -/
theorem Stage.IsAnswerAt.tour_eq {n : Node} {text : String} {state : RunState} {stage : Stage}
    (h : stage.IsAnswerAt n text state) (hkind : n.kind = .condition ∨ n.kind = .dtmf)
    (hstate : state = if n.kind = .condition then .waitingForText else .waitingForKeys) (f : Flow)
    (left : Nat) (answers : List String) :
    f.tourPast left n (text :: answers) = stage.tour f left answers ∧ stage.weight = 1 := by
  cases h with
  | weighing =>
    have hcondition : n.kind = .condition := by
      by_contra hother
      rw [if_neg hother] at hstate
      cases hstate
    exact ⟨Flow.tourPast_condition hcondition text answers, rfl⟩
  | keyed digits =>
    have hdtmf : n.kind = .dtmf := by
      rcases hkind with hcondition | hdtmf
      · rw [if_pos hcondition] at hstate
        cases hstate
      · exact hdtmf
    exact ⟨Flow.tourPast_dtmf hdtmf text digits answers, rfl⟩

theorem Session.Answers.reaches {lab : Lab} {s : Session} {n : Node} {text : String}
    {stage : Stage} {r : Stretch} {f : Flow} {ahead : List String → Tour}
    (hr : Answers lab s n stage r) (hat : stage.IsAnswerAt n text s.run.state)
    (h : Outlook.IsTrue lab f ⟨s.run.stance, [], ahead⟩) :
    Outlook.Reaches lab f ⟨s.run.stance, [], ahead⟩
      { answers := [text], visits := r.1.run.stance.arrivals s.run.stance.visited }
      r.1.run.stance r.2.stages := by
  have hwaits : s.run.stance.waiting = some n := hr.waiting
  have htaken : r.1.run.stance = s.run.stance.takeUp := hr.quiet.stance
  have hnone : s.run.stance.takeUp.arrivals s.run.stance.visited = [] := Outlook.arrivals_self rfl
  have hsum := Outlook.sum_weight_le hr.halt
  rw [htaken, hnone]
  cases h with
  | waits hkind hstate hwaiting hahead =>
    cases hwaiting.symm.trans hwaits
    have htour := hat.tour_eq hkind hstate f
    refine ⟨_, Outlook.isTrue_of_rests rfl rfl hr.halt, fun answers => ?_, rfl, ?_⟩
    · dsimp only
      rw [hahead, List.singleton_append, (htour _ _).1]
      rfl
    · rw [(htour 0 []).2] at hsum
      simp only [Outlook.load, Stance.takeUp, hwaits, Option.isSome_some, Option.isSome_none,
        List.map_nil, List.sum_nil]
      simpa using hsum
  | ended hstate hwaiting => cases hwaiting.symm.trans hwaits
  | adrift hpauses hstate hwaiting => cases hwaiting.symm.trans hwaits

/-! ## From the start -/

/-- The run of a flow when it has just begun, with the whole tour ahead. -/
def Flow.outlook (f : Flow) (lab : Lab) (start : Node) : Outlook :=
  ⟨f.outset, [.connecting start], f.tour lab.settings.maxSteps (some start)⟩

theorem Flow.outlook_isTrue (f : Flow) (lab : Lab) (start : Node) :
    (f.outlook lab start).IsTrue lab f :=
  .walks rfl rfl fun _ => rfl

/-- The start comes to the start node, or rests on the way there. -/
theorem Session.Starts.reaches {lab : Lab} {s : Session} {f : Flow} {channel : Channel}
    {r : Stretch} {start : Node} (hr : Starts lab s f channel r)
    (hstart : f.startNode? = some start) (heffects : lab.EffectsReturn) :
    Outlook.Reaches lab f (f.outlook lab start) { visits := r.1.run.stance.arrivals 0 }
      r.1.run.stance r.2.stages := by
  cases hr with
  | lost hnone => cases hstart.symm.trans hnone
  | @calls t halt start' hstart' hquiet hhalt =>
    cases hstart.symm.trans hstart'
    have hsum := Outlook.sum_weight_le hhalt
    have hnone : f.outset.arrivals 0 = [] := rfl
    have hwaiting : f.outset.waiting = none := rfl
    dsimp only
    rw [hquiet.stance, stance_atOutset, hnone]
    refine ⟨_, Outlook.isTrue_of_rests rfl rfl hhalt, fun _ => rfl, rfl, ?_⟩
    simp only [Outlook.load, Flow.outlook, hwaiting, List.map_cons, List.map_nil, List.sum_cons,
      List.sum_nil]
    omega
  | @goes r start' hstart' hmoves =>
    cases hstart.symm.trans hstart'
    obtain ⟨ahead', htrue, hleads⟩ := hmoves.reaches heffects rfl (f.outlook_isTrue lab start)
    exact ⟨ahead', htrue, hleads.tour, hleads.count, Nat.le_of_succ_le hleads.load⟩

theorem Session.Starts.flow {lab : Lab} {s : Session} {f : Flow} {channel : Channel} {r : Stretch}
    (hr : Starts lab s f channel r) : r.1.run.flow = some f := by
  cases hr with
  | lost hnone hcalm hstance => exact congrArg Stance.flow hstance
  | calls hstart hquiet => exact stance_flow hquiet
  | goes hstart hmoves => exact hmoves.flow

/-! ## Whole courses -/

namespace Bench

def outlook (b : Bench) (ahead : List String → Tour) : Outlook :=
  ⟨b.session.run.stance, b.stages, ahead⟩

/-- The bench is on the tour of a flow, with this ahead. -/
structure IsOn (lab : Lab) (f : Flow) (b : Bench) (ahead : List String → Tour) : Prop where
  aged : b.IsAged
  flow : b.session.run.flow = some f
  outlook : (b.outlook ahead).IsTrue lab f

variable {lab : Lab} {f : Flow} {b b' : Bench} {ahead : List String → Tour}

/-- A stretch of the tour is filed. -/
theorem isOn_files {r : Stretch} {o : Outlook} {c : Course} (haged : b'.IsAged)
    (hfiles : Files r b') (hflow : r.1.run.flow = some f)
    (hrun : o.Reaches lab f c r.1.run.stance r.2.stages) :
    ∃ ahead', b'.IsOn lab f ahead' ∧ o.Leads lab c (b'.outlook ahead') := by
  obtain ⟨ahead', htrue, hleads⟩ := hrun
  have houtlook : b'.outlook ahead' = ⟨r.1.run.stance, r.2.stages, ahead'⟩ := by
    unfold outlook
    rw [hfiles.session, hfiles.stages]
  rw [← houtlook] at htrue hleads
  exact ⟨ahead', ⟨haged, by rwa [hfiles.session], htrue⟩, hleads⟩

/-- Every stride leads on along the tour. -/
theorem Strides.leads {bearing : Bearing} (h : Strides lab b bearing b')
    (heffects : lab.EffectsReturn) (hb : b.IsOn lab f ahead) :
    ∃ ahead', b'.IsOn lab f ahead' ∧ (b.outlook ahead).Leads lab
      (bearing.course (b'.session.run.stance.arrivals b.session.run.stats.visited))
      (b'.outlook ahead') := by
  obtain ⟨haged, -⟩ := h.ages hb.aged
  have htrue := hb.outlook
  have hadvances := h.advances htrue.length_le fun n hn => htrue.none_of_waiting hn
  cases hadvances with
  | rests hstance hstages =>
    have houtlook : b'.outlook ahead = b.outlook ahead := by
      unfold outlook
      rw [hstance, hstages]
    have hnone : b'.session.run.stance.arrivals b.session.run.stats.visited = [] := by
      rw [hstance]
      exact Outlook.arrivals_self rfl
    refine ⟨ahead, ⟨haged, (congrArg Stance.flow hstance).trans hb.flow, ?_⟩, ?_⟩
    · rw [houtlook]
      exact htrue
    · rw [houtlook, hnone]
      exact .refl _ _
  | answers hanswers hat hstages hfiles =>
    have hbefore : b.outlook ahead = ⟨b.session.run.stance, [], ahead⟩ := by
      unfold outlook
      rw [hstages]
    have hstance := congrArg (·.run.stance) hfiles.session
    have hflow := (Session.stance_flow hanswers.quiet).trans hb.flow
    rw [hbefore] at htrue ⊢
    rw [hstance]
    exact isOn_files haged hfiles hflow (hanswers.reaches hat htrue)
  | @goesOn _ stage r hmoves hstages hfiles =>
    have hbefore : b.outlook ahead = ⟨b.session.run.stance, [stage], ahead⟩ := by
      unfold outlook
      rw [hstages]
    have hstance := congrArg (·.run.stance) hfiles.session
    rw [hbefore] at htrue ⊢
    rw [hstance]
    exact isOn_files haged hfiles (hmoves.flow.trans hb.flow)
      (hmoves.reaches heffects hb.flow htrue)

/-- Whatever happens within the run, its whole course leads on along the tour. -/
theorem replay_leads (heffects : lab.EffectsReturn) (hb : b.IsOn lab f ahead)
    (later : List (Moment × Happening)) (hwithin : ∀ h ∈ later, h.2.IsWithin) :
    ∃ ahead', (b.replay lab later).IsOn lab f ahead' ∧
      (b.outlook ahead).Leads lab (b.course lab later)
        ((b.replay lab later).outlook ahead') := by
  -- What is ahead changes with every stride, so the induction holds for all of it.
  induction later generalizing b ahead with
  | nil => exact ⟨ahead, hb, .refl _ _⟩
  | cons h rest ih =>
    have hnow : (b.atMoment h.1).IsOn lab f ahead :=
      ⟨⟨hb.aged.passive, hb.aged.old⟩, hb.flow, hb.outlook⟩
    have hstride : Strides lab (b.atMoment h.1) (b.bearing h.2) (b.happen lab h.1 h.2) :=
      strides_happen hb.aged.passive h.1 (hwithin h (by simp))
    obtain ⟨ahead₁, hon, hleads⟩ := hstride.leads heffects hnow
    obtain ⟨ahead', hend, hrest⟩ := ih hon fun h hh => hwithin h (by simp [hh])
    exact ⟨ahead', hend, hleads.trans hrest⟩

/-- The start of a run leads to the begin of its tour, whatever has become of the bench before. -/
theorem start_leads (haged : b.IsAged) (now : Moment) (channel : Channel) {start : Node}
    (hstart : f.startNode? = some start) (hroom : f.copyDepth < lab.room.steps)
    (heffects : lab.EffectsReturn) :
    ∃ ahead, (b.happen lab now (.start f channel)).IsOn lab f ahead ∧
      (f.outlook lab start).Leads lab
        { visits := (b.happen lab now (.start f channel)).session.run.stance.arrivals 0 }
        ((b.happen lab now (.start f channel)).outlook ahead) := by
  have hpassive : (b.atMoment now).session.IsPassive := haged.passive
  have hbegun := (happen_ages lab haged now (.start f channel)).1
  change ((b.atMoment now).start lab f channel false).IsAged at hbegun
  change ∃ ahead, ((b.atMoment now).start lab f channel false).IsOn lab f ahead ∧
    (f.outlook lab start).Leads lab
      { visits := ((b.atMoment now).start lab f channel false).session.run.stance.arrivals 0 }
      (((b.atMoment now).start lab f channel false).outlook ahead)
  rcases start_spec lab hpassive now.2 f channel with ⟨hdeep, -⟩ | ⟨-, r, hr, hfile⟩
  · omega
  · have hfiles : Files r ((b.atMoment now).start lab f channel false) := by
      rw [hfile]
      refine files_file (b := { b.atMoment now with tasks := b.tasks + 1 }) (b.tasks + 1) .start
        fun x hx => ?_
      have hold := haged.old x hx
      have hrise : r.1.generation = b.session.generation + 1 := hr.calm.generation
      omega
    have hstance := congrArg (·.run.stance) hfiles.session
    rw [hstance]
    exact isOn_files hbegun hfiles hr.flow (hr.reaches hstart heffects)

end Bench

/-! ## The tour of a run -/

/-- How a run stands whose tour has come to rest. -/
def Run.IsAtRest (r : Run) : Rest → Prop
  | .ended result => r.state = .ended ∧ r.result = some result
  | .waits n =>
    r.waiting = some n ∧ r.state = if n.kind = .condition then .waitingForText else .waitingForKeys

namespace Bench

variable {lab : Lab} {f : Flow}

/-- The run has made the visits along a tour: all of them where it rests, and a part of them where
it goes on. A run that goes on has its task, unless a pause is no span of time. -/
structure IsAlong (lab : Lab) (b : Bench) (visits : List Json) (t : Tour) : Prop where
  part : visits <+: t.visits
  count : visits.length = b.session.run.stats.visited
  whole : b.session.run.state ≠ .running → visits = t.visits ∧ b.session.run.IsAtRest t.rest
  task : lab.PausesReturn → b.session.run.state = .running → b.current.length = 1

theorem IsOn.isAlong {b : Bench} {ahead : List String → Tour} (hb : b.IsOn lab f ahead)
    {visits : List Json} (hcount : visits.length = b.session.run.stats.visited) :
    b.IsAlong lab visits ((ahead []).after visits) := by
  have htrue := hb.outlook
  unfold Bench.outlook at htrue
  have hlength : b.current.length = b.stages.length := (List.length_map _).symm
  generalize b.stages = stages at htrue hlength
  refine ⟨List.prefix_append _ _, hcount, fun hrests => ?_, fun hpauses hgoes => ?_⟩
  · cases htrue with
    | walks hstate => exact absurd hstate hrests
    | waits hkind hstate hwaiting hahead =>
      rw [hahead, Flow.tourPast_nil hkind]
      exact ⟨(List.append_nil _).symm, hwaiting, hstate⟩
    | ended hstate hwaiting hresult hahead =>
      rw [hahead]
      exact ⟨(List.append_nil _).symm, hstate, hresult⟩
    | adrift hbroken hstate => exact absurd hstate hrests
  · cases htrue with
    | walks hstate => exact hlength
    | waits hkind hstate =>
      have hnot := hgoes.symm.trans hstate
      split at hnot <;> cases hnot
    | ended hstate => cases hgoes.symm.trans hstate
    | adrift hbroken => exact absurd hpauses hbroken

/-- Every run makes the tour of its flow, by the answers that are given to it. Its task is woken at
most twice for each visit, and once before the first. -/
theorem every_run_makes_the_tour_of_its_flow (lab : Lab) (dice : Dice)
    (before later : List (Moment × Happening)) (now : Moment) {f : Flow} (channel : Channel)
    {start : Node} (hstart : f.startNode? = some start) (hroom : f.copyDepth < lab.room.steps)
    (heffects : lab.EffectsReturn) (hwithin : ∀ h ∈ later, h.2.IsWithin) :
    let b := ((fresh dice).replay lab before).happen lab now (.start f channel)
    let c := b.course lab later
    (b.replay lab later).IsAlong lab (b.session.run.stance.arrivals 0 ++ c.visits)
        (f.tour lab.settings.maxSteps (some start) c.answers) ∧
      c.steps ≤ 2 * lab.settings.maxSteps + 1 := by
  intro b c
  obtain ⟨haged, -⟩ := replay_ages lab (isAged_fresh dice) before
  obtain ⟨ahead, hon, hfirst⟩ := start_leads haged now channel hstart hroom heffects
  obtain ⟨ahead', hend, hrest⟩ := replay_leads heffects hon later hwithin
  have hall := hfirst.trans hrest
  have htour : f.tour lab.settings.maxSteps (some start) c.answers =
      (ahead' []).after (b.session.run.stance.arrivals 0 ++ c.visits) := by
    have hahead := hall.tour []
    rw [List.append_nil] at hahead
    exact hahead
  have hcount : (b.session.run.stance.arrivals 0 ++ c.visits).length =
      (b.replay lab later).session.run.stats.visited :=
    (Nat.zero_add _).symm.trans hall.count
  refine ⟨?_, ?_⟩
  · rw [htour]
    exact hend.isAlong hcount
  · have hload := hall.load
    have hwhole : (f.outlook lab start).load lab =
        2 * lab.settings.maxSteps + 1 := rfl
    have hsteps : (Course.append { visits := b.session.run.stance.arrivals 0 } c).steps =
        c.steps := Nat.zero_add _
    rw [hwhole, hsteps] at hload
    omega

/-- A chat takes the place of a call that is being connected. Its question is answered, and all
three nodes are visited. -/
theorem an_answered_question_makes_its_tour :
    let before : List (Moment × Happening) := [(newYear, .start askingFlow .voice)]
    let later : List (Moment × Happening) :=
      [(newYear, .wake 0), (newYear, .wake 0), (newYear, .say (.str "Yes")), (newYear, .wake 0),
        (newYear, .wake 0)]
    let b := ((fresh {}).replay usualLab before).happen usualLab newYear (.start askingFlow .chat)
    let c := b.course usualLab later
    ∃ start, askingFlow.startNode? = some start ∧
      askingFlow.copyDepth < usualLab.room.steps ∧ usualLab.EffectsReturn ∧
      (∀ h ∈ later, h.2.IsWithin) ∧ c.answers = ["Yes"] ∧ c.visits.length = 2 ∧
      (b.replay usualLab later).session.run.state = .ended ∧
      (b.replay usualLab later).IsAlong usualLab (b.session.run.stance.arrivals 0 ++ c.visits)
        (askingFlow.tour usualLab.settings.maxSteps (some start) c.answers) ∧
      c.steps ≤ 2 * usualLab.settings.maxSteps + 1 := by
  intro before later b c
  have hroom : askingFlow.copyDepth < usualLab.room.steps := by decide +kernel
  have hwithin : ∀ h ∈ later, h.2.IsWithin := by simp [later, Happening.IsWithin]
  refine ⟨_, rfl, hroom, usualLab_returns, hwithin, by decide +kernel, by decide +kernel,
    by decide +kernel, ?_⟩
  exact every_run_makes_the_tour_of_its_flow usualLab {} before later newYear .chat rfl hroom
    usualLab_returns hwithin

end Bench

end Dialogue
