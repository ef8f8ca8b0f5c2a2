-- The tour that a flow prescribes: which nodes are visited one after another when the answers are
-- known beforehand, and how the tour comes to rest. Nothing here knows of time, tasks or channels.
import Dialogue.Proofs.Run.Moves

namespace Dialogue

/-! ## The tour -/

/-- How a tour comes to rest. -/
inductive Rest where
  | ended (result : RunResult)
  /-- The answer at the node is missing. -/
  | waits (n : Node)

structure Tour where
  /-- The ids of the nodes, in the order of their visits. -/
  visits : List Json
  rest : Rest

/-- The tour with other visits before its own. -/
def Tour.after (t : Tour) (visits : List Json) : Tour := { t with visits := visits ++ t.visits }

/-- What follows the visit to a node. -/
inductive Sequel where
  | rests (rest : Rest)
  | goes (next : Option Node) (answers : List String)

namespace Flow

/-- The first edge without a label, or else the first connection. -/
def defaultWay (f : Flow) (n : Node) : Option Node :=
  match f.edges.find? fun e => e.source.equals n.id && !e.label.isPresent with
  | some e => f.node? e.target
  | none =>
    match n.connections with
    | id :: _ => f.node? id
    | [] => none

/-- The first edge that bears the outcome of the condition, or else the target that the condition
names for it. -/
def branchWay (f : Flow) (n : Node) (d : ConditionData) (answer : String) : Option Node :=
  let isYes := d.matches answer
  let word := if isYes then "Yes" else "No"
  match f.edges.find? fun e => e.source.equals n.id && e.label.same (.str word) with
  | some e => f.node? e.target
  | none =>
    match if isYes then d.yesTo else d.noTo with
    | none | some "" => none
    | some id => f.node? (.str id)

/-- A condition and a choice of keys take the next answer each, and an end node ends the tour. -/
def sequel (f : Flow) (n : Node) (answers : List String) : Sequel :=
  match n.data, answers with
  | .finish _, _ => .rests (.ended .success)
  | .condition _, [] | .dtmf _, [] => .rests (.waits n)
  | .condition d, answer :: answers => .goes (f.branchWay n d answer) answers
  | .dtmf _, _ :: answers => .goes (f.defaultWay n) answers
  | _, answers => .goes (f.defaultWay n) answers

/-- The tour from a node on, with so many visits left. Where there is no node it ends well, and
where no visit is left for the node it ends in error. -/
def tour (f : Flow) : Nat → Option Node → List String → Tour
  | _, none, _ => ⟨[], .ended .success⟩
  | 0, some _, _ => ⟨[], .ended .error⟩
  | left + 1, some n, answers =>
    match f.sequel n answers with
    | .rests rest => ⟨[n.id], rest⟩
    | .goes next answers => (f.tour left next answers).after [n.id]

/-- The tour after the visit to a node. -/
def tourPast (f : Flow) (left : Nat) (n : Node) (answers : List String) : Tour :=
  match f.sequel n answers with
  | .rests rest => ⟨[], rest⟩
  | .goes next answers => f.tour left next answers

variable (f : Flow) (left : Nat) (n : Node) (answers : List String)

@[simp]
theorem tour_none : f.tour left none answers = ⟨[], .ended .success⟩ := by
  cases left <;> rfl

@[simp]
theorem tour_zero : f.tour 0 (some n) answers = ⟨[], .ended .error⟩ := rfl

theorem tour_succ :
    f.tour (left + 1) (some n) answers = (f.tourPast left n answers).after [n.id] := by
  unfold tourPast
  rw [tour]
  split <;> rfl

/-! ## The ways of a run -/

theorem find?_outgoing (id : Json) (p : Edge → Bool) :
    (f.outgoing id).find? p = f.edges.find? fun e => e.source.equals id && p e := by
  simp [outgoing, List.find?_filter]

theorem defaultNext_eq_defaultWay : Session.defaultNext f n = f.defaultWay n := by
  unfold Session.defaultNext defaultWay
  rw [find?_outgoing]
  cases n.connections <;> rfl

theorem branchNext_eq_branchWay {d : ConditionData} (hd : n.data = .condition d)
    (answer : String) :
    Session.branchNext f n (Session.isMatch n answer) = f.branchWay n d answer := by
  unfold Session.branchNext branchWay Session.isMatch Session.namedBranch Session.branchWord
  rw [hd]
  dsimp only
  rw [find?_outgoing]
  cases f.edges.find? fun e =>
    e.source.equals n.id && e.label.same (.str (if d.matches answer then "Yes" else "No")) with
  | some e => rfl
  | none =>
    generalize (if d.matches answer = true then d.yesTo else d.noTo) = target
    cases target with
    | none => rfl
    | some id => by_cases hempty : id = "" <;> simp [Option.filter, hempty]

end Flow

/-! ## Stages of a tour -/

/-- The tour that is left at a stage, with so many visits left. -/
def Stage.tour (f : Flow) (left : Nat) (stage : Stage) (answers : List String) : Tour :=
  match stage with
  | announced n => f.tourPast left n answers
  | closing => ⟨[], .ended .success⟩
  | stage => f.tour left (stage.onward (some f)) answers

namespace Stage

variable {f : Flow} {left : Nat} {n : Node} {stage : Stage} {answers : List String}

theorem tourPast_eq_tour (h : (announced n).Leaves) :
    f.tourPast left n answers = f.tour left (f.defaultWay n) answers := by
  obtain ⟨hcondition, hdtmf, hfinish⟩ := h
  unfold Node.kind at hcondition hdtmf hfinish
  unfold Flow.tourPast Flow.sequel
  cases hdata : n.data <;> simp_all [NodeData.kind]

theorem tour_of_leaves (h : stage.Leaves) :
    stage.tour f left answers = f.tour left (stage.onward (some f)) answers := by
  cases stage with
  | announced n =>
    change f.tourPast left n answers = f.tour left (Session.defaultNext f n) answers
    rw [tourPast_eq_tour h, Flow.defaultNext_eq_defaultWay]
  | closing => exact h.elim
  | _ => rfl

theorem tourPast_of_finish (h : n.kind = .finish) :
    f.tourPast left n answers = ⟨[], .ended .success⟩ := by
  unfold Node.kind at h
  unfold Flow.tourPast Flow.sequel
  cases hdata : n.data <;> simp_all [NodeData.kind]

theorem tour_of_closes (h : stage.Closes) :
    stage.tour f left answers = ⟨[], .ended .success⟩ := by
  cases stage with
  | announced n => exact tourPast_of_finish h
  | closing => rfl
  | _ => exact h.elim

theorem tour_of_isLater (h : stage.IsLater n) :
    stage.tour f left answers = f.tourPast left n answers := by
  cases h with
  | spoken hleaves =>
    rw [tourPast_eq_tour hleaves, ← Flow.defaultNext_eq_defaultWay]
    rfl
  | inEffect hleaves channel =>
    rw [tourPast_eq_tour hleaves, ← Flow.defaultNext_eq_defaultWay]
    rfl
  | closing hkind => exact (tourPast_of_finish hkind).symm

end Stage

namespace Flow

variable {f : Flow} {left : Nat} {n : Node}

/-- Where a tour waits, it rests when the answers run out. -/
theorem tourPast_nil (h : n.kind = .condition ∨ n.kind = .dtmf) :
    f.tourPast left n [] = ⟨[], .waits n⟩ := by
  unfold Node.kind at h
  unfold tourPast sequel
  cases hdata : n.data <;> simp_all [NodeData.kind]

theorem tourPast_condition (h : n.kind = .condition) (text : String) (answers : List String) :
    f.tourPast left n (text :: answers) = (Stage.weighing n text).tour f left answers := by
  cases hdata : n.data with
  | condition d =>
    change _ = f.tour left (Session.branchNext f n (Session.isMatch n text)) answers
    rw [branchNext_eq_branchWay f n hdata]
    unfold tourPast sequel
    rw [hdata]
  | _ => simp [Node.kind, hdata, NodeData.kind] at h

theorem tourPast_dtmf (h : n.kind = .dtmf) (text digits : String) (answers : List String) :
    f.tourPast left n (text :: answers) = (Stage.keyed n digits).tour f left answers := by
  cases hdata : n.data with
  | dtmf d =>
    change _ = f.tour left (Session.defaultNext f n) answers
    rw [defaultNext_eq_defaultWay]
    unfold tourPast sequel
    rw [hdata]
  | _ => simp [Node.kind, hdata, NodeData.kind] at h

end Flow

end Dialogue
