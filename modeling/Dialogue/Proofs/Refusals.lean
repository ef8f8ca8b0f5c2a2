-- Refused requests. Whatever the service has been asked before, a request that it answers with a
-- refusal changes nothing but which flow is on the desk. Each check comes before the first change,
-- and the changes that break off on the way are no refusals.
import Dialogue.Proofs.Isolation
import Dialogue.Proofs.Lifetime
import Dialogue.Proofs.Run.Controls
import Dialogue.Proofs.Run.Faults

namespace Dialogue

/-! ## Refusals -/

def Response.status : Response → Nat
  | answer status _ => status
  | bare status => status
  | broken => 500

/-- The request is answered, and it is turned down. -/
def Response.Refuses (r : Response) : Prop := 400 ≤ r.status ∧ r.status < 500

instance (r : Response) : Decidable r.Refuses := inferInstanceAs (Decidable (_ ∧ _))

def Reply.Refuses : Reply → Prop
  | .done _ => False
  | .refused _ => True
  | .failed fault => fault.Refuses

namespace Response

variable {r : Response}

theorem not_refuses_of_status (h : r.status = 200 ∨ r.status = 500) : ¬ r.Refuses := by
  rintro ⟨hlow, hhigh⟩
  omega

/-- What is sent is the status of an answer, or the request breaks off. -/
theorem status_sent (frame : Nat) (r : Response) :
    (r.sent frame).status = r.status ∨ (r.sent frame).status = 500 := by
  unfold sent
  split
  · split
    · split
      · exact .inr rfl
      · exact .inl rfl
    · split
      · exact .inl rfl
      · exact .inr rfl
  · exact .inl rfl
  · exact .inl rfl

theorem refuses_of_sent {frame : Nat} (h : (r.sent frame).Refuses) : r.Refuses := by
  rcases status_sent frame r with hsame | hbroken
  · unfold Refuses at h ⊢
    rwa [hsame] at h
  · exact absurd h (not_refuses_of_status (.inr hbroken))

theorem refuses_of_ofFault {fault : Fault} (h : (ofFault fault).Refuses) : fault.Refuses := by
  cases fault with
  | flow e =>
    cases e with
    | noneSelected => exact absurd h (not_refuses_of_status (.inr rfl))
    | _ => exact trivial
  | _ => exact absurd h (not_refuses_of_status (.inr rfl))

theorem refuses_of_ofOutcome {α : Type} {fields : α → Fields} {o : Outcome α}
    (h : (ofOutcome fields o).Refuses) : o.Refuses := by
  cases o with
  | ok a => exact absurd h (not_refuses_of_status (.inl rfl))
  | error fault => exact refuses_of_ofFault h

theorem refuses_of_ofReply {reply : Reply} (h : (ofReply reply).Refuses) : reply.Refuses := by
  cases reply with
  | done product => cases product <;> exact absurd h (not_refuses_of_status (.inl rfl))
  | refused refusal => exact trivial
  | failed fault => exact refuses_of_ofFault h

end Response

/-! ## Edits -/

/-- If the edit was refused, the flow is as it was. -/
def Edited.KeepsOnRefusal (f : Flow) (r : Edited) : Prop := r.reply.Refuses → r.editor.flow = f

/-- Where the edit is refused, it gives back the refusal and nothing else. And the flow has not changed
where it breaks off and that counts as a refusal. -/
structure Edited.RefusesAtOnce (e : Editor) (nextId : Nat) (r : Edited) : Prop where
  alone : ∀ why, r.reply = .refused why → r = e.refuse nextId why
  keeps : r.KeepsOnRefusal e.flow

namespace Editor

variable (e : Editor) (nextId : Nat)

theorem refuse_at_once (why : Refusal) : (e.refuse nextId why).RefusesAtOnce e nextId where
  alone := by
    rintro _ ⟨⟩
    rfl
  keeps := fun _ => rfl

theorem addNode_at_once (p : Palette) (room : Nat) (kind : NodeKind) (position : Json) :
    (e.addNode p room nextId kind position).RefusesAtOnce e nextId := by
  unfold addNode
  split
  · exact e.refuse_at_once nextId _
  · split
    · exact ⟨nofun, False.elim⟩
    · exact ⟨nofun, fun _ => rfl⟩
    · exact ⟨nofun, fun _ => rfl⟩

theorem duplicateNode_at_once (offset : Float) (id : Json) :
    (e.duplicateNode offset nextId id).RefusesAtOnce e nextId := by
  unfold duplicateNode
  split
  · exact e.refuse_at_once nextId _
  · split
    · exact e.refuse_at_once nextId _
    · split
      · exact ⟨nofun, False.elim⟩
      · exact ⟨nofun, fun _ => rfl⟩

/-- The data is read as a whole before it is set. Where it has changed already, the edit can only break
off. -/
theorem updateData_at_once (room : Nat) (id changes : Json) :
    (e.updateData room nextId id changes).RefusesAtOnce e nextId := by
  unfold updateData
  split
  · exact e.refuse_at_once nextId _
  · split
    · split
      · split
        · exact e.refuse_at_once nextId _
        · exact ⟨nofun, fun _ => rfl⟩
      · dsimp only
        split
        · split <;> exact ⟨nofun, False.elim⟩
        · exact ⟨nofun, False.elim⟩
    · exact ⟨nofun, fun _ => rfl⟩

theorem deleteNode_at_once (id : Json) : (e.deleteNode nextId id).RefusesAtOnce e nextId := by
  unfold deleteNode
  split
  · exact e.refuse_at_once nextId _
  · split
    · exact e.refuse_at_once nextId _
    · dsimp only
      split <;> exact ⟨nofun, False.elim⟩

theorem moveNode_at_once (id position : Json) :
    (e.moveNode nextId id position).RefusesAtOnce e nextId := by
  unfold moveNode
  split
  · exact e.refuse_at_once nextId _
  · split
    · exact ⟨nofun, fun _ => rfl⟩
    · exact ⟨nofun, False.elim⟩

/-- The ways to refuse an edge come before it gets its id. -/
theorem addEdge_at_once (source target : Json) (handle : Option Handle) :
    (e.addEdge nextId source target handle).RefusesAtOnce e nextId := by
  unfold addEdge
  dsimp only
  repeat' split
  all_goals first
    | exact e.refuse_at_once nextId _
    | exact ⟨nofun, fun _ => rfl⟩
    | exact ⟨nofun, False.elim⟩

theorem deleteEdge_at_once (id : Json) : (e.deleteEdge nextId id).RefusesAtOnce e nextId := by
  unfold deleteEdge
  split
  · exact e.refuse_at_once nextId _
  · exact ⟨nofun, False.elim⟩

theorem startConnect_at_once (id : Json) (handle : Handle) :
    (e.startConnect nextId id handle).RefusesAtOnce e nextId := by
  unfold startConnect
  split
  · exact e.refuse_at_once nextId _
  · exact ⟨nofun, False.elim⟩

theorem selectNode_at_once (room : Nat) (id : Json) :
    (e.selectNode room nextId id).RefusesAtOnce e nextId := by
  unfold selectNode
  split
  · exact e.refuse_at_once nextId _
  · split
    · exact ⟨nofun, fun _ => rfl⟩
    · exact ⟨nofun, False.elim⟩

/-- Every edit but the end of a connection is refused at once. -/
theorem perform_at_once (p : Palette) (offset : Float) (room : Nat) {k : Edit}
    (hk : ∀ target, k ≠ .completeConnect target) :
    (e.perform p offset room nextId k).RefusesAtOnce e nextId := by
  cases k with
  | addNode kind position => exact e.addNode_at_once nextId p room kind position
  | duplicateNode id => exact e.duplicateNode_at_once nextId offset id
  | updateData id changes => exact e.updateData_at_once nextId room id changes
  | deleteNode id => exact e.deleteNode_at_once nextId id
  | moveNode id position => exact e.moveNode_at_once nextId id position
  | addEdge source target handle => exact e.addEdge_at_once nextId source target handle
  | deleteEdge id => exact e.deleteEdge_at_once nextId id
  | startConnect id handle => exact e.startConnect_at_once nextId id handle
  | completeConnect target => exact absurd rfl (hk target)
  | cancelConnect => exact ⟨nofun, False.elim⟩
  | selectNode id => exact e.selectNode_at_once nextId room id
  | clearSelection => exact ⟨nofun, False.elim⟩

theorem keeps_perform (p : Palette) (offset : Float) (room : Nat) (k : Edit) :
    (e.perform p offset room nextId k).KeepsOnRefusal e.flow := by
  by_cases hk : ∀ target, k ≠ .completeConnect target
  · exact (e.perform_at_once nextId p offset room hk).keeps
  · obtain ⟨target, rfl⟩ := not_forall_not.mp hk
    rw [perform, completeConnect]
    split
    · exact (e.addEdge_at_once nextId e.gesture.source target none).keeps
    · exact fun _ => rfl

end Editor

/-! ## Work in the workspace -/

/-- A stored flow that is put in again as it is changes nothing. -/
theorem Store.put_self {s : Store} (h : s.IsKeyed) {f : Flow} (hf : f ∈ s.flows) :
    s.put f = s := by
  obtain ⟨gs⟩ := s
  obtain ⟨hkeys, hapart⟩ := h
  unfold Store.put
  dsimp only at hkeys hapart hf ⊢
  congr 1
  induction gs with
  | nil => cases hf
  | cons g rest ih =>
    obtain ⟨hfirst, hrest⟩ := List.pairwise_cons.mp hapart
    rcases List.mem_cons.mp hf with rfl | hmem
    · rw [place, if_pos (Json.same_self (hkeys f List.mem_cons_self))]
    · rw [place, if_neg (by simp [hfirst f hmem]),
        ih hmem (fun x hx => hkeys x (List.mem_cons_of_mem g hx)) hrest]

theorem Clock.dated_not_refuses (now : Int) : ¬ (Clock.dated now).Refuses := by
  unfold Clock.dated
  split <;> exact not_false

namespace Workspace

variable {s : Setup} {w : Workspace}

/-- If the act was refused, the stored flows are as they were. -/
def KeepsOnRefusal {α : Type} (w : Workspace) (r : Workspace × Outcome α) : Prop :=
  r.2.Refuses → r.1.store = w.store

theorem keeps_createFlow (s : Setup) (w : Workspace) (now : Int)
    (name description category : Json) :
    w.KeepsOnRefusal (w.createFlow s now name description category) := by
  unfold createFlow
  split
  · exact fun _ => rfl
  · exact fun _ => rfl
  · exact False.elim

theorem keeps_importFlow (s : Setup) (w : Workspace) (now : Int) (data : Json) :
    w.KeepsOnRefusal (w.importFlow s now data) := by
  unfold importFlow
  split
  · exact False.elim
  · exact fun _ => rfl

theorem keeps_duplicateFlow (s : Setup) (w : Workspace) (now : Int) (id name : Json) :
    w.KeepsOnRefusal (w.duplicateFlow s now id name) := by
  unfold duplicateFlow
  split
  · exact fun _ => rfl
  · exact fun _ => rfl
  · dsimp only
    split
    · exact fun _ => rfl
    · exact False.elim

theorem keeps_deleteFlow (w : Workspace) (id : Json) : w.KeepsOnRefusal (w.deleteFlow id) := by
  unfold deleteFlow
  split
  · exact fun _ => rfl
  · exact False.elim

theorem store_openFlow (w : Workspace) (room : Nat) (id : Json) :
    (w.openFlow room id).1.store = w.store := by
  unfold openFlow
  split
  · split <;> rfl
  · rfl

theorem settle_not_refuses {α : Type} (room : Nat) (d : Desk) (f : Flow) (a : α) :
    ¬ (settle room w d f a).2.Refuses := by
  unfold settle
  dsimp only
  split <;> exact not_false

theorem keeps_save (s : Setup) (w : Workspace) (now : Int) : w.KeepsOnRefusal (w.save s now) := by
  unfold save
  split
  · exact fun _ => rfl
  · exact fun _ => rfl
  · exact fun h => absurd h (settle_not_refuses _ _ _ _)

theorem keeps_publish (s : Setup) (w : Workspace) (now : Int) (changelog author : Json) :
    w.KeepsOnRefusal (w.publish s now changelog author) := by
  unfold publish
  split
  · exact fun _ => rfl
  · exact fun _ => rfl
  · dsimp only
    split
    · exact fun _ => rfl
    · split
      · exact fun _ => rfl
      · exact fun h => absurd h (settle_not_refuses _ _ _ _)

theorem store_rollback_of_refuses {now : Int} {version : Json}
    (h : (w.rollback now version).2.Refuses) : (w.rollback now version).1.store = w.store := by
  revert h
  unfold rollback
  split
  · exact fun _ => rfl
  · split
    · exact fun _ => rfl
    · split
      · exact False.elim
      · rename_i hdated
        have hlate := Clock.dated_not_refuses now
        rw [hdated] at hlate
        exact fun h => absurd h hlate

/-- To put the flow on the desk back as it is changes nothing. -/
theorem put_back (hbacks : w.store.Backs w.desk) {d : Desk} (hd : w.desk = some d) :
    (if d.linked then w.store.put d.flow else w.store) = w.store := by
  split
  · rename_i hlinked
    exact Store.put_self hbacks.keyed ((hbacks.desk d hd).linked hlinked)
  · rfl

theorem store_edit_of_refuses (hbacks : w.store.Backs w.desk) {k : Edit}
    (h : (w.edit s k).2.Refuses) : (w.edit s k).1.store = w.store := by
  revert h
  unfold edit onDesk
  cases hd : w.desk with
  | none => exact fun _ => rfl
  | some d =>
    intro h
    have hflow := d.editor.keeps_perform w.nextId s.palette s.settings.canvas.duplicateOffset
      s.room.steps k h
    have hput := congrArg (fun g => if d.linked then w.store.put g else w.store) hflow
    exact hput.trans (put_back hbacks hd)

end Workspace

/-! ## The studio -/

namespace Studio

variable {s t : Studio}

/-- Nothing of the studio has changed but which flow is on the desk, and what numbers are next: not
the stored flows, nor the session and its tasks. -/
structure Keeps (s t : Studio) : Prop where
  setup : t.setup = s.setup
  lab : t.lab = s.lab
  store : t.workspace.store = s.workspace.store
  session : t.bench.session = s.bench.session
  sleepers : t.bench.sleepers = s.bench.sleepers

theorem Keeps.refl (s : Studio) : s.Keeps s := ⟨rfl, rfl, rfl, rfl, rfl⟩

theorem Keeps.trans {u : Studio} (h : s.Keeps t) (h' : t.Keeps u) : s.Keeps u :=
  ⟨h'.setup.trans h.setup, h'.lab.trans h.lab, h'.store.trans h.store,
    h'.session.trans h.session, h'.sleepers.trans h.sleepers⟩

/-- The desk is true to the store, and no task refuses. -/
structure IsInOrder (s : Studio) : Prop where
  backs : s.workspace.store.Backs s.workspace.desk
  lab : s.lab.NeverRefuses
  bench : s.bench.NeverRefuses

/-- A request leaves the studio in order, and changes nothing if it is refused. -/
structure Answers (s : Studio) (r : Studio × Response) : Prop where
  inOrder : r.1.IsInOrder
  kept : r.2.Refuses → s.Keeps r.1

theorem answers_itself (hs : s.IsInOrder) (response : Response) : s.Answers (s, response) :=
  ⟨hs, fun _ => .refl s⟩

theorem answers_workspace (hs : s.IsInOrder) {w : Workspace} {response : Response}
    (hbacks : w.store.Backs w.desk)
    (hkept : response.Refuses → w.store = s.workspace.store) :
    s.Answers ({ s with workspace := w }, response) :=
  ⟨⟨hbacks, hs.lab, hs.bench⟩, fun h => ⟨rfl, rfl, hkept h, rfl, rfl⟩⟩

theorem answers_withForm {α : Type} (hs : s.IsInOrder) (b : Body) (check : Json → Checked α)
    {act : α → Studio × Response} (hact : ∀ a, s.Answers (act a)) :
    s.Answers (s.withForm b check act) := by
  unfold withForm
  split
  · exact hact _
  · exact answers_itself hs _

/-! ### Requests about a flow -/

/-- To open a flow is no change of it. -/
theorem openFlow_spec (hs : s.IsInOrder) (flow : String) :
    (s.openFlow flow).1.IsInOrder ∧ s.Keeps (s.openFlow flow).1 := by
  unfold openFlow
  split
  · exact ⟨hs, .refl s⟩
  · have hends := s.workspace.ends_openFlow s.setup s.now (s.setup.room.steps - 1) (.str flow)
    exact ⟨⟨hs.backs.does hends, hs.lab, hs.bench⟩,
      ⟨rfl, rfl, s.workspace.store_openFlow _ _, rfl, rfl⟩⟩

theorem answers_withFlow (hs : s.IsInOrder) (flow : String) {act : Studio → Studio × Response}
    (hact : ∀ t : Studio, t.IsInOrder → t.Answers (act t)) : s.Answers (s.withFlow flow act) := by
  obtain ⟨horder, hkeeps⟩ := openFlow_spec hs flow
  unfold withFlow
  split
  · rename_i t fault hopen
    rw [hopen] at horder hkeeps
    exact ⟨horder, fun _ => hkeeps⟩
  · rename_i t _ hopen
    rw [hopen] at horder hkeeps
    exact ⟨(hact t horder).inOrder, fun h => hkeeps.trans ((hact t horder).kept h)⟩

theorem answers_editFlow (hs : s.IsInOrder) (flow : String) (k : Edit) :
    s.Answers (s.editFlow flow k) := by
  refine answers_withFlow hs flow fun t ht => answers_workspace ht ?_ fun h => ?_
  · exact ht.backs.does (t.workspace.ends_edit t.setup t.now k)
  · exact Workspace.store_edit_of_refuses ht.backs (Response.refuses_of_ofReply h)

theorem answers_saveFlow (hs : s.IsInOrder) (flow : String) : s.Answers (s.saveFlow flow) := by
  refine answers_withFlow hs flow fun t ht => answers_workspace ht ?_ fun h => ?_
  · exact ht.backs.does (t.workspace.ends_save t.setup t.now)
  · exact t.workspace.keeps_save _ _ (Response.refuses_of_ofOutcome h)

theorem answers_publishFlow (hs : s.IsInOrder) (flow : String) (v : Form.NewVersion) :
    s.Answers (s.publishFlow flow v) := by
  refine answers_withFlow hs flow fun t ht => answers_workspace ht ?_ fun h => ?_
  · exact ht.backs.does (t.workspace.ends_publish t.setup t.now _ _)
  · exact t.workspace.keeps_publish _ _ _ _ (Response.refuses_of_ofOutcome h)

/-- Once a flow is rolled back it is shown, which cannot be refused any more. -/
theorem answers_rollbackFlow (hs : s.IsInOrder) (flow version : String) :
    s.Answers (s.rollbackFlow flow version) := by
  refine answers_withFlow hs flow fun t ht => ?_
  have hbacks := ht.backs.does (t.workspace.ends_rollback t.setup t.now (.str version))
  unfold inWorkspace
  dsimp only
  split
  · refine answers_workspace ht hbacks fun h => absurd (Response.refuses_of_ofOutcome h) ?_
    unfold Workspace.onDesk
    split <;> exact not_false
  · exact answers_workspace ht hbacks fun h =>
      Workspace.store_rollback_of_refuses (Response.refuses_of_ofReply h)

theorem answers_listVersions (hs : s.IsInOrder) (flow : String) :
    s.Answers (s.listVersions flow) :=
  answers_withFlow hs flow fun _ ht => answers_itself ht _

/-! ### Requests about all flows -/

theorem answers_createFlow (hs : s.IsInOrder) (name description category : Json) :
    s.Answers (flowResponse
      (s.inWorkspace (Workspace.createFlow s.setup · s.now name description category))) :=
  answers_workspace hs (hs.backs.does (s.workspace.ends_createFlow s.setup s.now _ _ _)) fun h =>
    Workspace.keeps_createFlow _ _ _ _ _ _ (Response.refuses_of_ofOutcome h)

theorem answers_importFlow (hs : s.IsInOrder) (data : Json) :
    s.Answers (flowResponse (s.inWorkspace (Workspace.importFlow s.setup · s.now data))) :=
  answers_workspace hs (hs.backs.does (s.workspace.ends_importFlow s.setup s.now _)) fun h =>
    Workspace.keeps_importFlow _ _ _ _ (Response.refuses_of_ofOutcome h)

theorem answers_duplicateFlow (hs : s.IsInOrder) (id name : Json) :
    s.Answers (flowResponse (s.inWorkspace (Workspace.duplicateFlow s.setup · s.now id name))) :=
  answers_workspace hs (hs.backs.does (s.workspace.ends_duplicateFlow s.setup s.now _ _)) fun h =>
    Workspace.keeps_duplicateFlow _ _ _ _ _ (Response.refuses_of_ofOutcome h)

/-! ### Requests about the run -/

theorem record_not_refuses (s : Session) (events : Fields) : ¬ (s.record events).Refuses := by
  unfold Session.record
  split <;> exact not_false

theorem runResponse_not_refuses (s : Studio) : ¬ s.runResponse.Refuses := by
  unfold runResponse
  dsimp only
  split
  · exact fun h => record_not_refuses _ _ (Response.refuses_of_ofOutcome h)
  · exact fun h => record_not_refuses _ _ (Response.refuses_of_ofOutcome h)
  · exact Response.not_refuses_of_status (.inr rfl)

theorem answers_bench (hs : s.IsInOrder) {b : Bench} {response : Response} (hb : b.NeverRefuses)
    (hresponse : response.Refuses → b.session = s.bench.session ∧ b.sleepers = s.bench.sleepers) :
    s.Answers ({ s with bench := b }, response) :=
  ⟨⟨hs.backs, hs.lab, hb⟩,
    fun h => ⟨rfl, rfl, rfl, (hresponse h).1, (hresponse h).2⟩⟩

/-- No task refuses, so the last one that has ended does not. -/
theorem answers_taskResponse (hs : s.IsInOrder) {b : Bench} (hb : b.NeverRefuses) :
    s.Answers { s with bench := b }.taskResponse := by
  have hnone : Bench.NeverRefuses { b with endings := [] } := List.forall_mem_nil _
  unfold taskResponse onBench
  dsimp only
  split
  · rename_i task hlast
    exact absurd rfl (hb _ (List.mem_of_getLast? hlast))
  · rename_i task fault hlast
    have hfault := hb _ (List.mem_of_getLast? hlast)
    exact answers_bench hs hnone fun h => absurd (Response.refuses_of_ofFault h) hfault
  · exact answers_bench hs hnone fun h => absurd h (runResponse_not_refuses _)

/-- An answer that nothing waits for is turned down at once. -/
theorem answers_submit (hs : s.IsInOrder) {answer : Option Stretch}
    (hanswer : ∀ r, answer = some r → ¬ r.2.Refuses) :
    s.Answers { s with bench := s.bench.submit s.lab true answer }.taskResponse := by
  rcases hs.bench.submit hs.lab true hanswer with hb | hdown
  · exact answers_taskResponse hs hb
  · rw [hdown]
    unfold taskResponse onBench
    dsimp only
    rw [List.getLast?_concat]
    exact answers_bench hs (List.forall_mem_nil _) fun _ => ⟨rfl, rfl⟩

theorem answers_submitText (hs : s.IsInOrder) (text : String) :
    s.Answers (s.onBench fun b => b.submitText s.lab (.str text) true).taskResponse := by
  dsimp only [onBench, Bench.submitText]
  exact answers_submit hs fun _ hr => Session.taken_not_refuses (Session.isTaken_submitText hr)

theorem answers_submitKeys (hs : s.IsInOrder) (digits : String) :
    s.Answers (s.onBench fun b => b.submitKeys s.lab digits true).taskResponse := by
  dsimp only [onBench, Bench.submitKeys]
  exact answers_submit hs fun _ hr => Session.taken_not_refuses (Session.isTaken_submitKeys hr)

theorem answers_startRun (hs : s.IsInOrder) (flow : Json) (channel : Channel) :
    s.Answers (match s.startRun flow (.ok channel) true with
      | (s, .ok _) => s.taskResponse
      | (s, .error fault) => (s, .ofFault fault)) := by
  unfold startRun onBench
  cases s.workspace.find flow with
  | ok f => exact answers_taskResponse hs (hs.bench.start hs.lab f channel true)
  | error fault => exact answers_itself hs _

/-- A call that is not on is not hung up. -/
theorem answers_hangUpRun (hs : s.IsInOrder) : s.Answers s.hangUpRun := by
  have hfaultless := s.bench.session.tryEndCall_not_refuses
  unfold hangUpRun
  dsimp only
  split
  · exact answers_bench hs hs.bench fun h => absurd h (runResponse_not_refuses _)
  · rename_i hdown
    exact answers_bench hs hs.bench fun _ => ⟨Session.tryEndCall_eq_self hdown, rfl⟩
  · rename_i fault hfault
    rw [hfault] at hfaultless
    exact answers_bench hs hs.bench fun h => absurd (Response.refuses_of_ofFault h) hfaultless

theorem answers_resetRun (hs : s.IsInOrder) :
    s.Answers (s.onBench (·.onSession Session.reset),
      (s.onBench (·.onSession Session.reset)).runResponse) :=
  answers_bench hs hs.bench fun h => absurd h (runResponse_not_refuses _)

/-! ### All requests -/

theorem answers_atEndpoint (hs : s.IsInOrder) (r : Request) (e : Endpoint) :
    s.Answers (s.atEndpoint r e) := by
  cases e with
  | health | kinds | listFlows | getFlow | validateFlow | currentRun => exact answers_itself hs _
  | createFlow => exact answers_withForm hs _ _ fun f => answers_createFlow hs _ _ _
  | importFlow => exact answers_withForm hs _ _ fun fs => answers_importFlow hs _
  | deleteFlow f =>
    exact answers_workspace hs (hs.backs.does (s.workspace.ends_deleteFlow s.setup s.now _)) fun h =>
      Workspace.keeps_deleteFlow _ _ (Response.refuses_of_ofOutcome h)
  | duplicateFlow f => exact answers_duplicateFlow hs _ _
  | selectFlow f =>
    exact answers_workspace hs (hs.backs.does (s.workspace.ends_openFlow s.setup s.now _ _)) fun _ =>
      Workspace.store_openFlow _ _ _
  | addNode f => exact answers_withForm hs _ _ fun form => answers_editFlow hs f _
  | updateNode f n => exact answers_withForm hs _ _ fun changes => answers_editFlow hs f _
  | deleteNode f n => exact answers_editFlow hs f _
  | duplicateNode f n => exact answers_editFlow hs f _
  | moveNode f n => exact answers_withForm hs _ _ fun position => answers_editFlow hs f _
  | addEdge f => exact answers_withForm hs _ _ fun edge => answers_editFlow hs f _
  | deleteEdge f edge => exact answers_editFlow hs f _
  | save f => exact answers_saveFlow hs f
  | publish f => exact answers_withForm hs _ _ fun v => answers_publishFlow hs f v
  | versions f => exact answers_listVersions hs f
  | rollback f v => exact answers_rollbackFlow hs f v
  | startRun f => exact answers_withForm hs _ _ fun channel => answers_startRun hs _ channel
  | submitText => exact answers_withForm hs _ _ fun text => answers_submitText hs text
  | submitKeys => exact answers_withForm hs _ _ fun digits => answers_submitKeys hs digits
  | hangUp => exact answers_hangUpRun hs
  | resetRun => exact answers_resetRun hs

theorem answers_handle (hs : s.IsInOrder) (r : Request) : s.Answers (s.handle r) := by
  cases he : (Endpoint.atPath r.path).lookup r.method with
  | some e =>
    have h := answers_atEndpoint hs r e
    rw [handle_of_lookup he]
    exact ⟨h.inOrder, fun hrefused => h.kept (Response.refuses_of_sent hrefused)⟩
  | none =>
    unfold handle
    dsimp only
    rw [he]
    exact answers_itself hs _

/-! ## The states of the service -/

/-- What requests and time make of a new service, whose effects are simulated. -/
inductive Served : Studio → Prop
  | fresh (settings : Settings) (palette : Palette) (dice : Dice) (room : Room) :
      Served (.fresh settings palette [] dice room)
  | asked {s : Studio} (hs : Served s) (r : Request) : Served (s.handle r).1
  | passed {s : Studio} (hs : Served s) (us : Int) : Served (s.onBench (·.advance s.lab us))
  /-- While a request waits for its task others are answered, so the bench may have become whatever
  a bench can become. What has ended by then is told already. -/
  | shared {s : Studio} (hs : Served s) {b : Bench} (hb : b.Reached s.lab) :
      Served (s.onBench fun _ => { b with endings := [] })

theorem Served.inOrder (hs : s.Served) : s.IsInOrder := by
  induction hs with
  | fresh settings palette dice room =>
    exact ⟨Workspace.InUse.empty.backs, fun k => Effects.simulated_neverRefuses _ _ k,
      List.forall_mem_nil _⟩
  | asked hs r ih => exact (answers_handle ih r).inOrder
  | passed hs us ih => exact ⟨ih.backs, ih.lab, ih.bench.advance ih.lab us⟩
  | shared hs hb ih => exact ⟨ih.backs, ih.lab, List.forall_mem_nil _⟩

/-- A request that is turned down changes no stored flow and nothing of the run. -/
theorem a_refused_request_changes_nothing (hs : s.Served) (r : Request)
    (h : (s.handle r).2.Refuses) : s.Keeps (s.handle r).1 :=
  (answers_handle hs.inOrder r).kept h

/-- The flow is put on the desk, and then its start node is not deleted. -/
theorem the_refusal_to_delete_a_start_node_changes_nothing :
    let s := (untouched.handle (importing "a" origin)).1
    let r : Request := { method := .delete, path := "/flows/a/nodes/start" }
    s.Served ∧ (s.handle r).2.Refuses ∧ s.isOpen "a" = false ∧ (s.handle r).1.isOpen "a" = true ∧
      s.Keeps (s.handle r).1 := by
  intro s r
  have hs : s.Served := .asked (.fresh _ _ _ _) _
  have h : (s.handle r).2.Refuses := by decide +kernel
  refine ⟨hs, h, by decide +kernel, by decide +kernel, ?_⟩
  exact a_refused_request_changes_nothing hs r h

end Studio

end Dialogue
