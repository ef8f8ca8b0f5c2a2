-- The flows of the service are kept apart. All requests go through one desk, and yet a request about
-- a flow touches no other flow, and what comes of it follows from that flow alone. Every stored flow
-- must leave room for a copy of its graph: where one does not, opening it fails halfway, and later
-- requests about it are done to the flow that was open before.
import Dialogue.Proofs.Desk
import Dialogue.Service

namespace Dialogue

namespace Endpoint

/-- The flow that a request is about. What starts a run is about the run. -/
def flow? : Endpoint → Option String
  | getFlow f | deleteFlow f | duplicateFlow f | selectFlow f | validateFlow f => some f
  | addNode f | updateNode f _ | deleteNode f _ | duplicateNode f _ | moveNode f _ => some f
  | addEdge f | deleteEdge f _ | save f | publish f | versions f | rollback f _ => some f
  | health | kinds | createFlow | importFlow | listFlows => none
  | startRun _ | currentRun | submitText | submitKeys | hangUp | resetRun => none

/-- How many flows a request about a flow adds at most. -/
def mostAdded : Endpoint → Nat
  | duplicateFlow _ => 1
  | _ => 0

end Endpoint

/-- What a request about a flow may go by: how the service is set up, the time, the number of the
next id, and the flow, if it is stored. -/
structure View where
  setup : Setup
  now : Int
  nextId : Nat
  stored : Option Flow

/-- The flow if it is stored. -/
def View.find (v : View) (f : String) : Outcome Flow :=
  match v.stored with
  | some g => .ok g
  | none => .error (.flow (.notFound (.str f)))

namespace Studio

variable {s : Studio} {f : String}

def view (s : Studio) (f : String) : View :=
  ⟨s.setup, s.now, s.workspace.nextId, s.workspace.store.get? (.str f)⟩

theorem view_eq_iff {setup : Setup} {now : Int} {n : Nat} {stored : Option Flow} :
    s.view f = ⟨setup, now, n, stored⟩ ↔ s.setup = setup ∧ s.now = now ∧
      s.workspace.nextId = n ∧ s.workspace.store.get? (.str f) = stored := by
  simp [view]

/-- Each stored flow can be opened, saved and published as far as the room for copies goes. -/
def HasRoom (s : Studio) : Prop :=
  ∀ g ∈ s.workspace.store.flows, g.graph.copyDepth + 5 ≤ s.setup.room.steps

/-- No stored flow has one of the next two ids. -/
def HasFreshIds (s : Studio) : Prop :=
  s.workspace.store.get? (.str (Ids.full s.workspace.nextId)) = none ∧
    s.workspace.store.get? (.str (Ids.full (s.workspace.nextId + 1))) = none

instance (s : Studio) : Decidable s.HasRoom :=
  inferInstanceAs (Decidable (∀ g ∈ s.workspace.store.flows, _))

instance (s : Studio) : Decidable s.HasFreshIds := inferInstanceAs (Decidable (_ ∧ _))

/-- The studio is ready for a request. -/
structure Ready (s : Studio) : Prop where
  tidy : s.workspace.Tidy
  hasRoom : s.HasRoom
  hasFreshIds : s.HasFreshIds

/-- What a request about a flow gives back and leaves behind: a response, a view of the flow,
and the other flows, to which some may have been added. -/
structure Yields (s : Studio) (f : String) (response : Response) (after : View)
    (added : List Flow) (r : Studio × Response) : Prop where
  tidy : r.1.workspace.Tidy
  response_eq : r.2 = response
  view_eq : r.1.view f = after
  others_eq : r.1.workspace.store.others f = s.workspace.store.others f ++ added

/-- What the request yields follows from the view of the flow, and so many flows are added at
most. -/
def KeepsTo (f : String) (most : Nat) (ask : Studio → Studio × Response) : Prop :=
  ∀ v : View, ∃ response after added, added.length ≤ most ∧
    ∀ s : Studio, s.Ready → s.view f = v → s.Yields f response after added (ask s)

/-! ## Requests that change nothing -/

theorem Ready.yields_itself (hs : s.Ready) (response : Response) :
    s.Yields f response (s.view f) [] (s, response) :=
  ⟨hs.tidy, rfl, rfl, (List.append_nil _).symm⟩

theorem keepsTo_answer {answer : Studio → Response} (fromView : View → Response)
    (h : ∀ s : Studio, answer s = fromView (s.view f)) : KeepsTo f 0 fun s => (s, answer s) := by
  intro v
  refine ⟨fromView v, v, [], Nat.le_refl 0, fun s hs hv => ?_⟩
  subst hv
  rw [← h]
  exact hs.yields_itself _

theorem find_eq (s : Studio) (f : String) :
    s.workspace.find (.str f) = (s.view f).find f := by
  unfold view View.find
  cases hg : s.workspace.store.get? (.str f) with
  | some g => exact Workspace.find_of_get? hg
  | none => exact Workspace.find_of_none hg

theorem keepsTo_getFlow : KeepsTo f 0 fun s =>
    (s, .ofOutcome Flow.fields (s.workspace.find (.str f))) :=
  keepsTo_answer (fun v => .ofOutcome Flow.fields (v.find f)) fun s => by rw [find_eq]

theorem keepsTo_validateFlow : KeepsTo f 0 fun s =>
    (s, .ofOutcome Report.fields (s.workspace.validateFlow s.setup s.now (.str f))) := by
  refine keepsTo_answer (fun v => .ofOutcome Report.fields do
    let g ← v.find f
    g.validate v.setup.settings.canvas.maxNodes v.now) fun s => ?_
  unfold Workspace.validateFlow
  rw [find_eq]
  rfl

/-! ## Requests that open the flow -/

theorem isOpen_iff (hs : s.workspace.Tidy) :
    s.isOpen f = true ↔ ∃ g, s.workspace.Holds f g := by
  unfold isOpen
  rcases hs with hdesk | ⟨id, g, h⟩
  · rw [hdesk]
    constructor
    · intro hopen
      cases hopen
    · rintro ⟨g, h⟩
      obtain ⟨baseline, hdesk'⟩ := h.onDesk
      cases hdesk.symm.trans hdesk'
  · obtain ⟨baseline, hdesk⟩ := h.onDesk
    have hsame : g.id.same (.str f) = true ↔ g.id = .str f :=
      Json.same_iff_of_right (Json.isText_str f).isWord
    rw [hdesk, Option.any_some]
    refine hsame.trans ⟨fun hid => ?_, fun ⟨g', h'⟩ => ?_⟩
    · cases h.id_eq.symm.trans hid
      exact ⟨g, h⟩
    · obtain ⟨baseline', hdesk'⟩ := h'.onDesk
      have hflow : g = g' := by
        cases hdesk.symm.trans hdesk'
        rfl
      exact hflow ▸ h'.id_eq

/-- A stored flow is in hand when something is done with it. -/
theorem withFlow_stored (hs : s.Ready) {g : Flow}
    (hg : s.workspace.store.get? (.str f) = some g) :
    ∃ w, w.Holds f g ∧ w.nextId = s.workspace.nextId ∧ w.store = s.workspace.store ∧
      ∀ act, s.withFlow f act = act { s with workspace := w } := by
  cases hopen : s.isOpen f with
  | true =>
    -- What is on the desk is stored, so it is this very flow.
    obtain ⟨g', hheld⟩ := (isOpen_iff hs.tidy).mp hopen
    cases hg.symm.trans hheld.stored
    refine ⟨s.workspace, hheld, rfl, rfl, fun act => ?_⟩
    unfold withFlow openFlow
    rw [if_pos hopen]
  | false =>
    -- It is opened, one step further down than a selection.
    have hroom : g.graph.copyDepth + 4 ≤ s.setup.room.steps - 1 := by
      have h := hs.hasRoom g (Store.mem_of_get? hg)
      omega
    refine ⟨{ s.workspace with desk := some (.plain g g.graph) }, ⟨hg, g.graph, rfl⟩, rfl, rfl,
      fun act => ?_⟩
    unfold withFlow openFlow inWorkspace
    rw [if_neg (by simp [hopen])]
    dsimp only
    rw [Workspace.openFlow_eq hg hroom]
    rfl

theorem withFlow_missing (hs : s.Ready) (hnone : s.workspace.store.get? (.str f) = none)
    (act : Studio → Studio × Response) :
    s.withFlow f act = (s, .ofFault (.flow (.notFound (.str f)))) := by
  have hopen : ¬ s.isOpen f = true := by
    rw [isOpen_iff hs.tidy]
    rintro ⟨g, h⟩
    cases hnone.symm.trans h.stored
  unfold withFlow openFlow inWorkspace Workspace.openFlow
  rw [if_neg hopen]
  dsimp only
  rw [Workspace.find_of_none hnone]
  rfl

/-- A flow that is not stored is not found, and nothing else comes of the request. -/
theorem keepsTo_of_stored {most : Nat} {ask : Studio → Studio × Response}
    (hmissing : ∀ s : Studio, s.Ready → s.workspace.store.get? (.str f) = none →
      ask s = (s, .ofFault (.flow (.notFound (.str f)))))
    (hstored : ∀ setup now n g, ∃ response after added, added.length ≤ most ∧
      ∀ s : Studio, s.Ready → s.view f = ⟨setup, now, n, some g⟩ →
        s.Yields f response after added (ask s)) : KeepsTo f most ask := by
  rintro ⟨setup, now, n, _ | g⟩
  · refine ⟨.ofFault (.flow (.notFound (.str f))), ⟨setup, now, n, none⟩, [], Nat.zero_le most,
      fun s hs hv => ?_⟩
    rw [hmissing s hs (view_eq_iff.mp hv).2.2.2, ← hv]
    exact hs.yields_itself _
  · exact hstored setup now n g

/-- A request keeps to a flow if what it does in the workspace keeps to the flow in hand. -/
theorem keepsTo_withFlow {act : Studio → Studio × Response}
    (inHand : Setup → Int → Workspace → Workspace × Response)
    (hact : ∀ s : Studio, act s = s.inWorkspace (inHand s.setup s.now))
    (h : ∀ setup now, Workspace.KeepsTo f (inHand setup now)) : KeepsTo f 0 (·.withFlow f act) := by
  refine keepsTo_of_stored (fun s hs hnone => withFlow_missing hs hnone act) fun setup now n g => ?_
  obtain ⟨g', n', response, hyields⟩ := h setup now g n
  refine ⟨response, ⟨setup, now, n', some g'⟩, [], Nat.le_refl 0, fun s hs hv => ?_⟩
  obtain ⟨rfl, rfl, rfl, hg⟩ := view_eq_iff.mp hv
  obtain ⟨w, hheld, hnextId, hstore, hwith⟩ := withFlow_stored hs hg
  obtain ⟨hholds, hnextId', hanswer, hothers⟩ := hyields w hheld hnextId
  rw [hwith, hact]
  refine ⟨.inr ⟨f, g', hholds⟩, hanswer, view_eq_iff.mpr ⟨rfl, rfl, hnextId', hholds.stored⟩, ?_⟩
  rw [List.append_nil, ← hstore]
  exact hothers

theorem keepsTo_editFlow {e : Edit} (he : e.IsDirect) : KeepsTo f 0 (·.editFlow f e) :=
  keepsTo_withFlow
    (fun setup _ w => ((Workspace.edit setup w e).1, .ofReply (Workspace.edit setup w e).2))
    (fun _ => rfl) fun setup _ => (Workspace.keepsTo_edit setup he).map Response.ofReply

theorem keepsTo_saveFlow : KeepsTo f 0 (·.saveFlow f) := by
  refine keepsTo_withFlow (fun setup now w => ((Workspace.save setup w now).1,
      .ofOutcome (fun p : Flow × Bool => p.1.summary ++ [("has_unsaved_changes", .bool p.2)])
        ((Workspace.save setup w now).2.map fun g => (g, (Workspace.save setup w now).1.isDirty))))
    (fun s => ?_) fun setup now => (Workspace.keepsTo_save setup now).map _
  cases hsaved : (Workspace.save s.setup s.workspace s.now).2 with
  | ok g => simp [inWorkspace, hsaved, Except.map, Response.ofOutcome, dirtyField]
  | error fault => simp [inWorkspace, hsaved, Except.map, Response.ofOutcome]

theorem keepsTo_publishFlow (v : Form.NewVersion) : KeepsTo f 0 (·.publishFlow f v) :=
  keepsTo_withFlow
    (fun setup now w =>
      let r := Workspace.publish setup w now (.str v.changelog) (.ofOption v.author)
      (r.1, .ofOutcome Version.summary r.2))
    (fun _ => rfl) fun setup now =>
      (Workspace.keepsTo_publish setup now (.str v.changelog) (.ofOption v.author)).map _

theorem keepsTo_listVersions : KeepsTo f 0 (·.listVersions f) :=
  keepsTo_withFlow
    (fun _ _ w => (w, .ofOutcome (fun vs => [("flow_id", .str f), ("versions", .arr (vs.map .obj)),
      ("total", .int vs.length)]) w.versions))
    (fun _ => rfl) fun _ _ => Workspace.keepsTo_versions.map _

/-- The response to a rollback, which shows the flow as it has become. -/
def rolledBackResponse : Reply × Outcome Flow → Response
  | (.done _, flow) => .ofOutcome Flow.summary flow
  | (reply, _) => .ofReply reply

theorem keepsTo_rollbackFlow (version : String) : KeepsTo f 0 (·.rollbackFlow f version) := by
  refine keepsTo_withFlow
    (fun _ now w => ((w.rollback now (.str version)).1, rolledBackResponse
      ((w.rollback now (.str version)).2, (w.rollback now (.str version)).1.onDesk.map Desk.flow)))
    (fun s => ?_) fun _ now => (Workspace.keepsTo_rollback now (.str version)).andFlow.map _
  dsimp only [inWorkspace]
  cases (s.workspace.rollback s.now (.str version)).2 with
  | done product =>
    dsimp only [rolledBackResponse]
    cases (s.workspace.rollback s.now (.str version)).1.onDesk <;> rfl
  | refused refusal => rfl
  | failed fault => rfl

/-! ## Requests of their own kind -/

theorem keepsTo_selectFlow : KeepsTo f 0 fun s =>
    let (s, o) := s.inWorkspace (Workspace.openFlow s.setup.room.steps · (.str f))
    (s, .ofOutcome (fun g => g.fields ++ s.dirtyField) o) := by
  refine keepsTo_of_stored (fun s _ hnone => ?_) fun setup now n g => ?_
  · have hopen : s.workspace.openFlow s.setup.room.steps (.str f) =
        (s.workspace, .error (.flow (.notFound (.str f)))) := by
      unfold Workspace.openFlow
      rw [Workspace.find_of_none hnone]
    dsimp only [inWorkspace]
    rw [hopen]
    rfl
  · refine ⟨.ok (g.fields ++ [("has_unsaved_changes", .bool !g.graph.same g.graph)]),
      ⟨setup, now, n, some g⟩, [], Nat.le_refl 0, fun s hs hv => ?_⟩
    obtain ⟨rfl, rfl, rfl, hg⟩ := view_eq_iff.mp hv
    have hopen : s.workspace.openFlow s.setup.room.steps (.str f) =
        ({ s.workspace with desk := some (.plain g g.graph) }, .ok g) := by
      refine Workspace.openFlow_eq hg ?_
      have h := hs.hasRoom g (Store.mem_of_get? hg)
      omega
    dsimp only [inWorkspace]
    rw [hopen]
    exact ⟨.inr ⟨f, g, hg, g.graph, rfl⟩, rfl, hv, (List.append_nil _).symm⟩

theorem keepsTo_deleteFlow : KeepsTo f 0 fun s =>
    let (s, o) := s.inWorkspace (Workspace.deleteFlow · (.str f))
    (s, .ofOutcome (fun _ => [("status", .str "deleted"), ("flow_id", .str f)]) o) := by
  refine keepsTo_of_stored (fun s _ hnone => ?_) fun setup now n g => ?_
  · have hdelete : s.workspace.deleteFlow (.str f) =
        (s.workspace, .error (.flow (.notFound (.str f)))) := by
      unfold Workspace.deleteFlow
      rw [Workspace.find_of_none hnone]
    dsimp only [inWorkspace]
    rw [hdelete]
    rfl
  · refine ⟨.ok [("status", .str "deleted"), ("flow_id", .str f)], ⟨setup, now, n, none⟩, [],
      Nat.le_refl 0, fun s hs hv => ?_⟩
    obtain ⟨rfl, rfl, rfl, hg⟩ := view_eq_iff.mp hv
    have htidy := hs.tidy.deleteFlow f
    obtain ⟨desk, hdelete⟩ := Workspace.deleteFlow_eq hg
    rw [hdelete] at htidy
    dsimp only [inWorkspace]
    rw [hdelete]
    exact ⟨htidy, rfl, view_eq_iff.mpr ⟨rfl, rfl, rfl, Store.get?_erase _ _⟩,
      Store.others_erase.trans (List.append_nil _).symm⟩

theorem keepsTo_duplicateFlow : KeepsTo f 1 fun s =>
    flowResponse (s.inWorkspace (Workspace.duplicateFlow s.setup · s.now (.str f) .null)) := by
  refine keepsTo_of_stored (fun s _ hnone => ?_) fun setup now n g => ?_
  · have hduplicate : s.workspace.duplicateFlow s.setup s.now (.str f) .null =
        (s.workspace, .error (.flow (.notFound (.str f)))) := by
      unfold Workspace.duplicateFlow
      rw [Workspace.find_of_none hnone]
    dsimp only [flowResponse, inWorkspace]
    rw [hduplicate]
    rfl
  · rcases Workspace.duplicateFlow_spec f setup now g n with
      ⟨n', fault, hduplicate⟩ | ⟨copy, hid, hduplicate⟩
    · refine ⟨.ofFault fault, ⟨setup, now, n', some g⟩, [], Nat.zero_le 1, fun s hs hv => ?_⟩
      obtain ⟨rfl, rfl, rfl, hg⟩ := view_eq_iff.mp hv
      dsimp only [flowResponse, inWorkspace]
      rw [hduplicate s.workspace hg rfl]
      exact ⟨hs.tidy.counted n', rfl, view_eq_iff.mpr ⟨rfl, rfl, rfl, hg⟩,
        (List.append_nil _).symm⟩
    · refine ⟨.ok copy.fields, ⟨setup, now, n + 1, some g⟩, [copy], Nat.le_refl 1,
        fun s hs hv => ?_⟩
      obtain ⟨rfl, rfl, rfl, hg⟩ := view_eq_iff.mp hv
      have hnew : s.workspace.store.get? copy.id = none := hid ▸ hs.hasFreshIds.1
      have hother : copy.id ≠ .str f := by
        intro heq
        rw [heq] at hnew
        cases hnew.symm.trans hg
      dsimp only [flowResponse, inWorkspace]
      rw [hduplicate s.workspace hg rfl]
      exact ⟨(hs.tidy.shelve hnew).counted _, rfl,
        view_eq_iff.mpr ⟨rfl, rfl, rfl, Store.get?_put_new hnew hg⟩,
        Store.others_put_new hnew hother⟩

/-! ## All requests about a flow -/

/-- A body in the wrong form is turned down, whatever is stored. -/
theorem keepsTo_withForm {α : Type} (b : Body) (check : Json → Checked α)
    {act : Studio → α → Studio × Response} (h : ∀ a, KeepsTo f 0 (act · a)) :
    KeepsTo f 0 fun s => s.withForm b check (act s) := by
  unfold withForm
  cases b.form check with
  | ok a => exact h a
  | error fault => exact keepsTo_answer (fun _ => .ofBodyFault fault) fun _ => rfl

theorem keepsTo_atEndpoint (r : Request) {e : Endpoint} (he : e.flow? = some f) :
    KeepsTo f e.mostAdded (·.atEndpoint r e) := by
  cases e with
  | health | kinds | createFlow | importFlow | listFlows => cases he
  | startRun _ | currentRun | submitText | submitKeys | hangUp | resetRun => cases he
  | getFlow f => cases he; exact keepsTo_getFlow
  | deleteFlow f => cases he; exact keepsTo_deleteFlow
  | duplicateFlow f => cases he; exact keepsTo_duplicateFlow
  | selectFlow f => cases he; exact keepsTo_selectFlow
  | validateFlow f => cases he; exact keepsTo_validateFlow
  | addNode f => cases he; exact keepsTo_withForm _ _ fun _ => keepsTo_editFlow trivial
  | updateNode f n => cases he; exact keepsTo_withForm _ _ fun _ => keepsTo_editFlow trivial
  | deleteNode f n => cases he; exact keepsTo_editFlow trivial
  | duplicateNode f n => cases he; exact keepsTo_editFlow trivial
  | moveNode f n => cases he; exact keepsTo_withForm _ _ fun _ => keepsTo_editFlow trivial
  | addEdge f => cases he; exact keepsTo_withForm _ _ fun _ => keepsTo_editFlow trivial
  | deleteEdge f e => cases he; exact keepsTo_editFlow trivial
  | save f => cases he; exact keepsTo_saveFlow
  | publish f => cases he; exact keepsTo_withForm _ _ keepsTo_publishFlow
  | versions f => cases he; exact keepsTo_listVersions
  | rollback f v => cases he; exact keepsTo_rollbackFlow v

theorem handle_of_lookup {r : Request} {e : Endpoint}
    (he : (Endpoint.atPath r.path).lookup r.method = some e) :
    s.handle r = ((s.atEndpoint r e).1, (s.atEndpoint r e).2.sent (frame e)) := by
  unfold handle
  dsimp only
  rw [he]

theorem keepsTo_handle {r : Request} {e : Endpoint}
    (he : (Endpoint.atPath r.path).lookup r.method = some e) (hf : e.flow? = some f) :
    KeepsTo f e.mostAdded (·.handle r) := by
  intro v
  obtain ⟨response, after, added, hadded, hyields⟩ := keepsTo_atEndpoint r hf v
  refine ⟨response.sent (frame e), after, added, hadded, fun s hs hv => ?_⟩
  obtain ⟨htidy, hresponse, hview, hothers⟩ := hyields s hs hv
  dsimp only at htidy hresponse hview hothers ⊢
  rw [handle_of_lookup he]
  exact ⟨htidy, congrArg (Response.sent (frame e)) hresponse, hview, hothers⟩

/-! ## The states that requests lead to -/

/-- What requests and time make of a new studio, as long as the stored flows leave room for copies
and ids are new. -/
inductive Reached : Studio → Prop where
  | fresh (settings : Settings) (palette : Palette) (effects : List (NodeKind × Effect))
      (dice : Dice) (room : Room) : Reached (.fresh settings palette effects dice room)
  | asked {s : Studio} (r : Request) (hs : Reached s) (hroom : s.HasRoom)
      (hfresh : s.HasFreshIds) : Reached (s.handle r).1
  /-- Runs go on as time passes, and never touch a flow. -/
  | passed {s : Studio} (change : Bench → Bench) (hs : Reached s) : Reached (s.onBench change)

theorem tidy_withForm {α : Type} (hs : s.workspace.Tidy) (b : Body) (check : Json → Checked α)
    {act : α → Studio × Response} (h : ∀ a, (act a).1.workspace.Tidy) :
    (s.withForm b check act).1.workspace.Tidy := by
  unfold withForm
  cases b.form check with
  | ok a => exact h a
  | error fault => exact hs

theorem workspace_taskResponse (s : Studio) : s.taskResponse.1.workspace = s.workspace := by
  unfold taskResponse
  dsimp only
  split <;> rfl

theorem workspace_hangUpRun (s : Studio) : s.hangUpRun.1.workspace = s.workspace := by
  unfold hangUpRun
  dsimp only
  split <;> rfl

theorem tidy_startRun (hs : s.workspace.Tidy) (f : String) (channel : Channel) :
    (match s.startRun (.str f) (.ok channel) true with
      | (s, .ok _) => s.taskResponse
      | (s, .error fault) => (s, .ofFault fault)).1.workspace.Tidy := by
  unfold startRun
  cases s.workspace.find (.str f) with
  | ok g =>
    dsimp only
    rw [workspace_taskResponse]
    exact hs
  | error fault => exact hs

theorem tidy_atEndpoint (hs : s.Ready) (r : Request) (e : Endpoint) :
    (s.atEndpoint r e).1.workspace.Tidy := by
  cases hf : e.flow? with
  | some f =>
    obtain ⟨_, _, _, -, hyields⟩ := keepsTo_atEndpoint r hf (s.view f)
    exact (hyields s hs rfl).tidy
  | none =>
    -- Of the other requests only two come to the workspace, and both store a flow with a new id.
    cases e with
    | health | kinds | listFlows | currentRun | resetRun => exact hs.tidy
    | createFlow =>
      exact tidy_withForm hs.tidy _ _ fun f => hs.tidy.createFlow _ _ _ _ _ hs.hasFreshIds.2
    | importFlow => exact tidy_withForm hs.tidy _ _ fun fs => hs.tidy.importFlow _ _ _
    | startRun f => exact tidy_withForm hs.tidy _ _ fun channel => tidy_startRun hs.tidy f channel
    | submitText =>
      refine tidy_withForm hs.tidy _ _ fun text => ?_
      rw [workspace_taskResponse]
      exact hs.tidy
    | submitKeys =>
      refine tidy_withForm hs.tidy _ _ fun digits => ?_
      rw [workspace_taskResponse]
      exact hs.tidy
    | hangUp =>
      rw [atEndpoint, workspace_hangUpRun]
      exact hs.tidy
    | _ => cases hf

theorem tidy_handle (hs : s.Ready) (r : Request) : (s.handle r).1.workspace.Tidy := by
  unfold handle
  dsimp only
  split
  · exact tidy_atEndpoint hs r _
  · exact hs.tidy

theorem Reached.tidy (hs : s.Reached) : s.workspace.Tidy := by
  induction hs with
  | fresh => exact .inl rfl
  | asked r _ hroom hfresh ih => exact tidy_handle ⟨ih, hroom, hfresh⟩ r
  | passed change _ ih => exact ih

/-! ## The law -/

/-- Whatever two services have been asked so far, a request about a flow that looks the same to both
is answered alike by both and leaves it looking the same, and the other flows of each stay as they
were, but that a duplicate is added to them. Every stored flow must leave room for copies. -/
theorem flows_are_kept_apart {s s' : Studio} (hs : s.Reached) (hs' : s'.Reached)
    (hroom : s.HasRoom) (hroom' : s'.HasRoom) (hfresh : s.HasFreshIds) (hfresh' : s'.HasFreshIds)
    {r : Request} {e : Endpoint} {f : String}
    (he : (Endpoint.atPath r.path).lookup r.method = some e) (hf : e.flow? = some f)
    (hview : s.view f = s'.view f) :
    (s.handle r).2 = (s'.handle r).2 ∧ (s.handle r).1.view f = (s'.handle r).1.view f ∧
    ∃ added, added.length ≤ e.mostAdded ∧
      (s.handle r).1.workspace.store.others f = s.workspace.store.others f ++ added ∧
      (s'.handle r).1.workspace.store.others f = s'.workspace.store.others f ++ added := by
  obtain ⟨response, after, added, hadded, hyields⟩ := keepsTo_handle he hf (s'.view f)
  have h := hyields s ⟨hs.tidy, hroom, hfresh⟩ hview
  have h' := hyields s' ⟨hs'.tidy, hroom', hfresh'⟩ rfl
  exact ⟨h.response_eq.trans h'.response_eq.symm, h.view_eq.trans h'.view_eq.symm,
    added, hadded, h.others_eq, h'.others_eq⟩

/-- An import adds a flow to those that are stored. -/
theorem view_import {r : Request} {g : Flow}
    (he : (Endpoint.atPath r.path).lookup r.method = some .importFlow)
    (hg : s.workspace.store.get? (.str f) = some g) :
    (s.handle r).1.view f = s.view f := by
  rw [handle_of_lookup he]
  dsimp only [atEndpoint, withForm]
  split
  · unfold flowResponse inWorkspace Workspace.importFlow
    dsimp only
    split
    · rename_i f' hcheck
      have hstays : (s.workspace.store.put f').get? (.str f) = some g :=
        Store.get?_put_new (Workspace.checkImport_spec hcheck).2.1 hg
      exact view_eq_iff.mpr ⟨rfl, rfl, rfl, hstays.trans hg.symm⟩
    · rfl
  · rfl

theorem view_select {r : Request} {g : String}
    (he : (Endpoint.atPath r.path).lookup r.method = some (.selectFlow g)) :
    (s.handle r).1.view f = s.view f := by
  rw [handle_of_lookup he]
  dsimp only [atEndpoint, inWorkspace]
  unfold Workspace.openFlow
  split
  · split <;> rfl
  · rfl

/-- A service to which nothing has been said. -/
def untouched : Studio := .fresh {} .standard [] {} ⟨962, by decide⟩

/-- The document of a flow with nothing but a start node, which stands at the position. -/
def document (id : String) (position : Json) : Json :=
  .obj [("id", .str id), ("name", .str id), ("nodes", .arr [
    .obj [("id", .str "start"), ("type", .str "start"), ("position", position)]])]

def importing (id : String) (position : Json) : Request where
  method := .post
  path := "/flows/import"
  body := .document (document id position)

def posting (path : String) : Request := { method := .post, path }

/-- One service has only one flow, and the other has a second one on its desk. -/
theorem a_save_goes_by_its_flow :
    let s := (untouched.handle (importing "a" origin)).1
    let t := (s.handle (importing "b" origin)).1
    let s' := (t.handle (posting "/flows/b/select")).1
    let save := posting "/flows/a/save"
    s.Reached ∧ s'.Reached ∧ s.HasRoom ∧ s'.HasRoom ∧ s.HasFreshIds ∧ s'.HasFreshIds ∧
      (Endpoint.atPath save.path).lookup save.method = some (.save "a") ∧
      s.view "a" = s'.view "a" ∧
      (s.workspace.store.others "a").length = 0 ∧ (s'.workspace.store.others "a").length = 1 ∧
      (s.handle save).2 = (s'.handle save).2 ∧
      (s'.handle save).1.workspace.store.others "a" = s'.workspace.store.others "a" := by
  intro s t s' save
  have hs : s.Reached := .asked _ (.fresh _ _ _ _ _) (by decide +kernel) (by decide +kernel)
  have ht : t.Reached := .asked _ hs (by decide +kernel) (by decide +kernel)
  have hs' : s'.Reached := .asked _ ht (by decide +kernel) (by decide +kernel)
  have hroom : s.HasRoom := by decide +kernel
  have hroom' : s'.HasRoom := by decide +kernel
  have hfresh : s.HasFreshIds := by decide +kernel
  have hfresh' : s'.HasFreshIds := by decide +kernel
  have he : (Endpoint.atPath save.path).lookup save.method = some (.save "a") := by
    decide +kernel
  have hstored : (s.workspace.store.get? (.str "a")).isSome = true := by decide +kernel
  obtain ⟨g, hg⟩ := Option.isSome_iff_exists.mp hstored
  have hview : s.view "a" = s'.view "a" := by
    have himport : t.view "a" = s.view "a" := view_import (by decide +kernel) hg
    have hselect : s'.view "a" = t.view "a" :=
      view_select (g := "b") (by decide +kernel)
    rw [hselect, himport]
  obtain ⟨hresponse, -, added, hadded, -, hothers⟩ :=
    flows_are_kept_apart hs hs' hroom hroom' hfresh hfresh' he rfl hview
  have hnone : added = [] := List.eq_nil_of_length_eq_zero (Nat.le_zero.mp hadded)
  refine ⟨hs, hs', hroom, hroom', hfresh, hfresh', he, hview, by decide +kernel,
    by decide +kernel, hresponse, ?_⟩
  rw [hothers, hnone, List.append_nil]

/-- So many lists inside one another. -/
def lists : Nat → Json
  | 0 => .int 0
  | n + 1 => .arr [lists n]

/-- The flow "deep" leaves no room for a copy. Saving it fails at first, and from then on it saves
the flow that was selected before. -/
theorem a_flow_without_room_is_not_kept_apart :
    let deep := importing "deep" (.obj [("x", lists 600)])
    let imported := ((untouched.handle deep).1.handle (importing "plain" origin)).1
    let selected := (imported.handle (posting "/flows/plain/select")).1
    let save := posting "/flows/deep/save"
    let s := ((selected.onBench fun b => b.advance selected.lab 1000000).handle save).1
    (Endpoint.atPath save.path).lookup save.method = some (.save "deep") ∧ s.HasFreshIds ∧
      ¬ s.HasRoom ∧
      (s.workspace.store.others "deep").map (·.updatedAt) = [0] ∧
      ((s.handle save).1.workspace.store.others "deep").map (·.updatedAt) = [1000000] := by
  intro deep imported selected save s
  refine ⟨?_, ?_, ?_, ?_, ?_⟩ <;> decide +kernel

end Studio

end Dialogue
