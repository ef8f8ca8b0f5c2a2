-- Flows that were made here and only ever worked on here. However one was made, edited, saved,
-- published and rolled back, validation finds no error in it but that of its size.
import Dialogue.Proofs.Edits
import Dialogue.Workspace

namespace Dialogue

open Json

/-! ## Work on the desk -/

/-- What is done on the desk. -/
inductive DeskWork where
  | edit (e : Edit)
  | save
  | publish (changelog author : Json)
  | rollback (version : Json)

/-- An id that the work makes for a part of the flow on the desk is new there. -/
def DeskWork.IsFresh (w : Workspace) (d : Desk) : DeskWork → Prop
  | .edit e => e.IsFresh d.flow w.nextId
  | _ => True

/-- Does a piece of work on the desk. -/
def Workspace.work (s : Setup) (w : Workspace) (now : Int) : DeskWork → Workspace
  | .edit e => (w.edit s e).1
  | .save => (w.save s now).1
  | .publish changelog author => (w.publish s now changelog author).1
  | .rollback version => (w.rollback now version).1

/-- A flow that was made new or copied from one such, and worked on since then on a desk: as the
flow that is open there, or as the one that is kept there. -/
inductive Homegrown (s : Setup) : Flow → Prop where
  | created {w w' : Workspace} {now : Int} {name description category : Json} {f : Flow}
      (h : w.createFlow s now name description category = (w', .ok f)) : Homegrown s f
  | copied {w w' : Workspace} {now : Int} {id name : Json} {f g : Flow} (hf : Homegrown s f)
      (hfind : w.find id = .ok f) (h : w.duplicateFlow s now id name = (w', .ok g)) :
      Homegrown s g
  | worked {w : Workspace} {now : Int} {k : DeskWork} {d d' : Desk} (hf : Homegrown s d.flow)
      (hd : w.desk = some d) (hfresh : k.IsFresh w d) (hd' : (w.work s now k).desk = some d') :
      Homegrown s d'.flow
  | kept {w : Workspace} {now : Int} {k : DeskWork} {d d' : Desk} {f f' : Flow}
      (hf : Homegrown s f) (hd : w.desk = some d) (hk : d.kept? = some f)
      (hfresh : k.IsFresh w d) (hd' : (w.work s now k).desk = some d') (hk' : d'.kept? = some f') :
      Homegrown s f'

/-- What an edit leaves in any editor that holds the flow is homegrown too. -/
theorem Homegrown.edited {s : Setup} {e e' : Editor} (h : Homegrown s e.flow) {nextId : Nat}
    {k : Edit}
    (he' : (e.perform s.palette s.settings.canvas.duplicateOffset s.room.steps nextId k).editor = e')
    (hfresh : k.IsFresh e.flow nextId) : Homegrown s e'.flow := by
  subst he'
  let w : Workspace := { desk := some { editor := e, keeping := .nothing }, nextId }
  have hafter : (w.work s 0 (.edit k)).desk = some { editor := _, keeping := .nothing } := rfl
  exact h.worked (w := w) (k := .edit k) rfl hfresh hafter

/-! ## Work that leaves the graph -/

/-- Two flows with the same nodes and edges. -/
structure SameGraph (f g : Flow) : Prop where
  nodes : g.nodes = f.nodes
  edges : g.edges = f.edges

theorem SameGraph.refl (f : Flow) : SameGraph f f := ⟨rfl, rfl⟩

theorem sameGraph_saved (f : Flow) (now : Int) : SameGraph f (f.saved now) := ⟨rfl, rfl⟩

theorem sameGraph_withVersion (f : Flow) (now : Int) (v : Version) :
    SameGraph f (f.withVersion now v) := ⟨rfl, rfl⟩

theorem sameGraph_rolledBack (f : Flow) (now : Int) (v : Version) :
    SameGraph f (f.rolledBack now v) := ⟨rfl, rfl⟩

/-- The second desk holds the same graphs as the first. -/
structure Desk.SameGraphs (d d' : Desk) : Prop where
  flow : SameGraph d.flow d'.flow
  kept : ∀ f', d'.kept? = some f' → ∃ f, d.kept? = some f ∧ SameGraph f f'

namespace Desk

theorem SameGraphs.refl (d : Desk) : d.SameGraphs d :=
  ⟨.refl _, fun f' hf' => ⟨f', hf', .refl _⟩⟩

theorem sameGraphs_withKept {d : Desk} {f g : Flow} (hk : d.kept? = some f) (hg : SameGraph f g) :
    d.SameGraphs (d.withKept g) := by
  obtain ⟨editor, linked, keeping⟩ := d
  cases keeping with
  | nothing => cases hk
  | own b =>
    cases hk
    refine ⟨hg, fun f' hf' => ⟨_, rfl, ?_⟩⟩
    cases hf'
    exact hg
  | earlier f0 l b =>
    cases hk
    refine ⟨.refl _, fun f' hf' => ⟨_, rfl, ?_⟩⟩
    cases hf'
    exact hg

theorem sameGraphs_relinked {d d' : Desk} (h : d.SameGraphs d') : d.SameGraphs d'.relinked := by
  obtain ⟨editor, linked, keeping⟩ := d'
  cases keeping with
  | nothing => exact h
  | own b => exact ⟨h.flow, h.kept⟩
  | earlier f l b => exact ⟨h.flow, h.kept⟩

theorem sameGraphs_settled {d d' : Desk} (h : d.SameGraphs d') : d.SameGraphs d'.settled := by
  obtain ⟨editor, linked, keeping⟩ := d'
  cases keeping with
  | nothing => exact h
  | own b => exact ⟨h.flow, h.kept⟩
  | earlier f l b => exact ⟨h.flow, h.kept⟩

end Desk

namespace Workspace

theorem inKeeping_spec {w : Workspace} {d : Desk} {f : Flow} (h : w.inKeeping = .ok (d, f)) :
    w.desk = some d ∧ d.kept? = some f := by
  unfold inKeeping onDesk at h
  cases hd : w.desk with
  | none =>
    rw [hd] at h
    cases h
  | some d0 =>
    rw [hd] at h
    cases hk : d0.kept? with
    | none =>
      simp only [bind, Except.bind, hk] at h
      cases h
    | some f0 =>
      simp only [bind, Except.bind, hk] at h
      cases h
      exact ⟨rfl, hk⟩

theorem sameGraphs_settle {α : Type} {w : Workspace} {d d' : Desk} {f g : Flow} {room : Nat} {a : α}
    (hk : d.kept? = some f) (hg : SameGraph f g) (h : (w.settle room d g a).1.desk = some d') :
    d.SameGraphs d' := by
  have hkept := Desk.sameGraphs_relinked (Desk.sameGraphs_withKept hk hg)
  unfold settle at h
  dsimp only at h
  split at h
  · cases h
    exact hkept
  · cases h
    exact Desk.sameGraphs_settled hkept

theorem sameGraphs_save {s : Setup} {w : Workspace} {now : Int} {d d' : Desk}
    (hd : w.desk = some d) (h : (w.save s now).1.desk = some d') : d.SameGraphs d' := by
  unfold save at h
  split at h
  · cases hd.symm.trans h
    exact .refl d
  · cases hd.symm.trans h
    exact .refl d
  · rename_i hkeeping _
    obtain ⟨hd0, hk⟩ := inKeeping_spec hkeeping
    cases hd.symm.trans hd0
    exact sameGraphs_settle hk (sameGraph_saved _ _) h

theorem sameGraphs_publish {s : Setup} {w : Workspace} {now : Int} {changelog author : Json}
    {d d' : Desk} (hd : w.desk = some d) (h : (w.publish s now changelog author).1.desk = some d') :
    d.SameGraphs d' := by
  unfold publish at h
  split at h
  · cases hd.symm.trans h
    exact .refl d
  · cases hd.symm.trans h
    exact .refl d
  · rename_i hkeeping _
    obtain ⟨hd0, hk⟩ := inKeeping_spec hkeeping
    cases hd.symm.trans hd0
    dsimp only at h
    split at h
    · cases hd.symm.trans h
      exact .refl d
    · split at h
      · cases hd.symm.trans h
        exact .refl d
      · exact sameGraphs_settle hk (sameGraph_withVersion _ _ _) h

theorem sameGraphs_relabel {w : Workspace} {d d' : Desk} {f g : Flow} (hd : w.desk = some d)
    (hk : d.kept? = some f) (hg : SameGraph f g) (h : (w.relabel d g).desk = some d') :
    d.SameGraphs d' := by
  have hkept := Desk.sameGraphs_withKept hk hg
  unfold relabel at h
  unfold Desk.withKept at hkept
  split at h
  · cases hd.symm.trans h
    exact .refl d
  · rename_i hown
    rw [hown] at hkept
    cases h
    exact hkept
  · cases h
    exact Desk.sameGraphs_withKept hk hg

theorem sameGraphs_rollback {w : Workspace} {now : Int} {version : Json} {d d' : Desk}
    (hd : w.desk = some d) (h : (w.rollback now version).1.desk = some d') : d.SameGraphs d' := by
  unfold rollback at h
  split at h
  · cases hd.symm.trans h
    exact .refl d
  · rename_i hkeeping
    obtain ⟨hd0, hk⟩ := inKeeping_spec hkeeping
    cases hd.symm.trans hd0
    split at h
    · cases hd.symm.trans h
      exact .refl d
    · split at h
      · cases h
        exact Desk.sameGraphs_relinked
          (Desk.sameGraphs_withKept hk (sameGraph_rolledBack _ _ _))
      · exact sameGraphs_relabel hd hk (sameGraph_rolledBack _ _ _) h

end Workspace

/-! ## What lasts

A property of a new flow that edits keep, and that speaks of the graph alone, belongs to every
homegrown flow. -/

/-- A property of graphs that a new flow has and that no edit takes away. -/
structure Lasts (s : Setup) (P : Flow → Prop) : Prop where
  congr {f g : Flow} (h : SameGraph f g) (hf : P f) : P g
  created {w w' : Workspace} {now : Int} {name description category : Json} {f : Flow}
    (h : w.createFlow s now name description category = (w', .ok f)) : P f
  edited {e : Editor} {nextId : Nat} {edit : Edit} (h : P e.flow)
    (hfresh : edit.IsFresh e.flow nextId) :
    P (e.perform s.palette s.settings.canvas.duplicateOffset s.room.steps nextId edit).editor.flow

/-- The property passes from the flows of one desk to those of another. -/
structure Desk.Carries (P : Flow → Prop) (d d' : Desk) : Prop where
  flow : P d.flow → P d'.flow
  kept : ∀ f', d'.kept? = some f' → ∃ f, d.kept? = some f ∧ (P f → P f')

section

variable {s : Setup} {P : Flow → Prop} {w : Workspace} {d d' : Desk}

theorem Desk.SameGraphs.carries (h : d.SameGraphs d')
    (hcongr : ∀ {f g : Flow}, SameGraph f g → P f → P g) : d.Carries P d' where
  flow := hcongr h.flow
  kept f' hf' := by
    obtain ⟨f, hf, hgraph⟩ := h.kept f' hf'
    exact ⟨f, hf, hcongr hgraph⟩

namespace Lasts

theorem edit (h : Lasts s P) {e : Edit} (hd : w.desk = some d) (hfresh : e.IsFresh d.flow w.nextId)
    (hd' : (w.edit s e).1.desk = some d') : d.Carries P d' := by
  unfold Workspace.edit Workspace.onDesk at hd'
  rw [hd] at hd'
  cases hd'
  have hedited : P d.flow → _ := fun hP => h.edited (e := d.editor) hP hfresh
  refine ⟨hedited, fun f' hf' => ?_⟩
  obtain ⟨editor, linked, keeping⟩ := d
  cases keeping with
  | nothing => cases hf'
  | own b =>
    cases hf'
    exact ⟨_, rfl, hedited⟩
  | earlier f l b =>
    cases hf'
    exact ⟨_, rfl, id⟩

/-- Whatever is done on a desk, the flows on it keep the property. -/
theorem work (h : Lasts s P) {now : Int} {k : DeskWork} (hd : w.desk = some d)
    (hfresh : k.IsFresh w d) (hd' : (w.work s now k).desk = some d') : d.Carries P d' := by
  cases k with
  | edit e => exact h.edit hd hfresh hd'
  | save => exact (Workspace.sameGraphs_save hd hd').carries h.congr
  | publish changelog author => exact (Workspace.sameGraphs_publish hd hd').carries h.congr
  | rollback version => exact (Workspace.sameGraphs_rollback hd hd').carries h.congr

theorem homegrown (h : Lasts s P) {f : Flow} (hf : Homegrown s f) : P f := by
  induction hf with
  | created hmade => exact h.created hmade
  | copied hf hfind hmade ih =>
    unfold Workspace.duplicateFlow at hmade
    rw [hfind] at hmade
    split at hmade
    · cases hmade
    · cases hmade
    · rename_i hsource _
      cases hsource
      dsimp only at hmade
      split at hmade
      · cases hmade
      · cases hmade
        refine h.congr ?_ ih
        exact ⟨rfl, rfl⟩
  | worked hf hd hfresh hd' ih => exact (h.work hd hfresh hd').flow ih
  | kept hf hd hk hfresh hd' hk' ih =>
    obtain ⟨f, hf, hkeeps⟩ := (h.work hd hfresh hd').kept _ hk'
    cases hk.symm.trans hf
    exact hkeeps ih

end Lasts

end

/-! ## Homegrown flows are sound and within bounds -/

/-- All that a new flow has is a start node. -/
theorem Workspace.createFlow_spec {s : Setup} {w w' : Workspace} {now : Int}
    {name description category : Json} {f : Flow}
    (h : w.createFlow s now name description category = (w', .ok f)) :
    ∃ data position, (s.palette.current .start).newData (s.room.steps - 1) = .ok data ∧
      f.edges = [] ∧
      f.nodes = [⟨.str (Ids.tagged NodeKind.start.word w.nextId), data, position, []⟩] := by
  unfold Workspace.createFlow at h
  split at h
  · cases h
  · cases h
  · rename_i data _ hdata
    simp only [Prod.mk.injEq, Except.ok.injEq] at h
    obtain ⟨-, rfl⟩ := h
    exact ⟨data, _, hdata, rfl, rfl⟩

theorem sound_lasts {s : Setup} (hp : ∀ k, (s.palette.current k).kind = k) :
    Lasts s Flow.Sound where
  congr h hf := hf.congr h.nodes h.edges
  created h := by
    obtain ⟨data, position, hdata, hedges, hnodes⟩ := Workspace.createFlow_spec h
    have hkind : data.kind = .start := (Definition.kind_of_newData hdata).trans (hp .start)
    constructor
    case ids_text => simpa [hnodes] using isText_str _
    case ids_nodup => simp [hnodes, Flow.ids]
    case one_start => simp [hnodes, Node.kind, hkind]
    all_goals simp [hnodes, hedges, Flow.outgoing, BranchLabels]
  edited h hfresh := Editor.sound_perform h hp _ _ _ hfresh

theorem inBounds_lasts (s : Setup) : Lasts s Flow.InBounds where
  congr h hf n hn := hf n (h.nodes ▸ hn)
  created h := by
    obtain ⟨data, position, hdata, -, hnodes⟩ := Workspace.createFlow_spec h
    intro n hn
    rw [hnodes] at hn
    rw [List.mem_singleton.mp hn]
    exact Definition.inBounds_of_newData hdata
  edited h _ := Editor.inBounds_perform h _ _ _ _ _

theorem Homegrown.sound {s : Setup} (hp : ∀ k, (s.palette.current k).kind = k) {f : Flow}
    (h : Homegrown s f) : f.Sound :=
  (sound_lasts hp).homegrown h

theorem Homegrown.inBounds {s : Setup} {f : Flow} (h : Homegrown s f) : f.InBounds :=
  (inBounds_lasts s).homegrown h

/-! ## An example

A start node that is joined to an end node and published. -/

theorem exists_published_greeting :
    ∃ f, Homegrown ⟨{}, .standard, ⟨1000, by decide⟩⟩ f ∧ f.edges.length = 1 ∧
      f.status = .published ∧ f.versions.length = 1 ∧ f.nodes.length = 2 ∧
      f.id.isKey = true ∧ f.id.same f.id = true := by
  let s : Setup := ⟨{}, .standard, ⟨1000, by decide⟩⟩
  let addEnd : DeskWork := .edit (.addNode .finish origin)
  let join : DeskWork :=
    .edit (.addEdge (.str "start-00000001") (.str "end-00000003") (some .default))
  let publish : DeskWork := .publish (.str "first") .null
  let made := ({} : Workspace).createFlow s 0 (.str "Greeting") (.str "") (.str "")
  let opened := (made.1.openFlow s.room.steps (.str (Ids.full 2))).1
  let ended := opened.work s 0 addEnd
  let joined := ended.work s 0 join
  let published := joined.work s 0 publish
  let endedDesk := ended.desk.get (by decide +kernel)
  let joinedDesk := joined.desk.get (by decide +kernel)
  let publishedDesk := published.desk.get (by decide +kernel)
  have hended : ended.desk = some endedDesk := (Option.some_get _).symm
  have hjoined : joined.desk = some joinedDesk := (Option.some_get _).symm
  have hpublished : published.desk = some publishedDesk := (Option.some_get _).symm
  have hstart : Homegrown s _ := .created (rfl : made = (_, .ok _))
  have hwithEnd : Homegrown s endedDesk.flow :=
    hstart.worked (k := addEnd) (rfl : opened.desk = some (Desk.opened _))
      (not_mem_of_isIn (isText_str _).isWord (by decide +kernel)) hended
  have hwithEdge : Homegrown s joinedDesk.flow :=
    hwithEnd.worked (k := join) hended
      (not_mem_of_isIn (isText_str _).isWord (by decide +kernel)) hjoined
  have hout : Homegrown s publishedDesk.flow :=
    hwithEdge.worked (k := publish) hjoined trivial hpublished
  exact ⟨publishedDesk.flow, hout, by decide +kernel, by decide +kernel, by decide +kernel,
    by decide +kernel, by decide +kernel, by decide +kernel⟩

/-! ## Validation -/

/-- Validation finds nothing wrong with a homegrown flow but that it may be too large. -/
theorem a_homegrown_flow_breaks_no_rule {settings : Settings} (definitions : List Definition)
    {room : Room} {f : Flow}
    (h : Homegrown ⟨settings, definitions.foldl Palette.register .standard, room⟩ f) (most : Int)
    {now : Int} (hnow : Clock.isDated now = true) :
    ∃ r, f.validate most now = .ok r ∧
      ∀ i ∈ r.errors, i = .tooManyNodes f.nodes.length most := by
  have hsound := h.sound (Palette.current_kind definitions)
  obtain ⟨broken, hr, herrors, hlawful⟩ := Flow.validate_spec hsound.worded most hnow
  refine ⟨_, hr, fun i hi => ?_⟩
  rw [Flow.errors_of_report herrors, hlawful.mpr hsound.lawful, List.nil_append] at hi
  unfold Flow.sizeIssues at hi
  split at hi
  · exact List.mem_singleton.mp hi
  · cases hi

/-- So it is with a start node that is joined to an end node and published. -/
theorem a_published_greeting_breaks_no_rule :
    ∃ f, Homegrown ⟨{}, .standard, ⟨1000, by decide⟩⟩ f ∧ f.edges.length = 1 ∧
      f.status = .published ∧ Clock.isDated 0 = true ∧ ∃ r, f.validate 500 0 = .ok r ∧
        ∀ i ∈ r.errors, i = .tooManyNodes f.nodes.length 500 := by
  obtain ⟨f, hf, hedges, hstatus, -⟩ := exists_published_greeting
  have hnow : Clock.isDated 0 = true := by decide
  exact ⟨f, hf, hedges, hstatus, hnow, a_homegrown_flow_breaks_no_rule [] hf 500 hnow⟩

end Dialogue
