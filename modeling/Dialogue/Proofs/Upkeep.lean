-- The store and the desk are of one piece. Whatever is done in a workspace, each stored flow is found
-- under its own id, and the flow that is open is the one that is stored and the one that is saved,
-- with all that was done to it. A flow that leaves no room for a copy of its graph must not be
-- selected: it would come on the desk, while the flow before it is kept there still.
import Dialogue.Proofs.Isolation

namespace Dialogue

/-! ## Sameness among keys -/

namespace Json

theorem Number.same_self (m : Number) : m.same m = true := by
  cases m <;> simp [Number.same]

theorem Number.same_trans {l m n : Number} (hlm : l.same m = true) (hmn : m.same n = true) :
    l.same n = true := by
  cases l with
  | exact a =>
    cases m with
    | exact b =>
      cases n with
      | exact c =>
        simp only [Number.same, beq_iff_eq] at hlm hmn ⊢
        -- Both sides are multiplied by the denominator in the middle.
        have hne : (twoTo b.places : Int) ≠ 0 :=
          Int.natCast_ne_zero.mpr (Nat.ne_of_gt (Nat.two_pow_pos b.places))
        apply Int.eq_of_mul_eq_mul_right hne
        calc a.numerator * twoTo c.places * twoTo b.places
            = a.numerator * twoTo b.places * twoTo c.places := Int.mul_right_comm _ _ _
          _ = b.numerator * twoTo a.places * twoTo c.places := by rw [hlm]
          _ = b.numerator * twoTo c.places * twoTo a.places := Int.mul_right_comm _ _ _
          _ = c.numerator * twoTo b.places * twoTo a.places := by rw [hmn]
          _ = c.numerator * twoTo a.places * twoTo b.places := Int.mul_right_comm _ _ _
      | _ => simp [Number.same] at hmn
    | _ => simp [Number.same] at hlm
  | infinite a =>
    cases m with
    | infinite b =>
      cases n with
      | infinite c =>
        simp only [Number.same, beq_iff_eq] at hlm hmn ⊢
        exact hlm.trans hmn
      | _ => simp [Number.same] at hmn
    | _ => simp [Number.same] at hlm
  | undefined =>
    cases m with
    | undefined => exact hmn
    | _ => simp [Number.same] at hlm

/-- A key is a word or a number. -/
theorem isWord_or_number {a : Json} (h : a.isKey = true) : a.IsWord ∨ ∃ m, a.number? = some m := by
  cases a with
  | null => exact .inl (.inl rfl)
  | str s => exact .inl (isText_str s).isWord
  | bool b => exact .inr ⟨_, rfl⟩
  | int n => exact .inr ⟨_, rfl⟩
  | float x =>
    refine .inr ?_
    unfold number?
    dsimp only
    split <;> exact ⟨_, rfl⟩
  | arr _ | obj _ | table _ => cases h

theorem same_numbers_iff {a b : Json} {m : Number} (h : a.number? = some m) :
    a.same b = true ↔ ∃ n, b.number? = some n ∧ m.same n = true := by
  have hscalar : a.same b = true ↔ a.sameScalar b = true := by
    cases a <;> first | rfl | cases h
  rw [hscalar]
  cases hb : b.number? with
  | none => cases a <;> cases b <;> simp_all [sameScalar, number?]
  | some n => cases a <;> cases b <;> simp_all [sameScalar, number?]

theorem same_self {a : Json} (h : a.isKey = true) : a.same a = true := by
  rcases isWord_or_number h with hword | ⟨m, hm⟩
  · exact (same_iff_of_left hword).mpr rfl
  · exact (same_numbers_iff hm).mpr ⟨m, hm, m.same_self⟩

theorem same_trans {a b c : Json} (ha : a.isKey = true) (hab : a.same b = true)
    (hbc : b.same c = true) : a.same c = true := by
  rcases isWord_or_number ha with hword | ⟨l, hl⟩
  · rw [(same_iff_of_left hword).mp hab]
    exact hbc
  · obtain ⟨m, hm, hlm⟩ := (same_numbers_iff hl).mp hab
    obtain ⟨n, hn, hmn⟩ := (same_numbers_iff hm).mp hbc
    exact (same_numbers_iff hl).mpr ⟨n, hn, Number.same_trans hlm hmn⟩

end Json

/-! ## The store under its keys -/

namespace Store

variable {s : Store} {f g : Flow} {id : Json}

/-- Each flow is stored under a key, and no two under the same. -/
structure IsKeyed (s : Store) : Prop where
  keys : ∀ g ∈ s.flows, g.id.isKey = true
  apart : s.flows.Pairwise fun f g => f.id.same g.id = false

theorem IsKeyed.get?_of_mem (h : s.IsKeyed) (hg : g ∈ s.flows) : s.get? g.id = some g := by
  obtain ⟨gs⟩ := s
  obtain ⟨hkeys, hapart⟩ := h
  unfold get?
  dsimp only at hkeys hapart hg ⊢
  induction gs with
  | nil => cases hg
  | cons f rest ih =>
    obtain ⟨hfirst, hrest⟩ := List.pairwise_cons.mp hapart
    rcases List.mem_cons.mp hg with rfl | hmem
    · exact List.find?_cons_of_pos (Json.same_self (hkeys g List.mem_cons_self))
    · rw [List.find?_cons_of_neg (by simp [hfirst g hmem])]
      exact ih hmem (fun x hx => hkeys x (List.mem_cons_of_mem f hx)) hrest

theorem not_same_of_get?_none (h : s.get? id = none) (hg : g ∈ s.flows) :
    g.id.same id = false := by
  have hnone := List.find?_eq_none.mp (h : s.flows.find? (·.id.same id) = none)
  simpa using hnone g hg

theorem mem_place (f : Flow) (gs : List Flow) : f ∈ place f gs := by
  induction gs with
  | nil => exact List.mem_singleton.mpr rfl
  | cons x rest ih =>
    rw [place]
    split
    · exact List.mem_cons_self
    · exact List.mem_cons_of_mem x ih

theorem eq_or_mem_of_mem_place {gs : List Flow} (h : g ∈ place f gs) : g = f ∨ g ∈ gs := by
  induction gs with
  | nil => exact .inl (List.mem_singleton.mp h)
  | cons x rest ih =>
    rw [place] at h
    split at h
    · exact (List.mem_cons.mp h).imp id (List.mem_cons_of_mem x)
    · rcases List.mem_cons.mp h with rfl | hrest
      · exact .inr List.mem_cons_self
      · exact (ih hrest).imp id (List.mem_cons_of_mem x)

/-- A flow only gives up its place to one with the same id. -/
theorem mem_place_of_mem {gs : List Flow} (hg : g ∈ gs) (hne : g.id.same f.id = false) :
    g ∈ place f gs := by
  induction gs with
  | nil => cases hg
  | cons x rest ih =>
    rw [place]
    split
    · rename_i hx
      rcases List.mem_cons.mp hg with rfl | hrest
      · rw [hx] at hne
        cases hne
      · exact List.mem_cons_of_mem f hrest
    · rcases List.mem_cons.mp hg with rfl | hrest
      · exact List.mem_cons_self
      · exact List.mem_cons_of_mem x (ih hrest)

theorem pairwise_place {gs : List Flow} (hkeys : ∀ g ∈ gs, g.id.isKey = true)
    (hapart : gs.Pairwise fun f g => f.id.same g.id = false) :
    (place f gs).Pairwise fun f g => f.id.same g.id = false := by
  induction gs with
  | nil => exact List.pairwise_singleton _ f
  | cons x rest ih =>
    obtain ⟨hfirst, hrest⟩ := List.pairwise_cons.mp hapart
    rw [place]
    split
    · -- What is the same as the newcomer is the same as the flow that gives up its place to it.
      rename_i hx
      refine List.pairwise_cons.mpr ⟨fun y hy => ?_, hrest⟩
      by_contra hsame
      have hxy := Json.same_trans (hkeys x List.mem_cons_self) hx (by simpa using hsame)
      rw [hfirst y hy] at hxy
      cases hxy
    · rename_i hx
      have hplaced := ih (fun y hy => hkeys y (List.mem_cons_of_mem x hy)) hrest
      refine List.pairwise_cons.mpr ⟨fun y hy => ?_, hplaced⟩
      rcases eq_or_mem_of_mem_place hy with rfl | hmem
      · simpa using hx
      · exact hfirst y hmem

theorem IsKeyed.put (h : s.IsKeyed) (hf : f.id.isKey = true) : (s.put f).IsKeyed where
  keys g hg := by
    rcases eq_or_mem_of_mem_place hg with rfl | hmem
    · exact hf
    · exact h.keys g hmem
  apart := pairwise_place h.keys h.apart

theorem IsKeyed.erase (h : s.IsKeyed) (id : Json) : (s.erase id).IsKeyed :=
  ⟨fun g hg => h.keys g (List.mem_filter.mp hg).1, h.apart.filter _⟩

theorem mem_erase (hg : g ∈ s.flows) (hne : g.id.same id = false) : g ∈ (s.erase id).flows :=
  List.mem_filter.mpr ⟨hg, by simp [hne]⟩

end Store

/-! ## A desk of one piece -/

namespace Desk

variable {d : Desk} {f : Flow} {id : Json}

/-- The flow on the desk is the one that is stored and the one that is kept. -/
structure IsWhole (d : Desk) : Prop where
  linked : d.linked = true
  keeping : ∃ baseline, d.keeping = .own baseline

theorem IsWhole.kept?_eq (h : d.IsWhole) : d.kept? = some d.flow := by
  obtain ⟨baseline, hkeeping⟩ := h.keeping
  unfold kept?
  rw [hkeeping]

/-- The links outlast what is done at another id. -/
theorem IsWhole.unlinked_eq (h : d.IsWhole) (hne : d.flow.id.same id = false) :
    d.unlinked id = d := by
  obtain ⟨editor, linked, keeping⟩ := d
  obtain ⟨hlinked, baseline, hkeeping⟩ := h
  dsimp only at hlinked hkeeping
  subst hlinked hkeeping
  unfold unlinked Keeping.unlinked
  simp [hne]

theorem isWhole_opened (f : Flow) : (Desk.opened f).IsWhole where
  linked := rfl
  keeping := ⟨f.graph, rfl⟩

end Desk

namespace Workspace

variable {w w' : Workspace} {d : Desk} {f g : Flow}

/-- Each stored flow has a key of its own, and what is on the desk is stored there and whole. -/
structure IsUpkept (w : Workspace) : Prop where
  keyed : w.store.IsKeyed
  stored : ∀ d, w.desk = some d → d.flow ∈ w.store.flows
  whole : ∀ d, w.desk = some d → d.IsWhole

namespace IsUpkept

theorem empty : ({} : Workspace).IsUpkept where
  keyed := ⟨fun _ hg => (nomatch hg), List.Pairwise.nil⟩
  stored _ hd := nomatch hd
  whole _ hd := nomatch hd

/-- A workspace with the same store and desk. -/
theorem congr (h : w.IsUpkept) (hstore : w'.store = w.store) (hdesk : w'.desk = w.desk) :
    w'.IsUpkept where
  keyed := hstore ▸ h.keyed
  stored d hd := hstore ▸ h.stored d (hdesk ▸ hd)
  whole d hd := h.whole d (hdesk ▸ hd)

theorem find_of_mem (h : w.IsUpkept) (hg : g ∈ w.store.flows) : w.find g.id = .ok g := by
  unfold find
  rw [if_pos (h.keyed.keys g hg), h.keyed.get?_of_mem hg]

theorem desk_shelve (h : w.IsUpkept) (hnew : w.store.get? f.id = none) :
    (w.shelve f).desk = w.desk := by
  unfold shelve
  dsimp only
  cases hdesk : w.desk with
  | none => rfl
  | some d =>
    have hother := Store.not_same_of_get?_none hnew (h.stored d hdesk)
    exact congrArg some ((h.whole d hdesk).unlinked_eq hother)

theorem shelve (h : w.IsUpkept) (hkey : f.id.isKey = true) (hnew : w.store.get? f.id = none) :
    (w.shelve f).IsUpkept where
  keyed := h.keyed.put hkey
  stored d hd := by
    rw [h.desk_shelve hnew] at hd
    have hmem := h.stored d hd
    exact Store.mem_place_of_mem hmem (Store.not_same_of_get?_none hnew hmem)
  whole d hd := by
    rw [h.desk_shelve hnew] at hd
    exact h.whole d hd

end IsUpkept

theorem inKeeping_whole (hd : w.desk = some d) (h : d.IsWhole) : w.inKeeping = .ok (d, d.flow) := by
  unfold inKeeping onDesk
  rw [hd]
  simp only [bind, Except.bind, h.kept?_eq]
  rfl

end Workspace

/-! ## Work on the desk -/

theorem Edit.Does.id_eq {p : Palette} {room : Nat} {e : Editor} {nextId : Nat} {k : Edit} {f : Flow}
    (h : k.Does p room e nextId f) : f.id = e.flow.id := by
  cases h <;> rfl

/-- No edit changes the id of the flow. -/
theorem Editor.id_perform (p : Palette) (offset : Float) (room : Nat) (e : Editor) (nextId : Nat)
    (k : Edit) : (e.perform p offset room nextId k).editor.flow.id = e.flow.id :=
  (e.does_perform p offset room nextId k).id_eq

namespace Workspace

variable {w w' : Workspace} {d d' : Desk} {f : Flow}

/-- There is a flow of the same id on the desk, and it has been stored. -/
structure PutsBack (w : Workspace) (d : Desk) (w' : Workspace) (d' : Desk) : Prop where
  desk_eq : w'.desk = some d'
  store_eq : w'.store = w.store.put d'.flow
  id_eq : d'.flow.id = d.flow.id
  whole : d'.IsWhole

theorem putsBack_keep (h : d'.IsWhole) (hid : d'.flow.id = d.flow.id) :
    w.PutsBack d (w.keep d') d' := by
  refine ⟨rfl, ?_, hid, h⟩
  unfold keep
  rw [h.linked]
  rfl

theorem putsBack_file (h : d.IsWhole) (hid : f.id = d.flow.id) :
    w.PutsBack d (w.file d f) (d.withFlow f) := by
  obtain ⟨editor, linked, keeping⟩ := d
  obtain ⟨hlinked, baseline, hkeeping⟩ := h
  dsimp only at hlinked hkeeping
  subst hlinked hkeeping
  exact ⟨rfl, rfl, hid, rfl, baseline, rfl⟩

theorem putsBack_settle {α : Type} (h : d.IsWhole) (hid : f.id = d.flow.id) (room : Nat) (a : α) :
    ∃ d', w.PutsBack d (w.settle room d f a).1 d' := by
  obtain ⟨hdesk, hstore, hid', hwhole⟩ := putsBack_file (w := w) h hid
  unfold settle
  dsimp only
  split
  · exact ⟨_, hdesk, hstore, hid', hwhole⟩
  · obtain ⟨baseline, hkeeping⟩ := hwhole.keeping
    refine ⟨(d.withFlow f).settled, ?_, ?_, ?_, ?_⟩
    · dsimp only
      rw [hdesk]
      rfl
    all_goals unfold Desk.settled; rw [hkeeping]
    · exact hstore
    · exact hid'
    · exact ⟨hwhole.linked, f.graph, rfl⟩

/-- Where nothing is on the desk nothing is done. -/
theorem work_of_none (hd : w.desk = none) (s : Setup) (now : Int) (k : DeskWork) :
    w.work s now k = w := by
  have hdesk : w.onDesk = .error (.flow .noneSelected) := by
    unfold onDesk
    rw [hd]
  have hkeeping : w.inKeeping = .error (.flow .noneSelected) := by
    unfold inKeeping
    rw [hdesk]
    rfl
  cases k with
  | edit e =>
    unfold work edit
    rw [hdesk]
  | save =>
    unfold work save
    rw [hkeeping]
  | publish changelog author =>
    unfold work publish
    rw [hkeeping]
  | rollback version =>
    unfold work rollback
    rw [hkeeping]

/-- The store and the desk are the same. -/
structure Leaves (w w' : Workspace) : Prop where
  store_eq : w'.store = w.store
  desk_eq : w'.desk = w.desk

theorem work_spec (hd : w.desk = some d) (h : d.IsWhole) (s : Setup) (now : Int) (k : DeskWork) :
    w.Leaves (w.work s now k) ∨ ∃ d', w.PutsBack d (w.work s now k) d' := by
  have hkeeping := inKeeping_whole hd h
  obtain ⟨baseline, hown⟩ := h.keeping
  cases k with
  | edit e =>
    right
    have hid := d.editor.id_perform s.palette s.settings.canvas.duplicateOffset s.room.steps
      w.nextId e
    unfold work edit onDesk
    rw [hd]
    dsimp only
    generalize d.editor.perform s.palette s.settings.canvas.duplicateOffset s.room.steps
      w.nextId e = r at hid ⊢
    have hwhole : Desk.IsWhole { d with editor := r.editor } := ⟨h.linked, baseline, hown⟩
    obtain ⟨hdesk, hstore, hid', hwhole'⟩ := putsBack_keep (w := w) hwhole hid
    exact ⟨_, hdesk, hstore, hid', hwhole'⟩
  | save =>
    unfold work save
    rw [hkeeping]
    cases Clock.dated now with
    | error fault => exact .inl ⟨rfl, rfl⟩
    | ok time => exact .inr (putsBack_settle (f := d.flow.saved time) h rfl _ _)
  | publish changelog author =>
    unfold work publish
    rw [hkeeping]
    cases Clock.dated now with
    | error fault => exact .inl ⟨rfl, rfl⟩
    | ok time =>
      dsimp only
      split
      · exact .inl ⟨rfl, rfl⟩
      · split
        · exact .inl ⟨rfl, rfl⟩
        · rename_i label _ _
          let v := d.flow.snapshot time w.nextId label changelog (authorOf s author)
          obtain ⟨d', hdesk, hstore, hid, hwhole⟩ := putsBack_settle
            (w := { w with nextId := w.nextId + 1 }) (f := d.flow.withVersion time v) h rfl
            s.room.steps v
          exact .inr ⟨d', hdesk, hstore, hid, hwhole⟩
  | rollback version =>
    unfold work rollback
    rw [hkeeping]
    dsimp only
    split
    · exact .inl ⟨rfl, rfl⟩
    · split
      · exact .inr ⟨_, putsBack_file h rfl⟩
      · unfold relabel
        rw [hown]
        exact .inr ⟨_, putsBack_keep ⟨h.linked, baseline, hown⟩ rfl⟩

namespace IsUpkept

theorem putsBack (h : w.IsUpkept) (hd : w.desk = some d) (hput : w.PutsBack d w' d') :
    w'.IsUpkept := by
  obtain ⟨hdesk, hstore, hid, hwhole⟩ := hput
  have hkey : d'.flow.id.isKey = true := hid ▸ h.keyed.keys d.flow (h.stored d hd)
  refine ⟨hstore ▸ h.keyed.put hkey, fun d'' hd'' => ?_, fun d'' hd'' => ?_⟩
  · cases hdesk.symm.trans hd''
    rw [hstore]
    exact Store.mem_place d'.flow w.store.flows
  · cases hdesk.symm.trans hd''
    exact hwhole

theorem work (h : w.IsUpkept) (s : Setup) (now : Int) (k : DeskWork) :
    (w.work s now k).IsUpkept := by
  cases hd : w.desk with
  | none =>
    rw [work_of_none hd]
    exact h
  | some d =>
    rcases work_spec hd (h.whole d hd) s now k with ⟨hstore, hdesk⟩ | ⟨d', hput⟩
    · exact h.congr hstore hdesk
    · exact h.putsBack hd hput

end IsUpkept

end Workspace

/-! ## Flows that come and go -/

namespace Workspace

variable {w : Workspace} {d : Desk} {f g : Flow} {id : Json}

/-- A flow that is found is stored, and what it is found by is the same as its id. -/
theorem mem_of_find (h : w.find id = .ok g) : g ∈ w.store.flows ∧ w.store.get? id = some g := by
  unfold find at h
  split at h
  · split at h
    · rename_i hget
      cases h
      exact ⟨Store.mem_of_get? hget, hget⟩
    · cases h
  · cases h

theorem desk_deleteFlow_open (hd : w.desk = some d) (hfind : w.find id = .ok g)
    (hid : d.flow.id.equals id = true) : (w.deleteFlow id).1.desk = none := by
  unfold deleteFlow
  rw [hfind, hd]
  simp [hid]

namespace IsUpkept

theorem desk_deleteFlow_other (h : w.IsUpkept) (hd : w.desk = some d)
    (hne : d.flow.id.same id = false) : (w.deleteFlow id).1.desk = some d := by
  unfold deleteFlow
  split
  · exact hd
  · have hstays := Json.not_equals_of_not_same hne
    have hunlinked := (h.whole d hd).unlinked_eq hne
    rw [hd]
    simp [hstays, hunlinked]

theorem createFlow (h : w.IsUpkept) (s : Setup) (now : Int) (name description category : Json)
    (hnew : w.store.get? (.str (Ids.full (w.nextId + 1))) = none) :
    (w.createFlow s now name description category).1.IsUpkept ∧
      (w.createFlow s now name description category).1.desk = w.desk := by
  unfold Workspace.createFlow
  split
  · exact ⟨h, rfl⟩
  · exact ⟨h.congr rfl rfl, rfl⟩
  · dsimp only
    exact ⟨(h.shelve (Json.isText_str _).isWord.isKey hnew).congr rfl rfl, h.desk_shelve hnew⟩

theorem importFlow (h : w.IsUpkept) (s : Setup) (now : Int) (data : Json) :
    (w.importFlow s now data).1.IsUpkept ∧ (w.importFlow s now data).1.desk = w.desk := by
  unfold Workspace.importFlow
  split
  · rename_i f hcheck
    obtain ⟨hkey, hnew, -⟩ := checkImport_spec hcheck
    exact ⟨h.shelve hkey hnew, h.desk_shelve hnew⟩
  · exact ⟨h, rfl⟩

theorem duplicateFlow (h : w.IsUpkept) (s : Setup) (now : Int) (id name : Json)
    (hnew : w.store.get? (.str (Ids.full w.nextId)) = none) :
    (w.duplicateFlow s now id name).1.IsUpkept ∧
      (w.duplicateFlow s now id name).1.desk = w.desk := by
  unfold Workspace.duplicateFlow
  split
  · exact ⟨h, rfl⟩
  · exact ⟨h, rfl⟩
  · dsimp only
    split
    · exact ⟨h.congr rfl rfl, rfl⟩
    · exact ⟨(h.shelve (Json.isText_str _).isWord.isKey hnew).congr rfl rfl, h.desk_shelve hnew⟩

end IsUpkept

end Workspace

/-! ## All that is done in a workspace -/

inductive Act where
  | create (name description category : Json)
  | bring (data : Json)
  | duplicate (id name : Json)
  | delete (id : Json)
  | select (id : Json)
  | work (k : DeskWork)

namespace Act

/-- Ids that are made are new. A flow that is selected leaves room for a copy of its graph. What is
deleted by the same id as that of the open flow equals it, as all but undefined numbers do. -/
def IsProper (s : Setup) (w : Workspace) : Act → Prop
  | create _ _ _ => w.store.get? (.str (Ids.full (w.nextId + 1))) = none
  | duplicate _ _ => w.store.get? (.str (Ids.full w.nextId)) = none
  | select id => ∀ g ∈ w.store.get? id, g.graph.copyDepth + 4 ≤ s.room.steps
  | delete id => ∀ d ∈ w.desk, d.flow.id.same id = true → d.flow.id.equals id = true
  | bring _ | work _ => True

instance (s : Setup) (w : Workspace) : (a : Act) → Decidable (a.IsProper s w)
  | create _ _ _ => inferInstanceAs (Decidable (_ = none))
  | duplicate _ _ => inferInstanceAs (Decidable (_ = none))
  | select id => inferInstanceAs (Decidable (∀ g ∈ w.store.get? id, _))
  | delete _ => inferInstanceAs (Decidable (∀ d ∈ w.desk, _))
  | bring _ | work _ => inferInstanceAs (Decidable True)

/-- Whether it is done without the open flow. -/
def IsElsewhere (d : Desk) : Act → Prop
  | create _ _ _ | bring _ | duplicate _ _ => True
  | delete id => d.flow.id.same id = false
  | select _ | work _ => False

end Act

namespace Workspace

variable {w : Workspace} {d : Desk}

def act (s : Setup) (w : Workspace) (now : Int) : Act → Workspace
  | .create name description category => (w.createFlow s now name description category).1
  | .bring data => (w.importFlow s now data).1
  | .duplicate id name => (w.duplicateFlow s now id name).1
  | .delete id => (w.deleteFlow id).1
  | .select id => (w.openFlow s.room.steps id).1
  | .work k => w.work s now k

/-- What is done in an empty workspace leads there. -/
inductive Reached : Workspace → Prop where
  | empty : Reached {}
  | acted {w : Workspace} (hw : Reached w) (s : Setup) (now : Int) {a : Act}
      (hproper : a.IsProper s w) : Reached (w.act s now a)

namespace IsUpkept

theorem select (h : w.IsUpkept) (s : Setup) (now : Int) {id : Json}
    (hproper : (Act.select id).IsProper s w) : (w.act s now (.select id)).IsUpkept := by
  unfold act openFlow
  dsimp only
  cases hfind : w.find id with
  | error fault => exact h
  | ok g =>
    obtain ⟨hmem, hget⟩ := mem_of_find hfind
    have hroom := hproper g hget
    dsimp only
    rw [if_neg (by omega)]
    refine ⟨h.keyed, fun d hd => ?_, fun d hd => ?_⟩
    · cases hd
      exact hmem
    · cases hd
      exact Desk.isWhole_opened g

theorem delete (h : w.IsUpkept) (s : Setup) (now : Int) {id : Json}
    (hproper : (Act.delete id).IsProper s w) : (w.act s now (.delete id)).IsUpkept := by
  cases hfind : w.find id with
  | error fault =>
    have hleft : w.act s now (.delete id) = w := by
      unfold act deleteFlow
      simp [hfind]
    rw [hleft]
    exact h
  | ok g =>
    have hstore : (w.act s now (.delete id)).store = w.store.erase id := by
      unfold act deleteFlow
      simp [hfind]
    -- What is on the desk afterwards has been there before, and is not what was deleted.
    have hbefore : ∀ d, (w.act s now (.delete id)).desk = some d →
        w.desk = some d ∧ d.flow.id.same id = false := by
      intro d hd
      cases hdesk : w.desk with
      | none =>
        unfold act deleteFlow at hd
        simp [hfind, hdesk] at hd
      | some d₀ =>
        cases hsame : d₀.flow.id.same id with
        | true =>
          have hgone := desk_deleteFlow_open hdesk hfind (hproper d₀ hdesk hsame)
          cases hgone.symm.trans hd
        | false =>
          cases (h.desk_deleteFlow_other hdesk hsame).symm.trans hd
          exact ⟨rfl, hsame⟩
    refine ⟨hstore ▸ h.keyed.erase id, fun d hd => ?_, fun d hd => ?_⟩
    · obtain ⟨hdesk, hother⟩ := hbefore d hd
      rw [hstore]
      exact Store.mem_erase (h.stored d hdesk) hother
    · exact h.whole d (hbefore d hd).1

theorem act (h : w.IsUpkept) (s : Setup) (now : Int) {a : Act} (hproper : a.IsProper s w) :
    (w.act s now a).IsUpkept := by
  cases a with
  | create name description category =>
    exact (h.createFlow s now name description category hproper).1
  | bring data => exact (h.importFlow s now data).1
  | duplicate id name => exact (h.duplicateFlow s now id name hproper).1
  | delete id => exact h.delete s now hproper
  | select id => exact h.select s now hproper
  | work k => exact h.work s now k

/-- The open flow stays as it is while something is done without it. -/
theorem desk_act (h : w.IsUpkept) (s : Setup) (now : Int) {a : Act} (hproper : a.IsProper s w)
    (hd : w.desk = some d) (ha : a.IsElsewhere d) : (w.act s now a).desk = some d := by
  cases a with
  | create name description category =>
    exact (h.createFlow s now name description category hproper).2.trans hd
  | bring data => exact (h.importFlow s now data).2.trans hd
  | duplicate id name => exact (h.duplicateFlow s now id name hproper).2.trans hd
  | delete id => exact h.desk_deleteFlow_other hd ha
  | select id => cases ha
  | work k => cases ha

end IsUpkept

theorem Reached.isUpkept (hw : w.Reached) : w.IsUpkept := by
  induction hw with
  | empty => exact .empty
  | acted _ s now hproper ih => exact ih.act s now hproper

/-! ## The law -/

/-- What is on the desk is what is stored and what is kept, and remains so. -/
structure IsOfOnePiece (w : Workspace) : Prop where
  /-- Each stored flow is found under its own id. -/
  by_id : ∀ g ∈ w.store.flows, w.find g.id = .ok g
  found : ∀ d, w.desk = some d → w.find d.flow.id = .ok d.flow
  kept : ∀ d, w.desk = some d → d.kept? = some d.flow
  /-- What is done on the desk is found at once. -/
  worked : ∀ d s now k, w.desk = some d → ∃ d', (w.work s now k).desk = some d' ∧
    (w.work s now k).find d.flow.id = .ok d'.flow ∧ ∀ e, k = .edit e → d'.editor =
      (d.editor.perform s.palette s.settings.canvas.duplicateOffset s.room.steps w.nextId e).editor
  /-- What is done without the open flow leaves it on the desk. -/
  stays : ∀ d s now a, w.desk = some d → a.IsProper s w → a.IsElsewhere d →
    (w.act s now a).desk = some d
  deleted : ∀ d s now id, w.desk = some d → (Act.delete id).IsProper s w →
    w.find id = .ok d.flow → (w.act s now (.delete id)).desk = none

theorem desk_edit (hd : w.desk = some d) (s : Setup) (e : Edit) :
    (w.edit s e).1.desk = some { d with editor :=
      (d.editor.perform s.palette s.settings.canvas.duplicateOffset s.room.steps
        w.nextId e).editor } := by
  unfold edit onDesk
  rw [hd]
  rfl

theorem IsUpkept.worked (h : w.IsUpkept) (hd : w.desk = some d) (s : Setup) (now : Int)
    (k : DeskWork) : ∃ d', (w.work s now k).desk = some d' ∧
      (w.work s now k).find d.flow.id = .ok d'.flow := by
  have hafter := h.work s now k
  rcases work_spec hd (h.whole d hd) s now k with ⟨hstore, hdesk⟩ | ⟨d', hput⟩
  · rw [hd] at hdesk
    exact ⟨d, hdesk, hafter.find_of_mem (hafter.stored d hdesk)⟩
  · refine ⟨d', hput.desk_eq, ?_⟩
    rw [← hput.id_eq]
    exact hafter.find_of_mem (hafter.stored d' hput.desk_eq)

/-- Whatever was done in a workspace that was empty once, it is of one piece, as long as no flow was
selected that leaves no room for a copy of its graph. -/
theorem the_desk_and_the_store_are_of_one_piece (hw : w.Reached) : w.IsOfOnePiece := by
  have h := hw.isUpkept
  constructor
  case by_id => exact fun g hg => h.find_of_mem hg
  case found => exact fun d hd => h.find_of_mem (h.stored d hd)
  case kept => exact fun d hd => (h.whole d hd).kept?_eq
  case worked =>
    intro d s now k hd
    obtain ⟨d', hdesk, hfound⟩ := h.worked hd s now k
    refine ⟨d', hdesk, hfound, ?_⟩
    rintro e rfl
    cases hdesk.symm.trans (desk_edit hd s e)
    rfl
  case stays => exact fun d s now a hd hproper ha => h.desk_act s now hproper hd ha
  case deleted =>
    intro d s now id hd hproper hfind
    exact desk_deleteFlow_open hd hfind (hproper d hd (same_of_find hfind).2)

/-- A flow with an end node that was not saved yet is found as it is on the desk, beside its copy. -/
theorem an_unsaved_flow_is_found :
    let s : Setup := ⟨{}, .standard, ⟨990, by decide⟩⟩
    let id : Json := .str (Ids.full 2)
    let created := ({} : Workspace).act s 0 (.create (.str "Greeting") (.str "") (.str ""))
    let selected := created.act s 0 (.select id)
    let edited := selected.act s 0 (.work (.edit (.addNode .finish origin)))
    let w := edited.act s 0 (.duplicate id .null)
    w.Reached ∧ w.isDirty = true ∧ w.store.size = 2 ∧
      w.desk.map (·.flow.nodes.length) = some 2 ∧
      ∃ d, w.desk = some d ∧ w.find d.flow.id = .ok d.flow := by
  intro s id created selected edited w
  have hcreated : created.Reached := Reached.empty.acted s 0 (by decide +kernel)
  have hselected : selected.Reached := hcreated.acted s 0 (by decide +kernel)
  have hedited : edited.Reached := hselected.acted s 0 (by decide +kernel)
  have hw : w.Reached := hedited.acted s 0 (by decide +kernel)
  have hsome : w.desk.isSome = true := by decide +kernel
  have hd : w.desk = some (w.desk.get hsome) := (Option.some_get hsome).symm
  exact ⟨hw, by decide +kernel, by decide +kernel, by decide +kernel, _, hd,
    (the_desk_and_the_store_are_of_one_piece hw).found _ hd⟩

/-- The flow "deep" leaves no room for a copy. Once it is selected it is open, but the flow that was
selected before is kept and saved. -/
theorem a_flow_without_room_tears_them_apart :
    let s : Setup := ⟨{}, .standard, ⟨990, by decide⟩⟩
    let deep := Studio.document "deep" (.obj [("x", Studio.lists 600)])
    let imported :=
      (({} : Workspace).act s 0 (.bring (Studio.document "plain" origin))).act s 0 (.bring deep)
    let w := (imported.act s 0 (.select (.str "plain"))).act s 0 (.select (.str "deep"))
    imported.Reached ∧ w.desk.map (·.flow.id.text) = some "deep" ∧
      (w.desk.bind Desk.kept?).map (·.id.text) = some "plain" ∧
      ((w.save s 1000000).2.map (·.id.text)).toOption = some "plain" := by
  intro s deep imported w
  have himported : imported.Reached :=
    (Reached.empty.acted s 0 (by decide)).acted s 0 (by decide)
  exact ⟨himported, by decide +kernel, by decide +kernel, by decide +kernel⟩

end Workspace

end Dialogue
