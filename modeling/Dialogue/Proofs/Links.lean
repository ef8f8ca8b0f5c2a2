-- The links between the store and the desk. Whatever is done in a workspace, what the desk has a link
-- for is stored, even where the flow that is open and the one that is kept have come apart.
import Mathlib.Data.List.Find
import Dialogue.Proofs.Upkeep

namespace Dialogue

/-! ## Look-ups by keys that are the same -/

namespace Json

theorem Number.same_symm {m n : Number} (h : m.same n = true) : n.same m = true := by
  cases m with
  | exact a =>
    cases n with
    | exact b =>
      simp only [Number.same, beq_iff_eq] at h ⊢
      exact h.symm
    | _ => cases h
  | infinite a =>
    cases n with
    | infinite b =>
      simp only [Number.same, beq_iff_eq] at h ⊢
      exact h.symm
    | _ => cases h
  | undefined =>
    cases n with
    | undefined => rfl
    | _ => cases h

theorem same_symm {a b : Json} (ha : a.isKey = true) (h : a.same b = true) : b.same a = true := by
  rcases isWord_or_number ha with hword | ⟨m, hm⟩
  · rw [← (same_iff_of_left hword).mp h]
    exact same_self ha
  · obtain ⟨n, hn, hmn⟩ := (same_numbers_iff hm).mp h
    exact (same_numbers_iff hn).mpr ⟨m, hm, Number.same_symm hmn⟩

theorem not_same_symm {a b : Json} (hb : b.isKey = true) (h : a.same b = false) :
    b.same a = false := by
  by_contra hsame
  have hab := same_symm hb (by simpa using hsame)
  rw [h] at hab
  cases hab

end Json

theorem Flow.isKey_of_id_eq {f : Flow} {id : String} (h : f.id = .str id) : f.id.isKey = true := by
  rw [h]
  rfl

namespace Store

variable {s : Store} {f g : Flow} {id : Json}

theorem IsKeyed.get?_of_same (h : s.IsKeyed) (hf : f ∈ s.flows)
    (hsame : f.id.same id = true) : s.get? id = some f := by
  have hkey := h.keys f hf
  have hagree : s.get? id = s.get? f.id := by
    apply List.find?_congr
    intro x hx
    have hkeyx := h.keys x hx
    rw [Bool.eq_iff_iff]
    constructor
    · intro hxid
      exact Json.same_trans hkeyx hxid (Json.same_symm hkey hsame)
    · intro hxf
      exact Json.same_trans hkeyx hxf hsame
  rw [hagree]
  exact h.get?_of_mem hf

/-- A flow that is put in is found by its id. By another id the same is found as before. -/
theorem IsKeyed.get?_put (h : s.IsKeyed) (hf : f.id.isKey = true) :
    (s.put f).get? id = if f.id.same id then some f else s.get? id := by
  obtain ⟨gs⟩ := s
  have hkeys : ∀ g ∈ gs, g.id.isKey = true := h.keys
  unfold Store.put get?
  dsimp only
  clear h
  induction gs with
  | nil => simp [place]
  | cons g rest ih =>
    have hg := hkeys g List.mem_cons_self
    have hrest := ih fun x hx => hkeys x (List.mem_cons_of_mem g hx)
    rw [place]
    by_cases hgf : g.id.same f.id = true
    · rw [if_pos hgf]
      by_cases hfid : f.id.same id = true
      · simp [hfid]
      · have hgid : ¬ g.id.same id = true := fun hgid =>
          hfid (Json.same_trans hf (Json.same_symm hg hgf) hgid)
        simp [hfid, hgid]
    · rw [if_neg hgf]
      by_cases hgid : g.id.same id = true
      · have hfid : ¬ f.id.same id = true := fun hfid =>
          hgf (Json.same_trans hg hgid (Json.same_symm hf hfid))
        simp [hgid, hfid]
      · simp [hgid, hrest]

end Store

/-! ## What an act does -/

theorem Clock.eq_of_dated {now time : Int} (h : Clock.dated now = .ok time) : time = now := by
  unfold Clock.dated at h
  split at h
  · cases h
    rfl
  · cases h

/-- Whether the flow that is kept is the stored one. -/
def Desk.keepsStored (d : Desk) : Bool :=
  match d.keeping with
  | .nothing => false
  | .own _ => d.linked
  | .earlier _ linked _ => linked

/-- What a work other than an edit makes of the flow that is kept. -/
inductive DeskWork.Makes (s : Setup) (w : Workspace) (now : Int) (f : Flow) :
    DeskWork → Flow → Prop where
  | saved : Makes s w now f .save (f.saved now)
  | published {changelog author : Json} {label : String} (hlabel : Label.nextOf f.label = .ok label) :
      Makes s w now f (.publish changelog author)
        (f.withVersion now
          (f.snapshot now w.nextId label changelog (Workspace.authorOf s author)))
  | rolledBack {version : Json} {v : Version} (hv : f.version? version = some v) (time : Int) :
      Makes s w now f (.rollback version) (f.rolledBack time v)

theorem DeskWork.Makes.id_eq {s : Setup} {w : Workspace} {now : Int} {k : DeskWork} {f g : Flow}
    (h : k.Makes s w now f g) : g.id = f.id := by
  cases h <;> rfl

/-- What an act does with the store and the desk. -/
inductive Act.Does (s : Setup) (w : Workspace) (now : Int) : Act → Store → Option Desk → Prop where
  | nothing (a : Act) : Does s w now a w.store w.desk
  | created {name description category : Json} {f : Flow}
      (hid : f.id = .str (Ids.full (w.nextId + 1))) :
      Does s w now (.create name description category) (w.store.put f)
        (w.desk.map (Desk.unlinked f.id))
  | brought {data : Json} {f : Flow} (hkey : f.id.isKey = true) (hnew : w.store.get? f.id = none) :
      Does s w now (.bring data) (w.store.put f) (w.desk.map (Desk.unlinked f.id))
  | copied {id name : Json} {f : Flow} (hid : f.id = .str (Ids.full w.nextId)) :
      Does s w now (.duplicate id name) (w.store.put f) (w.desk.map (Desk.unlinked f.id))
  | deleted (id : Json) :
      Does s w now (.delete id) (w.store.erase id)
        ((w.desk.filter fun d => !d.flow.id.equals id).map (Desk.unlinked id))
  | opened {id : Json} {f : Flow} (hf : f ∈ w.store.flows) :
      Does s w now (.select id) w.store (some (Desk.opened f))
  | halfOpened {id : Json} {f : Flow} (hf : f ∈ w.store.flows) :
      Does s w now (.select id) w.store (some (Desk.halfOpened w.desk f))
  | edited {d : Desk} (hd : w.desk = some d) (e : Edit) {after : Editor}
      (hafter : after = (d.editor.perform s.palette s.settings.canvas.duplicateOffset s.room.steps
        w.nextId e).editor) :
      Does s w now (.work (.edit e)) (if d.linked then w.store.put after.flow else w.store)
        (some { d with editor := after })
  | filed {d : Desk} {f g : Flow} {k : DeskWork} (hd : w.desk = some d) (hf : d.kept? = some f)
      (hg : k.Makes s w now f g) :
      Does s w now (.work k) (w.store.put g) (some (d.withKept g).relinked)
  | settled {d : Desk} {f g : Flow} {k : DeskWork} (hd : w.desk = some d) (hf : d.kept? = some f)
      (hg : k.Makes s w now f g) :
      Does s w now (.work k) (w.store.put g) (some (d.withKept g).relinked.settled)
  | relabelled {d : Desk} {f g : Flow} {k : DeskWork} (hd : w.desk = some d) (hf : d.kept? = some f)
      (hg : k.Makes s w now f g) :
      Does s w now (.work k) (if d.keepsStored then w.store.put g else w.store)
        (some (d.withKept g))

namespace Workspace

variable {w : Workspace} {now : Int}

/-- The store and the desk after an act. -/
abbrev Ends (s : Setup) (w : Workspace) (now : Int) (a : Act) (w' : Workspace) : Prop :=
  a.Does s w now w'.store w'.desk

theorem ends_settle {α : Type} {s : Setup} {k : DeskWork} {d : Desk} {f g : Flow}
    (hd : w.desk = some d) (hf : d.kept? = some f) (hg : k.Makes s w now f g) (n room : Nat)
    (a : α) : w.Ends s now (.work k) (settle room { w with nextId := n } d g a).1 := by
  unfold settle
  dsimp only
  split
  · exact .filed hd hf hg
  · exact .settled hd hf hg

theorem ends_save (s : Setup) (w : Workspace) (now : Int) :
    w.Ends s now (.work .save) (w.save s now).1 := by
  unfold save
  split
  · exact .nothing _
  · exact .nothing _
  · rename_i hkeeping hdated
    obtain ⟨hd, hf⟩ := inKeeping_spec hkeeping
    rw [Clock.eq_of_dated hdated]
    exact ends_settle hd hf .saved w.nextId _ _

theorem ends_publish (s : Setup) (w : Workspace) (now : Int) (changelog author : Json) :
    w.Ends s now (.work (.publish changelog author)) (w.publish s now changelog author).1 := by
  unfold publish
  split
  · exact .nothing _
  · exact .nothing _
  · rename_i hkeeping hdated
    obtain ⟨hd, hf⟩ := inKeeping_spec hkeeping
    rw [Clock.eq_of_dated hdated]
    dsimp only
    split
    · exact .nothing _
    · rename_i hlabel
      split
      · exact .nothing _
      · exact ends_settle hd hf (.published hlabel) _ _ _

theorem ends_rollback (s : Setup) (w : Workspace) (now : Int) (version : Json) :
    w.Ends s now (.work (.rollback version)) (w.rollback now version).1 := by
  unfold rollback
  split
  · exact .nothing _
  · rename_i d f hkeeping
    obtain ⟨hd, hf⟩ := inKeeping_spec hkeeping
    split
    · exact .nothing _
    · rename_i v hv
      split
      · exact .filed hd hf (.rolledBack hv _)
      · have hg : (DeskWork.rollback version).Makes s w now f (f.rolledBack f.updatedAt v) :=
          .rolledBack hv f.updatedAt
        have hrelabelled := Act.Does.relabelled hd hf hg
        unfold relabel
        unfold Desk.keepsStored Desk.withKept at hrelabelled
        split
        · rename_i hk
          unfold Desk.kept? at hf
          rw [hk] at hf
          cases hf
        · rename_i hk
          rw [hk] at hrelabelled
          exact hrelabelled
        · rename_i hk
          rw [hk] at hrelabelled
          unfold Desk.withKept
          rw [hk]
          exact hrelabelled

theorem ends_edit (s : Setup) (w : Workspace) (now : Int) (e : Edit) :
    w.Ends s now (.work (.edit e)) (w.edit s e).1 := by
  unfold edit onDesk
  cases hd : w.desk with
  | none => exact .nothing _
  | some d => exact .edited hd e rfl

theorem ends_openFlow (s : Setup) (w : Workspace) (now : Int) (room : Nat) (id : Json) :
    w.Ends s now (.select id) (w.openFlow room id).1 := by
  unfold openFlow
  split
  · rename_i hfind
    split
    · exact .halfOpened (mem_of_find hfind).1
    · exact .opened (mem_of_find hfind).1
  · exact .nothing _

theorem ends_deleteFlow (s : Setup) (w : Workspace) (now : Int) (id : Json) :
    w.Ends s now (.delete id) (w.deleteFlow id).1 := by
  unfold deleteFlow
  split
  · exact .nothing _
  · exact .deleted id

theorem ends_createFlow (s : Setup) (w : Workspace) (now : Int) (name description category : Json) :
    w.Ends s now (.create name description category)
      (w.createFlow s now name description category).1 := by
  unfold createFlow
  split
  · exact .nothing _
  · exact .nothing _
  · exact .created rfl

theorem ends_duplicateFlow (s : Setup) (w : Workspace) (now : Int) (id name : Json) :
    w.Ends s now (.duplicate id name) (w.duplicateFlow s now id name).1 := by
  unfold duplicateFlow
  split
  · exact .nothing _
  · exact .nothing _
  · dsimp only
    split
    · exact .nothing _
    · exact .copied rfl

theorem ends_importFlow (s : Setup) (w : Workspace) (now : Int) (data : Json) :
    w.Ends s now (.bring data) (w.importFlow s now data).1 := by
  unfold importFlow
  split
  · rename_i hcheck
    obtain ⟨hkey, hnew, -⟩ := checkImport_spec hcheck
    exact .brought hkey hnew
  · exact .nothing _

theorem ends_act (s : Setup) (w : Workspace) (now : Int) (a : Act) :
    w.Ends s now a (w.act s now a) := by
  cases a with
  | create name description category => exact w.ends_createFlow s now name description category
  | bring data => exact w.ends_importFlow s now data
  | duplicate id name => exact w.ends_duplicateFlow s now id name
  | delete id => exact w.ends_deleteFlow s now id
  | select id => exact w.ends_openFlow s now _ id
  | work k =>
    cases k with
    | edit e => exact w.ends_edit s now e
    | save => exact w.ends_save s now
    | publish changelog author => exact w.ends_publish s now changelog author
    | rollback version => exact w.ends_rollback s now version

end Workspace

/-! ## True links -/

namespace Desk

variable {s s' : Store} {d : Desk} {f g : Flow} {id b : Json} {l : Bool}

/-- What the desk has a link for is stored, and the two flows on it never have links to one place. -/
structure IsTrueTo (s : Store) (d : Desk) : Prop where
  key : d.flow.id.isKey = true
  kept_key : ∀ f, d.kept? = some f → f.id.isKey = true
  linked : d.linked = true → d.flow ∈ s.flows
  earlier : ∀ f b, d.keeping = .earlier f true b → f ∈ s.flows
  apart : ∀ f b, d.linked = true → d.keeping = .earlier f true b → f.id.same d.flow.id = false

theorem kept?_own (hk : d.keeping = .own b) : d.kept? = some d.flow := by
  unfold kept?
  rw [hk]

theorem kept?_earlier (hk : d.keeping = .earlier g l b) : d.kept? = some g := by
  unfold kept?
  rw [hk]

theorem isTrueTo_nothing (hk : d.keeping = .nothing) (hkey : d.flow.id.isKey = true)
    (hlinked : d.linked = true → d.flow ∈ s.flows) : d.IsTrueTo s where
  key := hkey
  kept_key f hf := by
    unfold kept? at hf
    rw [hk] at hf
    cases hf
  linked := hlinked
  earlier f b hf := by rw [hk] at hf; cases hf
  apart f b _ hf := by rw [hk] at hf; cases hf

theorem isTrueTo_own (hk : d.keeping = .own b) (hkey : d.flow.id.isKey = true)
    (hlinked : d.linked = true → d.flow ∈ s.flows) : d.IsTrueTo s where
  key := hkey
  kept_key f hf := by
    rw [kept?_own hk] at hf
    cases hf
    exact hkey
  linked := hlinked
  earlier f b hf := by rw [hk] at hf; cases hf
  apart f b _ hf := by rw [hk] at hf; cases hf

theorem isTrueTo_earlier (hk : d.keeping = .earlier g l b) (hkey : d.flow.id.isKey = true)
    (hgkey : g.id.isKey = true) (hlinked : d.linked = true → d.flow ∈ s.flows)
    (hearlier : l = true → g ∈ s.flows)
    (hapart : d.linked = true → l = true → g.id.same d.flow.id = false) : d.IsTrueTo s where
  key := hkey
  kept_key f hf := by
    rw [kept?_earlier hk] at hf
    cases hf
    exact hgkey
  linked := hlinked
  earlier f b hf := by
    rw [hk] at hf
    cases hf
    exact hearlier rfl
  apart f b hl hf := by
    rw [hk] at hf
    cases hf
    exact hapart hl rfl

namespace IsTrueTo

theorem earlier_of (h : d.IsTrueTo s) (hk : d.keeping = .earlier g l b) (hl : l = true) :
    g ∈ s.flows := by
  subst hl
  exact h.earlier g b hk

theorem apart_of (h : d.IsTrueTo s) (hk : d.keeping = .earlier g l b) (hd : d.linked = true)
    (hl : l = true) : g.id.same d.flow.id = false := by
  subst hl
  exact h.apart g b hd hk

/-- Something was done at the id, and the links to it were cut. -/
theorem unlinked (h : d.IsTrueTo s)
    (hother : ∀ g ∈ s.flows, g.id.same id = false → g ∈ s'.flows) : (d.unlinked id).IsTrueTo s' := by
  have hlinked : (d.unlinked id).linked = true → d.flow ∈ s'.flows := by
    intro hl
    simp only [Desk.unlinked, Bool.and_eq_true, Bool.not_eq_true'] at hl
    exact hother _ (h.linked hl.1) hl.2
  cases hk : d.keeping with
  | nothing =>
    refine isTrueTo_nothing ?_ h.key hlinked
    simp [Desk.unlinked, Keeping.unlinked, hk]
  | own b =>
    refine isTrueTo_own (b := b) ?_ h.key hlinked
    simp [Desk.unlinked, Keeping.unlinked, hk]
  | earlier g l b =>
    refine isTrueTo_earlier (g := g) (l := l && !g.id.same id) (b := b) ?_ h.key
      (h.kept_key g (kept?_earlier hk)) hlinked (fun hl => ?_) (fun hd hl => ?_)
    · simp [Desk.unlinked, Keeping.unlinked, hk]
    · simp only [Bool.and_eq_true, Bool.not_eq_true'] at hl
      exact hother g (h.earlier_of hk hl.1) hl.2
    · simp only [Desk.unlinked, Bool.and_eq_true] at hd hl
      exact h.apart_of hk hd.1 hl.1

/-- Where no stored flow has the id, there is no link to cut. -/
theorem unlinked_eq (h : d.IsTrueTo s) (hnew : ∀ g ∈ s.flows, g.id.same id = false) :
    d.unlinked id = d := by
  have hlinked : (d.linked && !d.flow.id.same id) = d.linked := by
    cases hl : d.linked with
    | false => rfl
    | true => simp [hnew _ (h.linked hl)]
  have hkeeping : d.keeping.unlinked id = d.keeping := by
    cases hk : d.keeping with
    | nothing => rfl
    | own b => rfl
    | earlier g l b =>
      cases l with
      | false => rfl
      | true => simp [Keeping.unlinked, hnew g (h.earlier_of hk rfl)]
  unfold Desk.unlinked
  rw [hlinked, hkeeping]

theorem opened (hf : f ∈ s.flows) (hkey : f.id.isKey = true) : (Desk.opened f).IsTrueTo s :=
  isTrueTo_own rfl hkey fun _ => hf

/-- A flow comes on the desk while another one is kept there. -/
theorem beside (hf : f ∈ s.flows) (hkey : f.id.isKey = true) (hg : l = true → g ∈ s.flows)
    (hgkey : g.id.isKey = true) : Desk.IsTrueTo s
      ⟨{ flow := f }, true, if l && g.id.same f.id then .own b else .earlier g l b⟩ := by
  by_cases hsame : (l && g.id.same f.id) = true
  · exact isTrueTo_own (b := b) (if_pos hsame) hkey fun _ => hf
  · refine isTrueTo_earlier (if_neg hsame) hkey hgkey (fun _ => hf) hg fun _ hl => ?_
    simpa [Desk.flow, hl] using hsame

theorem halfOpened (h : d.IsTrueTo s) (hf : f ∈ s.flows) (hkey : f.id.isKey = true) :
    (Desk.halfOpened (some d) f).IsTrueTo s := by
  obtain ⟨editor, linked, keeping⟩ := d
  cases keeping with
  | nothing => exact isTrueTo_nothing rfl hkey fun _ => hf
  | own b => exact beside hf hkey h.linked h.key
  | earlier g l b => exact beside hf hkey (h.earlier_of rfl) (h.kept_key g rfl)

/-- The flow on the desk has changed, and so has the stored one if there is a link. -/
theorem withEditor (h : d.IsTrueTo s) {e : Editor} (hid : e.flow.id = d.flow.id) :
    Desk.IsTrueTo (if d.linked then s.put e.flow else s) { d with editor := e } := by
  have hkey : e.flow.id.isKey = true := hid ▸ h.key
  have hlinked : d.linked = true → e.flow ∈ (if d.linked then s.put e.flow else s).flows := by
    intro hl
    rw [if_pos hl]
    exact Store.mem_place e.flow s.flows
  cases hk : d.keeping with
  | nothing => exact isTrueTo_nothing rfl hkey hlinked
  | own b => exact isTrueTo_own rfl hkey hlinked
  | earlier g l b =>
    have hapart : d.linked = true → l = true → g.id.same e.flow.id = false := by
      rw [hid]
      exact h.apart_of hk
    refine isTrueTo_earlier rfl hkey (h.kept_key g (kept?_earlier hk)) hlinked (fun hl => ?_) hapart
    split
    · rename_i hd
      exact Store.mem_place_of_mem (h.earlier_of hk hl) (hapart hd hl)
    · exact h.earlier_of hk hl

/-- The flow that is kept is replaced on the desk, and in the store if there is a link. -/
theorem replaced (h : d.IsTrueTo s) (hg : d.kept? = some g) (hid : f.id = g.id) :
    (d.withKept f).IsTrueTo (if d.keepsStored then s.put f else s) := by
  have hkey : f.id.isKey = true := hid ▸ h.kept_key g hg
  obtain ⟨editor, linked, keeping⟩ := d
  cases keeping with
  | nothing => cases hg
  | own b =>
    cases hg
    exact h.withEditor (e := { editor with flow := f }) hid
  | earlier g l b =>
    cases hg
    have hapart : linked = true → l = true → f.id.same editor.flow.id = false := by
      rw [hid]
      exact h.apart_of rfl
    refine isTrueTo_earlier rfl h.key hkey (fun hd => ?_) (fun hl => ?_) hapart
    · change editor.flow ∈ (if l then s.put f else s).flows
      split
      · rename_i hl
        exact Store.mem_place_of_mem (h.linked hd) (Json.not_same_symm h.key (hapart hd hl))
      · exact h.linked hd
    · change f ∈ (if l then s.put f else s).flows
      rw [if_pos hl]
      exact Store.mem_place f s.flows

/-- The flow that is kept is stored as it has become. -/
theorem filed (h : d.IsTrueTo s) (hg : d.kept? = some g) (hid : f.id = g.id) :
    (d.withKept f).relinked.IsTrueTo (s.put f) := by
  have hkey : f.id.isKey = true := hid ▸ h.kept_key g hg
  have hmem : f ∈ (s.put f).flows := Store.mem_place f s.flows
  obtain ⟨editor, linked, keeping⟩ := d
  cases keeping with
  | nothing => cases hg
  | own b => exact isTrueTo_own rfl hkey fun _ => hmem
  | earlier g l b =>
    -- The flow on the desk is linked only if it has another id.
    have hcut : Desk.IsTrueTo (s.put f) (Desk.unlinked f.id ⟨editor, linked, .earlier g l b⟩) :=
      h.unlinked fun x hx hne => Store.mem_place_of_mem hx hne
    refine isTrueTo_earlier rfl hcut.key hkey hcut.linked (fun _ => hmem) fun hd _ => ?_
    simp only [Desk.relinked, Desk.withKept, Desk.unlinked, Bool.and_eq_true,
      Bool.not_eq_true'] at hd
    exact Json.not_same_symm hkey hd.2

theorem settled (h : d.IsTrueTo s) : d.settled.IsTrueTo s := by
  obtain ⟨editor, linked, keeping⟩ := d
  cases keeping with
  | nothing => exact h
  | own b => exact isTrueTo_own rfl h.key h.linked
  | earlier g l b =>
    exact isTrueTo_earlier rfl h.key (h.kept_key g rfl) h.linked (h.earlier_of rfl)
      (h.apart_of rfl)

end IsTrueTo

end Desk

/-- Each stored flow has a key of its own, and the links of the desk are true. -/
structure Store.Backs (s : Store) (desk : Option Desk) : Prop where
  keyed : s.IsKeyed
  desk : ∀ d, desk = some d → d.IsTrueTo s

namespace Store.Backs

variable {w : Workspace} {d : Desk} {f g : Flow}

theorem put_unlinked (h : w.store.Backs w.desk) (hkey : f.id.isKey = true) :
    (w.store.put f).Backs (w.desk.map (Desk.unlinked f.id)) where
  keyed := h.keyed.put hkey
  desk d hd := by
    obtain ⟨d₀, hd₀, rfl⟩ := Option.map_eq_some_iff.mp hd
    exact (h.desk d₀ hd₀).unlinked fun g hg hne => Store.mem_place_of_mem hg hne

theorem filed (h : w.store.Backs w.desk) (hd : w.desk = some d) (hf : d.kept? = some f)
    (hid : g.id = f.id) : (w.store.put g).Backs (some (d.withKept g).relinked) where
  keyed := h.keyed.put (hid ▸ (h.desk d hd).kept_key f hf)
  desk d' hd' := by
    cases hd'
    exact (h.desk d hd).filed hf hid

/-- Whatever is done, the links remain true. -/
theorem does (h : w.store.Backs w.desk) {s : Setup} {now : Int} {a : Act} {store : Store}
    {desk : Option Desk} (hdoes : a.Does s w now store desk) : store.Backs desk := by
  cases hdoes with
  | nothing => exact h
  | created hid => exact h.put_unlinked (Flow.isKey_of_id_eq hid)
  | brought hkey hnew => exact h.put_unlinked hkey
  | copied hid => exact h.put_unlinked (Flow.isKey_of_id_eq hid)
  | deleted id =>
    refine ⟨h.keyed.erase id, fun d hd => ?_⟩
    obtain ⟨d₀, hd₀, rfl⟩ := Option.map_eq_some_iff.mp hd
    obtain ⟨hdesk, -⟩ := Option.filter_eq_some_iff.mp hd₀
    exact (h.desk d₀ hdesk).unlinked fun g hg hne => Store.mem_erase hg hne
  | opened hf =>
    refine ⟨h.keyed, fun d hd => ?_⟩
    cases hd
    exact .opened hf (h.keyed.keys _ hf)
  | halfOpened hf =>
    refine ⟨h.keyed, fun d hd => ?_⟩
    have hkey := h.keyed.keys _ hf
    cases hd
    cases hdesk : w.desk with
    | none => exact Desk.isTrueTo_nothing rfl hkey fun _ => hf
    | some d => exact (h.desk d hdesk).halfOpened hf hkey
  | @edited d hd e after hafter =>
    have hid : after.flow.id = d.flow.id := by
      rw [hafter]
      exact d.editor.id_perform _ _ _ _ _
    have htrue := h.desk d hd
    refine ⟨?_, fun d' hd' => ?_⟩
    · split
      · exact h.keyed.put (hid ▸ htrue.key)
      · exact h.keyed
    · cases hd'
      exact htrue.withEditor hid
  | filed hd hf hg => exact h.filed hd hf hg.id_eq
  | settled hd hf hg =>
    have hfiled := h.filed hd hf hg.id_eq
    refine ⟨hfiled.keyed, fun d' hd' => ?_⟩
    cases hd'
    exact (hfiled.desk _ rfl).settled
  | @relabelled d f g k hd hf hg =>
    have htrue := h.desk d hd
    have hkey : g.id.isKey = true := hg.id_eq ▸ htrue.kept_key f hf
    refine ⟨?_, fun d' hd' => ?_⟩
    · split
      · exact h.keyed.put hkey
      · exact h.keyed
    · cases hd'
      exact htrue.replaced hf hg.id_eq

theorem act (h : w.store.Backs w.desk) (s : Setup) (now : Int) (a : Act) :
    (w.act s now a).store.Backs (w.act s now a).desk :=
  h.does (w.ends_act s now a)

end Store.Backs

end Dialogue
