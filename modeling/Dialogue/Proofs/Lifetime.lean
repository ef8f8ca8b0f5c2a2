-- What becomes of a stored flow. Whatever was done in its workspace before, a step leaves it as it
-- is, or it is edited, saved, published or rolled back in this step.
import Dialogue.Proofs.Links

namespace Dialogue

/-! ## What becomes of a stored flow -/

/-- No other flow takes the place of the one with the id. What is made anew gets another id, and what
is kept on the desk under this id is the stored flow. -/
def Act.Spares (id : Json) (w : Workspace) : Act → Prop
  | create _ _ _ => (Json.str (Ids.full (w.nextId + 1))).same id = false
  | duplicate _ _ => (Json.str (Ids.full w.nextId)).same id = false
  | bring _ | delete _ | select _ | work (.edit _) => True
  | work _ => ∀ d ∈ w.desk, ∀ f ∈ d.kept?, f.id.same id = true → d.keepsStored = true

instance (id : Json) (w : Workspace) : (a : Act) → Decidable (a.Spares id w)
  | .create _ _ _ | .duplicate _ _ => inferInstanceAs (Decidable (_ = false))
  | .bring _ | .delete _ | .select _ | .work (.edit _) => inferInstanceAs (Decidable True)
  | .work .save | .work (.publish _ _) | .work (.rollback _) =>
    inferInstanceAs (Decidable (∀ d ∈ w.desk, ∀ f ∈ d.kept?, f.id.same id = true → _ = true))

/-- What an act makes of a stored flow. -/
inductive Act.Makes (s : Setup) (w : Workspace) (now : Int) (f : Flow) : Act → Flow → Prop where
  | same (a : Act) : Makes s w now f a f
  | edited {d : Desk} {e : Edit} {g : Flow} (hd : w.desk = some d) (hflow : d.flow = f)
      (hdoes : e.Does s.palette s.room.steps d.editor w.nextId g) :
      Makes s w now f (.work (.edit e)) g
  | worked {k : DeskWork} {g : Flow} (hg : k.Makes s w now f g) : Makes s w now f (.work k) g

theorem Act.Makes.id_eq {s : Setup} {w : Workspace} {now : Int} {f g : Flow} {a : Act}
    (h : a.Makes s w now f g) : g.id = f.id := by
  cases h with
  | same => rfl
  | edited hd hflow hdoes =>
    rw [hdoes.id_eq, ← hflow]
    rfl
  | worked hg => exact hg.id_eq

section

variable {s : Setup} {w : Workspace} {now : Int} {a : Act} {f g : Flow}

/-- The flow that is kept is the stored one, if it has its id. -/
theorem Desk.IsTrueTo.kept_eq {store : Store} {d : Desk} {x : Flow} (h : d.IsTrueTo store)
    (hkeyed : store.IsKeyed) (hf : f ∈ store.flows) (hx : d.kept? = some x)
    (hstored : d.keepsStored = true) (hsame : x.id.same f.id = true) : x = f := by
  have hmem : x ∈ store.flows := by
    obtain ⟨editor, linked, keeping⟩ := d
    cases keeping with
    | nothing => cases hx
    | own b =>
      cases hx
      exact h.linked hstored
    | earlier y l b =>
      cases hx
      exact h.earlier_of rfl hstored
  have hget := hkeyed.get?_of_same hmem hsame
  rw [hkeyed.get?_of_mem hf] at hget
  cases hget
  rfl

/-- A flow that is filed or relabelled is the stored one as it has become, or another one. -/
theorem makes_of_put (h : w.store.Backs w.desk) (hf : f ∈ w.store.flows) {d : Desk} {x y : Flow}
    {k : DeskWork} (hd : w.desk = some d) (hx : d.kept? = some x) (hy : k.Makes s w now x y)
    (hspares : (Act.work k).Spares f.id w) (hg : (w.store.put y).get? f.id = some g) :
    (Act.work k).Makes s w now f g := by
  have htrue := h.desk d hd
  have hlinked : x.id.same f.id = true → d.keepsStored = true := by
    cases hy <;> exact hspares d hd x hx
  have hkey : y.id.isKey = true := hy.id_eq ▸ htrue.kept_key x hx
  rw [h.keyed.get?_put hkey] at hg
  split at hg
  · rename_i hsame
    rw [hy.id_eq] at hsame
    have hxf : x = f := htrue.kept_eq h.keyed hf hx (hlinked hsame) hsame
    cases hg
    exact .worked (hxf ▸ hy)
  · rw [h.keyed.get?_of_mem hf] at hg
    cases hg
    exact .same _

theorem makes_of_put_other (h : w.store.Backs w.desk) (hf : f ∈ w.store.flows) {x : Flow}
    (hkey : x.id.isKey = true) (hother : x.id.same f.id = false)
    (hg : (w.store.put x).get? f.id = some g) : a.Makes s w now f g := by
  rw [h.keyed.get?_put hkey, hother, h.keyed.get?_of_mem hf] at hg
  cases hg
  exact .same _

theorem makes_of_get? (h : w.store.Backs w.desk) (hf : f ∈ w.store.flows)
    (hg : w.store.get? f.id = some g) : a.Makes s w now f g := by
  rw [h.keyed.get?_of_mem hf] at hg
  cases hg
  exact .same _

/-- What is found under the id of a stored flow after an act is what the act has made of it. -/
theorem Act.Does.makes (h : w.store.Backs w.desk) (hf : f ∈ w.store.flows)
    (hspares : a.Spares f.id w) {store : Store} {desk : Option Desk}
    (hdoes : a.Does s w now store desk) (hg : store.get? f.id = some g) : a.Makes s w now f g := by
  cases hdoes with
  | nothing => exact makes_of_get? h hf hg
  | created hid => exact makes_of_put_other h hf (Flow.isKey_of_id_eq hid) (hid ▸ hspares) hg
  | brought hkey hnew =>
    have hother := Json.not_same_symm hkey (Store.not_same_of_get?_none hnew hf)
    exact makes_of_put_other h hf hkey hother hg
  | copied hid => exact makes_of_put_other h hf (Flow.isKey_of_id_eq hid) (hid ▸ hspares) hg
  | deleted id =>
    have hmem := (List.mem_filter.mp (Store.mem_of_get? hg)).1
    have hsame := List.find?_some (hg : (w.store.erase id).flows.find? (·.id.same f.id) = some g)
    have hget := h.keyed.get?_of_same hmem hsame
    exact makes_of_get? h hf hget
  | opened => exact makes_of_get? h hf hg
  | halfOpened => exact makes_of_get? h hf hg
  | @edited d hd e after hafter =>
    have htrue := h.desk d hd
    have hid : after.flow.id = d.flow.id := by
      rw [hafter]
      exact d.editor.id_perform _ _ _ _ _
    split at hg
    · rename_i hlinked
      rw [h.keyed.get?_put (hid ▸ htrue.key)] at hg
      split at hg
      · rename_i hsame
        rw [hid] at hsame
        have hget := h.keyed.get?_of_same (htrue.linked hlinked) hsame
        rw [h.keyed.get?_of_mem hf] at hget
        cases hg
        cases hget
        rw [hafter]
        exact .edited hd rfl (d.editor.does_perform _ _ _ _ e)
      · exact makes_of_get? h hf hg
    · exact makes_of_get? h hf hg
  | filed hd hx hy => exact makes_of_put h hf hd hx hy hspares hg
  | settled hd hx hy => exact makes_of_put h hf hd hx hy hspares hg
  | relabelled hd hx hy =>
    split at hg
    · exact makes_of_put h hf hd hx hy hspares hg
    · exact makes_of_get? h hf hg

end

/-! ## Step after step -/

/-- Something that is done in a workspace. -/
structure Step where
  setup : Setup
  now : Int
  act : Act

namespace Workspace

variable {w : Workspace} {f g : Flow}

def after (w : Workspace) (step : Step) : Workspace := w.act step.setup step.now step.act

def afterAll (w : Workspace) (steps : List Step) : Workspace := steps.foldl after w

/-- The store is left as it is, or at least no other flow takes the place of the one with the id. -/
def Spares (id : Json) (w : Workspace) (step : Step) : Prop :=
  (w.after step).store = w.store ∨ step.act.Spares id w

/-- Any acts lead there from a store that has a key of its own for each flow. -/
inductive InUse : Workspace → Prop where
  | begun {w : Workspace} (hkeyed : w.store.IsKeyed) (hdesk : w.desk = none) : InUse w
  | worked {w : Workspace} (hw : InUse w) (step : Step) : InUse (w.after step)

theorem InUse.empty : ({} : Workspace).InUse :=
  .begun ⟨fun _ hg => (nomatch hg), List.Pairwise.nil⟩ rfl

theorem InUse.afterAll (hw : w.InUse) (steps : List Step) : (w.afterAll steps).InUse := by
  induction steps generalizing w with
  | nil => exact hw
  | cons step rest ih => exact ih (hw.worked step)

theorem InUse.backs (hw : w.InUse) : w.store.Backs w.desk := by
  induction hw with
  | begun hkeyed hdesk =>
    refine ⟨hkeyed, fun d hd => ?_⟩
    rw [hdesk] at hd
    cases hd
  | worked _ step ih => exact ih.act step.setup step.now step.act

/-- Whether something holds of every step, in the workspace in which it is taken. -/
def Throughout (P : Workspace → Step → Prop) : Workspace → List Step → Prop
  | _, [] => True
  | w, step :: rest => P w step ∧ Throughout P (w.after step) rest

instance Throughout.decidable {P : Workspace → Step → Prop} [∀ w step, Decidable (P w step)] :
    (w : Workspace) → (steps : List Step) → Decidable (Throughout P w steps)
  | _, [] => inferInstanceAs (Decidable True)
  | w, step :: rest =>
    have := Throughout.decidable (P := P) (w.after step) rest
    inferInstanceAs (Decidable (P w step ∧ Throughout P (w.after step) rest))

theorem Throughout.imp {P Q : Workspace → Step → Prop} (himp : ∀ w step, P w step → Q w step)
    {steps : List Step} (h : w.Throughout P steps) : w.Throughout Q steps := by
  induction steps generalizing w with
  | nil => exact trivial
  | cons step rest ih => exact ⟨himp w step h.1, ih h.2⟩

/-- The flow with the id stays in the store through all steps. -/
def Keeps (id : Json) : Workspace → List Step → Prop :=
  Throughout fun w step => w.Spares id step ∧ (w.after step).store.has id = true

theorem keeps_of_spares {id : Json} {steps : List Step}
    (h : w.Throughout (fun w step => step.act.Spares id w ∧ (w.after step).store.has id = true)
      steps) : w.Keeps id steps :=
  h.imp fun _ _ hstep => ⟨.inr hstep.1, hstep.2⟩

/-- What steps make of a stored flow, one after the other. -/
inductive Leads : Workspace → Flow → List Step → Flow → Prop where
  | done (w : Workspace) (f : Flow) : Leads w f [] f
  | step {w : Workspace} {f g h : Flow} {step : Step} {rest : List Step}
      (hstep : step.act.Makes step.setup w step.now f g)
      (hfound : (w.after step).store.get? f.id = some g) (hrest : Leads (w.after step) g rest h) :
      Leads w f (step :: rest) h

theorem makes_after (h : w.store.Backs w.desk) (hf : f ∈ w.store.flows) {step : Step}
    (hspares : w.Spares f.id step) (hg : (w.after step).store.get? f.id = some g) :
    step.act.Makes step.setup w step.now f g := by
  rcases hspares with hsame | hspares
  · rw [hsame] at hg
    exact makes_of_get? h hf hg
  · exact (w.ends_act step.setup step.now step.act).makes h hf hspares hg

/-- What is found under the id of a flow that stays in the store is what the steps have made of it. -/
theorem leads_of_keeps {steps : List Step} (h : w.store.Backs w.desk) (hf : f ∈ w.store.flows)
    (hkeeps : w.Keeps f.id steps) (hg : (w.afterAll steps).store.get? f.id = some g) :
    w.Leads f steps g := by
  induction steps generalizing w f with
  | nil =>
    change w.store.get? f.id = some g at hg
    rw [h.keyed.get?_of_mem hf] at hg
    cases hg
    exact .done w g
  | cons step rest ih =>
    obtain ⟨⟨hspares, hstays⟩, hrest⟩ := hkeeps
    obtain ⟨x, hx⟩ := Option.isSome_iff_exists.mp hstays
    have hmakes := makes_after h hf hspares hx
    have hid := hmakes.id_eq
    refine .step hmakes hx (ih (h.act _ _ _) (Store.mem_of_get? hx) ?_ ?_)
    · rw [hid]
      exact hrest
    · rw [hid]
      exact hg

end Workspace

end Dialogue
