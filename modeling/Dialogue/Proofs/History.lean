-- The history of a flow. It only grows, by one version at its end for each publish, and the label of
-- the flow is the one that it came with or that of one of its versions.
import Dialogue.Proofs.Lifetime

namespace Dialogue

/-! ## Edits leave the history -/

/-- Two flows with the same versions and the same label. -/
structure SameHistory (f g : Flow) : Prop where
  versions : g.versions = f.versions
  label : g.label = f.label

theorem Edit.Does.sameHistory {p : Palette} {room : Nat} {e : Editor} {nextId : Nat} {k : Edit}
    {f : Flow} (h : k.Does p room e nextId f) : SameHistory e.flow f := by
  cases h <;> exact ⟨rfl, rfl⟩

/-! ## A history that grows -/

/-- The history of the second flow goes on from that of the first. -/
structure Precedes (f g : Flow) : Prop where
  versions : f.versions <+: g.versions
  label : g.label = f.label ∨ ∃ v ∈ g.versions, g.label = .str v.label

theorem SameHistory.precedes {f g : Flow} (h : SameHistory f g) : Precedes f g where
  versions := by simp [h.versions]
  label := .inl h.label

theorem Precedes.trans {f g h : Flow} (hfg : Precedes f g) (hgh : Precedes g h) :
    Precedes f h where
  versions := hfg.versions.trans hgh.versions
  label := by
    rcases hgh.label with hlabel | hversion
    · rw [hlabel]
      rcases hfg.label with hlabel | ⟨v, hv, hlabel⟩
      · exact .inl hlabel
      · exact .inr ⟨v, hgh.versions.subset hv, hlabel⟩
    · exact .inr hversion

theorem Flow.mem_of_version? {f : Flow} {id : Json} {v : Version} (h : f.version? id = some v) :
    v ∈ f.versions :=
  List.mem_of_find?_eq_some h

theorem precedes_withVersion (f : Flow) (now : Int) (v : Version) :
    Precedes f (f.withVersion now v) where
  versions := List.prefix_append f.versions [v]
  label := .inr ⟨v, List.mem_append_right f.versions List.mem_cons_self, rfl⟩

theorem precedes_rolledBack {f : Flow} {v : Version} (hv : v ∈ f.versions) (time : Int) :
    Precedes f (f.rolledBack time v) where
  versions := List.prefix_rfl
  label := .inr ⟨v, hv, rfl⟩

section

variable {s : Setup} {w : Workspace} {now : Int} {a : Act} {f g : Flow}

theorem Act.Makes.precedes (h : a.Makes s w now f g) : Precedes f g := by
  cases h with
  | same => exact ⟨List.prefix_rfl, .inl rfl⟩
  | edited hd hflow hdoes =>
    subst hflow
    exact hdoes.sameHistory.precedes
  | worked hg =>
    cases hg with
    | saved => exact ⟨List.prefix_rfl, .inl rfl⟩
    | published => exact precedes_withVersion f now _
    | rolledBack hv time => exact precedes_rolledBack (Flow.mem_of_version? hv) time

theorem Workspace.Leads.precedes {steps : List Step} (h : w.Leads f steps g) :
    Precedes f g := by
  induction h with
  | done w f => exact ⟨List.prefix_rfl, .inl rfl⟩
  | step hstep _ _ ih => exact hstep.precedes.trans ih

/-- Only a publish adds a version. It shows the nodes and edges at that time. -/
theorem Act.Makes.adds (h : a.Makes s w now f g) : g.versions = f.versions ∨
    (∃ changelog author, a = .work (.publish changelog author)) ∧
      ∃ v, v.nodes = f.nodes ∧ v.edges = f.edges ∧ g = f.withVersion now v := by
  cases h with
  | same => exact .inl rfl
  | edited hd hflow hdoes =>
    subst hflow
    exact .inl hdoes.sameHistory.versions
  | worked hg =>
    cases hg with
    | saved => exact .inl rfl
    | published => exact .inr ⟨⟨_, _, rfl⟩, _, rfl, rfl, rfl⟩
    | rolledBack => exact .inl rfl

end

namespace Workspace

variable {w : Workspace} {d : Desk} {f : Flow}

theorem settle_spec {α : Type} {room : Nat} {a b : α} (h : (w.settle room d f a).2 = .ok b) :
    b = a ∧ (w.settle room d f a).1.store = w.store.put f := by
  unfold settle at h ⊢
  dsimp only at h ⊢
  split at h
  · cases h
  · rename_i hroom
    cases h
    rw [if_neg hroom]
    exact ⟨rfl, rfl⟩

/-- A publish that is answered with a version has stored the flow with this version. -/
theorem store_publish {s : Setup} {now : Int} {changelog author : Json} {v : Version}
    (hd : w.desk = some d) (hf : d.kept? = some f)
    (h : (w.publish s now changelog author).2 = .ok v) :
    (w.publish s now changelog author).1.store = w.store.put (f.withVersion now v) := by
  unfold publish at h ⊢
  split at h
  · cases h
  · cases h
  · rename_i hkeeping hdated
    obtain ⟨hd', hf'⟩ := inKeeping_spec hkeeping
    cases hd.symm.trans hd'
    cases hf.symm.trans hf'
    rw [Clock.eq_of_dated hdated] at h ⊢
    dsimp only at h ⊢
    split at h
    · cases h
    · split at h
      · cases h
      · rename_i hroom
        obtain ⟨rfl, hstore⟩ := settle_spec h
        rw [if_neg hroom]
        exact hstore

/-! ## The law -/

/-- The history of a stored flow grows by publishing and in no other way. -/
structure GrowsByPublishing (w : Workspace) (f : Flow) : Prop where
  /-- As long as the flow stays in the store, its versions stand where they stood. -/
  lasts : ∀ steps g, w.Keeps f.id steps → (w.afterAll steps).store.get? f.id = some g →
    Precedes f g
  only : ∀ step g, w.Spares f.id step → (w.after step).store.get? f.id = some g →
    g.versions = f.versions ∨ (∃ changelog author, step.act = .work (.publish changelog author)) ∧
      ∃ v, v.nodes = f.nodes ∧ v.edges = f.edges ∧ g = f.withVersion step.now v
  published : ∀ s now changelog author d v, w.desk = some d → d.kept? = some f →
    (w.publish s now changelog author).2 = .ok v →
      (w.publish s now changelog author).1.store.get? f.id = some (f.withVersion now v)

/-- Whatever is done in a workspace, the versions of a stored flow remain as they were published. -/
theorem a_history_only_grows (hw : w.InUse) (hf : f ∈ w.store.flows) : w.GrowsByPublishing f := by
  have h := hw.backs
  constructor
  case lasts =>
    intro steps g hkeeps hg
    exact (leads_of_keeps h hf hkeeps hg).precedes
  case only =>
    intro step g hspares hg
    exact (makes_after h hf hspares hg).adds
  case published =>
    intro s now changelog author d v hd hk hdone
    have hkey : (f.withVersion now v).id.isKey = true := (h.desk d hd).kept_key f hk
    have hsame : (f.withVersion now v).id.same f.id = true := Json.same_self hkey
    rw [store_publish hd hk hdone, h.keyed.get?_put hkey, if_pos hsame]

/-- A flow with one version is given an end node, published again and rolled back. -/
theorem the_first_version_outlasts_the_second :
    let s : Setup := ⟨{}, .standard, ⟨990, by decide⟩⟩
    let id : Json := .str (Ids.full 2)
    let publish : Step := ⟨s, 0, .work (.publish (.str "") .null)⟩
    let w := ({} : Workspace).afterAll
      [⟨s, 0, .create (.str "Greeting") (.str "") (.str "")⟩, ⟨s, 0, .select id⟩, publish]
    let steps : List Step :=
      [⟨s, 1, .work (.edit (.addNode .finish origin))⟩, publish,
        ⟨s, 2, .work (.rollback (.str "v-00000003"))⟩]
    ∃ f g, w.InUse ∧ f ∈ w.store.flows ∧ w.Keeps f.id steps ∧
      (w.afterAll steps).store.get? f.id = some g ∧ f.versions.length = 1 ∧
      g.versions.map (·.label) = ["1.0", "2.0"] ∧ g.label.text = "1.0" ∧ Precedes f g := by
  intro s id publish w steps
  have hw : w.InUse := InUse.empty.afterAll _
  let f := (w.store.get? id).get (by decide +kernel)
  let g := ((w.afterAll steps).store.get? f.id).get (by decide +kernel)
  have hf : f ∈ w.store.flows := Store.mem_of_get? (Option.some_get _).symm
  have hg : (w.afterAll steps).store.get? f.id = some g := (Option.some_get _).symm
  have hkeeps : w.Keeps f.id steps := keeps_of_spares (by decide +kernel)
  exact ⟨f, g, hw, hf, hkeeps, hg, by decide +kernel, by decide +kernel, by decide +kernel,
    (a_history_only_grows hw hf).lasts steps g hkeeps hg⟩

end Workspace

end Dialogue
