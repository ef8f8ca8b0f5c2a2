-- The labels of a new flow's versions. They are those of the numbers from one on, and no two of them
-- are equal as long as each publish is made under the highest one. After a rollback to a lower label
-- a publish repeats a label.
import Dialogue.Proofs.History
import Dialogue.Proofs.Imported
import Dialogue.Proofs.Labels

namespace Dialogue

/-! ## Numbered histories -/

namespace Flow

def labels (f : Flow) : List String := f.versions.map Version.label

/-- The major number of the label. -/
def number (f : Flow) : Int :=
  match f.label with
  | .str label => Label.major label
  | _ => 0

theorem number_of_label {f : Flow} {label : String} (h : f.label = .str label) :
    f.number = Label.major label := by
  unfold number
  rw [h]

/-- No version has a higher number than the flow. -/
def IsAhead (f : Flow) : Prop := ∀ l ∈ f.labels, Label.major l ≤ f.number

end Flow

/-- The versions have the labels of numbers, without a gap, and the flow has one of these labels. A
flow without versions has the first label of all. -/
structure IsNumbered (f : Flow) : Prop where
  label : f.label = .str firstLabel ∧ f.labels = [] ∨ ∃ l ∈ f.labels, f.label = .str l
  whole : ∀ l ∈ f.labels, ∃ n, 0 < n ∧ n < tenTo Text.digitLimit ∧ l = Label.ofMajor n
  closed : ∀ l ∈ f.labels, ∀ m : Nat, 0 < m → m ≤ Label.major l → Label.ofMajor m ∈ f.labels

namespace IsNumbered

variable {f g : Flow} {label : String}

theorem congr (h : IsNumbered f) (hsame : SameHistory f g) : IsNumbered g := by
  obtain ⟨hlabel, hwhole, hclosed⟩ := h
  have hlabels : g.labels = f.labels := congrArg (List.map Version.label) hsame.versions
  rw [← hsame.label, ← hlabels] at hlabel
  rw [← hlabels] at hwhole hclosed
  exact ⟨hlabel, hwhole, hclosed⟩

/-- What the next label of the flow is. -/
theorem next_spec (h : IsNumbered f) (hnext : Label.nextOf f.label = .ok label) :
    ∃ n : Nat, f.number = n ∧ (0 < n → Label.ofMajor n ∈ f.labels) ∧
      label = Label.ofMajor (n + 1) ∧ n + 1 < tenTo Text.digitLimit := by
  rcases h.label with ⟨hfirst, -⟩ | ⟨l, hl, hlast⟩
  · rw [hfirst] at hnext
    have hnumber : f.number = (0 : Nat) :=
      (Flow.number_of_label hfirst).trans Label.major_firstLabel
    exact ⟨0, hnumber, fun hpos => absurd hpos (by omega),
      Label.next_spec Label.major_firstLabel hnext⟩
  · rw [hlast] at hnext
    obtain ⟨n, -, hsmall, rfl⟩ := h.whole l hl
    have hmajor := Label.major_ofMajor hsmall
    have hnumber : f.number = n := (Flow.number_of_label hlast).trans hmajor
    exact ⟨n, hnumber, fun _ => hl, Label.next_spec hmajor hnext⟩

/-- The next label is new exactly when the flow is ahead. -/
theorem next_notMem_iff (h : IsNumbered f) (hnext : Label.nextOf f.label = .ok label) :
    label ∉ f.labels ↔ f.IsAhead := by
  obtain ⟨n, hnumber, -, rfl, hsmall⟩ := h.next_spec hnext
  constructor
  · intro hnew l hl
    by_contra hbehind
    apply hnew
    apply h.closed l hl (n + 1) (by omega)
    rw [hnumber] at hbehind
    omega
  · intro hahead hmem
    have hle := hahead _ hmem
    rw [Label.major_ofMajor hsmall, hnumber] at hle
    omega

theorem withVersion (h : IsNumbered f) (hnext : Label.nextOf f.label = .ok label) (now : Int)
    {v : Version} (hv : v.label = label) : IsNumbered (f.withVersion now v) := by
  obtain ⟨n, -, hold, rfl, hsmall⟩ := h.next_spec hnext
  have hlabels : (f.withVersion now v).labels = f.labels ++ [Label.ofMajor (n + 1)] := by
    simp [Flow.labels, Flow.withVersion, hv]
  have hmem : Label.ofMajor (n + 1) ∈ f.labels ++ [Label.ofMajor (n + 1)] :=
    List.mem_append_right _ List.mem_cons_self
  constructor
  case label =>
    rw [hlabels]
    exact .inr ⟨_, hmem, congrArg Json.str hv⟩
  case whole =>
    rw [hlabels]
    intro l hl
    rcases List.mem_append.mp hl with hl | hl
    · exact h.whole l hl
    · exact ⟨n + 1, by omega, hsmall, List.mem_singleton.mp hl⟩
  case closed =>
    rw [hlabels]
    intro l hl m hpos hm
    rcases List.mem_append.mp hl with hl | hl
    · exact List.mem_append_left _ (h.closed l hl m hpos hm)
    · rw [List.mem_singleton.mp hl, Label.major_ofMajor hsmall] at hm
      by_cases hlast : m = n + 1
      · rw [hlast]
        exact hmem
      · -- Up to the number of the flow all labels are there already.
        have hmajor : Label.major (Label.ofMajor n) = n := Label.major_ofMajor (by omega)
        have hle : (m : Int) ≤ Label.major (Label.ofMajor n) := by omega
        exact List.mem_append_left _ (h.closed _ (hold (by omega)) m hpos hle)

theorem rolledBack (h : IsNumbered f) {v : Version} (hv : v ∈ f.versions) (time : Int) :
    IsNumbered (f.rolledBack time v) where
  label := .inr ⟨v.label, List.mem_map_of_mem hv, rfl⟩
  whole := h.whole
  closed := h.closed

end IsNumbered

/-! ## Publishing ahead -/

section

variable {s : Setup} {w : Workspace} {now : Int} {a : Act} {f g : Flow}

theorem Act.Makes.isNumbered (h : a.Makes s w now f g) (hf : IsNumbered f) : IsNumbered g := by
  cases h with
  | same => exact hf
  | edited hd hflow hdoes =>
    subst hflow
    exact hf.congr hdoes.sameHistory
  | worked hg =>
    cases hg with
    | saved => exact hf.congr ⟨rfl, rfl⟩
    | published hlabel => exact hf.withVersion hlabel now rfl
    | rolledBack hv time => exact hf.rolledBack (Flow.mem_of_version? hv) time

theorem nodup_iff_of_versions_eq (h : g.versions = f.versions) :
    g.labels.Nodup ↔ f.labels.Nodup ∧ (g.versions ≠ f.versions → f.IsAhead) := by
  have hlabels : g.labels = f.labels := congrArg (List.map Version.label) h
  rw [hlabels]
  exact ⟨fun hnodup => ⟨hnodup, fun hne => absurd h hne⟩, And.left⟩

/-- Labels that are all different remain so unless a version is added by a flow that is behind. -/
theorem Act.Makes.nodup_iff (h : a.Makes s w now f g) (hf : IsNumbered f) :
    g.labels.Nodup ↔ f.labels.Nodup ∧ (g.versions ≠ f.versions → f.IsAhead) := by
  cases h with
  | same => exact nodup_iff_of_versions_eq rfl
  | edited hd hflow hdoes =>
    subst hflow
    exact nodup_iff_of_versions_eq hdoes.sameHistory.versions
  | worked hg =>
    cases hg with
    | saved => exact nodup_iff_of_versions_eq rfl
    | rolledBack => exact nodup_iff_of_versions_eq rfl
    | @published changelog author label hlabel =>
      have hlabels : (f.withVersion now (f.snapshot now w.nextId label changelog
          (Workspace.authorOf s author))).labels = f.labels ++ [label] := by
        simp [Flow.labels, Flow.withVersion, Flow.snapshot]
      have hadded : (f.withVersion now (f.snapshot now w.nextId label changelog
          (Workspace.authorOf s author))).versions ≠ f.versions := by
        simp [Flow.withVersion]
      rw [hlabels, ← List.concat_eq_append, List.nodup_concat, hf.next_notMem_iff hlabel]
      constructor
      · rintro ⟨hahead, hnodup⟩
        exact ⟨hnodup, fun _ => hahead⟩
      · rintro ⟨hnodup, hahead⟩
        exact ⟨hahead hadded, hnodup⟩

end

namespace Workspace

variable {w w' : Workspace} {f g : Flow} {id : Json}

/-- If the step adds a version to the flow with the id, the flow is ahead until then. -/
def PublishesAhead (id : Json) (w : Workspace) (step : Step) : Prop :=
  ∀ f g, w.store.get? id = some f → (w.after step).store.get? id = some g →
    g.versions ≠ f.versions → f.IsAhead

theorem publishesAhead_iff {step : Step} (hf : w.store.get? id = some f)
    (hg : (w.after step).store.get? id = some g) :
    w.PublishesAhead id step ↔ (g.versions ≠ f.versions → f.IsAhead) := by
  constructor
  · intro h
    exact h f g hf hg
  · intro h f' g' hf' hg'
    cases hf.symm.trans hf'
    cases hg.symm.trans hg'
    exact h

theorem Leads.nodup_iff {steps : List Step} (h : w.Leads f steps g)
    (hfound : w.store.get? f.id = some f) (hf : IsNumbered f) :
    g.labels.Nodup ↔ f.labels.Nodup ∧ w.Throughout (PublishesAhead f.id) steps := by
  induction h with
  | done w f => exact ⟨fun hnodup => ⟨hnodup, trivial⟩, And.left⟩
  | @step w f x g step rest hstep hx _ ih =>
    have hid : x.id = f.id := hstep.id_eq
    have hrest := ih (hid ▸ hx) (hstep.isNumbered hf)
    rw [hrest, hstep.nodup_iff hf, ← publishesAhead_iff hfound hx, hid, and_assoc]
    rfl

/-- A new flow is stored. It has no versions yet, and the label for new flows. -/
theorem stored_createFlow {s : Setup} {now : Int} {name description category : Json}
    (h : w.createFlow s now name description category = (w', .ok f)) :
    f ∈ w'.store.flows ∧ f.versions = [] ∧ f.label = .str s.settings.versioning.initialVersion := by
  unfold createFlow at h
  split at h
  · cases h
  · cases h
  · dsimp only at h
    cases h
    exact ⟨Store.mem_place _ _, rfl, rfl⟩

/-! ## The law -/

/-- The labels of the versions of a new flow are all different exactly if each was published when no
earlier version had a higher number than the flow. -/
theorem labels_differ_iff_each_was_published_ahead (hw : w.InUse) {s : Setup} {now : Int}
    {name description category : Json}
    (hinitial : s.settings.versioning.initialVersion = "0.1")
    (hmade : w.createFlow s now name description category = (w', .ok f)) {steps : List Step}
    (hkeeps : w'.Keeps f.id steps) (hg : (w'.afterAll steps).store.get? f.id = some g) :
    g.labels.Nodup ↔ w'.Throughout (PublishesAhead f.id) steps := by
  obtain ⟨hf, hversions, hlabel⟩ := stored_createFlow hmade
  have hw' : w'.InUse := by
    have hafter : w.after ⟨s, now, .create name description category⟩ = w' :=
      congrArg Prod.fst hmade
    rw [← hafter]
    exact hw.worked _
  have hnone : f.labels = [] := congrArg (List.map Version.label) hversions
  have hnumbered : IsNumbered f := by
    rw [hinitial] at hlabel
    refine ⟨.inl ⟨hlabel, hnone⟩, ?_, ?_⟩ <;> rw [hnone] <;> intro l hl <;> cases hl
  have hleads := leads_of_keeps hw'.backs hf hkeeps hg
  have hiff := hleads.nodup_iff (hw'.backs.keyed.get?_of_mem hf) hnumbered
  rw [hnone] at hiff
  exact hiff.trans (and_iff_right List.nodup_nil)

/-- A new flow is published, rolled back to its only version and published again. -/
theorem a_publish_under_the_last_label_gives_a_new_one :
    let s : Setup := ⟨{}, .standard, ⟨990, by decide⟩⟩
    let publish : Step := ⟨s, 0, .work (.publish (.str "") .null)⟩
    let steps := [⟨s, 0, .select (.str (Ids.full 2))⟩, publish,
      ⟨s, 0, .work (.rollback (.str "v-00000003"))⟩, publish]
    ∃ w' f g, ({} : Workspace).InUse ∧ s.settings.versioning.initialVersion = "0.1" ∧
      ({} : Workspace).createFlow s 0 (.str "Greeting") (.str "") (.str "") = (w', .ok f) ∧
      w'.Keeps f.id steps ∧ (w'.afterAll steps).store.get? f.id = some g ∧
      g.labels = ["1.0", "2.0"] ∧ w'.Throughout (PublishesAhead f.id) steps := by
  intro s publish steps
  let made := ({} : Workspace).createFlow s 0 (.str "Greeting") (.str "") (.str "")
  let f := made.2.toOption.get (by decide +kernel)
  let g := ((made.1.afterAll steps).store.get? f.id).get (by decide +kernel)
  have hmade : made = (made.1, .ok f) := Prod.ext rfl (Outcome.eq_ok_get _)
  have hkeeps : made.1.Keeps f.id steps := keeps_of_spares (by decide +kernel)
  have hg : (made.1.afterAll steps).store.get? f.id = some g := (Option.some_get _).symm
  have hlabels : g.labels = ["1.0", "2.0"] := by decide +kernel
  have hiff := labels_differ_iff_each_was_published_ahead InUse.empty rfl hmade hkeeps hg
  rw [hlabels] at hiff
  exact ⟨made.1, f, g, InUse.empty, rfl, hmade, hkeeps, hg, hlabels, hiff.mp (by decide)⟩

/-- A new flow is published twice, rolled back to its first version and published again. -/
theorem a_publish_after_a_rollback_repeats_a_label :
    let s : Setup := ⟨{}, .standard, ⟨990, by decide⟩⟩
    let publish : Step := ⟨s, 0, .work (.publish (.str "") .null)⟩
    let steps := [⟨s, 0, .select (.str (Ids.full 2))⟩, publish, publish,
      ⟨s, 0, .work (.rollback (.str "v-00000003"))⟩, publish]
    ∃ w' f g, s.settings.versioning.initialVersion = "0.1" ∧
      ({} : Workspace).createFlow s 0 (.str "Greeting") (.str "") (.str "") = (w', .ok f) ∧
      w'.Keeps f.id steps ∧ (w'.afterAll steps).store.get? f.id = some g ∧
      g.labels = ["1.0", "2.0", "2.0"] ∧ ¬ g.labels.Nodup := by
  intro s publish steps
  let made := ({} : Workspace).createFlow s 0 (.str "Greeting") (.str "") (.str "")
  let f := made.2.toOption.get (by decide +kernel)
  let g := ((made.1.afterAll steps).store.get? f.id).get (by decide +kernel)
  have hmade : made = (made.1, .ok f) := Prod.ext rfl (Outcome.eq_ok_get _)
  have hg : (made.1.afterAll steps).store.get? f.id = some g := (Option.some_get _).symm
  have hlabels : g.labels = ["1.0", "2.0", "2.0"] := by decide +kernel
  have hkeeps : made.1.Keeps f.id steps := keeps_of_spares (by decide +kernel)
  refine ⟨made.1, f, g, rfl, hmade, hkeeps, hg, hlabels, ?_⟩
  rw [hlabels]
  decide

end Workspace

end Dialogue
