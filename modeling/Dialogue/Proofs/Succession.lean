-- Publishing in a row. The labels that come one after another are those of the numbers that follow
-- the first one, without a gap, whatever that one was read from. So are the labels of the versions
-- that a flow gets while it is not rolled back.
import Dialogue.Proofs.Numbering

namespace Dialogue

/-! ## One label after another -/

namespace Label

/-- The label that comes so many labels after the given one. -/
def following (label : String) : Nat → Outcome String
  | 0 => .ok label
  | k + 1 => do next (← following label k)

variable {label last : String}

theorem following_succ {k : Nat} : following label (k + 1) = .ok last ↔
    ∃ before, following label k = .ok before ∧
      Text.IsShort (major before + 1) ∧ last = ofNumber (major before + 1) := by
  simp only [← next_eq_ok_iff, following]
  cases following label k with
  | error fault => simp [bind, Except.bind]
  | ok before => simp [bind, Except.bind]

/-- Each number but the first is read from a label that was written for it. -/
theorem major_following {k : Nat} (h : following label k = .ok last) :
    major last = major label + k := by
  induction k generalizing last with
  | zero =>
    cases h
    exact (Int.add_zero _).symm
  | succ k ih =>
    obtain ⟨before, hbefore, hshort, rfl⟩ := following_succ.mp h
    rw [major_ofNumber hshort, ih hbefore]
    omega

theorem following_succ_eq_ok_iff {k : Nat} : following label (k + 1) = .ok last ↔
    (∃ before, following label k = .ok before) ∧
      Text.IsShort (major label + (k + 1 : Nat)) ∧
      last = ofNumber (major label + (k + 1 : Nat)) := by
  have hnext : major label + (k + 1 : Nat) = major label + k + 1 := by omega
  rw [following_succ, hnext, ← exists_and_right]
  refine exists_congr fun before => and_congr_right fun hbefore => ?_
  rw [major_following hbefore]

theorem exists_following_iff {k : Nat} : (∃ last, following label k = .ok last) ↔
    ∀ i : Nat, 0 < i → i ≤ k → Text.IsShort (major label + i) := by
  induction k with
  | zero => exact ⟨fun _ i hpos hle => by omega, fun _ => ⟨label, rfl⟩⟩
  | succ k ih =>
    simp only [following_succ_eq_ok_iff, ih, exists_and_left, exists_eq, and_true]
    constructor
    · rintro ⟨hall, hshort⟩ i hpos hle
      rcases Nat.le_succ_iff.mp hle with hle | rfl
      · exact hall i hpos hle
      · exact hshort
    · intro hall
      exact ⟨fun i hpos hle => hall i hpos (Nat.le_succ_of_le hle),
        hall (k + 1) (Nat.succ_pos k) (Nat.le_refl _)⟩

/-- The label after some labels is that of the number after so many numbers, unless one of these has
too many digits. -/
theorem following_eq_ok_iff {k : Nat} (hk : 0 < k) : following label k = .ok last ↔
    (∀ i : Nat, 0 < i → i ≤ k → Text.IsShort (major label + i)) ∧
      last = ofNumber (major label + k) := by
  rw [← exists_following_iff]
  obtain ⟨k, rfl⟩ : ∃ j, k = j + 1 := ⟨k - 1, by omega⟩
  simp only [following_succ_eq_ok_iff, exists_and_left, exists_eq, and_true, and_assoc]

end Label

/-! ## One version after another -/

/-- The second flow is the first with some versions added. They have the labels of the numbers that
follow that of the first flow. -/
structure CountsOn (f : Flow) (added : List Version) (g : Flow) : Prop where
  versions : g.versions = f.versions ++ added
  labels : added.map Version.label =
    (List.range added.length).map fun i => Label.ofNumber (f.number + (i + 1 : Nat))
  short : ∀ i : Nat, 0 < i → i ≤ added.length → Text.IsShort (f.number + i)
  number : g.number = f.number + added.length

namespace CountsOn

variable {f g h : Flow} {added later : List Version}

theorem of_sameHistory (hsame : SameHistory f g) : CountsOn f [] g where
  versions := by rw [hsame.versions, List.append_nil]
  labels := rfl
  short i hpos hle := absurd hle (Nat.not_le.mpr hpos)
  number := by
    unfold Flow.number
    rw [hsame.label]
    exact (Int.add_zero _).symm

theorem trans (hfg : CountsOn f added g) (hgh : CountsOn g later h) :
    CountsOn f (added ++ later) h where
  versions := by rw [hgh.versions, hfg.versions, List.append_assoc]
  labels := by
    rw [List.map_append, hfg.labels, hgh.labels, hfg.number, List.length_append, List.range_add,
      List.map_append, List.map_map]
    congr 1
    apply List.map_congr_left
    intro i _
    have hplace : f.number + added.length + (i + 1 : Nat) =
        f.number + (added.length + i + 1 : Nat) := by omega
    rw [hplace]
    rfl
  short i hpos hle := by
    rw [List.length_append] at hle
    by_cases hi : i ≤ added.length
    · exact hfg.short i hpos hi
    · have hshort := hgh.short (i - added.length) (by omega) (by omega)
      have hplace : g.number + (i - added.length : Nat) = f.number + i := by
        rw [hfg.number]
        omega
      rwa [hplace] at hshort
  number := by
    rw [hgh.number, hfg.number, List.length_append]
    omega

theorem majors (hfg : CountsOn f added g) : (added.map fun v => Label.major v.label) =
    (List.range added.length).map fun i => f.number + (i + 1 : Nat) := by
  have hmajors := congrArg (List.map Label.major) hfg.labels
  simp only [List.map_map, Function.comp_def] at hmajors
  rw [hmajors]
  apply List.map_congr_left
  intro i hi
  apply Label.major_ofNumber
  exact hfg.short (i + 1) (Nat.succ_pos i) (List.mem_range.mp hi)

theorem increasing (hfg : CountsOn f added g) :
    (added.map fun v => Label.major v.label).Pairwise (· < ·) := by
  rw [hfg.majors, List.pairwise_map]
  apply List.pairwise_lt_range.imp
  omega

end CountsOn

theorem Flow.nextOf_label {f : Flow} {label : String} (h : Label.nextOf f.label = .ok label) :
    Text.IsShort (f.number + 1) ∧ label = Label.ofNumber (f.number + 1) := by
  cases hlabel : f.label with
  | str l =>
    rw [hlabel] at h
    rw [Flow.number_of_label hlabel]
    exact Label.next_eq_ok_iff.mp h
  | _ =>
    rw [hlabel] at h
    cases h

/-- A publish adds one version. -/
theorem countsOn_withVersion {f : Flow} {label : String}
    (h : Label.nextOf f.label = .ok label) (now : Int) {v : Version} (hv : v.label = label) :
    CountsOn f [v] (f.withVersion now v) := by
  obtain ⟨hshort, rfl⟩ := Flow.nextOf_label h
  constructor
  case versions => rfl
  case labels => simpa using hv
  case short =>
    intro i hpos hle
    have hi : i = 1 := Nat.le_antisymm hle hpos
    exact hi ▸ hshort
  case number =>
    change Label.major v.label = _
    rw [hv]
    exact Label.major_ofNumber hshort

namespace Workspace

variable {w : Workspace} {f g : Flow} {id : Json}

/-- The step does not roll the flow with the id back. A rollback of another flow leaves it as it is,
and so does one that is refused. -/
def NeverRollsBack (id : Json) (w : Workspace) (step : Step) : Prop :=
  ∀ version, step.act = .work (.rollback version) →
    (w.after step).store.get? id = w.store.get? id

theorem neverRollsBack_of_acts {steps : List Step}
    (h : ∀ step ∈ steps, ∀ version, step.act ≠ .work (.rollback version)) :
    w.Throughout (NeverRollsBack id) steps := by
  induction steps generalizing w with
  | nil => exact trivial
  | cons step rest ih =>
    refine ⟨fun version hact => absurd hact (h step List.mem_cons_self version), ih ?_⟩
    exact fun x hx => h x (List.mem_cons_of_mem step hx)

/-- A step that does not roll the flow back adds nothing to it, or the next version. -/
theorem countsOn_of_makes {step : Step} (h : step.act.Makes step.setup w step.now f g)
    (hfound : w.store.get? f.id = some f) (hg : (w.after step).store.get? f.id = some g)
    (hforward : w.NeverRollsBack f.id step) : ∃ added, CountsOn f added g := by
  obtain ⟨setup, now, act⟩ := step
  dsimp only at h
  cases h with
  | same => exact ⟨[], .of_sameHistory ⟨rfl, rfl⟩⟩
  | edited hd hflow hdoes =>
    subst hflow
    exact ⟨[], .of_sameHistory hdoes.sameHistory⟩
  | worked hmakes =>
    cases hmakes with
    | saved => exact ⟨[], .of_sameHistory ⟨rfl, rfl⟩⟩
    | published hlabel => exact ⟨_, countsOn_withVersion hlabel now rfl⟩
    | @rolledBack version v hv time =>
      have hsame := hforward version rfl
      rw [hg, hfound] at hsame
      rw [Option.some.inj hsame]
      exact ⟨[], .of_sameHistory ⟨rfl, rfl⟩⟩

theorem Leads.countsOn {steps : List Step} (h : w.Leads f steps g)
    (hfound : w.store.get? f.id = some f) (hforward : w.Throughout (NeverRollsBack f.id) steps) :
    ∃ added, CountsOn f added g := by
  induction h with
  | done w f => exact ⟨[], .of_sameHistory ⟨rfl, rfl⟩⟩
  | @step w f x g step rest hstep hx _ ih =>
    obtain ⟨added, hadded⟩ := countsOn_of_makes hstep hfound hx hforward.1
    have hid : x.id = f.id := hstep.id_eq
    obtain ⟨later, hlater⟩ := ih (hid ▸ hx) (hid ▸ hforward.2)
    exact ⟨added ++ later, hadded.trans hlater⟩

/-- Whatever a label is, it has one major number, and the label that comes some labels after it is that
of the number after so many numbers, unless one of these has too many digits. So a flow that is not
rolled back gets its versions, however it came by its first label, under the numbers that follow this
one, and they increase. -/
theorem publishes_in_a_row_count_up (label : String) :
    let m := Label.major label
    (∀ n, Label.HasMajor label n ↔ n = m) ∧
    (∀ k last, 0 < k → (Label.following label k = .ok last ↔
      (∀ i : Nat, 0 < i → i ≤ k → Text.IsShort (m + i)) ∧ last = toString (m + k) ++ ".0")) ∧
    ∀ (w : Workspace) (f g : Flow) (steps : List Step), w.InUse → f ∈ w.store.flows →
      f.label = .str label → w.Keeps f.id steps → w.Throughout (NeverRollsBack f.id) steps →
      (w.afterAll steps).store.get? f.id = some g →
        ∃ added, g.versions = f.versions ++ added ∧
          (added.map fun v => v.label) =
            (List.range added.length).map (fun i => toString (m + (i + 1 : Nat)) ++ ".0") ∧
          (added.map fun v => Label.major v.label).Pairwise (· < ·) := by
  intro m
  refine ⟨fun n => Label.hasMajor_iff, fun k last hk => Label.following_eq_ok_iff hk, ?_⟩
  intro w f g steps hw hf hlabel hkeeps hforward hg
  have hleads := leads_of_keeps hw.backs hf hkeeps hg
  obtain ⟨added, hadded⟩ := hleads.countsOn (hw.backs.keyed.get?_of_mem hf) hforward
  have hnumber : f.number = m := Flow.number_of_label hlabel
  have hlabels := hadded.labels
  rw [hnumber] at hlabels
  exact ⟨added, hadded.versions, hlabels, hadded.increasing⟩

/-- A flow that begins under a number below zero, written with an Arabic digit, is published until the
number is above zero. -/
theorem a_label_counts_up_through_zero :
    let s : Setup := ⟨{ versioning := { initialVersion := "-٢.5" } }, .standard, ⟨990, by decide⟩⟩
    let publish : Step := ⟨s, 0, .work (.publish (.str "") .null)⟩
    let w := ({} : Workspace).afterAll
      [⟨s, 0, .create (.str "Greeting") (.str "") (.str "")⟩, ⟨s, 0, .select (.str (Ids.full 2))⟩]
    let steps := [publish, publish, publish]
    Label.HasMajor "-٢.5" (-2) ∧ Label.following "-٢.5" 3 = .ok "1.0" ∧
    ∃ f g, w.InUse ∧ f ∈ w.store.flows ∧ f.label = .str "-٢.5" ∧ w.Keeps f.id steps ∧
      w.Throughout (NeverRollsBack f.id) steps ∧ (w.afterAll steps).store.get? f.id = some g ∧
      g.versions.map (·.label) = ["-1.0", "0.0", "1.0"] ∧
      (g.versions.map fun v => Label.major v.label).Pairwise (· < ·) := by
  intro s publish w steps
  have hmajor : Label.major "-٢.5" = -2 := by decide +kernel
  obtain ⟨hnumber, hfollowing, hpublished⟩ := publishes_in_a_row_count_up "-٢.5"
  rw [hmajor] at hnumber hfollowing
  have hshort : ∀ i : Nat, 0 < i → i ≤ 3 → Text.IsShort (-2 + i) := by
    intro i hpos hle
    obtain rfl | rfl | rfl : i = 1 ∨ i = 2 ∨ i = 3 := by omega
    all_goals decide
  let f := (w.store.get? (.str (Ids.full 2))).get (by decide +kernel)
  let g := ((w.afterAll steps).store.get? f.id).get (by decide +kernel)
  have hw : w.InUse := InUse.empty.afterAll _
  have hf : f ∈ w.store.flows := Store.mem_of_get? (Option.some_get _).symm
  have hg : (w.afterAll steps).store.get? f.id = some g := (Option.some_get _).symm
  have hkeeps : w.Keeps f.id steps := keeps_of_spares (by decide +kernel)
  have hforward : w.Throughout (NeverRollsBack f.id) steps :=
    neverRollsBack_of_acts (by simp [steps, publish])
  obtain ⟨added, hadded, -, hincreasing⟩ := hpublished w f g steps hw hf rfl hkeeps hforward hg
  have hnone : f.versions = [] := rfl
  rw [hnone, List.nil_append] at hadded
  refine ⟨(hnumber _).mpr rfl, (hfollowing 3 _ (by decide)).mpr ⟨hshort, by decide⟩, f, g, hw, hf,
    rfl, hkeeps, hforward, hg, by decide +kernel, ?_⟩
  rw [hadded]
  exact hincreasing

end Workspace

end Dialogue
