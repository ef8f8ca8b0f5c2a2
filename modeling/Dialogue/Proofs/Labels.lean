-- Labels of versions. The major number of a label is the one that a numeral at its front stands for,
-- or 0 where there is none. The label of a number is read back as this number, and the next label is
-- that of the next number, as long as this can be written.
import Dialogue.Flow
import Dialogue.Workspace
import Dialogue.Proofs.Numerals

namespace Dialogue.Label

variable {label next : String} {n : Int}

/-! ## The major number -/

/-- The part of a label in front of its first point. -/
def front (label : String) : List Char := label.toList.takeWhile (· != '.')

/-- The number at the front of a label. A label with anything else at its front has number 0. -/
inductive HasMajor (label : String) : Int → Prop where
  | numbered {n : Int} (h : Text.IsNumeral (front label) n) : HasMajor label n
  | unnumbered (h : ∀ n, ¬ Text.IsNumeral (front label) n) : HasMajor label 0

theorem major_of_isNumeral (h : Text.IsNumeral (front label) n) : major label = n := by
  have hread : Text.readNumeral (front label) = .ok n := Text.readNumeral_eq_ok_iff.mpr h
  unfold front at hread
  unfold major
  rw [hread]
  rfl

theorem hasMajor_major (label : String) : HasMajor label (major label) := by
  cases hread : Text.readNumeral (front label) with
  | ok n =>
    have hnumeral := Text.readNumeral_eq_ok_iff.mp hread
    rw [major_of_isNumeral hnumeral]
    exact .numbered hnumeral
  | error fault =>
    have hzero : major label = 0 := by
      unfold front at hread
      unfold major
      rw [hread]
      rfl
    rw [hzero]
    refine .unnumbered fun n hnumeral => ?_
    rw [Text.readNumeral_eq_ok_iff.mpr hnumeral] at hread
    cases hread

/-- Each label has one major number. -/
theorem hasMajor_iff : HasMajor label n ↔ n = major label := by
  constructor
  · intro h
    have hmajor := hasMajor_major label
    cases h with
    | numbered hnumeral => exact (major_of_isNumeral hnumeral).symm
    | unnumbered hnone =>
      generalize major label = m at hmajor ⊢
      cases hmajor with
      | numbered hnumeral => exact absurd hnumeral (hnone m)
      | unnumbered _ => rfl
  · rintro rfl
    exact hasMajor_major label

/-! ## Labels of numbers -/

/-- The label of a number. -/
def ofNumber (n : Int) : String := toString n ++ ".0"

theorem front_ofNumber (n : Int) : front (ofNumber n) = (toString n).toList := by
  have hpoint : '.' ∉ (toString n).toList :=
    Text.not_mem_toString (by decide) (by decide) (by decide) n
  have hfront : ∀ c ∈ (toString n).toList, (c != '.') = true := fun c hc =>
    bne_iff_ne.mpr fun heq => hpoint (heq ▸ hc)
  unfold front ofNumber
  rw [String.toList_append, List.takeWhile_append_of_pos hfront]
  simp

theorem major_ofNumber (h : Text.IsShort n) : major (ofNumber n) = n := by
  apply major_of_isNumeral
  rw [front_ofNumber]
  exact Text.isNumeral_toString h

/-- The next label is that of the next number, unless this has too many digits. -/
theorem next_eq_ok_iff : Label.next label = .ok next ↔
    Text.IsShort (major label + 1) ∧ next = ofNumber (major label + 1) := by
  unfold Label.next decimal
  rw [Text.isShort_iff]
  split
  · rename_i hlong
    refine ⟨fun h => (nomatch h), fun h => absurd h.1 (Nat.not_lt.mpr hlong)⟩
  · rename_i hshort
    rw [and_iff_right (Nat.lt_of_not_le hshort)]
    exact ⟨fun h => (Except.ok.inj h).symm, fun h => congrArg Except.ok h.symm⟩

/-! ## Labels of numbers from zero on -/

/-- The label of a major number. -/
def ofMajor (n : Nat) : String := toString n ++ ".0"

theorem ofMajor_eq_ofNumber (n : Nat) : ofMajor n = ofNumber n := rfl

theorem major_ofMajor {n : Nat} (h : n < tenTo Text.digitLimit) : major (ofMajor n) = n := by
  have hshort : Text.IsShort (n : Int) := by rwa [Text.isShort_iff, Int.natAbs_natCast]
  rw [ofMajor_eq_ofNumber, major_ofNumber hshort]

theorem major_firstLabel : major firstLabel = 0 := by decide +kernel

/-- The next label is that of the next number. -/
theorem next_spec {n : Nat} (hmajor : major label = n) (h : Label.next label = .ok next) :
    next = ofMajor (n + 1) ∧ n + 1 < tenTo Text.digitLimit := by
  obtain ⟨hshort, rfl⟩ := next_eq_ok_iff.mp h
  have hcast : ((n : Int) + 1) = ((n + 1 : Nat) : Int) := rfl
  rw [hmajor, hcast] at hshort ⊢
  rw [Text.isShort_iff, Int.natAbs_natCast] at hshort
  exact ⟨rfl, hshort⟩

end Dialogue.Label
