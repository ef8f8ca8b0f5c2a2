-- Words are texts and null. Two words are the same only when they are equal, so a look-up by a word
-- finds what is equal to it and nothing else.
import Mathlib.Data.List.Nodup
import Dialogue.Validation

namespace Dialogue

namespace Json

/-- A text and nothing else. -/
def IsText (j : Json) : Prop := ∃ s, j = .str s

/-- A text or null. -/
def IsWord (j : Json) : Prop := j = .null ∨ j.IsText

theorem isText_str (s : String) : (Json.str s).IsText := ⟨s, rfl⟩

theorem IsText.isWord {j : Json} (h : j.IsText) : j.IsWord := Or.inr h

theorem IsWord.isKey {j : Json} (h : j.IsWord) : j.isKey = true := by
  rcases h with rfl | ⟨s, rfl⟩ <;> rfl

/-! ## Sameness among words -/

theorem same_iff_of_left {a b : Json} (h : a.IsWord) : a.same b = true ↔ a = b := by
  rcases h with rfl | ⟨s, rfl⟩ <;> cases b <;> simp [same, sameScalar, number?]

theorem same_iff_of_right {a b : Json} (h : b.IsWord) : a.same b = true ↔ a = b := by
  rcases h with rfl | ⟨s, rfl⟩ <;> cases a <;> simp [same, sameScalar, number?]

theorem not_same_iff_of_left {a b : Json} (h : a.IsWord) : (!a.same b) = true ↔ a ≠ b := by
  rw [Bool.not_eq_true', ← Bool.not_eq_true, same_iff_of_left h]

theorem not_same_iff_of_right {a b : Json} (h : b.IsWord) : (!a.same b) = true ↔ a ≠ b := by
  rw [Bool.not_eq_true', ← Bool.not_eq_true, same_iff_of_right h]

theorem equals_iff_of_left {a b : Json} (h : a.IsWord) : a.equals b = true ↔ a = b := by
  rw [← same_iff_of_left h]
  rcases h with rfl | ⟨s, rfl⟩ <;> rfl

theorem equals_iff_of_right {a b : Json} (h : b.IsWord) : a.equals b = true ↔ a = b := by
  rw [← same_iff_of_right h]
  cases a with
  | float x =>
    have hne : ¬ (Json.float x).same b = true := by
      rw [same_iff_of_right h]
      rcases h with rfl | ⟨s, rfl⟩ <;> simp
    simp [equals, hne]
  | _ => rfl

theorem not_equals_of_not_same {a b : Json} (h : a.same b = false) : a.equals b = false := by
  cases a <;> simp [equals, h]

theorem isIn_iff {x : Json} (h : x.IsWord) (xs : List Json) : x.isIn xs = true ↔ x ∈ xs := by
  unfold isIn
  rw [List.any_eq_true]
  constructor
  · rintro ⟨y, hy, hs⟩
    rw [same_iff_of_left h] at hs
    exact hs ▸ hy
  · intro hx
    exact ⟨x, hx, (same_iff_of_left h).mpr rfl⟩

theorem not_mem_of_isIn {x : Json} (h : x.IsWord) {xs : List Json} (hx : x.isIn xs = false) :
    x ∉ xs := by
  rw [← isIn_iff h, hx]
  exact Bool.false_ne_true

end Json

open Json

theorem keysOnly_of_words {xs : List Json} (h : ∀ x ∈ xs, x.IsWord) : keysOnly xs = .ok () := by
  unfold keysOnly
  rw [if_pos (List.all_eq_true.mpr fun x hx => (h x hx).isKey)]

/-! ## Lists without repetition -/

theorem mem_of_mem_foldl_addNew {xs start : List Json} {y : Json} (h : y ∈ xs.foldl addNew start) :
    y ∈ start ∨ y ∈ xs := by
  induction xs generalizing start with
  | nil => exact .inl h
  | cons x rest ih =>
    rcases ih h with hstart | hrest
    · unfold addNew at hstart
      split at hstart
      · exact .inl hstart
      · rcases List.mem_append.mp hstart with hold | hx
        · exact .inl hold
        · exact .inr (List.mem_singleton.mp hx ▸ List.mem_cons_self)
    · exact .inr (List.mem_cons_of_mem x hrest)

theorem mem_foldl_addNew {xs : List Json} (h : ∀ x ∈ xs, x.IsWord) (start : List Json) (y : Json) :
    y ∈ xs.foldl addNew start ↔ y ∈ start ∨ y ∈ xs := by
  refine ⟨mem_of_mem_foldl_addNew, ?_⟩
  induction xs generalizing start with
  | nil => simp
  | cons x rest ih =>
    have hx : x.IsWord := h x (by simp)
    intro hy
    apply ih (fun z hz => h z (by simp [hz]))
    unfold addNew
    split
    · rename_i hin
      rw [isIn_iff hx] at hin
      rcases hy with hy | hy
      · exact Or.inl hy
      · rcases List.mem_cons.mp hy with rfl | hy
        · exact Or.inl hin
        · exact Or.inr hy
    · simpa only [List.mem_append, List.mem_cons, List.not_mem_nil, or_false, or_assoc] using hy

theorem mem_distinct {xs : List Json} (h : ∀ x ∈ xs, x.IsWord) (y : Json) :
    y ∈ distinct xs ↔ y ∈ xs := by
  unfold distinct
  rw [mem_foldl_addNew h]
  simp

/-- A word stands in a list as often as the list is filtered by it. -/
theorem length_filter_same [DecidableEq Json] {x : Json} (h : x.IsWord) (xs : List Json) :
    (xs.filter (·.same x)).length = xs.count x := by
  rw [List.count, List.countP_eq_length_filter]
  congr 1
  apply List.filter_congr
  intro y _
  rw [Bool.eq_iff_iff, same_iff_of_right h, beq_iff_eq]

theorem mem_tally {xs : List Json} (h : ∀ x ∈ xs, x.IsWord) (t : Json × Nat) :
    t ∈ tally xs ↔ t.1 ∈ xs ∧ t.2 = (xs.filter (·.same t.1)).length := by
  unfold tally
  rw [List.mem_map]
  constructor
  · rintro ⟨x, hx, rfl⟩
    exact ⟨(mem_distinct h x).mp hx, rfl⟩
  · rintro ⟨hx, ht⟩
    exact ⟨t.1, (mem_distinct h _).mpr hx, by rw [← ht]⟩

/-- No word is tallied twice exactly when none stands in the list twice. -/
theorem tally_le_one_iff {xs : List Json} (h : ∀ x ∈ xs, x.IsWord) :
    (∀ t ∈ tally xs, t.2 ≤ 1) ↔ xs.Nodup := by
  classical
  rw [List.nodup_iff_count_le_one]
  constructor
  · intro ht x
    by_cases hx : x ∈ xs
    · have := ht (x, (xs.filter (·.same x)).length) ((mem_tally h _).mpr ⟨hx, rfl⟩)
      rwa [length_filter_same (h x hx)] at this
    · rw [List.count_eq_zero_of_not_mem hx]
      exact Nat.zero_le 1
  · intro hc t ht
    obtain ⟨hx, hl⟩ := (mem_tally h t).mp ht
    rw [hl, length_filter_same (h _ hx)]
    exact hc _

end Dialogue
