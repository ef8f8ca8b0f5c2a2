-- What a condition finds in a text. A value that stands in the text is found there, whatever its
-- letters, but for one of them: a capital sigma is written small by the letters around it, and where
-- these are not the same in the text and in the value, neither are the small forms.
import Dialogue.Run.Walk
import Mathlib.Data.List.Infix

namespace Dialogue

namespace Text

/-! ## The last letter of a word -/

/-- Whether a letter between the two parts ends a word. The part before it is given from its end. -/
def endsWord (before after : List Char) : Bool := meetsCased before && !meetsCased after

theorem lowerAt_sigma (before after : List Char) :
    lowerAt before 'Σ' after = [if endsWord before after then 'ς' else 'σ'] := rfl

theorem lowerAt_sigma_inj {before after before' after' : List Char} :
    lowerAt before 'Σ' after = lowerAt before' 'Σ' after' ↔
      endsWord before after = endsWord before' after' := by
  rw [lowerAt_sigma, lowerAt_sigma]
  cases endsWord before after <;> cases endsWord before' after' <;> simp

/-- No other letter is written by those around it. -/
theorem lowerAt_eq_of_ne {c : Char} (hc : c ≠ 'Σ') (before after before' after' : List Char) :
    lowerAt before c after = lowerAt before' c after' := by
  unfold lowerAt
  rw [beq_eq_false_iff_ne.mpr hc]
  rfl

theorem length_lowerAt (before : List Char) (c : Char) (after before' after' : List Char) :
    (lowerAt before c after).length = (lowerAt before' c after').length := by
  by_cases hc : c = 'Σ'
  · subst hc
    rfl
  · rw [lowerAt_eq_of_ne hc before after before' after']

/-! ## A part of a text -/

/-- The small forms of a part that stands after `before` (nearest first) and before `after`. -/
def lowerWithin (before : List Char) : List Char → List Char → List Char
  | [], _ => []
  | c :: cs, after => lowerAt before c (cs ++ after) ++ lowerWithin (c :: before) cs after

theorem lowerFrom_append (before cs after : List Char) :
    lowerFrom before (cs ++ after) =
      lowerWithin before cs after ++ lowerFrom (cs.reverse ++ before) after := by
  induction cs generalizing before with
  | nil => rfl
  | cons c rest ih =>
    rw [List.cons_append, lowerFrom, ih, lowerWithin, List.append_assoc, List.reverse_cons,
      List.append_assoc, List.singleton_append]

theorem lowerFrom_eq (before cs : List Char) : lowerFrom before cs = lowerWithin before cs [] := by
  have happend := lowerFrom_append before cs []
  rwa [List.append_nil, lowerFrom, List.append_nil] at happend

theorem length_lowerWithin (before cs after before' after' : List Char) :
    (lowerWithin before cs after).length = (lowerWithin before' cs after').length := by
  induction cs generalizing before before' with
  | nil => rfl
  | cons c rest ih =>
    rw [lowerWithin, lowerWithin, List.length_append, List.length_append,
      length_lowerAt before c (rest ++ after) before' (rest ++ after'), ih (c :: before) (c :: before')]

theorem forall_places_nil {α : Type} {x : α} {P : List α → List α → Prop} :
    (∀ p r, [] = p ++ x :: r → P p r) ↔ True := by
  simp

/-- The places of a letter in a list are the first, if it stands there, and those in the rest. -/
theorem forall_places_cons {α : Type} {c x : α} {cs : List α} {P : List α → List α → Prop} :
    (∀ p r, c :: cs = p ++ x :: r → P p r) ↔
      (c = x → P [] cs) ∧ ∀ p r, cs = p ++ x :: r → P (c :: p) r := by
  constructor
  · intro h
    refine ⟨fun hc => h [] cs (by rw [hc, List.nil_append]), fun p r hcs => ?_⟩
    exact h (c :: p) r (by rw [hcs, List.cons_append])
  · rintro ⟨hfirst, hrest⟩ p r heq
    rcases List.cons_eq_append_iff.mp heq with ⟨rfl, hr⟩ | ⟨p, rfl, hcs⟩
    · cases hr
      exact hfirst rfl
    · exact hrest p r hcs

/-- A part is written the same in two places just if each of its sigmas ends a word in both or in
neither. -/
theorem lowerWithin_eq_iff {before cs after before' after' : List Char} :
    lowerWithin before cs after = lowerWithin before' cs after' ↔
      ∀ p r, cs = p ++ 'Σ' :: r →
        endsWord (p.reverse ++ before) (r ++ after) = endsWord (p.reverse ++ before') (r ++ after') := by
  induction cs generalizing before before' with
  | nil => exact iff_of_true rfl (forall_places_nil.mpr trivial)
  | cons c rest ih =>
    have hlength := length_lowerAt before c (rest ++ after) before' (rest ++ after')
    have hhead : lowerAt before c (rest ++ after) = lowerAt before' c (rest ++ after') ↔
        (c = 'Σ' → endsWord before (rest ++ after) = endsWord before' (rest ++ after')) := by
      by_cases hc : c = 'Σ'
      · rw [hc, lowerAt_sigma_inj, imp_iff_right rfl]
      · exact iff_of_true (lowerAt_eq_of_ne hc _ _ _ _) fun h => absurd h hc
    have hreverse : ∀ p b : List Char, (c :: p).reverse ++ b = p.reverse ++ c :: b := by
      intro p b
      rw [List.reverse_cons, List.append_assoc, List.singleton_append]
    have hboth : lowerWithin before (c :: rest) after = lowerWithin before' (c :: rest) after' ↔
        lowerAt before c (rest ++ after) = lowerAt before' c (rest ++ after') ∧
          lowerWithin (c :: before) rest after = lowerWithin (c :: before') rest after' :=
      ⟨fun h => List.append_inj h hlength, fun h => congrArg₂ (· ++ ·) h.1 h.2⟩
    rw [hboth, forall_places_cons, hhead, ih]
    simp only [hreverse, List.reverse_nil, List.nil_append]

/-! ## Sigmas that hang on what stands around -/

theorem meetsCased_append (cs ds : List Char) :
    meetsCased (cs ++ ds) = if cs.all isIgnorable then meetsCased ds else meetsCased cs := by
  induction cs with
  | nil => rfl
  | cons c rest ih =>
    unfold meetsCased at ih ⊢
    cases hc : isIgnorable c with
    | true => simpa [hc] using ih
    | false => simp [hc]

theorem meetsCased_of_all {cs : List Char} (h : cs.all isIgnorable = true) :
    meetsCased cs = false := by
  have happend := meetsCased_append cs []
  rw [List.append_nil, if_pos h] at happend
  exact happend

/-- A sigma between the two parts is open if it hangs on what stands around them whether it ends a word.
The part before it is given from its end. -/
def IsOpen (before after : List Char) : Prop :=
  (before.all isIgnorable = true ∧ meetsCased after = false) ∨
    (meetsCased before = true ∧ after.all isIgnorable = true)

instance (before after : List Char) : Decidable (IsOpen before after) :=
  inferInstanceAs (Decidable (_ ∨ _))

theorem endsWord_append {before after : List Char} (h : ¬ IsOpen before after) (cs ds : List Char) :
    endsWord (before ++ cs) (after ++ ds) = endsWord before after := by
  unfold IsOpen at h
  unfold endsWord
  rw [meetsCased_append, meetsCased_append]
  cases hbefore : before.all isIgnorable with
  | true =>
    have hafter : meetsCased after = true := by
      by_contra hnot
      exact h (.inl ⟨hbefore, Bool.eq_false_iff.mpr hnot⟩)
    have hmeets : ¬ after.all isIgnorable = true := by
      intro hall
      rw [meetsCased_of_all hall] at hafter
      cases hafter
    simp [hafter, hmeets]
  | false =>
    cases hcased : meetsCased before with
    | false => simp
    | true =>
      have hafter : ¬ after.all isIgnorable = true := fun hall => h (.inr ⟨hcased, hall⟩)
      simp [hafter]

/-- A part is written as it is by itself if each of its sigmas ends a word just as it does there. -/
theorem lowerWithin_eq_lowerFrom {before cs after : List Char}
    (h : ∀ p r, cs = p ++ 'Σ' :: r →
      endsWord (p.reverse ++ before) (r ++ after) = endsWord p.reverse r) :
    lowerWithin before cs after = lowerFrom [] cs := by
  rw [lowerFrom_eq, lowerWithin_eq_iff]
  simpa only [List.append_nil] using h

/-! ## A text inside another -/

theorem occursIn_iff {part cs : List Char} : occursIn part cs = true ↔ part <:+: cs := by
  induction cs with
  | nil => rw [occursIn, List.isEmpty_iff, List.infix_nil]
  | cons c rest ih =>
    rw [occursIn, Bool.or_eq_true, List.isPrefixOf_iff_prefix, ih, List.infix_cons_iff]

/-- Behind one more letter there is room for a part of the same length in two places. -/
theorem not_infix_cons {α : Type} {part cs : List α} {c : α} (hlength : part.length = cs.length)
    (hne : part ≠ cs) (hc : part.head? ≠ some c) : ¬ part <:+: c :: cs := by
  rw [List.infix_cons_iff]
  rintro (hfront | hin)
  · cases part with
    | nil => exact hne (List.length_eq_zero_iff.mp hlength.symm).symm
    | cons x rest => exact hc (congrArg some (List.cons_prefix_cons.mp hfront).1)
  · exact hne (hin.eq_of_length hlength)

theorem not_infix_concat {α : Type} {part cs : List α} {c : α} (hlength : part.length = cs.length)
    (hne : part ≠ cs) (hc : part.getLast? ≠ some c) : ¬ part <:+: cs ++ [c] := by
  rw [← List.reverse_infix, List.reverse_append, List.reverse_singleton, List.singleton_append]
  refine not_infix_cons ?_ (fun heq => hne (List.reverse_injective heq)) ?_
  · rw [List.length_reverse, List.length_reverse, hlength]
  · rwa [List.head?_reverse]

/-- There is a plain small letter that is not the given one. -/
theorem exists_plain (o : Option Char) :
    ∃ c, o ≠ some c ∧ (∀ cs, meetsCased (c :: cs) = true) ∧
      ∀ before after, lowerAt before c after = [c] := by
  have hplain : ∀ c, isIgnorable c = false → isCased c = true → c.toNat < 0x80 → smallLetter c = c →
      (∀ cs, meetsCased (c :: cs) = true) ∧ ∀ before after, lowerAt before c after = [c] := by
    intro c hcounts hcased hascii hsmall
    refine ⟨fun cs => ?_, fun before after => ?_⟩
    · simp [meetsCased, hcounts, hcased]
    · rw [lowerAt, if_pos hascii, hsmall]
  by_cases ho : o = some 'a'
  · refine ⟨'b', by simp [ho], hplain 'b' ?_ ?_ ?_ ?_⟩ <;> decide +kernel
  · refine ⟨'a', ho, hplain 'a' ?_ ?_ ?_ ?_⟩ <;> decide +kernel

/-- A value with an open sigma is written in some text as it is not written by itself, and stands there
nowhere else. -/
theorem exists_not_infix_of_isOpen {p r : List Char} (h : IsOpen p.reverse r) :
    ∃ a b, ¬ lowerFrom [] (p ++ 'Σ' :: r) <:+: lowerFrom [] (a ++ (p ++ 'Σ' :: r) ++ b) := by
  generalize hcs : p ++ 'Σ' :: r = cs
  rcases h with ⟨hbefore, hafter⟩ | ⟨hbefore, hafter⟩
  · obtain ⟨c, hc, hcased, hlower⟩ := exists_plain (lowerFrom [] cs).head?
    refine ⟨[c], [], ?_⟩
    rw [List.append_nil, List.singleton_append, lowerFrom, hlower, List.singleton_append]
    refine not_infix_cons ?_ (fun heq => ?_) hc
    · rw [lowerFrom_eq, lowerFrom_eq]
      exact length_lowerWithin _ _ _ _ _
    · rw [lowerFrom_eq, lowerFrom_eq, lowerWithin_eq_iff] at heq
      have hends := heq p r hcs.symm
      simp [endsWord, meetsCased_append, hbefore, hafter, hcased, meetsCased_of_all hbefore] at hends
  · obtain ⟨c, hc, hcased, hlower⟩ := exists_plain (lowerFrom [] cs).getLast?
    refine ⟨[], [c], ?_⟩
    have hone : lowerFrom (cs.reverse ++ []) [c] = [c] := by
      rw [lowerFrom, hlower]
      rfl
    rw [List.nil_append, lowerFrom_append, hone]
    refine not_infix_concat ?_ (fun heq => ?_) hc
    · rw [lowerFrom_eq]
      exact length_lowerWithin _ _ _ _ _
    · rw [lowerFrom_eq, lowerWithin_eq_iff] at heq
      have hends := heq p r hcs.symm
      simp [endsWord, meetsCased_append, hbefore, hafter, hcased, meetsCased_of_all hafter] at hends

end Text

namespace ConditionData

open Text

variable {d : ConditionData}

theorem contains_matches_iff (hd : d.operator = "contains") (said : String) :
    d.matches said = true ↔ lowerFrom [] d.value.toList <:+: lowerFrom [] said.toList := by
  have hcontains : d.matches said = contains (lower said) (lower d.value) := by
    unfold ConditionData.matches
    rw [hd]
    rfl
  rw [hcontains, contains, occursIn_iff, lower, lower, String.toList_ofList, String.toList_ofList]

/-- A value is found where it stands in a text if each of its sigmas ends a word there just as it does in
the value. It is found in every text where it stands exactly if none of its sigmas is open. -/
theorem a_value_is_found_where_it_stands_unless_a_sigma_is_open (hd : d.operator = "contains") :
    (∀ a b : String,
      (∀ p r, d.value.toList = p ++ 'Σ' :: r →
        endsWord (p.reverse ++ a.toList.reverse) (r ++ b.toList) = endsWord p.reverse r) →
      d.matches (a ++ d.value ++ b) = true) ∧
    ((∀ a b : String, d.matches (a ++ d.value ++ b) = true) ↔
      ∀ p r, d.value.toList = p ++ 'Σ' :: r → ¬ IsOpen p.reverse r) := by
  have hfound : ∀ a b : String,
      (∀ p r, d.value.toList = p ++ 'Σ' :: r →
        endsWord (p.reverse ++ a.toList.reverse) (r ++ b.toList) = endsWord p.reverse r) →
      d.matches (a ++ d.value ++ b) = true := by
    intro a b hsame
    rw [contains_matches_iff hd, String.toList_append, String.toList_append, List.append_assoc,
      lowerFrom_append, lowerFrom_append, List.append_nil, lowerWithin_eq_lowerFrom hsame]
    exact List.infix_append' _ _ _
  refine ⟨hfound, fun hall p r hvalue hopen => ?_, fun hclosed a b => hfound a b ?_⟩
  · obtain ⟨a, b, hnot⟩ := exists_not_infix_of_isOpen hopen
    have hin := (contains_matches_iff hd _).mp (hall (String.ofList a) (String.ofList b))
    rw [String.toList_append, String.toList_append, String.toList_ofList, String.toList_ofList,
      hvalue] at hin
    exact hnot hin
  · exact fun p r hvalue => endsWord_append (hclosed p r hvalue) _ _

/-- A word that ends in a sigma is found in a sentence. Where the value goes on behind the word, it is found
wherever it stands, be there letters in it with two small ones for one or with none. -/
theorem greek_words_are_found_in_sentences :
    let d : ConditionData := { operator := "contains", value := "ΟΔΟΣ" }
    let d' : ConditionData := { operator := "contains", value := "ΟΔΟΣ İ中" }
    d.matches ("Η " ++ d.value ++ " Α") = true ∧ ∀ a b : String, d'.matches (a ++ d'.value ++ b) = true := by
  intro d d'
  obtain ⟨hfound, -⟩ := a_value_is_found_where_it_stands_unless_a_sigma_is_open (d := d) rfl
  obtain ⟨-, hall⟩ := a_value_is_found_where_it_stands_unless_a_sigma_is_open (d := d') rfl
  have hword : d.value.toList = ['Ο', 'Δ', 'Ο', 'Σ'] := by decide +kernel
  have hwords : d'.value.toList = ['Ο', 'Δ', 'Ο', 'Σ', ' ', 'İ', '中'] := by decide +kernel
  refine ⟨hfound "Η " " Α" ?_, hall.mpr ?_⟩
  · rw [hword]
    simp only [forall_places_cons, forall_places_nil]
    decide +kernel
  · rw [hwords]
    simp only [forall_places_cons, forall_places_nil]
    decide +kernel

/-- A capital sigma at the end of a value is written as a last letter. In a longer word it is not. -/
theorem a_value_is_not_found_in_a_longer_word :
    let d : ConditionData := { operator := "contains", value := "ΑΣ" }
    d.matches ("" ++ d.value ++ "Α") = false ∧ d.matches ("Α " ++ d.value ++ " Α") = true := by
  decide +kernel

end ConditionData

end Dialogue
