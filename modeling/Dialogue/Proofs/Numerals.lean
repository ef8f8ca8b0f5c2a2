-- Numerals: digits of any scripts with single underscores between them, a sign or none in front of
-- them, and spaces around. A text is read as a number exactly if it is a numeral of this number, and
-- the decimal text of a number is one, with signs and all.
import Mathlib.Data.List.Induction
import Mathlib.Data.List.TakeWhile
import Mathlib.Data.Nat.Digits.Defs
import Dialogue.Decimal
import Dialogue.Text.Whole

namespace Dialogue.Text

/-! ## What a numeral is -/

/-- Digits, with an underscore between some of them, and their values. -/
inductive IsRun : List Char → List Nat → Prop where
  | last {c : Char} {d : Nat} (hc : digitValue? c = some d) : IsRun [c] [d]
  | next {c : Char} {d : Nat} {cs : List Char} {ds : List Nat} (hc : digitValue? c = some d)
      (hrest : IsRun cs ds) : IsRun (c :: cs) (d :: ds)
  | gap {c : Char} {d : Nat} {cs : List Char} {ds : List Nat} (hc : digitValue? c = some d)
      (hrest : IsRun cs ds) : IsRun (c :: '_' :: cs) (d :: ds)

/-- A sign, or none, and whether it is a minus. -/
inductive IsSign : List Char → Bool → Prop where
  | none : IsSign [] false
  | plus : IsSign ['+'] false
  | minus : IsSign ['-'] true

/-- A text that stands for a whole number. Zeros in front count as digits. -/
inductive IsNumeral : List Char → Int → Prop where
  | signed {before sign run after : List Char} {negative : Bool} {digits : List Nat}
      (hbefore : ∀ c ∈ before, isSpace c = true) (hsign : IsSign sign negative)
      (hrun : IsRun run digits) (hshort : digits.length ≤ digitLimit)
      (hafter : ∀ c ∈ after, isSpace c = true) :
      IsNumeral (before ++ (sign ++ run) ++ after) (withSign negative (valueOf digits))

/-! ## Digits are neither spaces nor marks -/

variable {c : Char} {d : Nat}

theorem zeros_apart : ∀ z ∈ zeros, ∀ b ∈ blanks, ¬ (z ≤ b ∧ b < z + 10) := by decide +kernel

theorem isSpace_of_digitValue? (h : digitValue? c = some d) : isSpace c = false := by
  unfold digitValue? at h
  obtain ⟨z, hfound, -⟩ := Option.map_eq_some_iff.mp h
  have hrange := List.find?_some hfound
  rw [Bool.and_eq_true, decide_eq_true_eq, decide_eq_true_eq] at hrange
  have hblank : c.toNat ∉ blanks := fun hb =>
    zeros_apart z (List.mem_of_find?_eq_some hfound) c.toNat hb hrange
  simp [isSpace, isBlank, hblank]

theorem ne_of_digitValue? (h : digitValue? c = some d) {x : Char} (hx : digitValue? x = none) :
    c ≠ x := by
  rintro rfl
  rw [h] at hx
  cases hx

theorem digitValue?_underscore : digitValue? '_' = none := by decide

/-! ## Runs of digits -/

variable {cs : List Char} {ds : List Nat}

/-- Whether a character may stand in a run. -/
def isRunChar (c : Char) : Bool := c == '_' || (digitValue? c).isSome

namespace IsRun

theorem head (h : IsRun cs ds) : ∃ c rest d, cs = c :: rest ∧ digitValue? c = some d := by
  cases h with
  | last hc => exact ⟨_, _, _, rfl, hc⟩
  | next hc => exact ⟨_, _, _, rfl, hc⟩
  | gap hc => exact ⟨_, _, _, rfl, hc⟩

theorem ne_nil (h : IsRun cs ds) : cs ≠ [] := by
  obtain ⟨c, rest, -, rfl, -⟩ := h.head
  exact List.cons_ne_nil c rest

theorem getLast (h : IsRun cs ds) : ∃ c d, cs.getLast? = some c ∧ digitValue? c = some d := by
  induction h with
  | last hc => exact ⟨_, _, rfl, hc⟩
  | next hc hrest ih =>
    obtain ⟨c, d, hlast, hd⟩ := ih
    exact ⟨c, d, by rw [List.getLast?_cons, hlast]; rfl, hd⟩
  | gap hc hrest ih =>
    obtain ⟨c, d, hlast, hd⟩ := ih
    exact ⟨c, d, by rw [List.getLast?_cons, List.getLast?_cons, hlast]; rfl, hd⟩

theorem all_isRunChar (h : IsRun cs ds) : ∀ c ∈ cs, isRunChar c = true := by
  induction h with
  | last hc => simp [isRunChar, hc]
  | next hc _ ih => simpa [isRunChar, hc] using ih
  | gap hc _ ih => simpa [isRunChar, hc] using ih

theorem filterMap_eq (h : IsRun cs ds) : cs.filterMap digitValue? = ds := by
  induction h with
  | last hc => simp [hc]
  | next hc _ ih => simp [hc, ih]
  | gap hc _ ih => simp [hc, digitValue?_underscore, ih]

theorem not_occursTwice (h : IsRun cs ds) : occursTwice '_' cs = false := by
  induction h with
  | last hc => rfl
  | next hc hrest ih =>
    obtain ⟨c, rest, -, rfl, -⟩ := hrest.head
    have hne := ne_of_digitValue? hc digitValue?_underscore
    simp [occursTwice, hne, ih]
  | gap hc hrest ih =>
    obtain ⟨c, rest, d, rfl, hd⟩ := hrest.head
    have hne := ne_of_digitValue? hc digitValue?_underscore
    have hne' := ne_of_digitValue? hd digitValue?_underscore
    simp [occursTwice, hne, hne', ih]

theorem underscoresBetween (h : IsRun cs ds) : underscoresBetween cs = true := by
  obtain ⟨c, rest, d, rfl, hd⟩ := h.head
  obtain ⟨c', d', hlast, hd'⟩ := h.getLast
  have hne := ne_of_digitValue? hd digitValue?_underscore
  have hne' := ne_of_digitValue? hd' digitValue?_underscore
  simp [Text.underscoresBetween, hlast, hne, hne', h.not_occursTwice]

end IsRun

theorem exists_digitValue? (h : isRunChar c = true) (hc : c ≠ '_') : ∃ d, digitValue? c = some d := by
  rw [isRunChar, beq_false_of_ne hc, Bool.false_or] at h
  exact Option.isSome_iff_exists.mp h

/-- Where underscores stand only between digits, the text is a run of its digits. -/
theorem isRun_filterMap (hne : cs ≠ []) (hall : ∀ c ∈ cs, isRunChar c = true)
    (hhead : cs.head? ≠ some '_') (hlast : cs.getLast? ≠ some '_')
    (htwice : occursTwice '_' cs = false) : IsRun cs (cs.filterMap digitValue?) := by
  -- After an underscore the run goes on two characters later.
  induction cs using List.twoStepInduction with
  | nil => exact absurd rfl hne
  | singleton c =>
    obtain ⟨d, hd⟩ := exists_digitValue? (hall c (by simp)) (by simpa using hhead)
    simpa [hd] using IsRun.last hd
  | cons_cons c x rest ihrest ih =>
    obtain ⟨d, hd⟩ := exists_digitValue? (hall c (by simp)) (by simpa using hhead)
    have hall' : ∀ y ∈ x :: rest, isRunChar y = true := fun y hy =>
      hall y (List.mem_cons_of_mem c hy)
    rw [List.getLast?_cons_cons] at hlast
    simp only [occursTwice, Bool.or_eq_false_iff] at htwice
    by_cases hx : x = '_'
    · subst hx
      cases rest with
      | nil => exact absurd rfl hlast
      | cons y rest =>
        rw [List.getLast?_cons_cons] at hlast
        simp only [occursTwice, Bool.or_eq_false_iff] at htwice
        have hy : (y :: rest).head? ≠ some '_' := by simpa using htwice.2.1
        have hrun := ihrest (List.cons_ne_nil y rest)
          (fun z hz => hall' z (List.mem_cons_of_mem '_' hz)) hy hlast htwice.2.2
        rw [List.filterMap_cons_some hd, List.filterMap_cons_none digitValue?_underscore]
        exact .gap hd hrun
    · have hrun := ih x (List.cons_ne_nil x rest) hall' (by simpa using hx) hlast htwice.2
      rw [List.filterMap_cons_some hd]
      exact .next hd hrun

theorem isRun_iff : IsRun cs ds ↔ cs ≠ [] ∧ (∀ c ∈ cs, isRunChar c = true) ∧
    underscoresBetween cs = true ∧ cs.filterMap digitValue? = ds := by
  constructor
  · intro h
    exact ⟨h.ne_nil, h.all_isRunChar, h.underscoresBetween, h.filterMap_eq⟩
  · rintro ⟨hne, hall, hbetween, rfl⟩
    simp only [underscoresBetween, Bool.and_eq_true, bne_iff_ne, Bool.not_eq_true'] at hbetween
    exact isRun_filterMap hne hall hbetween.1.1 hbetween.1.2 hbetween.2

/-! ## Spaces and signs -/

section

variable {class? : Char → Bool}

/-- Trimming takes a part of the class off at each end. -/
theorem exists_trimBy (class? : Char → Bool) (cs : List Char) :
    ∃ before after, cs = before ++ trimBy class? cs ++ after ∧
      (∀ c ∈ before, class? c = true) ∧ ∀ c ∈ after, class? c = true := by
  let rest := cs.dropWhile class?
  refine ⟨cs.takeWhile class?, (rest.reverse.takeWhile class?).reverse, ?_,
    fun c hc => List.mem_takeWhile_imp hc,
    fun c hc => List.mem_takeWhile_imp (List.mem_reverse.mp hc)⟩
  have hrest : trimBy class? cs ++ (rest.reverse.takeWhile class?).reverse = rest := by
    unfold trimBy
    rw [← List.reverse_append, List.takeWhile_append_dropWhile, List.reverse_reverse]
  calc cs = cs.takeWhile class? ++ rest := List.takeWhile_append_dropWhile.symm
    _ = cs.takeWhile class? ++ trimBy class? cs ++ (rest.reverse.takeWhile class?).reverse := by
      rw [List.append_assoc, hrest]

theorem dropWhile_eq_self (h : ∀ c ∈ cs.head?, class? c = false) : cs.dropWhile class? = cs := by
  cases cs with
  | nil => rfl
  | cons c rest => exact List.dropWhile_cons_of_neg (by simp [h c rfl])

theorem trimBy_append {before after : List Char} (hbefore : ∀ c ∈ before, class? c = true)
    (hafter : ∀ c ∈ after, class? c = true) (hne : cs ≠ [])
    (hhead : ∀ c ∈ cs.head?, class? c = false) (hlast : ∀ c ∈ cs.getLast?, class? c = false) :
    trimBy class? (before ++ cs ++ after) = cs := by
  have hfront : (before ++ cs ++ after).dropWhile class? = cs ++ after := by
    rw [List.append_assoc, List.dropWhile_append_of_pos hbefore]
    apply dropWhile_eq_self
    obtain ⟨c, rest, rfl⟩ := List.exists_cons_of_ne_nil hne
    exact hhead
  unfold trimBy
  rw [hfront, List.reverse_append,
    List.dropWhile_append_of_pos fun c hc => hafter c (List.mem_reverse.mp hc),
    dropWhile_eq_self (by rwa [List.head?_reverse]), List.reverse_reverse]

end

theorem exists_sign (cs : List Char) : ∃ sign negative rest,
    takeSign cs = (negative, rest) ∧ cs = sign ++ rest ∧ IsSign sign negative := by
  unfold takeSign
  split
  · exact ⟨['-'], true, _, rfl, rfl, .minus⟩
  · exact ⟨['+'], false, _, rfl, rfl, .plus⟩
  · exact ⟨[], false, _, rfl, rfl, .none⟩

theorem takeSign_append {sign : List Char} {negative : Bool} (hsign : IsSign sign negative)
    (hrun : IsRun cs ds) : takeSign (sign ++ cs) = (negative, cs) := by
  cases hsign with
  | plus => rfl
  | minus => rfl
  | none =>
    obtain ⟨c, rest, d, rfl, hc⟩ := hrun.head
    have hminus := ne_of_digitValue? hc (x := '-') (by decide)
    have hplus := ne_of_digitValue? hc (x := '+') (by decide)
    simp [takeSign, hminus, hplus]

theorem head_not_space {sign : List Char} {negative : Bool} (hsign : IsSign sign negative)
    (hrun : IsRun cs ds) : ∀ c ∈ (sign ++ cs).head?, isSpace c = false := by
  intro c hc
  cases hsign with
  | plus =>
    cases hc
    decide
  | minus =>
    cases hc
    decide
  | none =>
    obtain ⟨c, rest, d, rfl, hd⟩ := hrun.head
    cases hc
    exact isSpace_of_digitValue? hd

theorem getLast_not_space (sign : List Char) (hrun : IsRun cs ds) :
    ∀ c ∈ (sign ++ cs).getLast?, isSpace c = false := by
  obtain ⟨c, d, hlast, hc⟩ := hrun.getLast
  simpa [List.getLast?_append, hlast] using isSpace_of_digitValue? hc

/-! ## Reading -/

/-- What follows the sign must be a run of digits, and not too long. -/
theorem readNumeral_of_takeSign {negative : Bool} {rest : List Char} {n : Int}
    (h : takeSign (trimBy isSpace cs) = (negative, rest)) : readNumeral cs = .ok n ↔
      ∃ ds, IsRun rest ds ∧ ds.length ≤ digitLimit ∧ withSign negative (valueOf ds) = n := by
  have hchar : (fun c => c == '_' || (digitValue? c).isSome) = isRunChar := rfl
  unfold readNumeral
  rw [h, hchar]
  dsimp only
  constructor
  · intro hread
    split at hread
    · cases hread
    split at hread
    · cases hread
    split at hread
    · cases hread
    rename_i hready hmany hwhole
    have hrest : rest.takeWhile isRunChar = rest :=
      (List.takeWhile_prefix isRunChar).eq_of_length_le (Nat.le_of_not_lt hwhole)
    rw [hrest] at hready hmany hread
    simp only [Bool.or_eq_true, Bool.not_eq_true', not_or, List.isEmpty_iff,
      Bool.not_eq_false] at hready
    have hrun : IsRun rest (rest.filterMap digitValue?) :=
      isRun_iff.mpr ⟨hready.1, List.takeWhile_eq_self_iff.mp hrest, hready.2, rfl⟩
    exact ⟨_, hrun, Nat.le_of_not_lt hmany, Except.ok.inj hread⟩
  · rintro ⟨ds, hrun, hshort, rfl⟩
    obtain ⟨hne, hall, hbetween, hdigits⟩ := isRun_iff.mp hrun
    rw [List.takeWhile_eq_self_iff.mpr hall, hdigits, hbetween, if_neg (by simpa using hne),
      if_neg (Nat.not_lt.mpr hshort), if_neg (Nat.lt_irrefl _)]

/-- A text is read as a number exactly if it is a numeral of the number. -/
theorem readNumeral_eq_ok_iff {n : Int} : readNumeral cs = .ok n ↔ IsNumeral cs n := by
  constructor
  · intro hread
    obtain ⟨before, after, hcs, hbefore, hafter⟩ := exists_trimBy isSpace cs
    obtain ⟨sign, negative, rest, htake, htrim, hsign⟩ := exists_sign (trimBy isSpace cs)
    obtain ⟨ds, hrun, hshort, rfl⟩ := (readNumeral_of_takeSign htake).mp hread
    rw [htrim] at hcs
    rw [hcs]
    exact .signed hbefore hsign hrun hshort hafter
  · rintro ⟨hbefore, hsign, hrun, hshort, hafter⟩
    have htrim := trimBy_append hbefore hafter (List.append_ne_nil_of_right_ne_nil _ hrun.ne_nil)
      (head_not_space hsign hrun) (getLast_not_space _ hrun)
    refine (readNumeral_of_takeSign ?_).mpr ⟨_, hrun, hshort, rfl⟩
    rw [htrim, takeSign_append hsign hrun]

/-! ## The decimal text of a number -/

/-- The number has no more digits than a number that is read or written may have. -/
def IsShort (n : Int) : Prop := (Nat.toDigits 10 n.natAbs).length ≤ digitLimit

instance (n : Int) : Decidable (IsShort n) := inferInstanceAs (Decidable (_ ≤ _))

theorem length_toDigits_le_iff {n k : Nat} (hk : 0 < k) :
    (Nat.toDigits 10 n).length ≤ k ↔ n < tenTo k :=
  Nat.length_toDigits_le_iff (by decide) hk

theorem isShort_iff {n : Int} : IsShort n ↔ n.natAbs < tenTo digitLimit :=
  length_toDigits_le_iff (by decide)

theorem bounds_of_isDigit (h : c.isDigit = true) : 48 ≤ c.toNat ∧ c.toNat ≤ 57 := by
  simp only [Char.isDigit, Bool.and_eq_true, decide_eq_true_eq] at h
  exact h

theorem digitValue?_of_isDigit (h : c.isDigit = true) : digitValue? c = some (c.toNat - 48) := by
  obtain ⟨hlow, hhigh⟩ := bounds_of_isDigit h
  unfold digitValue? zeros
  rw [List.find?_cons_of_pos]
  · rfl
  · simp only [Bool.and_eq_true, decide_eq_true_eq]
    omega

theorem isRun_of_digits (hne : cs ≠ []) (h : ∀ c ∈ cs, c.isDigit = true) :
    IsRun cs (cs.map fun c => c.toNat - 48) := by
  induction cs with
  | nil => exact absurd rfl hne
  | cons c rest ih =>
    have hc := digitValue?_of_isDigit (h c List.mem_cons_self)
    by_cases hrest : rest = []
    · subst hrest
      exact .last hc
    · exact .next hc (ih hrest fun x hx => h x (List.mem_cons_of_mem c hx))

theorem valueOf_eq_ofDigitChars (cs : List Char) :
    valueOf (cs.map fun c => c.toNat - 48) = Nat.ofDigitChars 10 cs 0 := by
  unfold valueOf
  rw [List.foldl_map]
  rfl

theorem isDigit_of_mem_toDigits {n : Nat} : ∀ c ∈ Nat.toDigits 10 n, c.isDigit = true :=
  fun _ hc => Nat.isDigit_of_mem_toDigits (by omega) (by omega) hc

/-- The decimal text of a number is that of its absolute value, with a sign or none in front. -/
theorem exists_sign_toString (n : Int) : ∃ sign negative, IsSign sign negative ∧
    (toString n).toList = sign ++ Nat.toDigits 10 n.natAbs ∧ withSign negative n.natAbs = n := by
  cases n with
  | ofNat m => exact ⟨[], false, .none, Nat.toList_repr, rfl⟩
  | negSucc m =>
    refine ⟨['-'], true, .minus, ?_, rfl⟩
    rw [Int.toString_eq_repr, Int.repr, String.toList_append, Nat.toList_repr]
    rfl

theorem not_mem_toString {x : Char} (hx : x.isDigit = false) (hminus : x ≠ '-') (hplus : x ≠ '+')
    (n : Int) : x ∉ (toString n).toList := by
  obtain ⟨sign, negative, hsign, htext, -⟩ := exists_sign_toString n
  rw [htext, List.mem_append, not_or]
  constructor
  · cases hsign <;> simp [hminus, hplus]
  · intro hmem
    rw [isDigit_of_mem_toDigits x hmem] at hx
    cases hx

/-- The decimal text of a number is a numeral of it. -/
theorem isNumeral_toString {n : Int} (h : IsShort n) : IsNumeral (toString n).toList n := by
  obtain ⟨sign, negative, hsign, htext, hn⟩ := exists_sign_toString n
  have hrun := isRun_of_digits Nat.toDigits_ne_nil (isDigit_of_mem_toDigits (n := n.natAbs))
  have hnone : ∀ c ∈ ([] : List Char), isSpace c = true := fun c hc => absurd hc List.not_mem_nil
  have hnumeral := IsNumeral.signed hnone hsign hrun (by rwa [List.length_map]) hnone
  rwa [valueOf_eq_ofDigitChars, Nat.ofDigitChars_ten_toDigits, List.nil_append, List.append_nil,
    ← htext, hn] at hnumeral

end Dialogue.Text
