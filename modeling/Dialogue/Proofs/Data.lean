-- The data of nodes. What is read for a kind is of the kind and within its bounds, and what is
-- within its bounds reads back as it was written.
import Dialogue.Node.Data

namespace Dialogue

/-! ## Checks that pass -/

namespace Checked

variable {α β : Type}

theorem map_eq_good {g : α → β} {x : Checked α} {b : β} (h : g <$> x = .good b) :
    ∃ a, x = .good a ∧ b = g a := by
  cases x with
  | good a => exact ⟨a, rfl, (Checked.good.inj h).symm⟩
  | bad cs => cases h

theorem seq_eq_good {f : Checked (α → β)} {x : Checked α} {b : β} (h : f <*> x = .good b) :
    ∃ g a, f = .good g ∧ x = .good a ∧ b = g a := by
  cases f with
  | good g =>
    cases x with
    | good a => exact ⟨g, a, rfl, rfl, (Checked.good.inj h).symm⟩
    | bad cs => cases h
  | bad cs => cases x <;> cases h

/-- A list of values that each pass under their keys passes as a whole. -/
theorem all_map {check : α → Checked β} {write : β → α} (h : ∀ b, check (write b) = .good b)
    (xs : List (String × β)) : all check (xs.map fun x => (x.1, write x.2)) = .good xs := by
  induction xs with
  | nil => rfl
  | cons x rest ih =>
    rw [List.map_cons, all, ih, h]
    rfl

end Checked

namespace Json

theorem checkText_str (s : String) : (Json.str s).checkText = .good s := rfl

theorem checkOptionalText_ofOption (s : Option String) :
    (Json.ofOption s).checkOptionalText = .good s := by
  cases s <;> rfl

theorem checkAtLeast_int {least n : Int} (h : least ≤ n) :
    (Json.int n).checkAtLeast least = .good n := by
  have hnot : ¬ n < least := by omega
  change (if n < least then Checked.refuse .belowLeast else Checked.good n) = .good n
  rw [if_neg hnot]

theorem le_of_checkAtLeast {least n : Int} {j : Json} (h : j.checkAtLeast least = .good n) :
    least ≤ n := by
  unfold checkAtLeast Checked.andThen at h
  split at h
  · dsimp only at h
    split at h
    · cases h
    · rename_i hnot
      cases h
      omega
  · cases h

theorem numbered_map {α β : Type} (write : α → β) (xs : List α) :
    numbered (xs.map write) = (numbered xs).map fun x => (x.1, write x.2) := by
  unfold numbered
  rw [List.zipIdx_map, List.map_map, List.map_map]
  rfl

theorem map_numbered {α : Type} (xs : List α) : (numbered xs).map (·.2) = xs := by
  unfold numbered
  rw [List.map_map]
  exact List.zipIdx_map_fst 0 xs

theorem checkList_map {α : Type} {check : Json → Checked α} {write : α → Json}
    (h : ∀ a, check (write a) = .good a) (xs : List α) :
    checkList check (.arr (xs.map write)) = .good xs := by
  unfold checkList
  dsimp only
  rw [numbered_map, Checked.all_map h]
  exact congrArg Checked.good (map_numbered xs)

theorem checkObject_map {α : Type} {check : Json → Checked α} {write : α → Json}
    (h : ∀ a, check (write a) = .good a) (xs : List (String × α)) :
    checkObject check (.obj (xs.map fun x => (x.1, write x.2))) = .good xs :=
  Checked.all_map h xs

end Json

namespace Fields

variable {α : Type} {fs : Fields} {key : String} {j : Json} {check : Json → Checked α} {a : α}

theorem optional_good (hj : fs.lookup key = some j) (ha : check j = .good a) (default : α) :
    optional fs key default check = .good a := by
  unfold optional
  rw [hj]
  dsimp only
  rw [ha]
  rfl

theorem required_good (hj : fs.lookup key = some j) (ha : check j = .good a) :
    required fs key check = .good a := by
  unfold required
  rw [hj]
  dsimp only
  rw [ha]
  rfl

theorem text_good {s : String} (hj : fs.lookup key = some (.str s)) (default : String) :
    text fs key default = .good s :=
  optional_good hj (Json.checkText_str s) default

theorem optionalText_good {s : Option String} (hj : fs.lookup key = some (.ofOption s)) :
    optionalText fs key = .good s :=
  optional_good hj (Json.checkOptionalText_ofOption s) none

/-- A field that passes is at its default or has passed its check. -/
theorem optional_eq_good {default : α} (h : optional fs key default check = .good a) :
    a = default ∨ ∃ j, check j = .good a := by
  unfold optional at h
  split at h
  · exact Or.inl (Checked.good.inj h).symm
  · rename_i j _
    cases hcheck : check j with
    | good a' =>
      rw [hcheck] at h
      cases h
      exact Or.inr ⟨j, hcheck⟩
    | bad cs =>
      rw [hcheck] at h
      cases h

end Fields

/-! ## Bounds -/

/-- The numbers of a choice of keys are no less than one. No other data has bounds. -/
def NodeData.InBounds : NodeData → Prop
  | .dtmf d => 1 ≤ d.timeout ∧ 1 ≤ d.maxDigits
  | _ => True

theorem Fields.one_le_of_optional {fs : Fields} {key : String} {default n : Int}
    (hdefault : 1 ≤ default) (h : Fields.optional fs key default (Json.checkAtLeast 1) = .good n) :
    1 ≤ n := by
  rcases Fields.optional_eq_good h with rfl | ⟨j, hj⟩
  · exact hdefault
  · exact Json.le_of_checkAtLeast hj

theorem DtmfData.inBounds_of_check {fs : Fields} {d : DtmfData} (h : DtmfData.check fs = .good d) :
    1 ≤ d.timeout ∧ 1 ≤ d.maxDigits := by
  unfold DtmfData.check at h
  obtain ⟨_, branches, hfour, -, rfl⟩ := Checked.seq_eq_good h
  obtain ⟨_, maxDigits, hthree, hmax, rfl⟩ := Checked.seq_eq_good hfour
  obtain ⟨_, timeout, htwo, htimeout, rfl⟩ := Checked.seq_eq_good hthree
  obtain ⟨_, prompt, hone, -, rfl⟩ := Checked.seq_eq_good htwo
  obtain ⟨label, -, rfl⟩ := Checked.map_eq_good hone
  exact ⟨Fields.one_le_of_optional (by decide) htimeout,
    Fields.one_le_of_optional (by decide) hmax⟩

namespace NodeKind

variable {k : NodeKind} {fs : Fields} {d : NodeData}

theorem kind_of_checkData (h : k.checkData fs = .good d) : d.kind = k := by
  unfold checkData at h
  cases k <;> (obtain ⟨a, -, rfl⟩ := Checked.map_eq_good h; rfl)

theorem inBounds_of_checkData (h : k.checkData fs = .good d) : d.InBounds := by
  unfold checkData at h
  cases k with
  | dtmf =>
    obtain ⟨d, hd, rfl⟩ := Checked.map_eq_good h
    exact DtmfData.inBounds_of_check hd
  | _ =>
    obtain ⟨d, -, rfl⟩ := Checked.map_eq_good h
    trivial

end NodeKind

namespace NodeData

variable {room : Nat} {k : NodeKind} {j : Json} {d : NodeData}

theorem checkData_of_ofJson (h : ofJson room k j = .ok d) : ∃ fs, k.checkData fs = .good d := by
  unfold ofJson at h
  split at h
  · cases h
  · split at h
    · cases h
    · dsimp only at h
      split at h
      · cases h
      · split at h
        · cases h
        · split at h
          · cases h
          · split at h
            · split at h
              · rename_i hcheck
                cases h
                exact ⟨_, hcheck⟩
              · cases h
            · cases h

/-- Data that is read for a kind is of the kind. -/
theorem kind_of_ofJson (h : ofJson room k j = .ok d) : d.kind = k := by
  obtain ⟨fs, hfs⟩ := checkData_of_ofJson h
  exact NodeKind.kind_of_checkData hfs

/-- And it is within its bounds. -/
theorem inBounds_of_ofJson (h : ofJson room k j = .ok d) : d.InBounds := by
  obtain ⟨fs, hfs⟩ := checkData_of_ofJson h
  exact NodeKind.inBounds_of_checkData hfs

end NodeData

/-! ## Reading back -/

theorem KeyBranch.check_toJson (b : KeyBranch) : KeyBranch.check b.toJson = .good b := by
  unfold toJson check
  dsimp only
  rw [Fields.required_good rfl (Json.checkText_str b.key),
    Fields.required_good rfl (Json.checkText_str b.label), Fields.optionalText_good rfl]
  rfl

namespace NodeData

open Fields

variable {d : NodeData}

/-- The fields of data within its bounds pass the checks of its kind. -/
theorem checkData_fields (h : d.InBounds) : d.kind.checkData d.fields = .good d := by
  unfold kind fields
  cases d with
  | condition d =>
    unfold NodeKind.checkData ConditionData.check
    dsimp only
    rw [text_good rfl, text_good rfl, text_good rfl, text_good rfl, optionalText_good rfl,
      optionalText_good rfl]
    rfl
  | apiCall d =>
    unfold NodeKind.checkData ApiCallData.check
    dsimp only
    rw [text_good rfl, text_good rfl, text_good rfl,
      optional_good rfl (Json.checkObject_map Json.checkText_str d.headers), optionalText_good rfl]
    rfl
  | dtmf d =>
    unfold NodeKind.checkData DtmfData.check
    dsimp only
    rw [text_good rfl, text_good rfl, optional_good rfl (Json.checkAtLeast_int h.1),
      optional_good rfl (Json.checkAtLeast_int h.2),
      optional_good rfl (Json.checkList_map KeyBranch.check_toJson d.branches)]
    rfl
  | assistant d =>
    unfold NodeKind.checkData AssistantData.check
    dsimp only
    rw [text_good rfl, text_good rfl, text_good rfl, optionalText_good rfl]
    rfl
  | ticket desk d =>
    unfold NodeKind.checkData TicketData.check
    dsimp only
    rw [text_good rfl, text_good rfl, text_good rfl, text_good rfl, optionalText_good rfl,
      optionalText_good rfl]
    rfl
  | crm base d =>
    unfold NodeKind.checkData CrmData.check
    dsimp only
    rw [text_good rfl, text_good rfl, text_good rfl, optionalText_good rfl]
    rfl
  | _ => rfl

theorem map_fields (d : NodeData) : d.fields.map (·.1) = d.kind.fieldNames := by
  cases d <;> rfl

theorem copyDepth_ofOption (s : Option String) : (Json.ofOption s).copyDepth = 2 := by
  cases s <;> rfl

theorem itemsCopyDepth_map_le {α : Type} {write : α → Json} {most : Nat} (hpos : 1 ≤ most)
    (h : ∀ a, (write a).copyDepth ≤ most) (xs : List α) :
    Json.itemsCopyDepth (xs.map write) ≤ most := by
  induction xs with
  | nil => exact hpos
  | cons x rest ih => exact Nat.max_le.mpr ⟨h x, ih⟩

theorem fieldsCopyDepth_map_le {α : Type} {write : α → Json} {most : Nat} (hpos : 1 ≤ most)
    (h : ∀ a, (write a).copyDepth ≤ most) (xs : List (String × α)) :
    Json.fieldsCopyDepth (xs.map fun x => (x.1, write x.2)) ≤ most := by
  induction xs with
  | nil => exact hpos
  | cons x rest ih => exact Nat.max_le.mpr ⟨h x.2, ih⟩

/-- The data of a node is never nested deep. -/
theorem copyDepth_toJson_le (d : NodeData) : d.toJson.copyDepth ≤ 8 := by
  have hbranch : ∀ b : KeyBranch, b.toJson.copyDepth ≤ 4 := by
    intro b
    simp [KeyBranch.toJson, Json.copyDepth, Json.fieldsCopyDepth, copyDepth_ofOption]
  unfold toJson fields
  cases d with
  | dtmf d =>
    have hbranches := itemsCopyDepth_map_le (show 1 ≤ 4 by decide) hbranch d.branches
    simp only [Json.copyDepth, Json.fieldsCopyDepth]
    omega
  | apiCall d =>
    have hheaders : Json.fieldsCopyDepth (d.headers.map fun h => (h.1, .str h.2)) ≤ 2 :=
      fieldsCopyDepth_map_le (show 1 ≤ 2 by decide) (fun s => Nat.le_refl _) d.headers
    simp only [Json.copyDepth, Json.fieldsCopyDepth, copyDepth_ofOption]
    omega
  | _ => simp [Json.copyDepth, Json.fieldsCopyDepth, copyDepth_ofOption]

/-- Fields are read as some data if all of them are known, there is room for a copy, and they pass
the checks of the kind. -/
theorem ofJson_obj_eq_ok_iff {room : Nat} {k : NodeKind} {fs : Fields} :
    ofJson room k (.obj fs) = .ok d ↔ (∀ f ∈ fs, f.1 ∈ k.fieldNames) ∧
      (Json.obj fs).copyDepth + 1 ≤ room ∧ k.checkData fs = .good d := by
  have helements : (Json.obj fs).elements? = some (fs.map fun f => .str f.1) := rfl
  have hkeys : (fs.map fun f => Json.str f.1).any (fun n => !n.isKey) = false := by
    rw [List.any_map, List.any_eq_false]
    intro f _
    simp [Json.isKey]
  have hunknown : (fs.map fun f => Json.str f.1).filter (fun n =>
      !(n.str?.any k.fieldNames.contains)) =
        (fs.filter fun f => !k.fieldNames.contains f.1).map fun f => .str f.1 := List.filter_map
  have htexts : ((fs.filter fun f => !k.fieldNames.contains f.1).map fun f => Json.str f.1).any
      (fun n => n.str?.isNone) = false := by
    rw [List.any_map, List.any_eq_false]
    intro f _
    simp [Json.str?]
  unfold ofJson
  rw [helements]
  dsimp only
  rw [hkeys, if_neg Bool.false_ne_true, hunknown, htexts, if_neg Bool.false_ne_true]
  by_cases hknown : ∀ f ∈ fs, f.1 ∈ k.fieldNames
  · have hnone : (fs.filter fun f => !k.fieldNames.contains f.1) = [] := by
      rw [List.filter_eq_nil_iff]
      intro f hf
      simpa using hknown f hf
    rw [hnone, if_neg (by simp)]
    by_cases hroom : room < (Json.obj fs).copyDepth + 1
    · rw [if_pos hroom]
      constructor
      · nofun
      · rintro ⟨-, hfits, -⟩
        omega
    · rw [if_neg hroom]
      cases hcheck : k.checkData fs with
      | good d' =>
        dsimp only
        rw [Except.ok.injEq, Checked.good.injEq]
        exact ⟨fun h => ⟨hknown, Nat.le_of_not_lt hroom, h⟩, fun h => h.2.2⟩
      | bad complaints => exact ⟨nofun, nofun⟩
  · have hsome : (fs.filter fun f => !k.fieldNames.contains f.1) ≠ [] := by
      intro hnone
      rw [List.filter_eq_nil_iff] at hnone
      refine hknown fun f hf => ?_
      simpa using hnone f hf
    rw [if_pos (by simpa using hsome)]
    constructor
    · nofun
    · rintro ⟨hall, -⟩
      exact absurd hall hknown

/-- Data within its bounds reads back as it was written. -/
theorem ofJson_toJson (h : d.InBounds) {room : Nat} (hroom : 9 ≤ room) :
    ofJson room d.kind d.toJson = .ok d := by
  refine ofJson_obj_eq_ok_iff.mpr ⟨fun f hf => ?_, ?_, checkData_fields h⟩
  · rw [← map_fields]
    exact List.mem_map_of_mem hf
  · have hdepth := copyDepth_toJson_le d
    rw [toJson] at hdepth
    omega

end NodeData

end Dialogue
