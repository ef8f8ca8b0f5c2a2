-- The fields of a node's data. Each is read by itself, whatever the others hold, so that data is known
-- when it is known what each of its fields came from.
import Dialogue.Proofs.Data

namespace Dialogue

/-! ## Checks as options -/

namespace Checked

variable {α β : Type}

def toOption : Checked α → Option α
  | good a => some a
  | bad _ => none

theorem toOption_eq_some {x : Checked α} {a : α} : x.toOption = some a ↔ x = .good a := by
  cases x with
  | good b => simp [toOption]
  | bad cs => simp [toOption]

@[simp] theorem toOption_map (f : α → β) (x : Checked α) :
    (f <$> x).toOption = x.toOption.map f := by
  cases x <;> rfl

@[simp] theorem toOption_seq (f : Checked (α → β)) (x : Checked α) :
    (f <*> x).toOption = f.toOption.bind fun g => x.toOption.map g := by
  cases f <;> cases x <;> rfl

theorem toOption_under (key : String) (x : Checked α) : (x.under key).toOption = x.toOption := by
  cases x <;> rfl

end Checked

/-! ## Fields under their names -/

namespace Fields

variable {α : Type} {g : String × α → Option Json} {xs : List (String × α)} {fs gs : Fields}

/-- What an element gives is found under its name, if no name stands twice. -/
theorem lookup_mapM (hnodup : (xs.map (·.1)).Nodup)
    (h : xs.mapM (fun x => (g x).map (x.1, ·)) = some fs) :
    ∀ x ∈ xs, ∃ j, g x = some j ∧ fs.lookup x.1 = some j := by
  induction xs generalizing fs with
  | nil => nofun
  | cons y rest ih =>
    rw [List.map_cons, List.nodup_cons] at hnodup
    rw [List.mapM_cons] at h
    obtain ⟨f, hf, hrest⟩ := Option.bind_eq_some_iff.mp h
    obtain ⟨j, hj, rfl⟩ := Option.map_eq_some_iff.mp hf
    obtain ⟨gs, hgs, hfs⟩ := Option.bind_eq_some_iff.mp hrest
    cases hfs
    intro x hx
    rcases List.mem_cons.mp hx with rfl | hx
    · exact ⟨j, hj, List.lookup_cons_self⟩
    · obtain ⟨i, hi, hlookup⟩ := ih hnodup.2 hgs x hx
      have hother : (x.1 == y.1) = false := by
        rw [beq_eq_false_iff_ne]
        exact fun heq => hnodup.1 (heq ▸ List.mem_map_of_mem hx)
      refine ⟨i, hi, ?_⟩
      rw [List.lookup_cons, hother]
      exact hlookup

theorem exists_mapM (h : ∀ x ∈ xs, ∃ j, g x = some j) :
    ∃ fs, xs.mapM (fun x => (g x).map (x.1, ·)) = some fs := by
  induction xs with
  | nil => exact ⟨[], rfl⟩
  | cons y rest ih =>
    obtain ⟨j, hj⟩ := h y List.mem_cons_self
    obtain ⟨fs, hfs⟩ := ih fun x hx => h x (List.mem_cons_of_mem y hx)
    refine ⟨(y.1, j) :: fs, ?_⟩
    rw [List.mapM_cons, hj, hfs]
    rfl

/-- Fields with the same names in the same order are the same if the same stands under each. -/
theorem ext_lookup (hnames : fs.map (·.1) = gs.map (·.1)) (hnodup : (fs.map (·.1)).Nodup)
    (h : ∀ name ∈ fs.map (·.1), fs.lookup name = gs.lookup name) : fs = gs := by
  induction fs generalizing gs with
  | nil => exact (List.map_eq_nil_iff.mp hnames.symm).symm
  | cons f rest ih =>
    obtain ⟨name, j⟩ := f
    obtain ⟨⟨name', j'⟩, rest', rfl, hname, hothers⟩ := List.map_eq_cons_iff.mp hnames.symm
    obtain rfl : name' = name := hname
    rw [List.map_cons, List.nodup_cons] at hnodup
    have hvalue := h name' List.mem_cons_self
    rw [List.lookup_cons_self, List.lookup_cons_self] at hvalue
    obtain rfl := Option.some.inj hvalue
    have hrest : ∀ n ∈ rest.map (·.1), rest.lookup n = rest'.lookup n := by
      intro n hn
      have hother : (n == name') = false := by
        rw [beq_eq_false_iff_ne]
        exact fun heq => hnodup.1 (heq ▸ hn)
      have hboth := h n (List.mem_cons_of_mem name' hn)
      rw [List.lookup_cons, List.lookup_cons, hother] at hboth
      exact hboth
    rw [ih hothers.symm hnodup.2 hrest]

end Fields

/-! ## Sorts of fields -/

/-- A value that may be missing, as it is read where there is a default for it. -/
def Json.readOr {α : Type} (default : α) (check : Json → Checked α) : Option Json → Option α
  | none => some default
  | some j => (check j).toOption

@[simp] theorem Fields.toOption_optional {α : Type} (fs : Fields) (key : String) (default : α)
    (check : Json → Checked α) :
    (Fields.optional fs key default check).toOption = Json.readOr default check (fs.lookup key) := by
  unfold optional
  split
  · rename_i hnone
    rw [hnone]
    rfl
  · rename_i j hsome
    rw [hsome]
    exact Checked.toOption_under key (check j)

/-- What a field of node data can hold. -/
inductive FieldSort where
  | text (default : String)
  | optionalText
  | count (default : Int)
  | headers
  | branches

/-- What is written for a field once it is read. -/
def FieldSort.settle : FieldSort → Option Json → Option Json
  | text default, j => (Json.readOr default Json.checkText j).map .str
  | optionalText, j => (Json.readOr none Json.checkOptionalText j).map .ofOption
  | count default, j => (Json.readOr default (Json.checkAtLeast 1) j).map .int
  | headers, j =>
    (Json.readOr [] (Json.checkObject Json.checkText) j).map fun hs =>
      .obj (hs.map fun h => (h.1, .str h.2))
  | branches, j =>
    (Json.readOr [] (Json.checkList KeyBranch.check) j).map fun bs =>
      .arr (bs.map KeyBranch.toJson)

namespace NodeKind

/-- The fields of a kind of node, in order, each with what it can hold. -/
def schema : NodeKind → List (String × FieldSort)
  | start | finish => [("label", .text "")]
  | message => [("label", .text ""), ("content", .text "")]
  | condition =>
    [("label", .text ""), ("variable", .text ""), ("operator", .text "equals"),
      ("value", .text ""), ("yes_connection", .optionalText), ("no_connection", .optionalText)]
  | apiCall =>
    [("label", .text ""), ("method", .text "GET"), ("url", .text ""), ("headers", .headers),
      ("body", .optionalText)]
  | dtmf =>
    [("label", .text ""), ("prompt", .text ""), ("timeout", .count 10), ("max_digits", .count 1),
      ("branches", .branches)]
  | assistant =>
    [("label", .text ""), ("persona_id", .text ""), ("persona_name", .text ""),
      ("handoff_condition", .optionalText)]
  | transfer => [("label", .text ""), ("transfer_to", .text "")]
  | channel _ =>
    [("label", .text ""), ("recipient_id", .text ""), ("message_template", .text ""),
      ("channel", .text "")]
  | ticket _ =>
    [("label", .text ""), ("action", .text "create"), ("subject", .text ""),
      ("priority", .text "medium"), ("assignee", .optionalText), ("tags", .optionalText)]
  | crm _ =>
    [("label", .text ""), ("action", .text "create_contact"), ("object_type", .text "contact"),
      ("field_mapping", .optionalText)]

theorem map_schema (k : NodeKind) : k.schema.map (·.1) = k.fieldNames := by
  cases k <;> rfl

theorem fieldNames_nodup (k : NodeKind) : k.fieldNames.Nodup := by
  rw [← map_schema]
  cases k <;> simp [schema]

/-- What is read of some fields, written again, is what each field is settled to. -/
theorem toOption_checkData (k : NodeKind) (fs : Fields) :
    (k.checkData fs).toOption.map NodeData.fields =
      k.schema.mapM fun x => (x.2.settle (fs.lookup x.1)).map (x.1, ·) := by
  cases k <;>
    simp [checkData, PlainData.check, MessageData.check, ConditionData.check, ApiCallData.check,
      DtmfData.check, AssistantData.check, TransferData.check, ChannelData.check, TicketData.check,
      CrmData.check, Fields.text, Fields.optionalText, schema, FieldSort.settle, NodeData.fields,
      Option.map_eq_bind, Option.bind_assoc, Function.comp_def]

variable {k : NodeKind} {fs : Fields}

theorem lookup_checkData {d : NodeData} (h : k.checkData fs = .good d) {x : String × FieldSort}
    (hx : x ∈ k.schema) : ∃ j, x.2.settle (fs.lookup x.1) = some j ∧ d.fields.lookup x.1 = some j := by
  have hfields := toOption_checkData k fs
  rw [h] at hfields
  have hnodup : (k.schema.map (·.1)).Nodup := by
    rw [map_schema]
    exact fieldNames_nodup k
  exact Fields.lookup_mapM hnodup hfields.symm x hx

theorem exists_checkData (h : ∀ x ∈ k.schema, ∃ j, x.2.settle (fs.lookup x.1) = some j) :
    ∃ d, k.checkData fs = .good d := by
  obtain ⟨gs, hgs⟩ := Fields.exists_mapM h
  have hfields := toOption_checkData k fs
  rw [hgs] at hfields
  obtain ⟨d, hd, -⟩ := Option.map_eq_some_iff.mp hfields
  exact ⟨d, Checked.toOption_eq_some.mp hd⟩

end NodeKind

namespace NodeData

variable {d d' : NodeData}

/-- Data is known by its kind and by what it holds under each name. -/
theorem ext_fields (h : d.InBounds) (h' : d'.InBounds) (hkind : d'.kind = d.kind)
    (hlookup : ∀ x ∈ d.kind.schema, d'.fields.lookup x.1 = d.fields.lookup x.1) : d' = d := by
  have hfields : d'.fields = d.fields := by
    refine Fields.ext_lookup ?_ ?_ ?_
    · rw [map_fields, map_fields, hkind]
    · rw [map_fields]
      exact NodeKind.fieldNames_nodup d'.kind
    · rw [map_fields, hkind, ← NodeKind.map_schema]
      intro name hname
      obtain ⟨x, hx, rfl⟩ := List.mem_map.mp hname
      exact hlookup x hx
  have hcheck := checkData_fields h'
  rw [hkind, hfields, checkData_fields h] at hcheck
  exact (Checked.good.inj hcheck).symm

end NodeData

/-- Some fields are read as some data just if each of them, or its default, is what the data holds
under its name. -/
theorem NodeKind.checkData_eq_good_iff {k : NodeKind} {fs : Fields} {d : NodeData} :
    k.checkData fs = .good d ↔ d.kind = k ∧ d.InBounds ∧ ∀ x ∈ k.schema,
      ∃ j, x.2.settle (fs.lookup x.1) = some j ∧ d.fields.lookup x.1 = some j := by
  constructor
  · intro h
    exact ⟨kind_of_checkData h, inBounds_of_checkData h, fun _ => lookup_checkData h⟩
  · rintro ⟨rfl, hbounds, hlookup⟩
    obtain ⟨d', hd'⟩ := exists_checkData fun x hx =>
      let ⟨j, hj, _⟩ := hlookup x hx
      ⟨j, hj⟩
    have hsame : d' = d := by
      refine NodeData.ext_fields hbounds (inBounds_of_checkData hd') (kind_of_checkData hd') ?_
      intro x hx
      obtain ⟨j, hj, hd⟩ := hlookup x hx
      obtain ⟨j', hj', hd'⟩ := lookup_checkData hd' hx
      rw [hd, hd', ← hj, hj']
    rw [hd', hsame]

/-! ## Writing what was read -/

namespace NodeData

/-- What is read of some fields is written with every field of its kind, each once, and reads back
as it is. Nothing else is among the fields it was read from. -/
theorem what_is_read_reads_back {depth : Nat} {k : NodeKind} {fs : Fields} {d : NodeData}
    (h : ofJson depth k (.obj fs) = .ok d) :
    (∀ room : Room, ofJson room.steps k d.toJson = .ok d) ∧
      (∃ gs, d.toJson = .obj gs ∧ gs.map (·.1) = k.schema.map (·.1)) ∧
      (k.schema.map (·.1)).Nodup ∧ ∀ f ∈ fs, f.1 ∈ k.schema.map (·.1) := by
  have hkind : d.kind = k := kind_of_ofJson h
  obtain ⟨hknown, -, -⟩ := ofJson_obj_eq_ok_iff.mp h
  rw [NodeKind.map_schema]
  refine ⟨fun room => ?_, ⟨d.fields, rfl, ?_⟩, k.fieldNames_nodup, hknown⟩
  · have hwide : 9 ≤ room.steps := Nat.le_trans (by decide) room.isWide
    have hback := ofJson_toJson (inBounds_of_ofJson h) hwide
    rwa [hkind] at hback
  · rw [map_fields, hkind]

/-- A choice of keys as it may come in: with its fields in another order and some of them left out,
one number as a text and the other as a truth value. -/
def looseKeys : Fields :=
  [("max_digits", .bool true), ("timeout", .str " 07.0 "), ("prompt", .str "Press a key"),
    ("branches", .arr [.obj [("label", .str "Sales"), ("key", .str "1")]])]

theorem loose_keys_read_back :
    ∃ d, ofJson 100 .dtmf (.obj looseKeys) = .ok d ∧
      d = .dtmf ⟨"", "Press a key", 7, 1, [⟨"1", "Sales", none⟩]⟩ ∧
      (∀ room : Room, ofJson room.steps .dtmf d.toJson = .ok d) ∧
      (∃ gs, d.toJson = .obj gs ∧ gs.map (·.1) = NodeKind.dtmf.schema.map (·.1)) ∧
      (NodeKind.dtmf.schema.map (·.1)).Nodup ∧
      ∀ f ∈ looseKeys, f.1 ∈ NodeKind.dtmf.schema.map (·.1) := by
  have hread : ofJson 100 .dtmf (.obj looseKeys) =
      .ok (.dtmf ⟨"", "Press a key", 7, 1, [⟨"1", "Sales", none⟩]⟩) := by
    refine ofJson_obj_eq_ok_iff.mpr ⟨by decide +kernel, by decide +kernel, ?_⟩
    exact Checked.toOption_eq_some.mp (by decide +kernel)
  exact ⟨_, hread, rfl, what_is_read_reads_back hread⟩

end NodeData

end Dialogue
