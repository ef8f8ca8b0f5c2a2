-- Partial updates of a node's data. An update touches the fields that it names and no others, so that
-- two updates without a common field may come in either order or at once.
import Dialogue.Proofs.Removal
import Dialogue.Proofs.Shapes

namespace Dialogue

open Json

/-! ## Fields that are set over others -/

namespace Fields

variable {α : Type} {fs c p q : List (String × α)} {key : String} {a : α}

/-- What is given for a name. Of two values under one name the last counts. -/
def given : List (String × α) → String → Option α
  | [], _ => none
  | (name, a) :: rest, key => (given rest key).or (if key == name then some a else none)

theorem given_eq_none (h : key ∉ c.map (·.1)) : given c key = none := by
  induction c with
  | nil => rfl
  | cons f rest ih =>
    rw [List.map_cons, List.mem_cons, not_or] at h
    rw [given, ih h.2, if_neg (by simpa using h.1)]
    rfl

theorem given_append (p q : List (String × α)) (key : String) :
    given (p ++ q) key = (given q key).or (given p key) := by
  induction p with
  | nil => exact (Option.or_none).symm
  | cons f rest ih => rw [List.cons_append, given, ih, given, Option.or_assoc]

theorem lookup_put (fs : List (String × α)) (name : String) (a : α) (key : String) :
    (put fs name a).lookup key = if key == name then some a else fs.lookup key := by
  induction fs with
  | nil =>
    rw [put, List.lookup_cons]
    cases key == name <;> rfl
  | cons f rest ih =>
    rw [put, List.lookup_cons]
    by_cases hname : f.1 = name
    · rw [if_pos (beq_iff_eq.mpr hname), List.lookup_cons, hname]
      cases key == name <;> rfl
    · rw [if_neg (mt beq_iff_eq.mp hname), List.lookup_cons, ih]
      by_cases hkey : key = f.1
      · have hother : ¬ (key == name) = true := by simpa [hkey] using hname
        rw [beq_iff_eq.mpr hkey, if_neg hother, if_neg hother]
      · rw [beq_eq_false_iff_ne.mpr hkey]

theorem names_put (fs : List (String × α)) (name : String) (a : α) :
    (put fs name a).map (·.1) = fs.map (·.1) ∨
      name ∉ fs.map (·.1) ∧ (put fs name a).map (·.1) = fs.map (·.1) ++ [name] := by
  induction fs with
  | nil => exact .inr ⟨nofun, rfl⟩
  | cons f rest ih =>
    rw [put]
    by_cases hname : f.1 = name
    · rw [if_pos (beq_iff_eq.mpr hname), ← hname]
      exact .inl rfl
    · rw [if_neg (mt beq_iff_eq.mp hname)]
      rcases ih with hsame | ⟨hnew, hmore⟩
      · exact .inl (congrArg (f.1 :: ·) hsame)
      · refine .inr ⟨?_, congrArg (f.1 :: ·) hmore⟩
        rw [List.map_cons, List.mem_cons, not_or]
        exact ⟨Ne.symm hname, hnew⟩

theorem names_nodup_merge (h : (fs.map (·.1)).Nodup) : ((merge fs c).map (·.1)).Nodup := by
  induction c generalizing fs with
  | nil => exact h
  | cons f rest ih =>
    have hnext : merge fs (f :: rest) = merge (put fs f.1 f.2) rest := rfl
    rw [hnext]
    apply ih
    rcases names_put fs f.1 f.2 with hsame | ⟨hnew, hmore⟩
    · rwa [hsame]
    · rw [hmore, ← List.concat_eq_append]
      exact h.concat hnew

theorem lookup_of_mem (h : (fs.map (·.1)).Nodup) {f : String × α} (hf : f ∈ fs) :
    fs.lookup f.1 = some f.2 := by
  induction fs with
  | nil => cases hf
  | cons g rest ih =>
    rw [List.map_cons, List.nodup_cons] at h
    rw [List.lookup_cons]
    rcases List.mem_cons.mp hf with rfl | hf
    · rw [beq_self_eq_true]
    · have hother : (f.1 == g.1) = false := by
        rw [beq_eq_false_iff_ne]
        exact fun heq => h.1 (heq ▸ List.mem_map_of_mem hf)
      rw [hother]
      exact ih h.2 hf

theorem mem_of_lookup (h : fs.lookup key = some a) : (key, a) ∈ fs := by
  obtain ⟨before, after, rfl, -⟩ := List.lookup_eq_some_iff.mp h
  exact List.mem_append_right before List.mem_cons_self

theorem lookup_merge (fs c : List (String × α)) (key : String) :
    (merge fs c).lookup key = (given c key).or (fs.lookup key) := by
  induction c generalizing fs with
  | nil => rfl
  | cons f rest ih =>
    have hnext : merge fs (f :: rest) = merge (put fs f.1 f.2) rest := rfl
    rw [hnext, ih, lookup_put, given, Option.or_assoc]
    split <;> rfl

/-- What holds of each field that is there and of each that is given holds of all of them together. -/
theorem forall_mem_merge {P : String × α → Prop} (hnodup : (fs.map (·.1)).Nodup)
    (h : ∀ f ∈ fs, P f) :
    (∀ f ∈ merge fs c, P f) ↔ ∀ key a, given c key = some a → P (key, a) := by
  constructor
  · intro hall key a ha
    have hlookup := lookup_merge fs c key
    rw [ha, Option.some_or] at hlookup
    exact hall _ (mem_of_lookup hlookup)
  · intro hgiven f hf
    have hlookup := lookup_of_mem (names_nodup_merge hnodup) hf
    rw [lookup_merge, Option.or_eq_some_iff] at hlookup
    rcases hlookup with ha | ⟨-, ha⟩
    · exact hgiven f.1 f.2 ha
    · exact h f (mem_of_lookup ha)

/-- A new name comes after those that are there. -/
theorem put_append {name : String} (h : name ∉ p.map (·.1)) (fs : List (String × α)) (a : α) :
    put (p ++ fs) name a = p ++ put fs name a := by
  induction p with
  | nil => rfl
  | cons f rest ih =>
    rw [List.map_cons, List.mem_cons, not_or] at h
    rw [List.cons_append, put, if_neg (by simpa using Ne.symm h.1), ih h.2]
    rfl

theorem merge_append (h : (p.map (·.1)).Disjoint (q.map (·.1))) (fs : List (String × α)) :
    merge (p ++ fs) q = p ++ merge fs q := by
  induction q generalizing fs with
  | nil => rfl
  | cons f rest ih =>
    rw [List.map_cons, List.disjoint_cons_right] at h
    have hnext : merge (p ++ fs) (f :: rest) = merge (put (p ++ fs) f.1 f.2) rest := rfl
    rw [hnext, put_append h.1, ih h.2]
    rfl

theorem given_eq_lookup (h : (fs.map (·.1)).Nodup) (key : String) :
    given fs key = fs.lookup key := by
  induction fs with
  | nil => rfl
  | cons f rest ih =>
    rw [List.map_cons, List.nodup_cons] at h
    rw [given, ih h.2, List.lookup_cons]
    by_cases hkey : key = f.1
    · rw [beq_iff_eq.mpr hkey, ← ih h.2, hkey, given_eq_none h.1]
      rfl
    · rw [beq_eq_false_iff_ne.mpr hkey]
      exact Option.or_none

/-- What two sets of fields without a common name give together. -/
theorem given_merge (h : (p.map (·.1)).Disjoint (q.map (·.1))) (key : String) :
    given (merge p q) key = (given q key).or (given p key) := by
  have hmerge : merge p q = p ++ merge [] q := by
    have hall := merge_append h []
    rwa [List.append_nil] at hall
  have hnodup : ((merge [] q).map (·.1)).Nodup := names_nodup_merge List.nodup_nil
  rw [hmerge, given_append, given_eq_lookup hnodup, lookup_merge]
  exact congrArg (Option.or · _) Option.or_none

/-- Of two sets of fields without a common name at most one gives something for a name. -/
theorem given_of_disjoint (h : (p.map (·.1)).Disjoint (q.map (·.1))) (key : String) :
    given p key = none ∨ given q key = none := by
  by_cases hp : key ∈ p.map (·.1)
  · exact .inr (given_eq_none fun hq => h hp hq)
  · exact .inl (given_eq_none hp)

theorem given_merge_left (h : (p.map (·.1)).Disjoint (q.map (·.1))) (ha : given p key = some a) :
    given (merge p q) key = some a := by
  rcases given_of_disjoint h key with hp | hq
  · cases hp.symm.trans ha
  · rw [given_merge h, hq, ha, Option.none_or]

theorem given_merge_right (h : (p.map (·.1)).Disjoint (q.map (·.1))) (ha : given q key = some a) :
    given (merge p q) key = some a := by
  rw [given_merge h, ha, Option.some_or]

end Fields

/-! ## Data that takes some fields -/

theorem Json.fieldsCopyDepth_le_iff {fs : Fields} {most : Nat} :
    fieldsCopyDepth fs ≤ most ↔ 1 ≤ most ∧ ∀ f ∈ fs, f.2.copyDepth ≤ most := by
  induction fs with
  | nil => simp [fieldsCopyDepth]
  | cons f rest ih =>
    rw [fieldsCopyDepth, Nat.max_le, ih, List.forall_mem_cons]
    exact and_left_comm

namespace NodeData

variable {room : Room} {d d' : NodeData} {c p q : Fields}

/-- The data becomes the other when it takes the fields: what is given is known, is not too deep and is
read as it is given, and any other field stays as it is. -/
structure Takes (room : Room) (d : NodeData) (c : Fields) (d' : NodeData) : Prop where
  kind : d'.kind = d.kind
  inBounds : d'.InBounds
  fits : ∀ key j, Fields.given c key = some j →
    key ∈ d.kind.fieldNames ∧ j.copyDepth + 4 ≤ room.steps
  fields : ∀ x ∈ d.kind.schema, d'.fields.lookup x.1 =
    (Fields.given c x.1).elim (d.fields.lookup x.1) (x.2.settle ∘ some)

/-- What the data holds for a field reads back as itself. -/
theorem settle_lookup (h : d.InBounds) {x : String × FieldSort} (hx : x ∈ d.kind.schema) :
    ∃ j, d.fields.lookup x.1 = some j ∧ x.2.settle (some j) = some j := by
  obtain ⟨j, hsettle, hlookup⟩ := NodeKind.lookup_checkData (checkData_fields h) hx
  rw [hlookup] at hsettle
  exact ⟨j, hlookup, hsettle⟩

theorem names_nodup (d : NodeData) : (d.fields.map (·.1)).Nodup := by
  rw [map_fields]
  exact NodeKind.fieldNames_nodup d.kind

theorem fits_merge_iff (d : NodeData) (room : Room) (c : Fields) :
    ((∀ f ∈ Fields.merge d.fields c, f.1 ∈ d.kind.fieldNames) ∧
      (Json.obj (Fields.merge d.fields c)).copyDepth + 1 ≤ room.steps - 1) ↔
    ∀ key j, Fields.given c key = some j →
      key ∈ d.kind.fieldNames ∧ j.copyDepth + 4 ≤ room.steps := by
  have hwide := room.isWide
  have hdata : ∀ f ∈ d.fields, f.1 ∈ d.kind.fieldNames ∧ f.2.copyDepth + 4 ≤ room.steps := by
    intro f hf
    have hdepth : Json.fieldsCopyDepth d.fields ≤ 6 := Nat.le_of_add_le_add_right d.copyDepth_toJson_le
    have hfield := (Json.fieldsCopyDepth_le_iff.mp hdepth).2 f hf
    refine ⟨?_, by omega⟩
    rw [← map_fields]
    exact List.mem_map_of_mem hf
  have hdepth : (Json.obj (Fields.merge d.fields c)).copyDepth + 1 ≤ room.steps - 1 ↔
      ∀ f ∈ Fields.merge d.fields c, f.2.copyDepth + 4 ≤ room.steps := by
    have hmost : (Json.obj (Fields.merge d.fields c)).copyDepth + 1 ≤ room.steps - 1 ↔
        Json.fieldsCopyDepth (Fields.merge d.fields c) ≤ room.steps - 4 := by
      rw [Json.copyDepth]
      omega
    have hfield : ∀ j : Json, j.copyDepth ≤ room.steps - 4 ↔ j.copyDepth + 4 ≤ room.steps := by
      intro j
      omega
    rw [hmost, Json.fieldsCopyDepth_le_iff, and_iff_right (by omega)]
    simp only [hfield]
  rw [hdepth, ← Fields.forall_mem_merge (P := fun f => f.1 ∈ d.kind.fieldNames ∧
    f.2.copyDepth + 4 ≤ room.steps) d.names_nodup hdata]
  exact forall₂_and.symm

/-- The data that is read when some fields are set over the others. -/
theorem takes_iff (h : d.InBounds) :
    ofJson (room.steps - 1) d.kind (.obj (Fields.merge d.fields c)) = .ok d' ↔
      d.Takes room c d' := by
  have hfields : d'.kind = d.kind → d'.InBounds → ∀ x ∈ d.kind.schema,
      ((∃ j, x.2.settle ((Fields.merge d.fields c).lookup x.1) = some j ∧
        d'.fields.lookup x.1 = some j) ↔
      d'.fields.lookup x.1 =
        (Fields.given c x.1).elim (d.fields.lookup x.1) (x.2.settle ∘ some)) := by
    intro hkind hbounds x hx
    obtain ⟨j, hj, hsettle⟩ := settle_lookup h hx
    obtain ⟨j', hj', -⟩ := settle_lookup hbounds (hkind ▸ hx)
    rw [Fields.lookup_merge, hj, hj']
    cases Fields.given c x.1 with
    | none => simp [hsettle]
    | some i => simp [eq_comm]
  rw [ofJson_obj_eq_ok_iff, NodeKind.checkData_eq_good_iff, ← and_assoc, fits_merge_iff]
  constructor
  · rintro ⟨hfits, hkind, hbounds, hall⟩
    exact ⟨hkind, hbounds, hfits, fun x hx => (hfields hkind hbounds x hx).mp (hall x hx)⟩
  · rintro ⟨hkind, hbounds, hfits, hall⟩
    exact ⟨hfits, hkind, hbounds, fun x hx => (hfields hkind hbounds x hx).mpr (hall x hx)⟩

/-- What fields make of the data hangs on nothing but what they give. -/
theorem Takes.congr (h : d.Takes room p d') (hgiven : ∀ key, Fields.given q key = Fields.given p key) :
    d.Takes room q d' where
  kind := h.kind
  inBounds := h.inBounds
  fits key j hj := h.fits key j (hgiven key ▸ hj)
  fields x hx := hgiven x.1 ▸ h.fields x hx

theorem exists_takes (h : d.InBounds)
    (hfits : ∀ key j, Fields.given c key = some j →
      key ∈ d.kind.fieldNames ∧ j.copyDepth + 4 ≤ room.steps)
    (hsettle : ∀ x ∈ d.kind.schema, ∀ j, Fields.given c x.1 = some j →
      ∃ i, x.2.settle (some j) = some i) : ∃ d', d.Takes room c d' := by
  have hcheck : ∃ d', d.kind.checkData (Fields.merge d.fields c) = .good d' := by
    refine NodeKind.exists_checkData fun x hx => ?_
    rw [Fields.lookup_merge]
    cases hgiven : Fields.given c x.1 with
    | none =>
      obtain ⟨j, hj, hstays⟩ := settle_lookup h hx
      exact ⟨j, hj ▸ hstays⟩
    | some j => exact hsettle x hx j hgiven
  obtain ⟨d', hd'⟩ := hcheck
  obtain ⟨hknown, hdepth⟩ := (fits_merge_iff d room c).mpr hfits
  exact ⟨d', (takes_iff h).mp (ofJson_obj_eq_ok_iff.mpr ⟨hknown, hdepth, hd'⟩)⟩

/-- What takes some fields and then others has taken all of them. -/
theorem Takes.merge {d₁ : NodeData} (h₁ : d.Takes room p d₁) (h₂ : d₁.Takes room q d')
    (hpq : (p.map (·.1)).Disjoint (q.map (·.1))) : d.Takes room (Fields.merge p q) d' where
  kind := h₂.kind.trans h₁.kind
  inBounds := h₂.inBounds
  fits := by
    intro key j hj
    rw [Fields.given_merge hpq, Option.or_eq_some_iff] at hj
    rcases hj with hq | ⟨-, hp⟩
    · rw [← h₁.kind]
      exact h₂.fits key j hq
    · exact h₁.fits key j hp
  fields := by
    intro x hx
    rw [h₂.fields x (h₁.kind ▸ hx), h₁.fields x hx, Fields.given_merge hpq]
    cases Fields.given q x.1 with
    | none => rfl
    | some j => rfl

/-- What takes all of the fields can take some of them, and then the others. -/
theorem Takes.split (hboth : d.Takes room (Fields.merge p q) d') (h : d.InBounds)
    (hpq : (p.map (·.1)).Disjoint (q.map (·.1))) :
    ∃ d₁, d.Takes room p d₁ ∧ d₁.Takes room q d' := by
  obtain ⟨d₁, hd₁⟩ : ∃ d₁, d.Takes room p d₁ := by
    apply exists_takes h
    · intro key j hj
      exact hboth.fits key j (Fields.given_merge_left hpq hj)
    · intro x hx j hj
      have hread := hboth.fields x hx
      rw [Fields.given_merge_left hpq hj] at hread
      obtain ⟨i, hi, -⟩ := settle_lookup hboth.inBounds (hboth.kind ▸ hx)
      exact ⟨i, hread.symm.trans hi⟩
  refine ⟨d₁, hd₁, hboth.kind.trans hd₁.kind.symm, hboth.inBounds, ?_, ?_⟩
  · intro key j hj
    rw [hd₁.kind]
    exact hboth.fits key j (Fields.given_merge_right hpq hj)
  · intro x hx
    rw [hd₁.kind] at hx
    rw [hboth.fields x hx, hd₁.fields x hx, Fields.given_merge hpq]
    cases Fields.given q x.1 with
    | none => rfl
    | some j => rfl

/-- The order in which fields are given makes no difference. -/
theorem takes_merge_comm (hpq : (p.map (·.1)).Disjoint (q.map (·.1)))
    (h : d.Takes room (Fields.merge p q) d') : d.Takes room (Fields.merge q p) d' := by
  refine h.congr fun key => ?_
  rw [Fields.given_merge hpq, Fields.given_merge (List.disjoint_symm hpq)]
  rcases Fields.given_of_disjoint hpq key with hp | hq
  · rw [hp, Option.or_none, Option.none_or]
  · rw [hq, Option.or_none, Option.none_or]

/-- A name that is not given keeps what stands under it, be it a field or not. -/
theorem Takes.lookup_eq (h : d.Takes room c d') {key : String} (hkey : key ∉ c.map (·.1)) :
    d'.fields.lookup key = d.fields.lookup key := by
  by_cases hname : key ∈ d.kind.fieldNames
  · rw [← NodeKind.map_schema] at hname
    obtain ⟨x, hx, rfl⟩ := List.mem_map.mp hname
    rw [h.fields x hx, Fields.given_eq_none hkey]
    rfl
  · have hmissing : ∀ a : NodeData, a.kind = d.kind → a.fields.lookup key = none := by
      intro a ha
      rw [← ha, ← map_fields] at hname
      rw [List.lookup_eq_none_iff]
      intro f hf
      rw [bne_iff_ne]
      exact fun heq => hname (heq ▸ List.mem_map_of_mem hf)
    rw [hmissing d' h.kind, hmissing d rfl]

theorem Takes.eq_of_nil (h : d.Takes room [] d') (hbounds : d.InBounds) : d' = d :=
  ext_fields hbounds h.inBounds h.kind fun _ _ => h.lookup_eq List.not_mem_nil

end NodeData

/-! ## The editor -/

section

variable {α : Type} {p : α → Bool} {f : α → α}

/-- A change that leaves the test as it is finds the same element again. -/
theorem modifyFirst_modifyFirst (h : ∀ a, p (f a) = p a) (g : α → α) (xs : List α) :
    modifyFirst p g (modifyFirst p f xs) = modifyFirst p (g ∘ f) xs := by
  induction xs with
  | nil => rfl
  | cons x rest ih =>
    cases hx : p x with
    | true => simp [modifyFirst, hx, h]
    | false => simp [modifyFirst, hx, ih]

theorem find?_modifyFirst (h : ∀ a, p (f a) = p a) (xs : List α) :
    (modifyFirst p f xs).find? p = (xs.find? p).map f := by
  induction xs with
  | nil => rfl
  | cons x rest ih =>
    cases hx : p x with
    | true => simp [modifyFirst, hx, h]
    | false => simp [modifyFirst, hx, ih]

end

namespace Editor

variable {e e' : Editor} {n : Node} {id : Json} {room : Room} {nextId : Nat} {c p q : Fields}

/-- The editor with other data for the node that the id finds. -/
def withData (e : Editor) (n : Node) (id : Json) (data : NodeData) : Editor :=
  { e.change (e.flow.modifyNode id fun m => { m with data }) with
    selected := if e.hasSelected id then some { n with data } else e.selected }

/-- The editor after a partial update of the data of a node, if it is done. -/
def update? (room : Room) (nextId : Nat) (id : Json) (e : Editor) (c : Fields) : Option Editor :=
  (e.updateData room.steps nextId id (.obj c)).done?

theorem node?_withData (hn : e.flow.node? id = some n) (data : NodeData) :
    (e.withData n id data).flow.node? id = some { n with data } := by
  have hfound : (e.withData n id data).flow.node? id =
      (e.flow.node? id).map fun m => { m with data } :=
    find?_modifyFirst (p := fun m : Node => m.id.equals id) (f := fun m => { m with data })
      (fun _ => rfl) e.flow.nodes
  rw [hfound, hn]
  rfl

theorem hasSelected_withData (hn : e.flow.node? id = some n) (data : NodeData) :
    (e.withData n id data).hasSelected id = e.hasSelected id := by
  have hequal : n.id.equals id = true := List.find?_some (p := fun m : Node => m.id.equals id) hn
  have hsame : n.id.same id = true := by
    by_contra hother
    rw [Json.not_equals_of_not_same (Bool.eq_false_iff.mpr hother)] at hequal
    cases hequal
  cases hselected : e.hasSelected id with
  | true =>
    unfold withData
    rw [hselected]
    exact hsame
  | false =>
    unfold withData
    rw [hselected]
    exact hselected

/-- Of two changes of the data the second counts. -/
theorem withData_withData (hn : e.flow.node? id = some n) (first second : NodeData) :
    (e.withData n id first).withData { n with data := first } id second =
      e.withData n id second := by
  have hflow : ((e.withData n id first).withData { n with data := first } id second).flow =
      (e.withData n id second).flow := by
    have hnodes := modifyFirst_modifyFirst (p := fun m : Node => m.id.equals id)
      (f := fun m => { m with data := first }) (fun _ => rfl) (fun m => { m with data := second })
      e.flow.nodes
    exact congrArg (fun nodes => { e.flow with nodes, status := .draft }) hnodes
  have hselected : ((e.withData n id first).withData { n with data := first } id second).selected =
      (e.withData n id second).selected := by
    have hset : ∀ (e : Editor) (n : Node) (data : NodeData), (e.withData n id data).selected =
        if e.hasSelected id then some { n with data } else e.selected := fun _ _ _ => rfl
    rw [hset, hset, hset, hasSelected_withData hn]
    cases e.hasSelected id <;> rfl
  calc (e.withData n id first).withData { n with data := first } id second
    _ = ⟨((e.withData n id first).withData { n with data := first } id second).flow,
          ((e.withData n id first).withData { n with data := first } id second).selected,
          e.gesture⟩ := rfl
    _ = e.withData n id second := by
      rw [hflow, hselected]
      rfl

theorem update?_eq_some_iff (hn : e.flow.node? id = some n) :
    e.update? room nextId id c = some e' ↔
      ∃ data, NodeData.ofJson (room.steps - 1) n.kind (.obj (Fields.merge n.data.fields c)) = .ok data ∧
        (e.hasSelected id = true → n.copyDepth + 1 ≤ room.steps) ∧ e' = e.withData n id data := by
  unfold update? updateData
  rw [hn]
  dsimp only
  cases NodeData.ofJson (room.steps - 1) n.kind (.obj (Fields.merge n.data.fields c)) with
  | error fault =>
    dsimp only
    constructor
    · split <;> nofun
    · nofun
  | ok data =>
    have hdepth : { n with data }.copyDepth = n.copyDepth := rfl
    simp only [Except.ok.injEq, exists_eq_left', hdepth]
    unfold withData
    cases e.hasSelected id with
    | true =>
      rw [if_pos rfl]
      by_cases hroom : room.steps < n.copyDepth + 1
      · rw [if_pos hroom]
        exact ⟨nofun, fun h => absurd (h.1 rfl) (Nat.not_le_of_lt hroom)⟩
      · rw [if_neg hroom]
        exact ⟨fun h => ⟨fun _ => Nat.le_of_not_lt hroom, (Option.some.inj h).symm⟩,
          fun h => congrArg some h.2.symm⟩
    | false =>
      rw [if_neg Bool.false_ne_true]
      exact ⟨fun h => ⟨nofun, (Option.some.inj h).symm⟩, fun h => congrArg some h.2.symm⟩

/-- An update that is done is one that the data of the node takes. -/
theorem update?_eq_some_iff_takes (hn : e.flow.node? id = some n) (hbounds : n.data.InBounds) :
    e.update? room nextId id c = some e' ↔
      ∃ data, n.data.Takes room c data ∧ (e.hasSelected id = true → n.copyDepth + 1 ≤ room.steps) ∧
        e' = e.withData n id data := by
  rw [update?_eq_some_iff hn]
  exact exists_congr fun data => and_congr_left' (NodeData.takes_iff hbounds)

theorem update?_of_none (hn : e.flow.node? id = none) : e.update? room nextId id c = none := by
  unfold update? updateData
  rw [hn]
  rfl

/-- One update with the fields of two is the second after the first. -/
theorem update?_merge (h : ∀ n, e.flow.node? id = some n → n.data.InBounds)
    (hpq : (p.map (·.1)).Disjoint (q.map (·.1))) :
    e.update? room nextId id (Fields.merge p q) =
      (e.update? room nextId id p).bind (·.update? room nextId id q) := by
  cases hn : e.flow.node? id with
  | none => rw [update?_of_none hn, update?_of_none hn, Option.bind_none]
  | some n =>
    have hbounds := h n hn
    have hnext : ∀ first e', first.InBounds →
        ((e.withData n id first).update? room nextId id q = some e' ↔
          ∃ data, first.Takes room q data ∧
            (e.hasSelected id = true → n.copyDepth + 1 ≤ room.steps) ∧ e' = e.withData n id data) := by
      intro first e' hfirst
      rw [update?_eq_some_iff_takes (node?_withData hn first) hfirst, hasSelected_withData hn]
      simp only [withData_withData hn]
      exact Iff.rfl
    refine Option.ext fun e' => ?_
    rw [update?_eq_some_iff_takes hn hbounds, Option.bind_eq_some_iff]
    constructor
    · rintro ⟨data, hboth, hroom, rfl⟩
      obtain ⟨first, hp, hq⟩ := hboth.split hbounds hpq
      exact ⟨_, (update?_eq_some_iff_takes hn hbounds).mpr ⟨first, hp, hroom, rfl⟩,
        (hnext first _ hp.inBounds).mpr ⟨data, hq, hroom, rfl⟩⟩
    · rintro ⟨e₁, he₁, he'⟩
      obtain ⟨first, hp, hroom, rfl⟩ := (update?_eq_some_iff_takes hn hbounds).mp he₁
      obtain ⟨data, hq, -, rfl⟩ := (hnext first e' hp.inBounds).mp he'
      exact ⟨data, hp.merge hq hpq, hroom, rfl⟩

theorem update?_merge_comm (h : ∀ n, e.flow.node? id = some n → n.data.InBounds)
    (hpq : (p.map (·.1)).Disjoint (q.map (·.1))) :
    e.update? room nextId id (Fields.merge p q) = e.update? room nextId id (Fields.merge q p) := by
  cases hn : e.flow.node? id with
  | none => rw [update?_of_none hn, update?_of_none hn]
  | some n =>
    refine Option.ext fun e' => ?_
    rw [update?_eq_some_iff_takes hn (h n hn), update?_eq_some_iff_takes hn (h n hn)]
    refine exists_congr fun data => and_congr_left' ?_
    exact ⟨NodeData.takes_merge_comm hpq, NodeData.takes_merge_comm (List.disjoint_symm hpq)⟩

end Editor

/-! ## The law -/

/-- Two updates of a node's data without a common field are one update with the fields of both, in
either order, and fail together. An update that is done leaves every field that it does not name. -/
theorem partial_updates_go_in_any_order {e : Editor} {id : Json}
    (h : ∀ n, e.flow.node? id = some n → n.data.InBounds) (room : Room) (nextId : Nat) :
    (∀ p q : Fields, (p.map (·.1)).Disjoint (q.map (·.1)) →
      e.update? room nextId id (Fields.merge p q) =
        (e.update? room nextId id p).bind (·.update? room nextId id q) ∧
      e.update? room nextId id (Fields.merge p q) =
        (e.update? room nextId id q).bind (·.update? room nextId id p)) ∧
    (∀ (p : Fields) (e' : Editor), e.update? room nextId id p = some e' →
      ∃ n data, e.flow.node? id = some n ∧ e'.flow.node? id = some { n with data } ∧
        data.kind = n.kind ∧
        (∀ key, key ∉ p.map (·.1) → data.fields.lookup key = n.data.fields.lookup key) ∧
        (p = [] → data = n.data)) := by
  constructor
  · intro p q hpq
    refine ⟨Editor.update?_merge h hpq, ?_⟩
    rw [Editor.update?_merge_comm h hpq]
    exact Editor.update?_merge h (List.disjoint_symm hpq)
  · intro p e' hdone
    cases hn : e.flow.node? id with
    | none => cases (Editor.update?_of_none hn).symm.trans hdone
    | some n =>
      obtain ⟨data, htakes, -, rfl⟩ := (Editor.update?_eq_some_iff_takes hn (h n hn)).mp hdone
      refine ⟨n, data, rfl, Editor.node?_withData hn data, htakes.kind, ?_, ?_⟩
      · exact fun key hkey => htakes.lookup_eq hkey
      · rintro rfl
        exact htakes.eq_of_nil (h n hn)

/-- So it is with a choice of keys that is selected: a time limit that comes as a text and a number of
keys that comes as a truth value are set before, after or with the branches. -/
theorem a_choice_of_keys_is_updated_in_any_order :
    let room : Room := ⟨1000, by decide⟩
    let id : Json := .str "menu"
    let p : Fields := [("timeout", .str " 15 "), ("max_digits", .bool true)]
    let q : Fields := [("label", .str "Menu"),
      ("branches", .arr [.obj [("key", .str "1"), ("label", .str "Sales")]])]
    ∃ (e e₁ e' : Editor) (n n₁ : Node), e.hasSelected id = true ∧
      (∀ n, e.flow.node? id = some n → n.data.InBounds) ∧
      (p.map (·.1)).Disjoint (q.map (·.1)) ∧
      e.update? room 1 id (Fields.merge p q) = some e' ∧
      (e.update? room 1 id p).bind (·.update? room 1 id q) = some e' ∧
      (e.update? room 1 id q).bind (·.update? room 1 id p) = some e' ∧
      (e'.flow.node? id).map (·.data) = some (.dtmf
        { label := "Menu", timeout := 15, maxDigits := 1, branches := [⟨"1", "Sales", none⟩] }) ∧
      e.update? room 1 id p = some e₁ ∧ e.flow.node? id = some n ∧ e₁.flow.node? id = some n₁ ∧
      n₁.data.fields.lookup "branches" = n.data.fields.lookup "branches" := by
  intro room id p q
  let menu : Node := ⟨id, .dtmf { maxDigits := 4 }, [], []⟩
  let e : Editor :=
    { flow := { id := .str "calls", name := .null, description := .null, category := .null
                status := .draft, label := .null, nodes := [menu], edges := [], createdAt := 0
                updatedAt := 0 }
      selected := some menu }
  let e₁ := (e.update? room 1 id p).get (by decide +kernel)
  let e' := (e.update? room 1 id (Fields.merge p q)).get (by decide +kernel)
  have hbounds : ∀ n, e.flow.node? id = some n → n.data.InBounds := by
    rintro _ ⟨⟩
    exact ⟨by decide, by decide⟩
  have hpq : (p.map (·.1)).Disjoint (q.map (·.1)) := by
    simp [p, q]
  have hone : e.update? room 1 id p = some e₁ := (Option.some_get _).symm
  have hboth : e.update? room 1 id (Fields.merge p q) = some e' := (Option.some_get _).symm
  obtain ⟨horder, hframe⟩ := partial_updates_go_in_any_order hbounds room 1
  obtain ⟨hfirst, hsecond⟩ := horder p q hpq
  obtain ⟨n, data, hn, hn₁, -, hkept, -⟩ := hframe p e₁ hone
  cases hn
  exact ⟨e, e₁, e', menu, _, rfl, hbounds, hpq, hboth, hfirst.symm.trans hboth,
    hsecond.symm.trans hboth, by decide +kernel, hone, rfl, hn₁, hkept "branches" (by decide)⟩

end Dialogue
