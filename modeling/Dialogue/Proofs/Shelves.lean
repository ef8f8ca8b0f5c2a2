-- The shelves of the palette. A definition is kept twice, under its kind and on the shelf of its
-- category, and a registration changes both. Whatever is registered, the two agree: each kind has the
-- definition that was registered last for it, and that one stands once on its own shelf, and no other
-- definition stands on any. A shelf stays when the last definition has left it, so its category is
-- listed for good.
import Mathlib.Data.List.Induction
import Mathlib.Tactic.Choose
import Dialogue.Proofs.Edits

namespace Dialogue

theorem NodeKind.all_nodup : all.Nodup := by decide

namespace Category

theorem mem_all (c : Category) : c ∈ all := by cases c <;> decide

theorem word_inj {c c' : Category} : c.word = c'.word ↔ c = c' := by
  cases c <;> cases c' <;> decide

end Category

namespace Palette

variable {p : Palette} {d : Definition} {c : Category}

/-! ## What a registration does to a shelf -/

theorem lookup_cons (s : Category × List Definition) (rest : List (Category × List Definition))
    (c : Category) : (s :: rest).lookup c = if c = s.1 then some s.2 else rest.lookup c := by
  obtain ⟨c', ds⟩ := s
  rw [List.lookup_cons]
  by_cases hc : c = c'
  · simp [hc]
  · rw [beq_false_of_ne hc, if_neg hc]

theorem lookup_takeOff (shelves : List (Category × List Definition)) (old : Category) (k : NodeKind)
    (c : Category) : (takeOff shelves old k).lookup c =
      (shelves.lookup c).map fun ds => if c = old then ds.eraseP (·.kind == k) else ds := by
  induction shelves with
  | nil => rfl
  | cons s rest ih =>
    have hname : (if s.1 == old then (s.1, s.2.eraseP (·.kind == k)) else s).1 = s.1 := by
      split <;> rfl
    unfold takeOff at ih ⊢
    rw [List.map_cons, lookup_cons, lookup_cons, hname, ih]
    by_cases hc : c = s.1
    · by_cases hold : s.1 = old <;> simp [hc, hold]
    · simp [hc]

theorem lookup_putOn (shelves : List (Category × List Definition)) (d : Definition) (c : Category) :
    (putOn shelves d).lookup c =
      if c = d.category then some ((shelves.lookup c).getD [] ++ [d]) else shelves.lookup c := by
  induction shelves with
  | nil =>
    unfold putOn
    rw [lookup_cons]
    rfl
  | cons s rest ih =>
    unfold putOn
    by_cases hs : s.1 = d.category
    · by_cases hc : c = d.category <;> simp [lookup_cons, hs, hc]
    · by_cases hc : c = s.1
      · have hne : ¬ c = d.category := hc ▸ hs
        simp [lookup_cons, hs, hc]
      · simp [lookup_cons, hs, hc, ih]

theorem shelf_register (p : Palette) (d : Definition) (c : Category) :
    (p.register d).shelf c =
      (if c = (p.current d.kind).category then (p.shelf c).eraseP (·.kind == d.kind)
        else p.shelf c) ++ if c = d.category then [d] else [] := by
  unfold shelf register
  rw [lookup_putOn, lookup_takeOff]
  cases p.shelves.lookup c <;> split <;> split <;> simp_all

/-! ## Tidy shelves -/

/-- The two ways in which the definitions are kept agree. -/
structure IsTidy (p : Palette) : Prop where
  kinds : ∀ k, (p.current k).kind = k
  /-- No shelf has two definitions of a kind. -/
  once : ∀ c, ((p.shelf c).map (·.kind)).Nodup
  mem_shelf : ∀ {c d}, d ∈ p.shelf c ↔ p.current d.kind = d ∧ d.category = c

theorem isTidy_standard : standard.IsTidy where
  kinds _ := rfl
  once c := by cases c <;> decide
  mem_shelf {c d} := by
    have hshelf : standard.shelf c =
        (NodeKind.all.map standardDefinition).filter (·.category == c) := by
      cases c <;> rfl
    rw [hshelf, List.mem_filter, List.mem_map, beq_iff_eq]
    refine and_congr_left fun _ => ⟨?_, fun h => ⟨d.kind, NodeKind.mem_all _, h⟩⟩
    rintro ⟨k, -, rfl⟩
    rfl

theorem eraseP_eq_filter {ds : List Definition} (h : (ds.map (·.kind)).Nodup) (k : NodeKind) :
    ds.eraseP (·.kind == k) = ds.filter (·.kind != k) := by
  induction ds with
  | nil => rfl
  | cons d rest ih =>
    rw [List.map_cons, List.nodup_cons] at h
    by_cases hd : d.kind = k
    · have hrest : ∀ d' ∈ rest, (d'.kind != k) = true := by
        intro d' hd'
        rw [bne_iff_ne, ← hd]
        intro heq
        exact h.1 (heq ▸ List.mem_map_of_mem hd')
      simp [hd, List.filter_eq_self.mpr hrest]
    · simp [hd, ih h.2]

/-- The shelf that the old definition stood on is the only one with a definition of the kind, so all
shelves look as if the kind had been taken off each. -/
theorem IsTidy.shelf_register (h : p.IsTidy) (d : Definition) (c : Category) :
    (p.register d).shelf c =
      (p.shelf c).filter (·.kind != d.kind) ++ if c = d.category then [d] else [] := by
  rw [Palette.shelf_register]
  congr 1
  split
  · exact eraseP_eq_filter (h.once c) d.kind
  · rename_i hne
    refine (List.filter_eq_self.mpr fun x hx => ?_).symm
    obtain ⟨hcurrent, hcategory⟩ := h.mem_shelf.mp hx
    rw [bne_iff_ne]
    exact fun hkind => hne (by rw [← hkind, hcurrent, hcategory])

theorem IsTidy.register (h : p.IsTidy) (d : Definition) : (p.register d).IsTidy where
  kinds k := by
    unfold Palette.register
    by_cases hk : k = d.kind
    · simp [hk]
    · simp [hk, h.kinds]
  once c := by
    rw [h.shelf_register, List.map_append, List.nodup_append]
    refine ⟨(h.once c).sublist (List.filter_sublist.map _), ?_, ?_⟩
    · split <;> simp
    · intro k hk k' hk' heq
      obtain ⟨x, hx, rfl⟩ := List.mem_map.mp hk
      have hkind : x.kind ≠ d.kind := by simpa using (List.mem_filter.mp hx).2
      split at hk' <;> simp_all
  mem_shelf {c x} := by
    rw [h.shelf_register, List.mem_append, List.mem_filter, h.mem_shelf, bne_iff_ne]
    unfold Palette.register
    by_cases hkind : x.kind = d.kind
    · -- of the kind of the new definition there is no other
      have hnew : (x ∈ if c = d.category then [d] else []) ↔ d = x ∧ x.category = c := by
        split
        · rw [List.mem_singleton]
          constructor
          · rintro rfl
            exact ⟨rfl, by simp_all⟩
          · exact fun hx => hx.1.symm
        · refine ⟨fun hx => (List.not_mem_nil hx).elim, ?_⟩
          rintro ⟨rfl, rfl⟩
          contradiction
      simp [hkind, hnew]
    · have hnot : x ∉ if c = d.category then [d] else [] := by
        split
        · rw [List.mem_singleton]
          rintro rfl
          exact hkind rfl
        · exact List.not_mem_nil
      simp [hkind, hnot]

theorem isTidy_foldl (definitions : List Definition) :
    (definitions.foldl register standard).IsTidy := by
  induction definitions using List.reverseRecOn with
  | nil => exact isTidy_standard
  | append_singleton before d ih =>
    rw [List.foldl_append]
    exact ih.register d

theorem IsTidy.mem_definitions (h : p.IsTidy) : d ∈ p.definitions ↔ p.current d.kind = d := by
  unfold definitions
  rw [List.mem_map]
  constructor
  · rintro ⟨k, -, rfl⟩
    rw [h.kinds]
  · exact fun hd => ⟨d.kind, NodeKind.mem_all _, hd⟩

/-! ## The last registration of a kind -/

/-- The definition was registered, and none of its kind after it. -/
def IsLatest (registered : List Definition) (d : Definition) : Prop :=
  ∃ before after, registered = before ++ d :: after ∧ ∀ d' ∈ after, d'.kind ≠ d.kind

/-- A new palette has had the standard definitions registered. -/
def registered (definitions : List Definition) : List Definition :=
  NodeKind.all.map standardDefinition ++ definitions

theorem isLatest_current (definitions : List Definition) (k : NodeKind) :
    IsLatest (registered definitions) ((definitions.foldl register standard).current k) := by
  induction definitions using List.reverseRecOn with
  | nil =>
    obtain ⟨before, after, hall⟩ := List.append_of_mem (NodeKind.mem_all k)
    have hnodup : (before ++ k :: after).Nodup := hall ▸ NodeKind.all_nodup
    refine ⟨before.map standardDefinition, after.map standardDefinition, ?_, fun d hd hkind => ?_⟩
    · simp [registered, hall, standard]
    · obtain ⟨k', hk', rfl⟩ := List.mem_map.mp hd
      have hsame : k' = k := hkind
      exact (List.nodup_cons.mp (List.nodup_append.mp hnodup).2.1).1 (hsame ▸ hk')
  | append_singleton before d ih =>
    rw [List.foldl_append]
    obtain ⟨earlier, later, hsplit, hlast⟩ := ih
    by_cases hk : k = d.kind
    · refine ⟨registered before, [], ?_, by simp⟩
      simp [registered, register, hk]
    · have hcurrent : ((before.foldl register standard).register d).current k =
          (before.foldl register standard).current k := by
        simp [register, hk]
      refine ⟨earlier, later ++ [d], ?_, fun d' hd' => ?_⟩
      · have hsplit' : registered (before ++ [d]) = registered before ++ [d] :=
          (List.append_assoc ..).symm
        rw [List.foldl_cons, List.foldl_nil, hcurrent, hsplit', hsplit, List.append_assoc,
          List.cons_append]
      · rw [List.foldl_cons, List.foldl_nil, hcurrent]
        rcases List.mem_append.mp hd' with hd' | hd'
        · exact hlast d' hd'
        · rw [List.mem_singleton.mp hd', current_kind before k]
          exact Ne.symm hk

/-! ## The catalog -/

theorem mapM_eq_ok_map {α β : Type} {read : α → Outcome β} {f : α → β} {xs : List α}
    (h : ∀ x ∈ xs, read x = .ok (f x)) : xs.mapM read = .ok (xs.map f) := by
  induction xs with
  | nil => rfl
  | cons x rest ih =>
    rw [List.mapM_cons, h x (by simp), ih fun y hy => h y (by simp [hy])]
    rfl

/-- What is on the shelves that are not empty, under their names. -/
def entries (p : Palette) (write : Definition → Json) : Fields :=
  (Category.all.filter fun c => !(p.shelf c).isEmpty).map fun c =>
    (c.word, .arr ((p.shelf c).map write))

theorem entries_nodup (p : Palette) (write : Definition → Json) :
    ((p.entries write).map (·.1)).Nodup := by
  have hnodup : (Category.all.filter fun c => !(p.shelf c).isEmpty).Nodup :=
    (show Category.all.Nodup by decide).filter _
  unfold entries
  rw [List.map_map]
  exact hnodup.map fun c c' => Category.word_inj.mp

theorem exists_word_of_mem_entries {write : Definition → Json} {e : String × Json}
    (he : e ∈ p.entries write) : ∃ c : Category, e.1 = c.word := by
  obtain ⟨c, -, rfl⟩ := List.mem_map.mp he
  exact ⟨c, rfl⟩

theorem mem_entries {write : Definition → Json} {j : Json} :
    (c.word, j) ∈ p.entries write ↔ p.shelf c ≠ [] ∧ j = .arr ((p.shelf c).map write) := by
  simp only [entries, List.mem_map, List.mem_filter, Prod.mk.injEq, Category.word_inj]
  constructor
  · rintro ⟨c', ⟨-, hfull⟩, rfl, rfl⟩
    exact ⟨by simpa using hfull, rfl⟩
  · rintro ⟨hfull, rfl⟩
    exact ⟨c, ⟨Category.mem_all c, by simpa using hfull⟩, rfl, rfl⟩

/-- When each definition on the shelves can be written, so can the catalog, shelf by shelf. -/
theorem catalog_eq_ok {room : Nat} {write : Definition → Json}
    (h : ∀ c, ∀ d ∈ p.shelf c, d.toJson (room - 2) = .ok (write d)) :
    p.catalog room = .ok (.obj (p.entries write)) := by
  have hentry : ∀ c : Category, (do
      let definitions ← (p.shelf c).mapM (Definition.toJson (room - 2))
      return (c.word, Json.arr definitions) : Outcome (String × Json)) =
        .ok (c.word, .arr ((p.shelf c).map write)) := by
    intro c
    rw [mapM_eq_ok_map (h c)]
    rfl
  unfold catalog
  dsimp only
  rw [mapM_eq_ok_map fun c _ => hentry c]
  rfl

end Palette

theorem Definition.exists_toJson {room : Nat} {d : Definition} {data : NodeData}
    (h : d.newData (room - 1) = .ok data) : ∃ j, d.toJson room = .ok j := by
  unfold Definition.toJson
  rw [h]
  exact ⟨_, rfl⟩

/-- Whatever was registered, each kind has one definition, the last that was registered for it. It
stands once on the shelf of its category, and no shelf has any other. If new nodes can be made of all
of them, the catalog has an entry for each shelf that is not empty, with all that stands on it. -/
theorem a_definition_stands_once_on_its_own_shelf (definitions : List Definition) :
    let p := definitions.foldl Palette.register .standard
    p.definitions.map (·.kind) = NodeKind.all ∧ NodeKind.all.Nodup ∧ (∀ k, k ∈ NodeKind.all) ∧
    (∀ d ∈ p.definitions, Palette.IsLatest (Palette.registered definitions) d) ∧
    (∀ c, (p.shelf c).Nodup ∧ ∀ d, d ∈ p.shelf c ↔ d ∈ p.definitions ∧ d.category = c) ∧
    ∀ room, (∀ d ∈ p.definitions, ∃ data, d.newData (room - 3) = .ok data) →
      ∃ write entries, (∀ d ∈ p.definitions, d.toJson (room - 2) = .ok (write d)) ∧
        p.catalog room = .ok (.obj entries) ∧ (entries.map (·.1)).Nodup ∧
        (∀ e ∈ entries, ∃ c : Category, e.1 = c.word) ∧
        ∀ (c : Category) j, (c.word, j) ∈ entries ↔
          p.shelf c ≠ [] ∧ j = .arr ((p.shelf c).map write) := by
  intro p
  have htidy : p.IsTidy := Palette.isTidy_foldl definitions
  have hshelf : ∀ c d, d ∈ p.shelf c ↔ d ∈ p.definitions ∧ d.category = c := by
    intro c d
    rw [htidy.mem_definitions]
    exact htidy.mem_shelf
  refine ⟨?_, NodeKind.all_nodup, NodeKind.mem_all, fun d hd => ?_,
    fun c => ⟨(htidy.once c).of_map, hshelf c⟩, fun room hvalid => ?_⟩
  · unfold Palette.definitions
    rw [List.map_map]
    exact List.map_id'' htidy.kinds _
  · obtain ⟨k, -, rfl⟩ := List.mem_map.mp hd
    exact Palette.isLatest_current definitions k
  · have hwritten : ∀ d ∈ p.definitions, ∃ j, d.toJson (room - 2) = .ok j := by
      intro d hd
      obtain ⟨data, hdata⟩ := hvalid d hd
      rw [show room - 3 = room - 2 - 1 by omega] at hdata
      exact Definition.exists_toJson hdata
    choose! write hwrite using hwritten
    have hcatalog : p.catalog room = .ok (.obj (p.entries write)) :=
      Palette.catalog_eq_ok fun c d hd => hwrite d ((hshelf c d).mp hd).1
    exact ⟨write, p.entries write, hwrite, hcatalog, p.entries_nodup write,
      fun _ => Palette.exists_word_of_mem_entries, fun _ _ => Palette.mem_entries⟩

/-- A definition of the messages for the shelf of a category. -/
def talk (category : Category) (name : String) : Definition :=
  { kind := .message, category, name := .str name, defaults := .obj [("content", .str "Hello")] }

/-- So it is with the messages when they go to another category and come back: they stand last on
their old shelf, and the catalog can be made. -/
theorem messages_that_come_back_stand_last :
    let p := [talk .crm "Talk", talk .crm "Chat", talk .flow "Message"].foldl Palette.register .standard
    (p.shelf .flow).map (·.kind) =
        [.start, .condition, .apiCall, .dtmf, .assistant, .transfer, .finish, .message] ∧
      (p.shelf .crm).map (·.kind) = [.crm .salesforce, .crm .hubspot, .crm .zoho] ∧
      (∀ d ∈ p.definitions, ∃ data, d.newData (20 - 3) = .ok data) ∧
      ∃ entries, p.catalog 20 = .ok (.obj entries) ∧ (entries.map (·.1)).Nodup := by
  intro p
  have hvalid : ∀ d ∈ p.definitions, ∃ data, d.newData (20 - 3) = .ok data := by
    have hgood : p.definitions.all (fun d => (d.newData (20 - 3)).isOk) = true := by decide +kernel
    intro d hd
    have hd := List.all_eq_true.mp hgood d hd
    cases hnew : d.newData (20 - 3) with
    | ok data => exact ⟨data, rfl⟩
    | error fault => rw [hnew] at hd; cases hd
  obtain ⟨-, entries, -, hcatalog, hnodup, -⟩ :=
    (a_definition_stands_once_on_its_own_shelf [talk .crm "Talk", talk .crm "Chat",
      talk .flow "Message"]).2.2.2.2.2 20 hvalid
  exact ⟨by decide +kernel, by decide +kernel, hvalid, entries, hcatalog, hnodup⟩

/-! ## The categories that are listed -/

namespace Palette

variable {p : Palette} {d : Definition} {c : Category}

theorem map_fst_takeOff (shelves : List (Category × List Definition)) (old : Category)
    (k : NodeKind) : (takeOff shelves old k).map (·.1) = shelves.map (·.1) := by
  unfold takeOff
  rw [List.map_map]
  apply List.map_congr_left
  intro s _
  by_cases hs : s.1 = old <;> simp [hs]

theorem map_fst_putOn (shelves : List (Category × List Definition)) (d : Definition) :
    (putOn shelves d).map (·.1) = if d.category ∈ shelves.map (·.1) then shelves.map (·.1)
      else shelves.map (·.1) ++ [d.category] := by
  induction shelves with
  | nil => rfl
  | cons s rest ih =>
    unfold putOn
    by_cases hs : s.1 = d.category
    · simp [hs]
    · rw [if_neg (by simpa using hs), List.map_cons, ih]
      by_cases hrest : d.category ∈ rest.map (·.1)
      · simp [hrest]
      · simp [hrest, Ne.symm hs]

/-- A registration takes no category away. It adds its own at the end, unless it is there. -/
theorem categories_register (p : Palette) (d : Definition) :
    (p.register d).categories =
      if d.category ∈ p.categories then p.categories else p.categories ++ [d.category] := by
  unfold categories register
  rw [map_fst_putOn, map_fst_takeOff]

theorem mem_categories_register :
    c ∈ (p.register d).categories ↔ c ∈ p.categories ∨ c = d.category := by
  rw [categories_register]
  split
  · rename_i hd
    exact ⟨.inl, fun hc => hc.elim id fun heq => heq ▸ hd⟩
  · rw [List.mem_append, List.mem_singleton]

theorem nodup_categories_register (h : p.categories.Nodup) :
    (p.register d).categories.Nodup := by
  rw [categories_register]
  split
  · exact h
  · rename_i hd
    rw [← List.concat_eq_append, List.nodup_concat]
    exact ⟨hd, h⟩

theorem mem_categories_foldl (definitions : List Definition) :
    c ∈ (definitions.foldl register p).categories ↔
      c ∈ p.categories ∨ ∃ d ∈ definitions, d.category = c := by
  induction definitions generalizing p with
  | nil => simp
  | cons d rest ih =>
    rw [List.foldl_cons, ih, mem_categories_register, or_assoc, eq_comm (a := c)]
    simp only [List.mem_cons, exists_eq_or_imp]

theorem nodup_categories_foldl (h : p.categories.Nodup) (definitions : List Definition) :
    (definitions.foldl register p).categories.Nodup := by
  induction definitions generalizing p with
  | nil => exact h
  | cons d rest ih => exact ih (nodup_categories_register h)

/-- A category has a definition exactly if its shelf is not empty. -/
theorem IsTidy.exists_definition_iff (h : p.IsTidy) :
    (∃ d ∈ p.definitions, d.category = c) ↔ p.shelf c ≠ [] := by
  have hshelf : ∀ d, d ∈ p.definitions ∧ d.category = c ↔ d ∈ p.shelf c := by
    intro d
    rw [h.mem_definitions, h.mem_shelf]
  simp only [hshelf]
  exact ⟨fun ⟨_, hd⟩ => List.ne_nil_of_mem hd, List.exists_mem_of_ne_nil _⟩

theorem IsLatest.mem {registered : List Definition} (h : IsLatest registered d) :
    d ∈ registered := by
  obtain ⟨before, after, rfl, -⟩ := h
  exact List.mem_append_right before List.mem_cons_self

/-- A new palette has the categories of the standard definitions. -/
theorem mem_categories_standard :
    c ∈ standard.categories ↔ ∃ d ∈ NodeKind.all.map standardDefinition, d.category = c := by
  cases c <;> decide

end Palette

/-- Each category is listed once, and a category is listed exactly if a definition of it was ever
registered. So it stays listed when its last definition is registered anew for another category: the
categories with a definition are those that are listed and whose shelf is not empty. They are all that
are listed exactly if each category that ever had a definition has one still. -/
theorem a_category_is_listed_for_good (definitions : List Definition) :
    let p := definitions.foldl Palette.register .standard
    p.categories.Nodup ∧
    (∀ c, c ∈ p.categories ↔ ∃ d ∈ Palette.registered definitions, d.category = c) ∧
    (∀ c, (∃ d ∈ p.definitions, d.category = c) ↔ c ∈ p.categories ∧ p.shelf c ≠ []) ∧
    ((∀ c, c ∈ p.categories ↔ ∃ d ∈ p.definitions, d.category = c) ↔
      ∀ d ∈ Palette.registered definitions, ∃ d' ∈ p.definitions, d'.category = d.category) := by
  intro p
  have htidy : p.IsTidy := Palette.isTidy_foldl definitions
  have hlisted : ∀ c, c ∈ p.categories ↔
      ∃ d ∈ Palette.registered definitions, d.category = c := by
    intro c
    unfold Palette.registered
    rw [Palette.mem_categories_foldl, Palette.mem_categories_standard]
    simp only [List.mem_append, or_and_right, exists_or]
  have hall : ∀ d ∈ p.definitions, d.category ∈ p.categories := by
    intro d hd
    obtain ⟨k, -, rfl⟩ := List.mem_map.mp hd
    exact (hlisted _).mpr ⟨_, (Palette.isLatest_current definitions k).mem, rfl⟩
  refine ⟨Palette.nodup_categories_foldl (by decide) definitions, hlisted, fun c => ?_, ?_⟩
  · rw [← htidy.exists_definition_iff]
    refine (and_iff_right_of_imp ?_).symm
    rintro ⟨d, hd, rfl⟩
    exact hall d hd
  · constructor
    · intro h d hd
      exact (h d.category).mp ((hlisted d.category).mpr ⟨d, hd, rfl⟩)
    · intro h c
      constructor
      · rw [hlisted]
        rintro ⟨d, hd, rfl⟩
        exact h d hd
      · rintro ⟨d, hd, rfl⟩
        exact hall d hd

/-- A definition of a help desk that is listed with the flow's own kinds. -/
def plainDesk (desk : HelpDesk) : Definition :=
  { kind := .ticket desk, category := .flow, name := .str "Desk" }

/-- When both help desks have gone to another category, theirs is listed and has no definition. -/
theorem an_empty_shelf_is_listed :
    let p := [plainDesk .zendesk, plainDesk .freshdesk].foldl Palette.register .standard
    Category.ticketing ∈ p.categories ∧ ¬ ∃ d ∈ p.definitions, d.category = .ticketing := by
  decide +kernel

end Dialogue
