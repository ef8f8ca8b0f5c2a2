-- The list of flows. Whatever was saved and deleted, a list has the flows that are stored and pass the
-- filter, each once, the last updated first. Flows that were updated at one time stand in the order in
-- which their ids came in, and an id that was deleted comes in anew when it is saved again.
import Mathlib.Data.List.Induction
import Dialogue.Proofs.Aftermath
import Dialogue.Proofs.Matching
import Dialogue.Service

namespace Dialogue

open Json

/-! ## Sorting keeps the order of what is alike -/

/-- What the sort does not tell apart stands as it stood. -/
theorem pairwise_mergeSort_stable {α : Type} {le : α → α → Bool} {R : α → α → Prop} {xs : List α}
    (trans : ∀ a b c, le a b = true → le b c = true → le a c = true)
    (total : ∀ a b, (le a b || le b a) = true) (h : xs.Pairwise R) :
    (xs.mergeSort le).Pairwise fun a b => le a b = true ∧ (le b a = true → R a b) := by
  rw [List.pairwise_iff_forall_sublist]
  intro a b hab
  have hle : le a b = true :=
    (List.pairwise_iff_forall_sublist.mp (List.pairwise_mergeSort trans total xs)) hab
  refine ⟨hle, fun hba => List.pairwise_iff_forall_sublist.mp h ?_⟩
  -- All that is tied with the first has kept its order, so what is tied is the same list still.
  let tied : α → Bool := fun x => le a x && le x a
  have hself : le a a = true := by simpa using total a a
  have hties : (xs.filter tied).Pairwise fun x y => le x y = true := by
    rw [List.pairwise_iff_forall_sublist]
    intro x y hxy
    have hx := (List.mem_filter.mp (hxy.subset (by simp : x ∈ [x, y]))).2
    have hy := (List.mem_filter.mp (hxy.subset (by simp : y ∈ [x, y]))).2
    rw [Bool.and_eq_true] at hx hy
    exact trans x a y hx.2 hy.1
  have hkept : (xs.filter tied).Sublist ((xs.mergeSort le).filter tied) := by
    have hsub := (List.sublist_mergeSort trans total hties List.filter_sublist).filter tied
    rwa [List.filter_filter, List.filter_congr fun x _ => Bool.and_self _] at hsub
  have heq : xs.filter tied = (xs.mergeSort le).filter tied :=
    hkept.eq_of_length ((List.mergeSort_perm xs le).filter tied).length_eq.symm
  have hpair : [a, b].Sublist ((xs.mergeSort le).filter tied) := by
    have hsub := hab.filter tied
    rwa [List.filter_eq_self.mpr (by simp [tied, hself, hle, hba])] at hsub
  exact (heq ▸ hpair).trans List.filter_sublist

namespace Store

/-! ## What was done to a store -/

/-- One change of a store: a flow is saved, or the flow with an id is deleted. -/
inductive Filing where
  | put (f : Flow)
  | erase (id : Json)

def file (s : Store) : Filing → Store
  | .put f => s.put f
  | .erase id => s.erase id

/-- The store after all that was done to it, the first change first. -/
def after (history : List Filing) : Store := history.foldl file {}

/-- The filing is about the flow with the id. -/
def Filing.IsAbout (id : Json) : Filing → Prop
  | .put f => f.id = id
  | .erase id' => id' = id

/-- The flow was saved, and nothing was done under its id after that. -/
def Holds (history : List Filing) (f : Flow) : Prop :=
  ∃ before later, history = before ++ .put f :: later ∧ ∀ x ∈ later, ¬ x.IsAbout f.id

/-- Since a flow was last saved under the id, if one ever was, the id has been deleted. -/
def IsVacant (history : List Filing) (id : Json) : Prop :=
  ∀ before f later, history = before ++ .put f :: later → f.id = id → .erase id ∈ later

/-- The place in the history where the id was saved while it was vacant and has not been deleted
since. -/
def CameInAt (history : List Filing) (id : Json) (n : Nat) : Prop :=
  ∃ before f later, history = before ++ .put f :: later ∧ before.length = n ∧ f.id = id ∧
    IsVacant before id ∧ .erase id ∉ later

/-- One id has come in, and the other later. -/
def CameInBefore (history : List Filing) (id id' : Json) : Prop :=
  ∃ n n', CameInAt history id n ∧ CameInAt history id' n' ∧ n < n'

/-- All that was ever saved has texts for an id, a name and a description. -/
def HasTexts (history : List Filing) : Prop := ∀ f, .put f ∈ history → f.id.IsText ∧ f.IsSearchable

variable {history : List Filing} {x : Filing} {f g : Flow} {id id' : Json} {n : Nat}

/-- A history is split by its last filing, or by one before. -/
theorem concat_eq_append_cons_iff {before later : List Filing} {y : Filing} :
    history ++ [x] = before ++ y :: later ↔
      (later = [] ∧ y = x ∧ before = history) ∨
        ∃ later', later = later' ++ [x] ∧ history = before ++ y :: later' := by
  constructor
  · intro h
    rcases List.eq_nil_or_concat later with rfl | ⟨later', z, rfl⟩
    · obtain ⟨hbefore, hlast⟩ := List.append_inj' h rfl
      exact .inl ⟨rfl, (List.singleton_inj.mp hlast).symm, hbefore.symm⟩
    · rw [List.concat_eq_append, ← List.cons_append, ← List.append_assoc] at h
      obtain ⟨hbefore, hlast⟩ := List.append_inj' h rfl
      exact .inr ⟨later', by rw [List.concat_eq_append, List.singleton_inj.mp hlast], hbefore⟩
  · rintro (⟨rfl, rfl, rfl⟩ | ⟨later', rfl, rfl⟩)
    · rfl
    · rw [List.append_assoc, List.cons_append]

theorem holds_concat_iff :
    Holds (history ++ [x]) f ↔ x = .put f ∨ (Holds history f ∧ ¬ x.IsAbout f.id) := by
  constructor
  · rintro ⟨before, later, hsplit, hlast⟩
    rcases concat_eq_append_cons_iff.mp hsplit with ⟨-, rfl, -⟩ | ⟨later', rfl, hbefore⟩
    · exact .inl rfl
    · refine .inr ⟨⟨before, later', hbefore, fun y hy => hlast y ?_⟩, hlast x ?_⟩ <;> simp [*]
  · rintro (rfl | ⟨⟨before, later, rfl, hlast⟩, hx⟩)
    · exact ⟨history, [], rfl, nofun⟩
    · refine ⟨before, later ++ [x], by simp, fun y hy => ?_⟩
      rcases List.mem_append.mp hy with hy | hy
      · exact hlast y hy
      · rwa [List.mem_singleton.mp hy]

theorem isVacant_concat_iff : IsVacant (history ++ [x]) id ↔
    x = .erase id ∨ (IsVacant history id ∧ ¬ x.IsAbout id) := by
  constructor
  · intro h
    by_cases herase : x = .erase id
    · exact .inl herase
    · refine .inr ⟨fun before f later hsplit hid => ?_, fun habout => ?_⟩
      · have hmem := h before f (later ++ [x]) (by simp [hsplit]) hid
        rcases List.mem_append.mp hmem with hmem | hmem
        · exact hmem
        · exact (herase (List.mem_singleton.mp hmem).symm).elim
      · cases x with
        | put f => exact List.not_mem_nil (h history f [] rfl habout)
        | erase id' => exact herase (congrArg Filing.erase habout)
  · intro h before f later hsplit hid
    rcases concat_eq_append_cons_iff.mp hsplit with ⟨-, rfl, -⟩ | ⟨later', rfl, hbefore⟩
    · rcases h with hx | ⟨-, hx⟩
      · cases hx
      · exact (hx hid).elim
    · rcases h with rfl | ⟨h, -⟩
      · simp
      · exact List.mem_append_left _ (h before f later' hbefore hid)

/-- An id that has come in stays where it is until it is deleted. -/
theorem CameInAt.concat (h : CameInAt history id n) (hx : x ≠ .erase id) :
    CameInAt (history ++ [x]) id n := by
  obtain ⟨before, f, later, rfl, hn, hid, hvacant, hlater⟩ := h
  refine ⟨before, f, later ++ [x], by simp, hn, hid, hvacant, ?_⟩
  simpa [hlater] using Ne.symm hx

theorem cameInAt_put (h : IsVacant history f.id) :
    CameInAt (history ++ [.put f]) f.id history.length :=
  ⟨history, f, [], rfl, rfl, rfl, h, List.not_mem_nil⟩

theorem CameInAt.lt_length (h : CameInAt history id n) : n < history.length := by
  obtain ⟨before, f, later, rfl, rfl, -⟩ := h
  simp

/-- There is one place where an id has come in. -/
theorem CameInAt.unique {n' : Nat} (h : CameInAt history id n) (h' : CameInAt history id n') :
    n = n' := by
  have hno : ∀ {m m' : Nat}, CameInAt history id m → CameInAt history id m' → ¬ m < m' := by
    rintro m m' ⟨before, f, later, hsplit, rfl, hid, -, hkept⟩
      ⟨before', f', later', hsplit', rfl, -, hvacant', -⟩ hlt
    -- The first save stands before the second, so the id is deleted in between.
    rcases List.append_eq_append_iff.mp (hsplit.symm.trans hsplit') with
      ⟨middle, rfl, hmiddle⟩ | ⟨middle, rfl, -⟩
    · cases middle with
      | nil => simp at hlt
      | cons y middle =>
        obtain ⟨rfl, rfl⟩ := List.cons.inj hmiddle
        exact hkept (List.mem_append_left _ (hvacant' before f middle rfl hid))
    · rw [List.length_append] at hlt
      omega
  have := hno h h'
  have := hno h' h
  omega

/-! ## What is in a store after a history -/

/-- A flow that is saved under a stored id takes the place of the one that was stored. -/
theorem map_id_place_of_mem {gs : List Flow} (hf : f.id.IsText) (h : f.id ∈ gs.map (·.id)) :
    (place f gs).map (·.id) = gs.map (·.id) := by
  induction gs with
  | nil => cases h
  | cons g rest ih =>
    rw [place]
    by_cases hg : g.id = f.id
    · simp [hg, (same_iff_of_right hf.isWord).mpr rfl]
    · have hrest : f.id ∈ rest.map (·.id) := (List.mem_cons.mp h).resolve_left (Ne.symm hg)
      rw [if_neg ((same_iff_of_right hf.isWord).not.mpr hg), List.map_cons, ih hrest, List.map_cons]

/-- Under an id that is not stored it stands last. -/
theorem map_id_place_of_not_mem {gs : List Flow} (hf : f.id.IsText) (h : f.id ∉ gs.map (·.id)) :
    (place f gs).map (·.id) = gs.map (·.id) ++ [f.id] := by
  induction gs with
  | nil => rfl
  | cons g rest ih =>
    obtain ⟨hg, hrest⟩ := not_or.mp (List.mem_cons.not.mp h)
    rw [place, if_neg ((same_iff_of_right hf.isWord).not.mpr (Ne.symm hg)), List.map_cons,
      ih hrest, List.map_cons, List.cons_append]

theorem mem_place_iff {gs : List Flow} (hf : f.id.IsText) (hnodup : (gs.map (·.id)).Nodup) :
    g ∈ place f gs ↔ g = f ∨ (g ∈ gs ∧ g.id ≠ f.id) := by
  induction gs with
  | nil => simp [place]
  | cons x rest ih =>
    obtain ⟨hx, hrest⟩ := List.nodup_cons.mp hnodup
    rw [place]
    by_cases heq : x.id = f.id
    · have hothers : g ∈ rest → g.id ≠ f.id := by
        intro hg hid
        exact hx (List.mem_map.mpr ⟨g, hg, hid.trans heq.symm⟩)
      rw [if_pos ((same_iff_of_right hf.isWord).mpr heq), List.mem_cons, List.mem_cons]
      constructor
      · exact Or.imp_right fun hg => ⟨.inr hg, hothers hg⟩
      · rintro (rfl | ⟨rfl | hg, hne⟩)
        · exact .inl rfl
        · exact (hne heq).elim
        · exact .inr hg
    · rw [if_neg ((same_iff_of_right hf.isWord).not.mpr heq), List.mem_cons, List.mem_cons, ih hrest]
      constructor
      · rintro (rfl | rfl | ⟨hg, hne⟩)
        · exact .inr ⟨.inl rfl, heq⟩
        · exact .inl rfl
        · exact .inr ⟨.inr hg, hne⟩
      · rintro (rfl | ⟨rfl | hg, hne⟩)
        · exact .inr (.inl rfl)
        · exact .inl rfl
        · exact .inr (.inr ⟨hg, hne⟩)

theorem mem_erase_iff {s : Store} (htexts : ∀ f ∈ s.flows, f.id.IsText) :
    f ∈ (s.erase id).flows ↔ f ∈ s.flows ∧ f.id ≠ id := by
  unfold erase
  rw [List.mem_filter]
  exact and_congr_right fun hf => not_same_iff_of_left (htexts f hf).isWord

/-- The flows that are stored after a history, and the order in which their ids stand. -/
structure Shelved (history : List Filing) (flows : List Flow) : Prop where
  mem_iff : ∀ {f}, f ∈ flows ↔ Holds history f
  vacant : ∀ {id}, IsVacant history id ↔ id ∉ flows.map (·.id)
  cameIn : ∀ {id}, id ∈ flows.map (·.id) → ∃ n, CameInAt history id n
  ordered : (flows.map (·.id)).Pairwise (CameInBefore history)

variable {flows : List Flow}

theorem Shelved.nodup (h : Shelved history flows) : (flows.map (·.id)).Nodup := by
  refine h.ordered.imp fun hbefore heq => ?_
  obtain ⟨n, n', hn, hn', hlt⟩ := hbefore
  have := hn.unique (heq ▸ hn')
  omega

theorem CameInBefore.concat (h : CameInBefore history id id') (hx : x ≠ .erase id)
    (hx' : x ≠ .erase id') : CameInBefore (history ++ [x]) id id' := by
  obtain ⟨n, n', hn, hn', hlt⟩ := h
  exact ⟨n, n', hn.concat hx, hn'.concat hx', hlt⟩

theorem Shelved.put (h : Shelved history flows) (hf : f.id.IsText) :
    Shelved (history ++ [.put f]) (place f flows) where
  mem_iff {g} := by
    rw [mem_place_iff hf h.nodup, holds_concat_iff, h.mem_iff, Filing.put.injEq]
    exact or_congr eq_comm (and_congr_right fun _ => not_congr eq_comm)
  vacant {id} := by
    rw [isVacant_concat_iff, h.vacant]
    by_cases hstored : f.id ∈ flows.map (·.id)
    · rw [map_id_place_of_mem hf hstored]
      constructor
      · rintro (hx | ⟨hid, -⟩)
        · cases hx
        · exact hid
      · exact fun hid => .inr ⟨hid, fun heq : f.id = id => hid (heq ▸ hstored)⟩
    · rw [map_id_place_of_not_mem hf hstored, List.mem_append, List.mem_singleton]
      constructor
      · rintro (hx | ⟨hid, hne⟩)
        · cases hx
        · exact not_or.mpr ⟨hid, fun heq => hne heq.symm⟩
      · intro hid
        exact .inr ⟨(not_or.mp hid).1, fun heq : f.id = id => (not_or.mp hid).2 heq.symm⟩
  cameIn {id} hid := by
    by_cases hstored : f.id ∈ flows.map (·.id)
    · rw [map_id_place_of_mem hf hstored] at hid
      exact (h.cameIn hid).imp fun n hn => hn.concat nofun
    · rw [map_id_place_of_not_mem hf hstored, List.mem_append, List.mem_singleton] at hid
      rcases hid with hid | rfl
      · exact (h.cameIn hid).imp fun n hn => hn.concat nofun
      · exact ⟨_, cameInAt_put (h.vacant.mpr hstored)⟩
  ordered := by
    have hkept : (flows.map (·.id)).Pairwise (CameInBefore (history ++ [.put f])) :=
      h.ordered.imp fun hbefore => hbefore.concat nofun nofun
    by_cases hstored : f.id ∈ flows.map (·.id)
    · rwa [map_id_place_of_mem hf hstored]
    · rw [map_id_place_of_not_mem hf hstored, List.pairwise_append]
      refine ⟨hkept, List.pairwise_singleton .., fun id hid id' hid' => ?_⟩
      rw [List.mem_singleton.mp hid']
      obtain ⟨n, hn⟩ := h.cameIn hid
      exact ⟨n, _, hn.concat nofun, cameInAt_put (h.vacant.mpr hstored), hn.lt_length⟩

theorem Shelved.erase (h : Shelved history flows) (htexts : ∀ f ∈ flows, f.id.IsText)
    (id : Json) : Shelved (history ++ [.erase id]) (Store.erase ⟨flows⟩ id).flows := by
  have hmem : ∀ f, f ∈ (Store.erase ⟨flows⟩ id).flows ↔ f ∈ flows ∧ f.id ≠ id :=
    fun f => mem_erase_iff htexts
  have hids : ∀ other, other ∈ (Store.erase ⟨flows⟩ id).flows.map (·.id) ↔
      other ∈ flows.map (·.id) ∧ other ≠ id := by
    intro other
    rw [List.mem_map, List.mem_map]
    constructor
    · rintro ⟨f, hf, rfl⟩
      exact ⟨⟨f, ((hmem f).mp hf).1, rfl⟩, ((hmem f).mp hf).2⟩
    · rintro ⟨⟨f, hf, rfl⟩, hne⟩
      exact ⟨f, (hmem f).mpr ⟨hf, hne⟩, rfl⟩
  have hother : ∀ {other}, other ≠ id → Filing.erase id ≠ .erase other :=
    fun hne heq => hne (Filing.erase.inj heq).symm
  refine ⟨fun {f} => ?_, fun {other} => ?_, fun {other} hin => ?_, ?_⟩
  · rw [hmem, holds_concat_iff, h.mem_iff]
    constructor
    · exact fun hf => .inr ⟨hf.1, fun heq => hf.2 heq.symm⟩
    · rintro (hx | ⟨hf, hne⟩)
      · cases hx
      · exact ⟨hf, fun heq => hne heq.symm⟩
  · rw [hids, isVacant_concat_iff, h.vacant, Filing.erase.injEq]
    constructor
    · rintro (rfl | ⟨hnot, -⟩)
      · exact fun hin => hin.2 rfl
      · exact fun hin => hnot hin.1
    · intro hnot
      by_cases heq : id = other
      · exact .inl heq
      · exact .inr ⟨fun hin => hnot ⟨hin, Ne.symm heq⟩, heq⟩
  · obtain ⟨hin, hne⟩ := (hids other).mp hin
    exact (h.cameIn hin).imp fun n hn => hn.concat (hother hne)
  · have hkept : ((Store.erase ⟨flows⟩ id).flows.map (·.id)).Pairwise (CameInBefore history) :=
      h.ordered.sublist (List.filter_sublist.map _)
    refine hkept.imp_of_mem fun hin hin' hbefore => ?_
    exact hbefore.concat (hother ((hids _).mp hin).2) (hother ((hids _).mp hin').2)

theorem shelved_nil : Shelved [] [] where
  mem_iff {f} := by
    refine ⟨fun hf => (List.not_mem_nil hf).elim, ?_⟩
    rintro ⟨before, later, hsplit, -⟩
    simp at hsplit
  vacant {id} := by
    refine ⟨fun _ => List.not_mem_nil, fun _ before f later hsplit => ?_⟩
    simp at hsplit
  cameIn hid := (List.not_mem_nil hid).elim
  ordered := .nil

theorem shelved_after (h : HasTexts history) : Shelved history (after history).flows := by
  induction history using List.reverseRecOn with
  | nil => exact shelved_nil
  | append_singleton history x ih =>
    have hstep : after (history ++ [x]) = (after history).file x := by
      unfold after
      rw [List.foldl_append]
      rfl
    have hbefore : HasTexts history := fun f hf => h f (List.mem_append_left _ hf)
    have hshelved := ih hbefore
    rw [hstep]
    cases x with
    | put f => exact hshelved.put (h f (by simp)).1
    | erase id =>
      refine hshelved.erase (fun f hf => ?_) id
      obtain ⟨earlier, later, rfl, -⟩ := hshelved.mem_iff.mp hf
      exact (hbefore f (by simp)).1

end Store

/-! ## What is asked for -/

/-- The term stands in the text, in any letter case. -/
def Json.Mentions (j : Json) (term : String) : Prop :=
  ∃ s, j = .str s ∧ (Text.lower term).toList <:+: (Text.lower s).toList

/-- The flow is one of those asked for. A category, a status or a term that is not given asks for
nothing, nor does an empty category or term. -/
structure Flow.IsSought (category : Option String) (status : Option Status)
    (search : Option String) (f : Flow) : Prop where
  ofCategory : ∀ c, category = some c → c ≠ "" → f.category = .str c
  ofStatus : ∀ s, status = some s → f.status = s
  ofSearch : ∀ term, search = some term → term ≠ "" →
    f.name.Mentions term ∨ f.description.Mentions term

namespace Store

theorem mentions_spec {j : Json} (h : j.IsText) (term : String) :
    ∃ b, mentions j (Text.lower term) = .ok b ∧ (b = true ↔ j.Mentions term) := by
  obtain ⟨s, rfl⟩ := h
  refine ⟨_, rfl, ?_⟩
  unfold Text.contains Json.Mentions
  rw [Text.occursIn_iff]
  constructor
  · exact fun hin => ⟨s, rfl, hin⟩
  · rintro ⟨s', heq, hin⟩
    cases heq
    exact hin

theorem found_spec (h : f.IsSearchable) (term : String) :
    ∃ b, found (Text.lower term) f = .ok b ∧
      (b = true ↔ f.name.Mentions term ∨ f.description.Mentions term) := by
  obtain ⟨inName, hname, hinName⟩ := mentions_spec h.name term
  obtain ⟨inDescription, hdescription, hinDescription⟩ := mentions_spec h.description term
  unfold found
  rw [hname, hdescription]
  cases inName with
  | true => exact ⟨true, rfl, by simp [← hinName]⟩
  | false => exact ⟨inDescription, rfl, by simp [← hinName, hinDescription]⟩

theorem filterAll_spec {test : Flow → Outcome Bool} {P : Flow → Prop} {fs : List Flow}
    (h : ∀ f ∈ fs, ∃ b, test f = .ok b ∧ (b = true ↔ P f)) :
    ∃ gs, filterAll test fs = .ok gs ∧ gs.Sublist fs ∧ ∀ f, f ∈ gs ↔ f ∈ fs ∧ P f := by
  induction fs with
  | nil => exact ⟨[], rfl, .slnil, by simp⟩
  | cons f rest ih =>
    obtain ⟨b, hb, hpasses⟩ := h f List.mem_cons_self
    obtain ⟨gs, hgs, hsub, hmem⟩ := ih fun g hg => h g (List.mem_cons_of_mem f hg)
    unfold filterAll
    rw [hb, hgs]
    cases b with
    | true =>
      refine ⟨f :: gs, rfl, hsub.cons_cons f, fun g => ?_⟩
      rw [List.mem_cons, List.mem_cons, hmem, or_and_right]
      exact or_congr_left ⟨fun heq => ⟨heq, heq ▸ hpasses.mp rfl⟩, And.left⟩
    | false =>
      refine ⟨gs, rfl, hsub.cons f, fun g => ?_⟩
      have hnot : ¬ P f := fun hp => Bool.false_ne_true (hpasses.mpr hp)
      rw [hmem, List.mem_cons, or_and_right]
      exact ⟨.inr, Or.rec (fun hg => (hnot (hg.1 ▸ hg.2)).elim) id⟩

theorem fits_iff (category search : Option String) (status : Option Status) (f : Flow) :
    fits ⟨.ofOption category, status, .ofOption search⟩ f = true ↔
      (∀ c, category = some c → c ≠ "" → f.category = .str c) ∧
        ∀ s, status = some s → f.status = s := by
  unfold fits
  rw [Bool.and_eq_true]
  refine and_congr ?_ ?_
  · cases category with
    | none => simp [ofOption, isPresent]
    | some c =>
      rw [ofOption, Bool.or_eq_true, equals_iff_of_right (isText_str c).isWord]
      by_cases hc : c = "" <;> simp [isPresent, hc]
  · cases status <;> simp

/-- The list can be made where a text can be looked for, and it is what is asked for in the stored
order, sorted. -/
theorem list_spec {s : Store} (h : ∀ f ∈ s.flows, f.IsSearchable) (category search : Option String)
    (status : Option Status) :
    ∃ flows : List Flow, s.list ⟨.ofOption category, status, .ofOption search⟩ =
        .ok (flows.mergeSort fun a b => b.updatedAt ≤ a.updatedAt) ∧
      flows.Sublist s.flows ∧
      ∀ f, f ∈ flows ↔ f ∈ s.flows ∧ f.IsSought category status search := by
  unfold list
  dsimp only
  let fitting := s.flows.filter (fits ⟨.ofOption category, status, .ofOption search⟩)
  have hfitting : ∀ f, f ∈ fitting ↔ f ∈ s.flows ∧
      (∀ c, category = some c → c ≠ "" → f.category = .str c) ∧
        ∀ s, status = some s → f.status = s := fun f => by
    rw [List.mem_filter, fits_iff]
  by_cases hsearch : ∃ term, search = some term ∧ term ≠ ""
  · obtain ⟨term, rfl, hterm⟩ := hsearch
    have hfound : ∀ f ∈ fitting, ∃ b, found (Text.lower term) f = .ok b ∧
        (b = true ↔ f.name.Mentions term ∨ f.description.Mentions term) := fun f hf =>
      found_spec (h f (List.mem_of_mem_filter hf)) term
    obtain ⟨flows, hflows, hsub, hmem⟩ := filterAll_spec hfound
    have hpresent : (Json.str term).isPresent = true := by simpa [isPresent] using hterm
    refine ⟨flows, ?_, hsub.trans List.filter_sublist, fun f => ?_⟩
    · rw [if_pos (show (ofOption (some term)).isPresent = true from hpresent)]
      show (do return (← filterAll (found (Text.lower term)) fitting).mergeSort _) = _
      rw [hflows]
      rfl
    · rw [hmem, hfitting]
      constructor
      · rintro ⟨⟨hf, hcategory, hstatus⟩, hfound⟩
        exact ⟨hf, hcategory, hstatus, fun _ heq _ => Option.some.inj heq ▸ hfound⟩
      · rintro ⟨hf, hsought⟩
        exact ⟨⟨hf, hsought.ofCategory, hsought.ofStatus⟩, hsought.ofSearch term rfl hterm⟩
  · have hpresent : ¬ (Json.ofOption search).isPresent = true := by
      cases search <;> simp_all [ofOption, isPresent]
    refine ⟨fitting, ?_, List.filter_sublist, fun f => ?_⟩
    · rw [if_neg hpresent]
      rfl
    · rw [hfitting]
      refine and_congr_right fun _ => ⟨fun hf => ⟨hf.1, hf.2, fun term heq hterm => ?_⟩,
        fun hf => ⟨hf.ofCategory, hf.ofStatus⟩⟩
      exact (hsearch ⟨term, heq, hterm⟩).elim

/-- The newest first, and of two of one time the one that stood first. -/
theorem pairwise_newest {fs : List Flow} {R : Flow → Flow → Prop} (h : fs.Pairwise R) :
    (fs.mergeSort fun a b => b.updatedAt ≤ a.updatedAt).Pairwise fun f g =>
      g.updatedAt < f.updatedAt ∨ g.updatedAt = f.updatedAt ∧ R f g := by
  let newest : Flow → Flow → Bool := fun a b => b.updatedAt ≤ a.updatedAt
  have htrans : ∀ a b c, newest a b = true → newest b c = true → newest a c = true := by
    simp only [newest, decide_eq_true_eq]
    intro a b c hab hbc
    exact Int.le_trans hbc hab
  have htotal : ∀ a b, (newest a b || newest b a) = true := by
    simp only [newest, Bool.or_eq_true, decide_eq_true_eq]
    intro a b
    exact Int.le_total b.updatedAt a.updatedAt
  have hstable : (fs.mergeSort newest).Pairwise _ := pairwise_mergeSort_stable htrans htotal h
  refine hstable.imp fun hle => ?_
  simp only [newest, decide_eq_true_eq] at hle
  rcases Int.lt_or_eq_of_le hle.1 with hlt | heq
  · exact Or.inl hlt
  · exact Or.inr ⟨heq, hle.2 (Int.le_of_eq heq.symm)⟩

/-- Whatever was saved and deleted, with texts for ids, names and descriptions, a list has each stored
flow that is asked for once and nothing else. The last updated stands first, and of two updated at one
time the one whose id came in first. The total that goes out with the list is its length. -/
theorem a_list_has_what_is_stored_and_sought (category search : Option String)
    (status : Option Status) (h : HasTexts history) :
    let filter : Filter := ⟨.ofOption category, status, .ofOption search⟩
    ∃ flows, (after history).list filter = .ok flows ∧ (flows.map (·.id)).Nodup ∧
      (∀ f, f ∈ flows ↔ Holds history f ∧ f.IsSought category status search) ∧
      (∀ f ∈ flows, ∃! n, CameInAt history f.id n) ∧
      flows.Pairwise (fun f g => g.updatedAt < f.updatedAt ∨
        g.updatedAt = f.updatedAt ∧ CameInBefore history f.id g.id) ∧
      ∀ (s : Studio) (query : List (String × String)), s.workspace.store = after history →
        Studio.listFilter query = .good filter →
        s.listFlows query = .ok [("flows", .arr (flows.map fun f => .obj f.summary)),
          ("total", .int flows.length)] := by
  intro filter
  have hshelved := shelved_after h
  have hsearchable : ∀ f ∈ (after history).flows, f.IsSearchable := by
    intro f hf
    obtain ⟨before, later, hsplit, -⟩ := hshelved.mem_iff.mp hf
    exact (h f (by simp [hsplit])).2
  obtain ⟨sought, hlist, hsub, hmem⟩ := list_spec hsearchable category search status
  have hperm : (sought.mergeSort fun a b => b.updatedAt ≤ a.updatedAt).Perm sought :=
    List.mergeSort_perm ..
  have hmem' : ∀ f, f ∈ sought.mergeSort (fun a b => b.updatedAt ≤ a.updatedAt) ↔
      Holds history f ∧ f.IsSought category status search := by
    intro f
    rw [hperm.mem_iff, hmem, hshelved.mem_iff]
  refine ⟨_, hlist, ?_, hmem', fun f hf => ?_, ?_, fun s query hs hquery => ?_⟩
  · exact (hperm.map _).nodup_iff.mpr (hshelved.nodup.sublist (hsub.map _))
  · have hstored := List.mem_map_of_mem (f := (·.id)) (hshelved.mem_iff.mpr ((hmem' f).mp hf).1)
    obtain ⟨n, hn⟩ := hshelved.cameIn hstored
    exact ⟨n, hn, fun n' hn' => hn'.unique hn⟩
  · have horder : sought.Pairwise fun f g => CameInBefore history f.id g.id :=
      List.pairwise_map.mp (hshelved.ordered.sublist (hsub.map _))
    exact pairwise_newest horder
  · unfold Studio.listFlows
    rw [hquery, hs]
    dsimp only
    rw [hlist]
    rfl

/-- A flow without nodes. -/
def leaflet (id name category : String) (updatedAt : Int) : Flow :=
  { id := .str id, name := .str name, description := .str "", category := .str category,
    status := .draft, label := .str "0.1", nodes := [], edges := [], createdAt := 0, updatedAt }

/-- A flow that is deleted and saved again, and one that is saved over. -/
def leaflets : List Filing :=
  [.put (leaflet "a" "Alpha" "care" 5), .put (leaflet "b" "Beta" "care" 5),
    .put (leaflet "c" "Gamma" "care" 7), .put (leaflet "d" "Delta" "sales" 6), .erase (.str "a"),
    .put (leaflet "a" "Alpha" "care" 5), .put (leaflet "b" "BETA" "care" 5)]

/-- So it is with them: what was saved over keeps its place, and what was deleted does not. -/
theorem leaflets_are_listed : HasTexts leaflets ∧
    ((after leaflets).list ⟨.str "care", some .draft, .str "A"⟩).toOption.map
      (·.map fun f => (f.id.text, f.name.text)) =
        some [("c", "Gamma"), ("b", "BETA"), ("a", "Alpha")] ∧
    ∃ flows, (after leaflets).list ⟨.str "care", some .draft, .str "A"⟩ = .ok flows ∧
      flows.Pairwise (fun f g => g.updatedAt < f.updatedAt ∨
        g.updatedAt = f.updatedAt ∧ CameInBefore leaflets f.id g.id) := by
  have htexts : HasTexts leaflets := by
    intro f hf
    simp only [leaflets, List.mem_cons, Filing.put.injEq, reduceCtorEq, List.not_mem_nil, or_false,
      false_or] at hf
    rcases hf with rfl | rfl | rfl | rfl | rfl | rfl <;>
      exact ⟨isText_str _, isText_str _, isText_str _⟩
  have hsorted : ([leaflet "b" "BETA" "care" 5, leaflet "c" "Gamma" "care" 7,
      leaflet "a" "Alpha" "care" 5].mergeSort fun f g => g.updatedAt ≤ f.updatedAt) =
        [leaflet "c" "Gamma" "care" 7, leaflet "b" "BETA" "care" 5,
          leaflet "a" "Alpha" "care" 5] := by
    simp [List.mergeSort, List.MergeSort.Internal.splitInTwo, leaflet]
  have hfound : (after leaflets).list ⟨.str "care", some .draft, .str "A"⟩ = .ok _ :=
    congrArg Except.ok hsorted
  obtain ⟨flows, hlist, -, -, -, hordered, -⟩ :=
    a_list_has_what_is_stored_and_sought (some "care") (some "A") (some .draft) htexts
  refine ⟨htexts, ?_, flows, hlist, hordered⟩
  rw [hfound]
  rfl

end Store

end Dialogue
