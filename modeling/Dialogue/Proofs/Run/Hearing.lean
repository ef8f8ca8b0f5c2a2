-- What listeners hear. Whatever the others do, a listener that stays hears each event of the run once.
-- It hears them in the order of the log unless one that stands before it hangs up: the end of the
-- call is then told before the event at which it was ended.
import Dialogue.Proofs.Run.Callbacks
import Dialogue.Proofs.Run.Persistence
import Mathlib.Data.List.Infix

namespace Dialogue

/-- The listeners that came under a name. -/
def named (name : String) (ls : List Listener) : List Listener := ls.filter (·.name == name)

/-- The listeners before the first one of a name. -/
def ahead (name : String) (ls : List Listener) : List Listener := ls.takeWhile (·.name != name)

section

variable {name : String} {ls : List Listener} {l : Listener}

theorem named_cons_self (h : l.name = name) : named name (l :: ls) = l :: named name ls :=
  List.filter_cons_of_pos (by simpa using h)

theorem named_cons_other (h : l.name ≠ name) : named name (l :: ls) = named name ls :=
  List.filter_cons_of_neg (by simpa using h)

theorem ahead_cons_other (h : l.name ≠ name) : ahead name (l :: ls) = l :: ahead name ls :=
  List.takeWhile_cons_of_pos (by simpa using h)

theorem ahead_cons_self (h : l.name = name) : ahead name (l :: ls) = [] :=
  List.takeWhile_cons_of_neg (by simpa using h)

/-- Nobody comes to stand before a listener when another one leaves. -/
theorem mem_ahead_of_eraseP {test : Listener → Bool}
    (hstays : (named name (ls.eraseP test)).length = (named name ls).length)
    (hl : l ∈ ahead name (ls.eraseP test)) : l ∈ ahead name ls := by
  induction ls with
  | nil => exact hl
  | cons m rest ih =>
    by_cases hm : m.name = name
    · by_cases htest : test m
      · rw [List.eraseP_cons_of_pos htest, named_cons_self hm, List.length_cons] at hstays
        omega
      · rw [List.eraseP_cons_of_neg htest, ahead_cons_self hm] at hl
        cases hl
    · rw [ahead_cons_other hm]
      by_cases htest : test m
      · rw [List.eraseP_cons_of_pos htest] at hl
        exact List.mem_cons_of_mem m hl
      · rw [List.eraseP_cons_of_neg htest, named_cons_other hm, named_cons_other hm] at hstays
        rw [List.eraseP_cons_of_neg htest, ahead_cons_other hm] at hl
        rcases List.mem_cons.mp hl with rfl | hl
        · exact List.mem_cons_self
        · exact List.mem_cons_of_mem m (ih hstays hl)

theorem named_map {change : Listener → Listener} (hname : ∀ l, (change l).name = l.name) :
    named name (ls.map change) = (named name ls).map change := by
  unfold named
  rw [List.filter_map]
  simp only [Function.comp_def, hname]

theorem ahead_map {change : Listener → Listener} (hname : ∀ l, (change l).name = l.name) :
    ahead name (ls.map change) = (ahead name ls).map change := by
  unfold ahead
  rw [List.takeWhile_map]
  simp only [Function.comp_def, hname]

/-- Who comes later stands behind a listener that is there. -/
theorem ahead_append (h : named name ls ≠ []) (more : List Listener) :
    ahead name (ls ++ more) = ahead name ls := by
  induction ls with
  | nil => exact absurd rfl h
  | cons l rest ih =>
    rw [List.cons_append]
    by_cases hl : l.name = name
    · rw [ahead_cons_self hl, ahead_cons_self hl]
    · rw [named_cons_other hl] at h
      rw [ahead_cons_other hl, ahead_cons_other hl, ih h]

end

theorem Log.since_push {α : Type} {l : Log α} {place : Nat} (h : place ≤ l.size) (a : α) :
    (l.push a).since place = l.since place ++ [a] := by
  rw [since_eq_drop, since_eq_drop, toList_push, List.drop_append_of_le_length]
  rw [length_toList]
  exact h

namespace Session

/-- What has been heard under a name from a place on. -/
def heardBy (s : Session) (name : String) (place : Nat) : List Event :=
  ((s.heard.since place).filter (·.1 == name)).map (·.2)

/-! ## One listener and one run -/

/-- A listener by its name, and a run: how much had been heard before it, how many runs there have
been with it, and its channel. The cues are those of listeners before this one that hang up. -/
structure Ear where
  name : String
  place : Nat
  runs : Nat
  channel : Channel
  cues : Json → Prop

namespace Ear

variable {x : Ear} {s t : Session} {rel : List Event → List Event → Prop} {late : List Event}

/-- The events that the listener has heard and those it is late for are the log of the run, in the
way that the relation says. -/
structure Attends (x : Ear) (rel : List Event → List Event → Prop) (late : List Event)
    (s : Session) : Prop where
  place : x.place ≤ s.heard.size
  runs : s.runs = x.runs
  channel : s.run.channel = some .voice → x.channel = .voice
  once : (named x.name s.listeners).length ≤ 1
  cues : (named x.name s.listeners).length = 1 → ∀ l ∈ ahead x.name s.listeners,
    l.reaction = some .hangUp → x.cues l.cue
  told : (named x.name s.listeners).length = 1 →
    rel (s.heardBy x.name x.place ++ late) s.run.events.toList

namespace Attends

theorem gone (h : x.Attends rel late s) (hnot : (named x.name s.listeners).length ≠ 1) :
    named x.name s.listeners = [] := by
  have honce := h.once
  rw [← List.length_eq_zero_iff]
  omega

theorem setRun (h : x.Attends rel late s) {change : Run → Run}
    (hevents : (change s.run).events = s.run.events)
    (hchannel : (change s.run).channel = s.run.channel) :
    x.Attends rel late (s.setRun change) where
  place := h.place
  runs := h.runs
  channel hvoice := h.channel (hchannel.symm.trans hvoice)
  once := h.once
  cues := h.cues
  told hone := by
    have htold := h.told hone
    rw [← hevents] at htold
    exact htold

theorem dismiss (h : x.Attends rel late s) (name : String) :
    x.Attends rel late (s.dismiss name) := by
  have hle : (named x.name (s.dismiss name).listeners).length ≤
      (named x.name s.listeners).length := (List.eraseP_sublist.filter _).length_le
  have hsame : (named x.name (s.dismiss name).listeners).length = 1 →
      (named x.name s.listeners).length = 1 := fun hone => by
    have honce := h.once
    omega
  exact
    { place := h.place
      runs := h.runs
      channel := h.channel
      once := hle.trans h.once
      cues := fun hone l hl => h.cues (hsame hone) l
        (mem_ahead_of_eraseP (hone.trans (hsame hone).symm) hl)
      told := fun hone => h.told (hsame hone) }

theorem heard_other (h : x.Attends rel late s) {name : String} (hname : name ≠ x.name) (e : Event) :
    x.Attends rel late { s with heard := s.heard.push (name, e) } where
  place := Nat.le_succ_of_le h.place
  runs := h.runs
  channel := h.channel
  once := h.once
  cues := h.cues
  told hone := by
    have htold := h.told hone
    unfold heardBy at htold ⊢
    rw [Log.since_push h.place, List.filter_append, List.filter_cons_of_neg (by simpa using hname)]
    simpa using htold

theorem heard_own {e : Event} (h : x.Attends rel (e :: late) s) :
    x.Attends rel late { s with heard := s.heard.push (x.name, e) } where
  place := Nat.le_succ_of_le h.place
  runs := h.runs
  channel := h.channel
  once := h.once
  cues := h.cues
  told hone := by
    have htold := h.told hone
    unfold heardBy at htold ⊢
    rw [Log.since_push h.place, List.filter_append, List.filter_cons_of_pos (by simp)]
    simpa using htold

/-- A new event is one more that the listener is late for, where it is added to both sides of the
relation. -/
theorem logged (h : x.Attends rel late s) (n : Notice)
    (hrel : ∀ heard log e, rel (heard ++ late) log → rel (heard ++ e :: late) (log ++ [e])) :
    x.Attends rel (⟨Ids.full s.nextEvent, s.now, n⟩ :: late) (s.logged n) where
  place := h.place
  runs := h.runs
  channel := h.channel
  once := h.once
  cues := h.cues
  told hone := by
    have htold := hrel _ _ ⟨Ids.full s.nextEvent, s.now, n⟩ (h.told hone)
    rw [← Log.toList_push] at htold
    exact htold

theorem logged_absent (h : x.Attends rel late s) (n : Notice)
    (hnone : (named x.name s.listeners).length ≠ 1) : x.Attends rel late (s.logged n) where
  place := h.place
  runs := h.runs
  channel := h.channel
  once := h.once
  cues hone := absurd hone hnone
  told hone := absurd hone hnone

end Attends

/-! ## An event told -/

/-- A property of sessions and of the events that the listener is late for, which lasts while an event
is told, unless somebody hangs up. -/
structure Listens (x : Ear) (P : List Event → Session → Prop) : Prop where
  other : ∀ {late s name e}, name ≠ x.name → P late s →
    P late { s with heard := s.heard.push (name, e) }
  own : ∀ {late s e}, P (e :: late) s → P late { s with heard := s.heard.push (x.name, e) }
  reset : ∀ {late s}, P late s → P late s.reset
  dismiss : ∀ {late s} (name : String), P late s → P late (s.dismiss name)

namespace Listens

variable {P : List Event → Session → Prop} (hP : x.Listens P) {hang : Session → Session} {e : Event}
  {l : Listener} {ls : List Listener}

include hP

theorem react (h : P late s) (hhang : l.reaction = some .hangUp → P late (hang s)) :
    P late (s.react hang l) := by
  unfold Session.react
  split
  · exact h
  · exact h
  · rename_i hreaction
    exact hhang hreaction
  · exact hP.reset h
  · exact hP.dismiss _ h

theorem hear_other (h : P late s) (hl : l.name ≠ x.name) (hhang : l.reaction = some .hangUp →
    e.notice.holds l.cue = true → ∀ t, P late t → P late (hang t)) :
    P late (Session.hear hang e s l) := by
  have hheard := hP.other (e := e) hl h
  unfold Session.hear
  dsimp only
  split
  · rename_i hholds
    exact hP.react hheard fun hreaction => hhang hreaction hholds _ hheard
  · exact hheard

theorem hear_own (h : P (e :: late) s) (hl : l.name = x.name)
    (hhang : ∀ t, P late t → P late (hang t)) : P late (Session.hear hang e s l) := by
  have hheard : P late { s with heard := s.heard.push (l.name, e) } := by
    rw [hl]
    exact hP.own h
  unfold Session.hear
  dsimp only
  split
  · exact hP.react hheard fun _ => hhang _ hheard
  · exact hheard

theorem foldl_others (h : P late s) (hls : named x.name ls = [])
    (hhang : ∀ t, P late t → P late (hang t)) : P late (ls.foldl (Session.hear hang e) s) := by
  induction ls generalizing s with
  | nil => exact h
  | cons l rest ih =>
    by_cases hl : l.name = x.name
    · rw [named_cons_self hl] at hls
      cases hls
    · rw [named_cons_other hl] at hls
      exact ih (hP.hear_other h hl fun _ _ => hhang) hls

/-- The listener is late for the event until it is its turn. -/
theorem foldl_hear (h : P (e :: late) s) (hone : (named x.name ls).length = 1)
    (hahead : ∀ l ∈ ahead x.name ls, l.reaction = some .hangUp → e.notice.holds l.cue = true →
      ∀ t, P (e :: late) t → P (e :: late) (hang t))
    (hhang : ∀ t, P late t → P late (hang t)) : P late (ls.foldl (Session.hear hang e) s) := by
  induction ls generalizing s with
  | nil => cases hone
  | cons l rest ih =>
    by_cases hl : l.name = x.name
    · rw [named_cons_self hl, List.length_cons, Nat.add_eq_right, List.length_eq_zero_iff] at hone
      rw [List.foldl_cons]
      exact hP.foldl_others (hP.hear_own h hl hhang) hone hhang
    · rw [named_cons_other hl] at hone
      rw [ahead_cons_other hl] at hahead
      refine ih (hP.hear_other h hl (hahead l List.mem_cons_self)) hone fun m hm => ?_
      exact hahead m (List.mem_cons_of_mem l hm)

end Listens

/-! ## Each event once -/

/-- The listener has heard each event of the run once but those it is late for, or the run is gone. -/
def Hears (x : Ear) (late : List Event) (s : Session) : Prop :=
  x.runs < s.runs ∨ x.Attends List.Perm late s

theorem perm_push (late heard log : List Event) (e : Event) (h : (heard ++ late).Perm log) :
    (heard ++ e :: late).Perm (log ++ [e]) :=
  List.perm_middle.trans ((h.cons e).trans (List.perm_append_singleton e log).symm)

theorem Hears.le (h : x.Hears late s) : x.runs ≤ s.runs :=
  h.elim Nat.le_of_lt fun h => Nat.le_of_eq h.runs.symm

theorem listens_hears (x : Ear) : x.Listens x.Hears where
  other hname h := h.imp id fun h => h.heard_other hname _
  own h := h.imp id fun h => h.heard_own
  reset h := Or.inl (Nat.lt_succ_of_le h.le)
  dismiss name h := h.imp id fun h => h.dismiss name

theorem Hears.setRun (h : x.Hears late s) {change : Run → Run}
    (hevents : (change s.run).events = s.run.events)
    (hchannel : (change s.run).channel = s.run.channel) : x.Hears late (s.setRun change) :=
  h.imp id fun h => h.setRun hevents hchannel

theorem Hears.post (h : x.Hears late s) {hang : Session → Session}
    (hadvances : ∀ t, Advances t (hang t))
    (hhang : ∀ late t, x.Hears late t → x.Hears late (hang t)) (n : Notice) :
    x.Hears late (s.post hang n) := by
  rcases h with hgone | h
  · exact Or.inl (Nat.lt_of_lt_of_le hgone (advances_post hadvances s n).runs)
  · by_cases hone : (named x.name s.listeners).length = 1
    · have hlogged : x.Hears _ (s.logged n) := Or.inr (h.logged n (perm_push late))
      exact (listens_hears x).foldl_hear hlogged hone (fun _ _ _ _ => hhang _) (hhang late)
    · exact (listens_hears x).foldl_others (Or.inr (h.logged_absent n hone)) (h.gone hone)
        (hhang late)

theorem Hears.nestedHangUp (depth : Nat) (late : List Event) (s : Session) (h : x.Hears late s) :
    x.Hears late (Session.nestedHangUp depth s) := by
  induction depth generalizing late s with
  | zero => exact h
  | succ depth ih =>
    cases hcan : s.canHangUp with
    | false =>
      rw [Session.nestedHangUp, endCallWith_of_not_canHangUp _ hcan]
      exact h
    | true =>
      have hraised : x.Hears late { s.setRun fun r => { r with waiting := none } with
          generation := s.generation + 1 } :=
        h.imp id fun h => ⟨h.place, h.runs, h.channel, h.once, h.cues, h.told⟩
      rw [Session.nestedHangUp, endCallWith, if_pos hcan]
      exact ((hraised.setRun rfl rfl).post (advances_nestedHangUp depth) ih _).setRun rfl rfl

/-! ## In the order of the log -/

/-- On an event of the run, a call could be hung up before the listener was told of the event, or the
run is gone. -/
def Forestalled (x : Ear) (s : Session) : Prop :=
  x.runs < s.runs ∨ s.runs = x.runs ∧ x.channel = .voice ∧
    ∃ e ∈ s.run.events.toList, ∃ cue, x.cues cue ∧ e.notice.holds cue = true

theorem Forestalled.le (h : x.Forestalled s) : x.runs ≤ s.runs :=
  h.elim Nat.le_of_lt fun h => Nat.le_of_eq h.1.symm

theorem robust_forestalled (x : Ear) (n : Notice) : Robust n x.Forestalled where
  heard _ h := h
  reset h := Or.inl (Nat.lt_succ_of_le h.le)
  dismiss _ h := h

theorem Forestalled.logged (h : x.Forestalled s) (n : Notice) : x.Forestalled (s.logged n) := by
  rcases h with hgone | ⟨hruns, hvoice, e, he, hcue⟩
  · exact Or.inl hgone
  · refine Or.inr ⟨hruns, hvoice, e, ?_, hcue⟩
    rw [Session.logged, Log.toList_push]
    exact List.mem_append_left _ he

theorem Forestalled.setRun (h : x.Forestalled s) {change : Run → Run}
    (hevents : (change s.run).events = s.run.events) : x.Forestalled (s.setRun change) := by
  unfold Forestalled at h ⊢
  rw [← hevents] at h
  exact h

theorem Forestalled.post (h : x.Forestalled s) {hang : Session → Session}
    (hhang : ∀ t, x.Forestalled t → x.Forestalled (hang t)) (n : Notice) :
    x.Forestalled (s.post hang n) :=
  (robust_forestalled x n).post (h.logged n) (Or.inr hhang)

theorem Forestalled.nestedHangUp (depth : Nat) (s : Session) (h : x.Forestalled s) :
    x.Forestalled (Session.nestedHangUp depth s) := by
  refine nestedHangUp_keeps (fun {hang t} hhang hcan ht => ?_) depth s h
  have hraised : x.Forestalled { t.setRun fun r => { r with waiting := none } with
      generation := t.generation + 1 } := ht
  rw [endCallWith, if_pos hcan]
  exact ((hraised.setRun rfl).post hhang _).setRun rfl

/-- The listener has heard the events of the run in order but those it is late for, unless it was
forestalled. -/
def InOrder (x : Ear) (late : List Event) (s : Session) : Prop :=
  x.Forestalled s ∨ x.Attends Eq late s

theorem InOrder.le (h : x.InOrder late s) : x.runs ≤ s.runs :=
  h.elim (·.le) fun h => Nat.le_of_eq h.runs.symm

theorem listens_inOrder (x : Ear) : x.Listens x.InOrder where
  other hname h := h.imp id fun h => h.heard_other hname _
  own h := h.imp id fun h => h.heard_own
  reset h := Or.inl (Or.inl (Nat.lt_succ_of_le h.le))
  dismiss name h := h.imp id fun h => h.dismiss name

theorem InOrder.setRun (h : x.InOrder late s) {change : Run → Run}
    (hevents : (change s.run).events = s.run.events)
    (hchannel : (change s.run).channel = s.run.channel) : x.InOrder late (s.setRun change) :=
  h.imp (fun h => h.setRun hevents) fun h => h.setRun hevents hchannel

/-- The listener is told of an event in its turn, or is forestalled. -/
theorem InOrder.post (h : x.InOrder [] s) {depth : Nat}
    (hhang : ∀ t, x.InOrder [] t → x.InOrder [] (Session.nestedHangUp depth t)) (n : Notice) :
    x.InOrder [] (s.post (Session.nestedHangUp depth) n) := by
  rcases h with hforestalled | h
  · exact Or.inl (hforestalled.post (Forestalled.nestedHangUp depth) n)
  · by_cases hone : (named x.name s.listeners).length = 1
    · by_cases hcue : x.channel = .voice ∧ ∃ cue, x.cues cue ∧ n.holds cue = true
      · obtain ⟨hvoice, cue, hmem, hholds⟩ := hcue
        have hlogged : x.Forestalled (s.logged n) := by
          refine Or.inr ⟨h.runs, hvoice, ⟨Ids.full s.nextEvent, s.now, n⟩, ?_, cue, hmem, hholds⟩
          rw [Session.logged, Log.toList_push]
          exact List.mem_append_right _ List.mem_cons_self
        exact Or.inl ((robust_forestalled x n).post hlogged
          (Or.inr (Forestalled.nestedHangUp depth)))
      · have hlogged : x.InOrder [⟨Ids.full s.nextEvent, s.now, n⟩] (s.logged n) := by
          refine Or.inr (h.logged n fun heard log e heq => ?_)
          rw [List.append_nil] at heq
          rw [heq]
        refine (listens_inOrder x).foldl_hear hlogged hone ?_ hhang
        intro l hl hreaction hholds t ht
        have hchat : x.channel ≠ .voice := fun hvoice =>
          hcue ⟨hvoice, l.cue, h.cues hone l hl hreaction, hholds⟩
        rcases ht with ht | ht
        · exact Or.inl (ht.nestedHangUp depth)
        · have hcannot : t.canHangUp = false := by
            have hnot : t.run.channel ≠ some .voice := fun hvoice => hchat (ht.channel hvoice)
            simp [canHangUp, hnot]
          have hsame : Session.nestedHangUp depth t = t := by
            cases depth with
            | zero => rfl
            | succ depth => exact endCallWith_of_not_canHangUp _ hcannot
          rw [hsame]
          exact Or.inr ht
    · exact (listens_inOrder x).foldl_others (Or.inr (h.logged_absent n hone)) (h.gone hone) hhang

theorem InOrder.nestedHangUp (depth : Nat) (s : Session) (h : x.InOrder [] s) :
    x.InOrder [] (Session.nestedHangUp depth s) := by
  induction depth generalizing s with
  | zero => exact h
  | succ depth ih =>
    rw [Session.nestedHangUp, endCallWith]
    split
    · have hraised : x.InOrder [] { s.setRun fun r => { r with waiting := none } with
          generation := s.generation + 1 } :=
        h.imp id fun h => ⟨h.place, h.runs, h.channel, h.once, h.cues, h.told⟩
      exact ((hraised.setRun rfl rfl).post ih _).setRun rfl rfl
    · exact h

/-! ## Through a run -/

/-- Whoever comes, the listener that was there goes on as it did. -/
theorem Attends.subscribe (h : x.Attends rel late s) (l : Listener)
    (hone : (named x.name s.listeners).length = 1) : x.Attends rel late (s.subscribe l) ∨
      (named x.name (s.subscribe l).listeners).length ≠ 1 := by
  let outdate (o : Listener) : Listener := if o.name == l.name then { o with latest := false } else o
  have hname : ∀ o, (outdate o).name = o.name := fun o => by
    dsimp only [outdate]
    split <;> rfl
  have hcue : ∀ o, (outdate o).cue = o.cue := fun o => by
    dsimp only [outdate]
    split <;> rfl
  have hreaction : ∀ o, (outdate o).reaction = o.reaction := fun o => by
    dsimp only [outdate]
    split <;> rfl
  have hlisteners : (s.subscribe l).listeners = s.listeners.map outdate ++ [l] := rfl
  by_cases hnew : (named x.name (s.subscribe l).listeners).length = 1
  · refine Or.inl ⟨h.place, h.runs, h.channel, Nat.le_of_eq hnew, fun _ m hm hhangs => ?_,
      fun _ => h.told hone⟩
    have hsome : named x.name (s.listeners.map outdate) ≠ [] := by
      rw [named_map hname, ← List.length_pos_iff, List.length_map, hone]
      exact Nat.one_pos
    rw [hlisteners, ahead_append hsome, ahead_map hname] at hm
    obtain ⟨o, ho, rfl⟩ := List.mem_map.mp hm
    rw [hreaction] at hhangs
    rw [hcue]
    exact h.cues hone o ho hhangs
  · exact Or.inr hnew

theorem Hears.subscribe (h : x.Hears late s) (l : Listener)
    (hone : (named x.name s.listeners).length = 1) :
    x.Hears late (s.subscribe l) ∨ (named x.name (s.subscribe l).listeners).length ≠ 1 :=
  h.elim (fun hgone => Or.inl (Or.inl hgone)) fun h => (h.subscribe l hone).imp Or.inr id

theorem InOrder.subscribe (h : x.InOrder late s) (l : Listener)
    (hone : (named x.name s.listeners).length = 1) :
    x.InOrder late (s.subscribe l) ∨ (named x.name (s.subscribe l).listeners).length ≠ 1 :=
  h.elim (fun h => Or.inl (Or.inl h)) fun h => (h.subscribe l hone).imp Or.inr id

theorem endures_hears (x : Ear) : Endures (x.Hears []) where
  setRun hevents hchannel h := h.setRun hevents hchannel
  dice _ h := h.imp id fun h => ⟨h.place, h.runs, h.channel, h.once, h.cues, h.told⟩
  emit n h := h.post (advances_nestedHangUp deepest) (Hears.nestedHangUp deepest) n
  now _ h := h.imp id fun h => ⟨h.place, h.runs, h.channel, h.once, h.cues, h.told⟩
  reset h := (listens_hears x).reset h
  dismiss name h := (listens_hears x).dismiss name h
  endCall h := h.nestedHangUp (deepest + 1)
  outset _ _ h := Or.inl (Nat.lt_succ_of_le h.le)

theorem endures_inOrder (x : Ear) : Endures (x.InOrder []) where
  setRun hevents hchannel h := h.setRun hevents hchannel
  dice _ h := h.imp id fun h => ⟨h.place, h.runs, h.channel, h.once, h.cues, h.told⟩
  emit n h := h.post (InOrder.nestedHangUp deepest) n
  now _ h := h.imp id fun h => ⟨h.place, h.runs, h.channel, h.once, h.cues, h.told⟩
  reset h := (listens_inOrder x).reset h
  dismiss name h := (listens_inOrder x).dismiss name h
  endCall h := h.nestedHangUp (deepest + 1)
  outset _ _ h := Or.inl (Or.inl (Nat.lt_succ_of_le h.le))

/-! ## Before a run -/

/-- A listener before a run of a channel is started. -/
def before (s : Session) (name : String) (channel : Channel) : Ear :=
  ⟨name, s.heard.size, s.runs + 1, channel, fun cue =>
    ∃ l ∈ ahead name s.listeners, l.reaction = some .hangUp ∧ l.cue = cue⟩

/-- Of a new run nothing has been told and nothing heard. -/
theorem attends_before {name : String} (hone : (named name s.listeners).length = 1)
    (channel : Channel) {run : Run} (hempty : run.events.toList = [])
    (hchannel : run.channel = some .voice → channel = .voice) (generation : Nat)
    (hrel : rel [] []) : (before s name channel).Attends rel []
      { s with run, runs := s.runs + 1, generation } where
  place := Nat.le_refl _
  runs := rfl
  channel := hchannel
  once := Nat.le_of_eq hone
  cues _ l hl hreaction := ⟨l, hl, hreaction, rfl⟩
  told _ := by
    have hnothing : s.heard.since s.heard.size = [] := by simp [Log.since]
    simp only [heardBy, before, hnothing, hempty]
    exact hrel

end Ear

end Session

/-! ## The law -/

namespace Bench

variable {lab : Lab} {b : Bench}

/-- One listener of the name is there from the beginning of the history to its end. -/
def Stays (lab : Lab) (b : Bench) (name : String) (history : List (Moment × Incident)) : Prop :=
  ∀ part, part <+: history → (named name (b.outcome lab part).session.listeners).length = 1

theorem Stays.here {name : String} {history : List (Moment × Incident)}
    (h : b.Stays lab name history) : (named name b.session.listeners).length = 1 :=
  h [] List.nil_prefix

theorem Stays.tail {name : String} {i : Moment × Incident} {rest : List (Moment × Incident)}
    (h : b.Stays lab name (i :: rest)) : (b.undergo lab i.1 i.2).Stays lab name rest :=
  fun part hpart => h (i :: part) (List.cons_prefix_cons.mpr ⟨rfl, hpart⟩)

/-- A property that only a new listener of the name could take away lasts while one of the name
stays. -/
theorem endures_outcome {P : Session → Prop} (hP : Session.Endures P) {name : String}
    (hcomes : ∀ s l, P s → (named name s.listeners).length = 1 →
      P (s.subscribe l) ∨ (named name (s.subscribe l).listeners).length ≠ 1)
    {history : List (Moment × Incident)} (h : P b.session) (hstays : b.Stays lab name history) :
    P (b.outcome lab history).session := by
  induction history generalizing b with
  | nil => exact h
  | cons i rest ih =>
    refine ih (endures_undergo hP h i.1 fun l hl => ?_) hstays.tail
    have hafter : (named name (b.undergo lab i.1 i.2).session.listeners).length = 1 :=
      hstays.tail.here
    have hsubscribed : (b.undergo lab i.1 i.2).session.listeners =
        ((b.atMoment i.1).session.subscribe l).listeners := by
      rcases i with ⟨now, _ | m⟩
      · rename_i happening
        cases happening <;> cases hl
        rfl
      · cases hl
        rfl
    rw [hsubscribed] at hafter
    exact (hcomes _ l (hP.now i.1.1 h) hstays.here).resolve_right (not_not_intro hafter)

/-- Such a property holds after a history that begins with the start of a run, if the new run has
it. -/
theorem endures_from_start {P : Session → Prop} (hP : Session.Endures P) {name : String}
    (hcomes : ∀ s l, P s → (named name s.listeners).length = 1 →
      P (s.subscribe l) ∨ (named name (s.subscribe l).listeners).length ≠ 1)
    {now : Moment} {f : Flow} {channel : Channel} {later : List (Moment × Incident)}
    (hreset : P (b.atMoment now).session.reset)
    (houtset : P ((b.atMoment now).session.atOutset f channel))
    (hstays : b.Stays lab name ((now, .happens (.start f channel)) :: later)) :
    P (b.outcome lab ((now, .happens (.start f channel)) :: later)).session :=
  endures_outcome (b := b.undergo lab now (.happens (.start f channel))) hP hcomes
    (persists_start (b := b.atMoment now) hP.toPersists now.2 hreset houtset) hstays.tail

/-- Take any history in which anyone may listen, and a run that is started and not replaced or discarded
in the rest of it. A listener that is there all the time hears each event of the run once. Unless
one that stands before it hangs up a call at an event of the run, it hears them in the order of the
log. Hang-ups are taken to nest less deep than `Session.deepest`. At that depth the call stack is
used up, and one that listens behind the innermost hang-up may miss an event for want of room. -/
theorem a_listener_that_stays_hears_each_event_once (lab : Lab) (dice : Dice)
    (before later : List (Moment × Incident)) (now : Moment) (f : Flow) (channel : Channel)
    (name : String)
    (hstays : ((fresh dice).outcome lab before).Stays lab name
      ((now, .happens (.start f channel)) :: later))
    (hruns : (((fresh dice).outcome lab before).outcome lab
      ((now, .happens (.start f channel)) :: later)).session.runs =
        ((fresh dice).outcome lab before).session.runs + 1) :
    let b := (fresh dice).outcome lab before
    let b' := b.outcome lab ((now, .happens (.start f channel)) :: later)
    let heard := b'.session.heardBy name b.session.heard.size
    let log := b'.session.run.events.toList
    heard.Perm log ∧
      ((channel = .voice → ∀ l ∈ ahead name b.session.listeners, l.reaction = some .hangUp →
        ∀ e ∈ log, e.notice.holds l.cue = false) → heard = log) := by
  intro b b' heard log
  let x := Session.Ear.before (b.atMoment now).session name channel
  have hafter : (named name b'.session.listeners).length = 1 := hstays _ List.prefix_rfl
  have hbegun : ∀ rel : List Event → List Event → Prop, rel [] [] →
      x.Attends rel [] (b.atMoment now).session.reset ∧
      x.Attends rel [] ((b.atMoment now).session.atOutset f channel) := by
    intro rel hrel
    have hone : (named name (b.atMoment now).session.listeners).length = 1 := hstays.here
    have hnew : ∀ run : Run, run.events = {} → (run.channel = some .voice → channel = .voice) →
        x.Attends rel [] { (b.atMoment now).session.reset with run } := by
      intro run hempty hchannel
      exact Session.Ear.attends_before hone channel (congrArg Log.toList hempty) hchannel _ hrel
    exact ⟨hnew {} rfl fun hvoice => (by cases hvoice), hnew _ rfl Option.some.inj⟩
  constructor
  · obtain ⟨hreset, houtset⟩ := hbegun List.Perm List.Perm.nil
    have hheard : x.Hears [] b'.session :=
      endures_from_start (Session.Ear.endures_hears x) (fun _ l h => h.subscribe l) (Or.inr hreset)
        (Or.inr houtset) hstays
    rcases hheard with hgone | hheard
    · exact absurd hruns (Nat.ne_of_gt hgone)
    · have htold := hheard.told hafter
      rwa [List.append_nil] at htold
  · intro hspared
    obtain ⟨hreset, houtset⟩ := hbegun Eq rfl
    have hheard : x.InOrder [] b'.session :=
      endures_from_start (Session.Ear.endures_inOrder x) (fun _ l h => h.subscribe l)
        (Or.inr hreset) (Or.inr houtset) hstays
    rcases hheard with (hgone | ⟨-, hvoice, e, he, cue, ⟨l, hl, hreaction, rfl⟩, hholds⟩) | hheard
    · exact absurd hruns (Nat.ne_of_gt hgone)
    · rw [hspared hvoice l hl hreaction e he] at hholds
      cases hholds
    · have htold := hheard.told hafter
      rwa [List.append_nil] at htold

/-- Before the listener one fails at each event and one leaves at the first, and behind it one hangs
up when the question is announced. -/
theorem a_listener_before_one_that_hangs_up_hears_in_order :
    let before : List (Moment × Incident) :=
      [(newYear, .joins { name := "broken", reaction := some .fail }),
        (newYear, .joins { name := "shy", reaction := some (.leave none) }),
        (newYear, .joins { name := "ear" }),
        (newYear, .joins { name := "boss", cue := .str "Condition", reaction := some .hangUp })]
    let later : List (Moment × Incident) :=
      [(newYear, .happens (.wake 0)), (newYear, .happens (.wake 0))]
    let history := (newYear, Incident.happens (.start askingFlow .voice)) :: later
    let b := (fresh {}).outcome usualLab before
    let b' := b.outcome usualLab history
    b.Stays usualLab "ear" history ∧ b'.session.runs = b.session.runs + 1 ∧
      (∀ l ∈ ahead "ear" b.session.listeners, l.reaction ≠ some .hangUp) ∧
      b'.session.run.state = .ended ∧ b'.session.run.events.toList.length = 5 ∧
      b'.session.heardBy "ear" b.session.heard.size = b'.session.run.events.toList := by
  intro before later history b b'
  have hall : ∀ part ∈ history.inits,
      (named "ear" (b.outcome usualLab part).session.listeners).length = 1 := by decide +kernel
  have hstays : b.Stays usualLab "ear" history :=
    fun part hpart => hall part ((List.mem_inits part history).mpr hpart)
  have hruns : b'.session.runs = b.session.runs + 1 := by decide +kernel
  have hahead : ahead "ear" b.session.listeners = [{ name := "broken", reaction := some .fail },
      { name := "shy", reaction := some (.leave none) }] := by rfl
  have hspared : ∀ l ∈ ahead "ear" b.session.listeners, l.reaction ≠ some .hangUp := by
    simp [hahead]
  have hended : b'.session.run.state = .ended := by decide +kernel
  have hfive : b'.session.run.events.toList.length = 5 := by decide +kernel
  clear_value before later
  have hlaw := a_listener_that_stays_hears_each_event_once usualLab {} before later newYear
    askingFlow .voice "ear" hstays hruns
  exact ⟨hstays, hruns, hspared, hended, hfive,
    hlaw.2 fun _ l hl hreaction => absurd hreaction (hspared l hl)⟩

/-- Behind one that hangs up, a listener that stays hears of the end of the call first, and then of
its beginning. -/
theorem a_listener_behind_one_that_hangs_up_hears_the_end_first :
    let before : List (Moment × Incident) :=
      [(newYear, .joins { name := "boss", cue := .str "Initiating", reaction := some .hangUp }),
        (newYear, .joins { name := "ear" })]
    let history := [(newYear, Incident.happens (.start askingFlow .voice))]
    let b := (fresh {}).outcome usualLab before
    let b' := b.outcome usualLab history
    let heard := b'.session.heardBy "ear" b.session.heard.size
    let log := b'.session.run.events.toList
    b.Stays usualLab "ear" history ∧ b'.session.runs = b.session.runs + 1 ∧
      heard.map (·.notice.mark) = [some .success, some .processing] ∧
      log.map (·.notice.mark) = [some .processing, some .success] ∧ heard ≠ log := by
  intro before history b b' heard log
  have hall : ∀ part ∈ history.inits,
      (named "ear" (b.outcome usualLab part).session.listeners).length = 1 := by decide +kernel
  have hheard : heard.map (·.notice.mark) = [some .success, some .processing] := by decide +kernel
  have hlog : log.map (·.notice.mark) = [some .processing, some .success] := by decide +kernel
  have hstays : b.Stays usualLab "ear" history :=
    fun part hpart => hall part ((List.mem_inits part history).mpr hpart)
  have hruns : b'.session.runs = b.session.runs + 1 := by decide +kernel
  clear_value before
  have hne : heard ≠ log := by
    intro heq
    have hmarks := congrArg (List.map (·.notice.mark)) heq
    rw [hheard, hlog] at hmarks
    simp at hmarks
  exact ⟨hstays, hruns, hheard, hlog, hne⟩

end Bench

end Dialogue
