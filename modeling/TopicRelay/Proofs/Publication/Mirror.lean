/-
Hooks that mirror one source of a registry. Someone attaches a hook for each occasion to one source,
and to no other. Whatever is then asked of the registry, by anyone, the source makes at most one change
of state, and of these hooks the one runs that belongs to the state entered, once; none runs if the
state stays as it is. A closed source stays closed.

`Bears` is the invariant, and `Turns` says what one thing asked of the registry comes to.
-/
import TopicRelay.Publication.Registry
import Mathlib.Data.List.Basic

namespace TopicRelay.Publication

open TopicRelay.Config

variable {η : Type}

/-- The occasion of a state. -/
def SourceState.occasion? : SourceState → Option Occasion
  | .unregistered => none
  | .standby => some .standby
  | .active => some .active
  | .closed => some .closed

@[simp]
theorem Occasion.occasion?_state (on : Occasion) : on.state.occasion? = some on := by
  cases on <;> rfl

/-- The occasions of a change from one state to another, if it is a change. -/
def SourceState.entered (st st' : SourceState) : List Occasion :=
  if st' = st then [] else st'.occasion?.toList

@[simp]
theorem SourceState.entered_self (st : SourceState) : st.entered st = [] := by
  simp [entered]

theorem SourceState.mem_entered {st st' : SourceState} {on : Occasion} (h : on ∈ st.entered st') :
    st' = on.state := by
  unfold entered at h
  split at h
  · cases h
  · cases st' <;> simp_all [occasion?, Occasion.state]

theorem SourceState.pairwise_entered {R : Occasion → Occasion → Prop} (st st' : SourceState) :
    (st.entered st').Pairwise R := by
  unfold entered
  split
  · exact List.Pairwise.nil
  · cases st'.occasion? <;> simp

/-- The occasions of the states entered along a course that begins in a state. -/
def SourceState.entries : SourceState → List SourceState → List Occasion
  | _, [] => []
  | st, st' :: rest => st.entered st' ++ st'.entries rest

/-- The hooks that ran. -/
def Notice.hooks (ns : List (Notice η)) : List η :=
  ns.filterMap fun
    | .ran h => some h
    | .moved _ _ => none

theorem Notice.hooks_append (ns more : List (Notice η)) :
    hooks (ns ++ more) = hooks ns ++ hooks more :=
  List.filterMap_append

/-- An action changes the state of a source that is not closed, and runs the hooks of the state
entered, or it changes nothing. -/
theorem Source.act_cases (s : Source η) (a : Action) :
    (∃ on, s.act a = s.enter on ∧ s.state ≠ on.state ∧ s.state ≠ .closed) ∨
      (s.act a).source = s ∧ (s.act a).transition = none ∧ (s.act a).hooks = [] := by
  cases a <;> simp only [act]
  case register =>
    split
    next h => exact Or.inl ⟨.standby, rfl, by simp [h, Occasion.state], by simp [h]⟩
    next => exact Or.inr ⟨rfl, rfl, rfl⟩
  case activate =>
    split
    next h => exact Or.inl ⟨.active, rfl, by simp [h, Occasion.state], by simp [h]⟩
    next => exact Or.inr ⟨rfl, rfl, rfl⟩
  case standby =>
    split
    next h => exact Or.inl ⟨.standby, rfl, by simp [h, Occasion.state], by simp [h]⟩
    next => exact Or.inr ⟨rfl, rfl, rfl⟩
  case close =>
    split
    next => exact Or.inr ⟨rfl, rfl, rfl⟩
    next h => exact Or.inl ⟨.closed, rfl, h, h⟩

namespace Registry

@[simp]
theorem hooks_notices (rx : Reaction η) : Notice.hooks (notices rx) = rx.hooks := by
  cases rx.transition <;> simp [notices, Notice.hooks, List.filterMap_map]

section

variable (mine : η → Bool) (hook : Occasion → η) (n : Nat)

/-- No source has any of some hooks. -/
def Free (r : Registry η) : Prop :=
  ∀ m s, r.source? m = some s → ∀ on, (s.hooks on).filter mine = []

/-- One source, in a state, has some hooks, one for each occasion; no other source has any of them. -/
structure Bears (st : SourceState) (r : Registry η) : Prop where
  own : ∃ s, r.source? n = some s ∧ s.state = st ∧ ∀ on, (s.hooks on).filter mine = [hook on]
  others : ∀ m s, m ≠ n → r.source? m = some s → ∀ on, (s.hooks on).filter mine = []

/-- What one thing asked of a registry comes to for a source that bears hooks: a state, which is
closed if it was, and the hook of that state if it is another. -/
def Turns (r r' : Registry η) (told : List (Notice η)) : Prop :=
  ∀ st, Bears mine hook n st r → ∃ st', Bears mine hook n st' r' ∧
    (Notice.hooks told).filter mine = (st.entered st').map hook ∧ (st = .closed → st' = .closed)

/-- The source that bears hooks keeps its state, and none of the hooks runs. -/
def Keeps (r r' : Registry η) (told : List (Notice η)) : Prop :=
  ∀ st, Bears mine hook n st r → Bears mine hook n st r' ∧ (Notice.hooks told).filter mine = []

/-- The source that bears hooks keeps its state, or it is closed. -/
def Closes (r r' : Registry η) (told : List (Notice η)) : Prop :=
  ∀ st, Bears mine hook n st r → ∃ st', (st' = st ∨ st' = .closed) ∧ Bears mine hook n st' r' ∧
    (Notice.hooks told).filter mine = (st.entered st').map hook

end

variable {mine : η → Bool} {hook : Occasion → η} {n : Nat} {st : SourceState}
  {r r' r₁ r₂ : Registry η} {told told₁ told₂ : List (Notice η)}

/-! ## One source at a time -/

theorem source?_set {m : Nat} {s : Source η} (there : r.source? m = some s) (x : Source η) (k : Nat) :
    Registry.source? { r with handed := r.handed.set m x } k =
      if m = k then some x else r.source? k := by
  have hm : m < r.handed.length := (List.getElem?_eq_some_iff.1 there).1
  unfold source?
  rw [List.getElem?_set]
  split <;> simp_all

theorem source?_hand {s x : Source η} {kept : List (String × Nat)} {m : Nat}
    (there : Registry.source? { handed := r.handed ++ [s], kept } m = some x) :
    r.source? m = some x ∨ x = s := by
  unfold source? at there ⊢
  rw [List.getElem?_append] at there
  split at there
  next => exact Or.inl there
  next => exact Or.inr (List.mem_singleton.1 (List.mem_of_getElem? there))

theorem Bears.eq (h : Bears mine hook n st r) {s : Source η} (there : r.source? n = some s) :
    s.state = st ∧ ∀ on, (s.hooks on).filter mine = [hook on] := by
  obtain ⟨x, hx, hstate, hhooks⟩ := h.own
  rw [there] at hx
  cases hx
  exact ⟨hstate, hhooks⟩

/-- A source is replaced by one with the same of the hooks. -/
theorem Bears.set (h : Bears mine hook n st r) {m : Nat} {s x : Source η}
    (there : r.source? m = some s)
    (same : ∀ on, (x.hooks on).filter mine = (s.hooks on).filter mine) :
    Bears mine hook n (if m = n then x.state else st) { r with handed := r.handed.set m x } where
  own := by
    rw [source?_set there]
    by_cases hm : m = n
    · subst hm
      refine ⟨x, by simp, by simp, fun on => ?_⟩
      rw [same]
      exact (h.eq there).2 on
    · rw [if_neg hm, if_neg hm]
      exact h.own
  others := by
    intro k y hk hy on
    rw [source?_set there] at hy
    split at hy
    next hm =>
      cases hy
      rw [same]
      exact h.others m s (hm ▸ hk) there on
    next => exact h.others k y hk hy on

theorem Bears.of_handed (h : Bears mine hook n st r) (same : r'.handed = r.handed) :
    Bears mine hook n st r' := by
  have hsource : ∀ m, r'.source? m = r.source? m := fun m => by rw [source?, source?, same]
  refine ⟨?_, ?_⟩
  · rw [hsource]
    exact h.own
  · intro m s
    rw [hsource]
    exact h.others m s

theorem Bears.lt (h : Bears mine hook n st r) : n < r.handed.length := by
  obtain ⟨s, there, -⟩ := h.own
  exact (List.getElem?_eq_some_iff.1 there).1

/-- A source without hooks is handed out. -/
theorem Bears.hand (h : Bears mine hook n st r) {s : Source η} (bare : ∀ on, s.hooks on = [])
    (kept : List (String × Nat)) :
    Bears mine hook n st { handed := r.handed ++ [s], kept } := by
  refine ⟨?_, ?_⟩
  · obtain ⟨x, hx, hown⟩ := h.own
    refine ⟨x, ?_, hown⟩
    rw [source?, List.getElem?_append_left h.lt]
    exact hx
  · intro m x hm hx
    rcases source?_hand hx with hx | rfl
    · exact h.others m x hm hx
    · intro on
      rw [bare on]
      rfl

/-! ## One thing after another -/

theorem Keeps.refl : Keeps mine hook n r r [] :=
  fun _ h => ⟨h, rfl⟩

theorem Keeps.trans (h₁ : Keeps mine hook n r r₁ told₁) (h₂ : Keeps mine hook n r₁ r₂ told₂) :
    Keeps mine hook n r r₂ (told₁ ++ told₂) := by
  intro st h
  obtain ⟨hb₁, ht₁⟩ := h₁ st h
  obtain ⟨hb₂, ht₂⟩ := h₂ st hb₁
  exact ⟨hb₂, by rw [Notice.hooks_append, List.filter_append, ht₁, ht₂, List.append_nil]⟩

theorem Keeps.closes (h : Keeps mine hook n r r' told) : Closes mine hook n r r' told := by
  intro st hb
  obtain ⟨hb', ht⟩ := h st hb
  exact ⟨st, Or.inl rfl, hb', by simp [ht]⟩

theorem Closes.turns (h : Closes mine hook n r r' told) : Turns mine hook n r r' told := by
  intro st hb
  obtain ⟨st', hst, hb', ht⟩ := h st hb
  refine ⟨st', hb', ht, ?_⟩
  rintro rfl
  rcases hst with rfl | rfl <;> rfl

/-- A source that has been closed is not closed again. -/
theorem Closes.trans (h₁ : Closes mine hook n r r₁ told₁) (h₂ : Closes mine hook n r₁ r₂ told₂) :
    Closes mine hook n r r₂ (told₁ ++ told₂) := by
  intro st hb
  obtain ⟨st₁, hst₁, hb₁, ht₁⟩ := h₁ st hb
  obtain ⟨st₂, hst₂, hb₂, ht₂⟩ := h₂ st₁ hb₁
  rw [Notice.hooks_append, List.filter_append, ht₁, ht₂]
  rcases hst₁ with rfl | rfl
  · exact ⟨st₂, hst₂, hb₂, by simp⟩
  · obtain rfl : st₂ = .closed := by rcases hst₂ with rfl | rfl <;> rfl
    exact ⟨.closed, Or.inr rfl, hb₂, by simp⟩

theorem Turns.keeps (h₁ : Turns mine hook n r r₁ told₁) (h₂ : Keeps mine hook n r₁ r₂ told₂) :
    Turns mine hook n r r₂ (told₁ ++ told₂) := by
  intro st hb
  obtain ⟨st', hb₁, ht₁, hc⟩ := h₁ st hb
  obtain ⟨hb₂, ht₂⟩ := h₂ st' hb₁
  exact ⟨st', hb₂, by rw [Notice.hooks_append, List.filter_append, ht₁, ht₂, List.append_nil], hc⟩

/-! ## Calls -/

/-- Hooks of someone else are attached, and may run. -/
theorem keeps_attach (r : Registry η) (m : Nat) {on : Occasion} {x : η} (foreign : mine x = false) :
    Keeps mine hook n r (r.call m (.attach on x)).1 (r.call m (.attach on x)).2.1 := by
  intro st h
  unfold call
  rcases there : r.source? m with _ | s
  · exact Keeps.refl st h
  · dsimp only [Source.call]
    have hset := h.set (x := s.withHook on x) there fun o => by
      rw [Source.hooks_withHook]
      split <;> simp [foreign]
    refine ⟨?_, ?_⟩
    · by_cases hm : m = n
      · subst hm
        simpa [(h.eq there).1] using hset
      · simpa [hm] using hset
    · rw [hooks_notices]
      split <;> simp [foreign]

/-- An action on another source runs other hooks. -/
theorem keeps_act (r : Registry η) {m : Nat} (other : m ≠ n) (a : Action) :
    Keeps mine hook n r (r.call m (.act a)).1 (r.call m (.act a)).2.1 := by
  intro st h
  unfold call
  rcases there : r.source? m with _ | s
  · exact Keeps.refl st h
  · dsimp only [Source.call]
    rcases s.act_cases a with ⟨on, hact, -, -⟩ | ⟨hsource, -, hhooks⟩
    · have hset := h.set (x := (s.enter on).source) there fun o => by cases o <;> rfl
      rw [hact, hooks_notices]
      exact ⟨by simpa [other] using hset, h.others m s other there on⟩
    · have hset := h.set (x := s) there fun _ => rfl
      rw [hsource, hooks_notices, hhooks]
      exact ⟨by simpa [other] using hset, rfl⟩

/-- An action runs the hook of the state that the source enters. -/
theorem turns_act (r : Registry η) (m : Nat) (a : Action) :
    Turns mine hook n r (r.call m (.act a)).1 (r.call m (.act a)).2.1 := by
  by_cases hm : m = n
  · subst hm
    intro st h
    obtain ⟨s, there, rfl, hhooks⟩ := h.own
    simp only [call, there, Source.call]
    rcases s.act_cases a with ⟨on, hact, hleft, hopen⟩ | ⟨hsource, -, hnone⟩
    · have hset := h.set (x := (s.enter on).source) there fun o => by cases o <;> rfl
      rw [if_pos rfl] at hset
      rw [hact, hooks_notices]
      refine ⟨on.state, hset, ?_, fun closed => absurd closed hopen⟩
      simpa [Source.enter, SourceState.entered, Ne.symm hleft] using hhooks on
    · have hset := h.set (x := s) there fun _ => rfl
      rw [hsource, hooks_notices, hnone]
      exact ⟨s.state, by simpa using hset, by simp, id⟩
  · exact (keeps_act r hm a).closes.turns

theorem closes_act (r : Registry η) (m : Nat) :
    Closes mine hook n r (r.call m (.act .close)).1 (r.call m (.act .close)).2.1 := by
  by_cases hm : m = n
  · subst hm
    intro st h
    obtain ⟨st', hb, ht, -⟩ := turns_act r m .close st h
    refine ⟨st', Or.inr ?_, hb, ht⟩
    obtain ⟨s, there, -⟩ := h.own
    simp only [call, there, Source.call] at hb
    have hclosed : (s.act .close).source.state = .closed := by
      simp only [Source.act]
      split
      next closed => exact closed
      next => rfl
    rw [← hclosed, (hb.eq (by rw [source?_set there, if_pos rfl])).1]
  · exact (keeps_act r hm .close).closes

theorem keeps_perform {m : Nat} (other : m ≠ n) : ∀ (acts : List Action) (r : Registry η),
    Keeps mine hook n r (r.perform m acts).1 (r.perform m acts).2
  | [], _ => Keeps.refl
  | a :: rest, r => (keeps_act r other a).trans (keeps_perform other rest _)

theorem closes_perform (r : Registry η) (m : Nat) :
    Closes mine hook n r (r.perform m [.close]).1 (r.perform m [.close]).2 :=
  (closes_act r m).trans Keeps.refl.closes

theorem closes_closeEach : ∀ (numbers : List Nat) (r : Registry η),
    Closes mine hook n r (r.closeEach numbers).1 (r.closeEach numbers).2
  | [], _ => Keeps.refl.closes
  | m :: rest, r => (closes_perform r m).trans (closes_closeEach rest _)

theorem keeps_attachAll (m : Nat) : ∀ (hooks : List (Occasion × η)) (r : Registry η),
    (∀ x ∈ hooks, mine x.2 = false) →
    Keeps mine hook n r (r.attachAll m hooks).1 (r.attachAll m hooks).2
  | [], _, _ => Keeps.refl
  | _ :: rest, r, foreign =>
    (keeps_attach r m (foreign _ List.mem_cons_self)).trans
      (keeps_attachAll m rest _ fun y hy => foreign y (List.mem_cons_of_mem _ hy))

/-! ## What is asked of a registry -/

theorem keeps_of_handed (same : r'.handed = r.handed) : Keeps mine hook n r r' [] :=
  fun _ h => ⟨h.of_handed same, rfl⟩

theorem turns_remove (r : Registry η) (service : String) :
    Turns mine hook n r (r.remove service).1 (r.remove service).2.1 := by
  unfold remove
  split
  next => exact Keeps.refl.closes.turns
  next m _ =>
    have hkept : Keeps mine hook n r { r with kept := r.kept.filter fun p => p.1 != service } [] :=
      keeps_of_handed rfl
    exact (hkept.closes.trans (closes_perform _ m)).turns

theorem turns_closeAll (r : Registry η) : Turns mine hook n r r.closeAll.1 r.closeAll.2 := by
  have hkept : Keeps mine hook n r { r with kept := [] } [] := keeps_of_handed rfl
  exact (hkept.closes.trans (closes_closeEach _ _)).turns

/-- Adding a source closes at most the one whose place it takes. -/
theorem turns_add (policy : Policy) (r : Registry η) (s : ServiceConfig) :
    Turns mine hook n r (r.add policy s).1 (r.add policy s).2.2 := by
  intro st h
  have hother : r.handed.length ≠ n := Nat.ne_of_gt h.lt
  have hhand : Keeps mine hook n r
      { handed := r.handed ++ [{ topicPath := s.topicPathRoot }], kept := keep s.name r.handed.length r.kept } [] :=
    fun st h => ⟨h.hand (fun on => by cases on <;> rfl) _, rfl⟩
  unfold add
  dsimp only
  split
  next m _ =>
    exact ((hhand.closes.trans (closes_perform _ m)).turns.keeps (keeps_perform hother _ _)) st h
  next => exact (hhand.trans (keeps_perform hother _ _)).closes.turns st h

/-! ## A new source, and hooks of its own -/

theorem Free.perform (m : Nat) : ∀ (acts : List Action) (r : Registry η), Free mine r →
    Free mine (r.perform m acts).1
  | [], _, h => h
  | a :: rest, r, h => by
    refine Free.perform m rest _ ?_
    dsimp only [call]
    rcases there : r.source? m with _ | s
    · exact h
    · intro k x hx on
      rw [source?_set there] at hx
      split at hx
      next =>
        cases hx
        rw [← h m s there on]
        rcases s.act_cases a with ⟨o, hact, -, -⟩ | ⟨hsource, -, -⟩
        · simp only [Source.call, hact]
          cases on <;> rfl
        · simp only [Source.call, hsource]
      next => exact h k x hx on

theorem Free.add (h : Free mine r) (policy : Policy) (s : ServiceConfig) :
    Free mine (r.add policy s).1 := by
  have hhand : Free mine
      { handed := r.handed ++ [{ topicPath := s.topicPathRoot }]
        kept := keep s.name r.handed.length r.kept } := by
    intro m x hx on
    rcases source?_hand hx with hx | rfl
    · exact h m x hx on
    · cases on <;> rfl
  unfold Registry.add
  dsimp only
  split
  · exact (hhand.perform _ _).perform _ _
  · exact hhand.perform _ _

theorem source?_perform_other {m k : Nat} (other : m ≠ k) : ∀ (acts : List Action) (r : Registry η),
    (r.perform m acts).1.source? k = r.source? k
  | [], _ => rfl
  | a :: rest, r => by
    refine (source?_perform_other other rest _).trans ?_
    dsimp only [call]
    rcases there : r.source? m with _ | s
    · rfl
    · rw [source?_set there, if_neg other]

/-- A source that is added is registered, and activated if the policy says so. -/
theorem source?_add (filed : ∀ p ∈ r.kept, p.2 < r.handed.length) (policy : Policy)
    (s : ServiceConfig) :
    (r.add policy s).1.source? r.handed.length =
      some
        { topicPath := s.topicPathRoot
          state := if policy.activates then .active else .standby } := by
  have hbare : Registry.source?
      { handed := r.handed ++ [{ topicPath := s.topicPathRoot }]
        kept := keep s.name r.handed.length r.kept } r.handed.length =
      some ({ topicPath := s.topicPathRoot } : Source η) := by
    simp [source?]
  have hadded : ∀ q : Registry η, q.source? r.handed.length =
        some ({ topicPath := s.topicPathRoot } : Source η) →
      (q.perform r.handed.length
          (if policy.activates then [.register, .activate] else [.register])).1.source?
        r.handed.length = some
          { topicPath := s.topicPathRoot
            state := if policy.activates then .active else .standby } := by
    intro q hq
    have hcall (x : Source η) (a : Action) (q : Registry η)
        (hx : q.source? r.handed.length = some x) :
        (q.call r.handed.length (.act a)).1.source? r.handed.length = some (x.act a).source := by
      simp only [call, hx]
      rw [source?_set hx, if_pos rfl]
      rfl
    cases policy.activates
    · exact hcall _ .register q hq
    · exact hcall _ .activate _ (hcall _ .register q hq)
  unfold Registry.add
  dsimp only
  split
  next m replaced =>
    have hm : m < r.handed.length := by
      split at replaced
      next =>
        obtain ⟨before, later, hkept, -⟩ := List.lookup_eq_some_iff.1 replaced
        exact filed _ (by rw [hkept]; exact List.mem_append_right _ List.mem_cons_self)
      next => cases replaced
    exact hadded _ ((source?_perform_other (Nat.ne_of_lt hm) _ _).trans hbare)
  next => exact hadded _ hbare

theorem call_attach {s : Source η} (there : r.source? n = some s) (on : Occasion) (x : η) :
    r.call n (.attach on x) =
      ({ r with handed := r.handed.set n (s.withHook on x) },
        (if s.state = on.state then [x] else []).map .ran, none) := by
  simp only [call, there, Source.call, notices]
  split <;> rfl

/-- A hook for each occasion is attached to a source, and runs at once if the source is in the state of
its occasion. -/
theorem bears_attachAll {s : Source η} (free : Free mine r) (there : r.source? n = some s)
    (own : ∀ on, mine (hook on) = true) :
    let attached := r.attachAll n
      ([Occasion.standby, .active, .closed].map fun on => (on, hook on))
    Bears mine hook n s.state attached.1 ∧
      Notice.hooks attached.2 = s.state.occasion?.toList.map hook := by
  intro attached
  let s₁ := s.withHook .standby (hook .standby)
  let s₂ := s₁.withHook .active (hook .active)
  let s₃ := s₂.withHook .closed (hook .closed)
  have hset {x y : Source η} {q : Registry η} (hx : q.source? n = some x) :
      Registry.source? { q with handed := q.handed.set n y } n = some y := by
    rw [source?_set hx, if_pos rfl]
  have hattached : attached =
      ({ r with handed := r.handed.set n s₃ }, (s.state.occasion?.toList.map hook).map .ran) := by
    simp only [attached, List.map_cons, List.map_nil, attachAll, call_attach there,
      call_attach (hset there), List.set_set]
    rcases hstate : s.state with _ | _ | _ | _ <;>
      simp [hstate, SourceState.occasion?, Occasion.state, s₁, s₂, s₃]
  have hhooks : ∀ on, (s₃.hooks on).filter mine = [hook on] := by
    intro on
    have hfree := free n s there on
    cases on <;> simpa [s₁, s₂, s₃, own] using hfree
  rw [hattached]
  refine ⟨⟨⟨s₃, hset there, by simp [s₁, s₂, s₃], hhooks⟩, ?_⟩, ?_⟩
  · intro m x hm hx
    rw [source?_set there, if_neg (Ne.symm hm)] at hx
    exact free m x hx
  · simp [Notice.hooks, List.filterMap_map]

end Registry

end TopicRelay.Publication
