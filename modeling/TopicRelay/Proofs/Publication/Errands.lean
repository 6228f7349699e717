/-
Hooks of a registry that call its sources. A call is through once the hooks that it leads to are, and
a hook once the calls that it makes are; whatever sources the hooks call, which sources are kept and
where they lead stays as it is, a closed source stays closed, and for each source an account holds of
the hooks that wait for its end.
-/
import TopicRelay.Proofs.Publication.Mirror
import Mathlib.Data.List.Count

namespace TopicRelay.Publication

variable {η : Type}

/-! ## Hooks with their sources -/

/-- A hook that runs: the source that it was attached to, and the occasion. -/
structure Run (η : Type) where
  source : Nat
  on : Occasion
  hook : η
  deriving Repr, DecidableEq

/-- Something still to be done with the sources of a registry. -/
inductive Errand (η : Type) where
  | call (n : Nat) (c : Call η)
  | hook (x : Run η)
  deriving Repr, DecidableEq

/-- The occasion of the hooks that a call leads to. -/
def Source.occasion? (s : Source η) : Call η → Option Occasion
  | .act a => (s.act a).source.state.occasion?
  | .attach on _ => some on

/-- The hooks that a call of a source leads to, where the source has a number. -/
def Source.runs (s : Source η) (n : Nat) (c : Call η) : List (Run η) :=
  (s.occasion? c).toList.flatMap fun on => (s.call c).hooks.map fun h => ⟨n, on, h⟩

theorem Source.runs_eq_nil {s : Source η} {c : Call η} (none : (s.call c).hooks = []) (n : Nat) :
    s.runs n c = [] := by
  simp [runs, none]

namespace Registry

/-- The hooks that a call of the source of a number leads to. -/
def caused (r : Registry η) (n : Nat) (c : Call η) : List (Run η) :=
  ((r.source? n).map (·.runs n c)).getD []

/-- Errands that are through, one after the other: the registry they found, the hooks that ran, in
order, and the registry they left. A hook may make any calls. -/
inductive Through : Registry η → List (Errand η) → List (Run η) → Registry η → Prop
  | done {r : Registry η} : Through r [] [] r
  /-- A call comes back once the hooks that it leads to have come back. -/
  | call {r r₁ r₂ : Registry η} {n : Nat} {c : Call η} {rest : List (Errand η)}
      {inner later : List (Run η)}
      (hooks : Through (r.call n c).1 ((r.caused n c).map .hook) inner r₁)
      (further : Through r₁ rest later r₂) :
      Through r (.call n c :: rest) (inner ++ later) r₂
  /-- A hook comes back once the calls that it makes have come back. -/
  | hook {r r₁ r₂ : Registry η} {x : Run η} {calls : List (Nat × Call η)} {rest : List (Errand η)}
      {inner later : List (Run η)}
      (made : Through r (calls.map fun p => .call p.1 p.2) inner r₁)
      (further : Through r₁ rest later r₂) :
      Through r (.hook x :: rest) (x :: inner ++ later) r₂

variable {r r' r₁ : Registry η} {n : Nat} {items : List (Errand η)} {past : List (Run η)}

theorem Through.append {later : List (Errand η)} {more : List (Run η)}
    (h₁ : Through r items past r₁) (h₂ : Through r₁ later more r') :
    Through r (items ++ later) (past ++ more) r' := by
  induction h₁ with
  | done => exact h₂
  | call hooks _ _ ih =>
    rw [List.append_assoc]
    exact .call hooks (ih h₂)
  | hook made _ _ ih =>
    rw [List.append_assoc]
    exact .hook made (ih h₂)

/-! ## What calls leave alone -/

/-- A registry with the same sources kept, each under its number and with its path, where a closed
source is still closed. -/
structure Carries (r r' : Registry η) : Prop where
  kept : r'.kept = r.kept
  size : r'.handed.length = r.handed.length
  source : ∀ {n s}, r.source? n = some s → ∃ s', r'.source? n = some s' ∧
    s'.topicPath = s.topicPath ∧ (s.state = .closed → s'.state = .closed)

theorem Carries.refl (r : Registry η) : Carries r r :=
  ⟨rfl, rfl, fun there => ⟨_, there, rfl, id⟩⟩

theorem Carries.trans (h₁ : Carries r r₁) (h₂ : Carries r₁ r') : Carries r r' := by
  refine ⟨h₂.kept.trans h₁.kept, h₂.size.trans h₁.size, fun there => ?_⟩
  obtain ⟨s₁, there₁, path₁, closed₁⟩ := h₁.source there
  obtain ⟨s', there', path', closed'⟩ := h₂.source there₁
  exact ⟨s', there', path'.trans path₁, closed' ∘ closed₁⟩

/-- Every source with a number after the calls had it before. -/
theorem Carries.source_before (h : Carries r r') {s' : Source η} (there : r'.source? n = some s') :
    ∃ s, r.source? n = some s ∧ s'.topicPath = s.topicPath ∧
      (s.state = .closed → s'.state = .closed) := by
  have below : n < r.handed.length := by
    rw [← h.size]
    exact (List.getElem?_eq_some_iff.1 there).1
  have before : r.source? n = some r.handed[n] := List.getElem?_eq_getElem below
  obtain ⟨x, hx, path, closed⟩ := h.source before
  obtain rfl : x = s' := Option.some.inj (hx.symm.trans there)
  exact ⟨_, before, path, closed⟩

theorem call_of_source? {s : Source η} (there : r.source? n = some s) (c : Call η) :
    (r.call n c).1 = { r with handed := r.handed.set n (s.call c).source } := by
  simp only [call, there]

theorem carries_call (r : Registry η) (n : Nat) (c : Call η) : Carries r (r.call n c).1 := by
  rcases there : r.source? n with _ | s
  · simp only [call, there]
    exact .refl r
  · rw [call_of_source? there]
    refine ⟨rfl, List.length_set, fun {m x} hx => ?_⟩
    rw [source?_set there]
    split
    next hm =>
      obtain rfl : s = x := Option.some.inj (there.symm.trans (hm ▸ hx))
      refine ⟨_, rfl, ?_⟩
      cases c with
      | attach on h => cases on <;> exact ⟨rfl, id⟩
      | act a =>
        dsimp only [Source.call]
        rcases s.act_cases a with ⟨on, hact, -, hopen⟩ | ⟨hsource, -, -⟩
        · rw [hact]
          exact ⟨rfl, fun closed => absurd closed hopen⟩
        · rw [hsource]
          exact ⟨rfl, id⟩
    next => exact ⟨x, hx, rfl, id⟩

theorem Through.carries (h : Through r items past r') : Carries r r' := by
  induction h with
  | done => exact .refl _
  | @call r _ _ n c _ _ _ _ _ ih₁ ih₂ => exact ((carries_call r n c).trans ih₁).trans ih₂
  | hook _ _ ih₁ ih₂ => exact ih₁.trans ih₂

/-! ## Closing -/

/-- The source of a number, if there is one, is closed. -/
def Shut (r : Registry η) (n : Nat) : Prop :=
  ∀ s, r.source? n = some s → s.state = .closed

theorem Shut.carried (h : Shut r n) (carries : Carries r r') : Shut r' n := by
  intro s' there
  obtain ⟨s, before, -, closed⟩ := carries.source_before there
  exact closed (h s before)

theorem shut_call_close (r : Registry η) (n : Nat) : Shut (r.call n (.act .close)).1 n := by
  intro s' there'
  rcases there : r.source? n with _ | s
  · simp only [call, there] at there'
    exact absurd there' (by simp)
  · rw [call_of_source? there, source?_set there, if_pos rfl] at there'
    cases there'
    simp only [Source.call, Source.act]
    split
    next closed => exact closed
    next => rfl

/-- A source that is to be closed is closed once all is through. -/
theorem Through.shut (h : Through r items past r') (listed : .call n (.act .close) ∈ items) :
    Shut r' n := by
  induction h with
  | done => cases listed
  | @call r r₁ _ m c _ _ _ hooks further _ ih =>
    rcases List.mem_cons.1 listed with head | later
    · cases head
      exact ((shut_call_close r n).carried hooks.carries).carried further.carries
    · exact ih later
  | hook _ _ _ ih => exact ih (List.mem_of_ne_of_mem (by simp) listed)

/-! ## The account of the hooks that wait for an end -/

section Account

variable [DecidableEq η]

/-- How often the end of a source has made a hook run: for each time that it is attached if the source
is closed, and not at all otherwise. -/
def endings (s : Source η) (h : η) : Nat :=
  if s.state = .closed then s.onClose.count h else 0

/-- The same for the source of a number. -/
def closings (r : Registry η) (n : Nat) (h : η) : Nat :=
  ((r.source? n).map (endings · h)).getD 0

/-- The hooks that run for the end of a source are those that its end owes and has not run yet. -/
theorem endings_call (s : Source η) (n : Nat) (c : Call η) (h : η) :
    endings (s.call c).source h =
      endings s h + (s.runs n c).count ⟨n, .closed, h⟩ := by
  cases c with
  | attach on k =>
    -- a hook that is attached to a closed source runs at once
    by_cases hstate : s.state = on.state <;> by_cases hk : k = h <;> cases on <;>
      simp_all [endings, Source.runs, Source.occasion?, Source.call, Source.withHook, Occasion.state]
  | act a =>
    rcases s.act_cases a with ⟨on, hact, -, hopen⟩ | ⟨hsource, -, hnone⟩
    · have inj : Function.Injective fun k : η => (⟨n, .closed, k⟩ : Run η) := fun _ _ e => by
        cases e
        rfl
      have counted := List.count_map_of_injective s.onClose _ inj h
      have other (on : Occasion) (hon : on ≠ .closed) (hooks : List η) :
          (hooks.map fun k => (⟨n, on, k⟩ : Run η)).count ⟨n, .closed, h⟩ = 0 := by
        rw [List.count_eq_zero]
        simp [hon]
      cases on <;>
        simp [endings, Source.runs, Source.occasion?, Source.call, hact, Source.enter, Source.hooks,
          Occasion.state, SourceState.occasion?, hopen, counted, other]
    · rw [Source.runs_eq_nil (c := .act a) hnone]
      simp [Source.call, hsource]

/-- A call makes the hooks run that the end of a source then owes. -/
theorem closings_call (r : Registry η) (m : Nat) (c : Call η) (n : Nat) (h : η) :
    (r.call m c).1.closings n h = r.closings n h + (r.caused m c).count ⟨n, .closed, h⟩ := by
  rcases there : r.source? m with _ | s
  · simp [call, caused, there]
  · rw [call_of_source? there]
    by_cases hm : m = n
    · subst hm
      simp [closings, source?_set there, caused, there, endings_call s m c h]
    · have none : (r.caused m c).count ⟨n, .closed, h⟩ = 0 := by
        rw [List.count_eq_zero]
        simp [caused, there, Source.runs, hm]
      rw [none, closings, source?_set there, if_neg hm]
      rfl

/-- The account: the hooks that have run for the end of a source are those that were to be run and
those that it has come to owe. -/
theorem Through.count_closings (through : Through r items past r') (n : Nat) (h : η) :
    past.count ⟨n, .closed, h⟩ + r.closings n h =
      items.count (.hook ⟨n, .closed, h⟩) + r'.closings n h := by
  induction through with
  | done => simp
  | @call r r₁ _ m c rest inner later _ _ ih₁ ih₂ =>
    have ran : ((r.caused m c).map Errand.hook).count (.hook ⟨n, .closed, h⟩) =
        (r.caused m c).count ⟨n, .closed, h⟩ :=
      List.count_map_of_injective _ _ (fun _ _ => Errand.hook.inj) _
    rw [closings_call, ran] at ih₁
    rw [List.count_append, List.count_cons_of_ne (by simp)]
    omega
  | @hook r r₁ _ x calls rest inner later _ _ ih₁ ih₂ =>
    have none : (calls.map fun p => Errand.call p.1 p.2).count (.hook ⟨n, .closed, h⟩) = 0 := by
      simp [List.count_eq_zero]
    rw [none] at ih₁
    rw [List.cons_append, List.count_cons, List.count_cons, List.count_append]
    by_cases hx : x = ⟨n, .closed, h⟩ <;> simp [hx] <;> omega

end Account

/-! ## Hooks that call nothing -/

theorem through_hooks (r : Registry η) : ∀ hooks : List (Run η), Through r (hooks.map .hook) hooks r
  | [] => .done
  | _ :: rest => by
    have made : Through r (([] : List (Nat × Call η)).map fun p => .call p.1 p.2) [] r := .done
    exact .hook made (through_hooks r rest)

theorem hooks_call (r : Registry η) (n : Nat) (c : Call η) :
    Notice.hooks (r.call n c).2.1 = (r.caused n c).map (·.hook) := by
  unfold call caused
  rcases r.source? n with _ | s
  · rfl
  · rw [Option.map_some, Option.getD_some]
    dsimp only
    rw [hooks_notices]
    cases c with
    | attach on h => simp [Source.runs, Source.occasion?, Function.comp_def]
    | act a =>
      rcases s.act_cases a with ⟨on, hact, -, -⟩ | ⟨-, -, hnone⟩
      · simp [Source.runs, Source.occasion?, Source.call, hact, Source.enter, Function.comp_def]
      · rw [Source.runs_eq_nil (c := .act a) hnone]
        exact hnone

/-- Actions on a source are through if the hooks call nothing. -/
theorem through_perform (n : Nat) : ∀ (acts : List Action) (r : Registry η), ∃ past,
    Through r (acts.map fun a => .call n (.act a)) past (r.perform n acts).1 ∧
      Notice.hooks (r.perform n acts).2 = past.map (·.hook)
  | [], _ => ⟨[], .done, rfl⟩
  | a :: rest, r => by
    obtain ⟨past, through, told⟩ := through_perform n rest (r.call n (.act a)).1
    refine ⟨r.caused n (.act a) ++ past, .call (through_hooks _ _) through, ?_⟩
    rw [List.map_append, ← told, ← hooks_call]
    exact Notice.hooks_append _ _

end Registry

end TopicRelay.Publication
