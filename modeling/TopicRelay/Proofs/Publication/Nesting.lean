/-
The agenda of a source, seen as nested executions: a call is through once the hooks that it causes
are through, and a hook once its calls are. `Nested` says so by recursion, with any calls for a hook,
so that a hook may also choose a call by what an earlier one came to. Working off an agenda gives a
nested execution, and every nested execution is the work on an agenda whose hooks follow a script.
-/
import TopicRelay.Publication.Reentry

namespace TopicRelay.Publication

variable {σ η : Type}

/-! ## Nested executions -/

/-- Items that are through, one after the other: the source they found, the history they made and
the source they left. -/
inductive Nested : Source η → List (Item η) → List (Happening η) → Source η → Prop
  | done {s : Source η} : Nested s [] [] s
  /-- A call comes back once the hooks that it causes have run. -/
  | call {s s₁ s₂ : Source η} {c : Call η} {rest : List (Item η)} {inner later : List (Happening η)}
      (hooks : Nested (s.call c).source ((s.call c).hooks.map .hook) inner s₁)
      (further : Nested s₁ rest later s₂) :
      Nested s (.call c :: rest) (happenings s c ++ inner ++ later) s₂
  /-- A hook comes back once the calls that it makes have come back. -/
  | hook {s s₁ s₂ : Source η} {h : η} {calls : List (Call η)} {rest : List (Item η)}
      {inner later : List (Happening η)}
      (made : Nested s (calls.map .call) inner s₁)
      (further : Nested s₁ rest later s₂) :
      Nested s (.hook h :: rest) (.ran h :: inner ++ later) s₂

namespace Nested

/-- The first items of a list are through before the others begin. -/
theorem of_append {s s' : Source η} {later : List (Item η)} {past : List (Happening η)} :
    ∀ {first : List (Item η)}, Nested s (first ++ later) past s' →
      ∃ past₁ past₂ s₁, Nested s first past₁ s₁ ∧ Nested s₁ later past₂ s' ∧ past = past₁ ++ past₂ := by
  intro first
  induction first generalizing s past with
  | nil => exact fun h => ⟨[], past, s, .done, h, rfl⟩
  | cons i first ih =>
    intro h
    cases h with
    | call hooks further =>
      obtain ⟨past₁, past₂, s₁, h₁, h₂, rfl⟩ := ih further
      exact ⟨_, past₂, s₁, .call hooks h₁, h₂, by simp⟩
    | hook made further =>
      obtain ⟨past₁, past₂, s₁, h₁, h₂, rfl⟩ := ih further
      exact ⟨_, past₂, s₁, .hook made h₁, h₂, by simp⟩

end Nested

/-! ## From agendas to nested executions -/

section Agenda

variable {behave : σ → η → σ × List (Call η)} {n : Nat} {s : Source η} {w : σ} {x : Execution σ η}

@[simp] theorem execute_nil : execute behave n s w [] = some { source := s, host := w } := by
  cases n <;> rfl

theorem execute_call (c : Call η) (rest : List (Item η)) :
    execute behave (n + 1) s w (.call c :: rest) =
      (execute behave n (s.call c).source w ((s.call c).hooks.map .hook ++ rest)).map
        (·.after (happenings s c)) := rfl

theorem execute_hook (h : η) (rest : List (Item η)) :
    execute behave (n + 1) s w (.hook h :: rest) =
      (execute behave n s (behave w h).1 ((behave w h).2.map .call ++ rest)).map
        (·.after [.ran h]) := rfl

/-- An item puts what it causes in front of the rest, whatever the rest is. -/
theorem exists_execute_cons (behave : σ → η → σ × List (Call η)) (s : Source η) (w : σ)
    (i : Item η) :
    ∃ s' w' first past, ∀ n rest, execute behave (n + 1) s w (i :: rest) =
      (execute behave n s' w' (first ++ rest)).map (·.after past) := by
  cases i with
  | call c => exact ⟨_, _, _, _, fun _ rest => execute_call c rest⟩
  | hook h => exact ⟨_, _, _, _, fun _ rest => execute_hook h rest⟩

/-- Working off an agenda is a nested execution. -/
theorem nested_execute {items : List (Item η)} (hx : execute behave n s w items = some x) :
    Nested s items x.history x.source := by
  induction n generalizing s w items x with
  | zero =>
    cases items with
    | nil =>
      rw [execute_nil] at hx
      cases hx
      exact .done
    | cons => cases hx
  | succ n ih =>
    cases items with
    | nil =>
      rw [execute_nil] at hx
      cases hx
      exact .done
    | cons i rest =>
      cases i with
      | call c =>
        rw [execute_call] at hx
        obtain ⟨y, hy, rfl⟩ := Option.map_eq_some_iff.1 hx
        -- the hooks stand before the rest on the agenda, so the rest finds what they leave
        obtain ⟨inner, later, s₁, h₁, h₂, hpast⟩ := Nested.of_append (ih hy)
        simp only [Execution.after, hpast, ← List.append_assoc]
        exact .call h₁ h₂
      | hook h =>
        rw [execute_hook] at hx
        obtain ⟨y, hy, rfl⟩ := Option.map_eq_some_iff.1 hx
        obtain ⟨inner, later, s₁, h₁, h₂, hpast⟩ := Nested.of_append (ih hy)
        simp only [Execution.after, hpast, ← List.append_assoc]
        exact .hook h₁ h₂

/-- A longer limit changes nothing. -/
theorem execute_of_le {m : Nat} {items : List (Item η)} (hx : execute behave n s w items = some x)
    (hm : n ≤ m) : execute behave m s w items = some x := by
  induction n generalizing s w items x m with
  | zero =>
    cases items with
    | nil => rw [← hx, execute_nil, execute_nil]
    | cons => cases hx
  | succ n ih =>
    obtain ⟨m, rfl⟩ : ∃ k, m = k + 1 := ⟨m - 1, by omega⟩
    cases items with
    | nil => rw [← hx, execute_nil, execute_nil]
    | cons i rest =>
      obtain ⟨s', w', first, past, hi⟩ := exists_execute_cons behave s w i
      rw [hi] at hx ⊢
      obtain ⟨y, hy, rfl⟩ := Option.map_eq_some_iff.1 hx
      rw [ih hy (by omega), Option.map_some]

/-- Two agendas that are worked off one after the other are worked off as one. -/
theorem execute_append {m : Nat} {y : Execution σ η} {first later : List (Item η)}
    (hx : execute behave n s w first = some x)
    (hy : execute behave m x.source x.host later = some y) :
    execute behave (n + m) s w (first ++ later) = some (y.after x.history) := by
  induction n generalizing s w first x with
  | zero =>
    cases first with
    | nil =>
      rw [execute_nil] at hx
      cases hx
      exact execute_of_le hy (by omega)
    | cons => cases hx
  | succ n ih =>
    rw [Nat.succ_add]
    cases first with
    | nil =>
      rw [execute_nil] at hx
      cases hx
      exact execute_of_le hy (by omega)
    | cons i rest =>
      obtain ⟨s', w', caused, past, hi⟩ := exists_execute_cons behave s w i
      rw [hi] at hx
      obtain ⟨z, hz, rfl⟩ := Option.map_eq_some_iff.1 hx
      rw [List.cons_append, hi, ← List.append_assoc, ih hz hy, Option.map_some]
      simp [Execution.after]

end Agenda

/-! ## From nested executions to scripts -/

/-- A hook that makes the calls that come next in a script. -/
def replay : List (List (Call η)) → η → List (List (Call η)) × List (Call η)
  | [], _ => ([], [])
  | calls :: script, _ => (script, calls)

/-- Every nested execution is the work on its items by hooks that follow a script, which it uses up. -/
theorem Nested.exists_script {s s' : Source η} {items : List (Item η)} {past : List (Happening η)}
    (hr : Nested s items past s') :
    ∃ n script, ∀ unused : List (List (Call η)),
      execute replay n s (script ++ unused) items =
        some { source := s', host := unused, history := past } := by
  -- the script of what an item causes comes before that of the rest, as the agenda has it
  induction hr with
  | done => exact ⟨0, [], fun unused => execute_nil⟩
  | call _ _ ih₁ ih₂ =>
    obtain ⟨n, script₁, h₁⟩ := ih₁
    obtain ⟨m, script₂, h₂⟩ := ih₂
    refine ⟨n + m + 1, script₁ ++ script₂, fun unused => ?_⟩
    rw [execute_call, List.append_assoc, execute_append (h₁ (script₂ ++ unused)) (h₂ unused)]
    simp [Execution.after]
  | @hook _ _ _ _ calls _ _ _ _ _ ih₁ ih₂ =>
    obtain ⟨n, script₁, h₁⟩ := ih₁
    obtain ⟨m, script₂, h₂⟩ := ih₂
    refine ⟨n + m + 1, calls :: (script₁ ++ script₂), fun unused => ?_⟩
    rw [execute_hook, List.cons_append, List.append_assoc]
    simp only [replay]
    rw [execute_append (h₁ (script₂ ++ unused)) (h₂ unused)]
    simp [Execution.after]

end TopicRelay.Publication
