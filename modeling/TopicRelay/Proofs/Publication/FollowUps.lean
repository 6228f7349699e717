/-
Hooks that follow up once come to an end. A hook has at most one action in it, and an action runs no
more hooks than are attached. So the items that can still come up are limited by the agenda and by the
serials that have not run yet; every item that is worked off lowers that limit, and the one that a call
is given to start with suffices. A call always returns, and its hooks have run as often as is owed.
-/
import TopicRelay.Proofs.Publication.Hooks
import Mathlib.Data.Finset.Card

namespace TopicRelay.Publication

variable {serials : Finset Nat} {limit n : Nat} {s : Source OnceHook} {ran : List Nat} {h : OnceHook}
  {rest items : List (Item OnceHook)}

/-! ## What can still come up -/

/-- How many of some serials have not run. -/
def unspent (serials : Finset Nat) (ran : List Nat) : Nat :=
  (serials.filter (· ∉ ran)).card

theorem unspent_le (serials : Finset Nat) (ran : List Nat) : unspent serials ran ≤ serials.card :=
  Finset.card_filter_le ..

theorem unspent_cons {k : Nat} (known : k ∈ serials) (new : k ∉ ran) :
    unspent serials (k :: ran) + 1 = unspent serials ran := by
  have erased : serials.filter (· ∉ k :: ran) = (serials.filter (· ∉ ran)).erase k := by
    ext j
    simp only [Finset.mem_filter, Finset.mem_erase, List.mem_cons, not_or]
    constructor
    · rintro ⟨hj, hne, hran⟩
      exact ⟨hne, hj, hran⟩
    · rintro ⟨hne, hj, hran⟩
      exact ⟨hj, hne, hran⟩
  rw [unspent, unspent, erased]
  exact Finset.card_erase_add_one (Finset.mem_filter.2 ⟨known, new⟩)

/-- How many items come up with an item, follow-ups aside, while no more than so many hooks are attached
to an occasion. -/
def Item.cost (limit : Nat) : Item OnceHook → Nat
  | .call _ => limit + 1
  | .hook _ => 1

/-- How many items come up at most, where each serial that has not run may follow up with a call. -/
def outlook (serials : Finset Nat) (limit : Nat) (ran : List Nat) (items : List (Item OnceHook)) : Nat :=
  unspent serials ran * (limit + 1) + (items.map (Item.cost limit)).sum

theorem outlook_call (c : Call OnceHook) :
    outlook serials limit ran (.call c :: rest) = outlook serials limit ran rest + (limit + 1) := by
  simp only [outlook, List.map_cons, List.sum_cons, Item.cost]
  omega

theorem outlook_hooks (hs : List OnceHook) :
    outlook serials limit ran (hs.map .hook ++ rest) =
      outlook serials limit ran rest + hs.length := by
  induction hs with
  | nil => rfl
  | cons h hs ih =>
    simp only [outlook, List.map_cons, List.cons_append, List.sum_cons, Item.cost,
      List.length_cons] at ih ⊢
    omega

/-- A follow-up comes up at the expense of its serial. -/
theorem outlook_behave (known : h.serial ∈ serials) :
    outlook serials limit (OnceHook.behave ran h).1 ((OnceHook.behave ran h).2.map .call ++ rest) ≤
      outlook serials limit ran rest := by
  unfold OnceHook.behave
  split
  · exact Nat.le_refl _
  · next new =>
    have spent : unspent serials (h.serial :: ran) + 1 = unspent serials ran :=
      unspent_cons known (by simpa using new)
    cases h.followUp with
    | none =>
      show outlook serials limit (h.serial :: ran) rest ≤ _
      exact Nat.add_le_add_right (Nat.mul_le_mul_right _ (by omega)) _
    | some a =>
      show outlook serials limit (h.serial :: ran) (.call (.act a) :: rest) ≤ _
      rw [outlook_call, outlook, outlook, ← spent, Nat.succ_mul]
      omega

/-! ## Working it off -/

/-- A source and an agenda on which there are only actions, and hooks of known serials. -/
structure Familiar (serials : Finset Nat) (limit : Nat) (s : Source OnceHook)
    (items : List (Item OnceHook)) : Prop where
  attached : ∀ on, ∀ h ∈ s.hooks on, h.serial ∈ serials
  few : ∀ on, (s.hooks on).length ≤ limit
  hooks : ∀ h, .hook h ∈ items → h.serial ∈ serials
  actions : ∀ c, .call c ∈ items → ∃ a, c = .act a

/-- An action attaches no hook and runs those of one occasion, or none. -/
theorem hooks_act (s : Source OnceHook) (a : Action) :
    (∀ on, (s.act a).source.hooks on = s.hooks on) ∧
      ((s.act a).hooks = [] ∨ ∃ on, (s.act a).hooks = s.hooks on) := by
  have answer : Answer s (.act a) (s.act a) _ := answer_call s (.act a)
  generalize s.act a = r, happenings s (.act a) = past at answer
  cases answer with
  | @entered _ on => exact ⟨fun o => by cases o <;> rfl, .inr ⟨on, rfl⟩⟩
  | refused | ignored => exact ⟨fun _ => rfl, .inl rfl⟩

namespace Familiar

theorem tail {i : Item OnceHook} (familiar : Familiar serials limit s (i :: rest)) :
    Familiar serials limit s rest :=
  { familiar with
    hooks := fun h hh => familiar.hooks h (List.mem_cons_of_mem _ hh)
    actions := fun c hc => familiar.actions c (List.mem_cons_of_mem _ hc) }

theorem hooks_append {hs : List OnceHook} (known : ∀ h ∈ hs, h.serial ∈ serials)
    (familiar : Familiar serials limit s rest) :
    Familiar serials limit s (hs.map .hook ++ rest) :=
  { familiar with
    hooks := by
      intro h hh
      rcases List.mem_append.1 hh with hh | hh
      · exact known h (by simpa using hh)
      · exact familiar.hooks h hh
    actions := by
      intro c hc
      rcases List.mem_append.1 hc with hc | hc
      · simp at hc
      · exact familiar.actions c hc }

theorem action_cons (a : Action) (familiar : Familiar serials limit s rest) :
    Familiar serials limit s (.call (.act a) :: rest) :=
  { familiar with
    hooks := by
      intro h hh
      rcases List.mem_cons.1 hh with same | hh
      · cases same
      · exact familiar.hooks h hh
    actions := by
      intro c hc
      rcases List.mem_cons.1 hc with same | hc
      · exact ⟨a, Item.call.inj same⟩
      · exact familiar.actions c hc }

theorem act {a : Action} (familiar : Familiar serials limit s (.call (.act a) :: rest)) :
    Familiar serials limit (s.act a).source ((s.act a).hooks.map .hook ++ rest) ∧
      (s.act a).hooks.length ≤ limit := by
  obtain ⟨kept, run⟩ := hooks_act s a
  have after : Familiar serials limit (s.act a).source rest :=
    { familiar.tail with
      attached := fun on => kept on ▸ familiar.attached on
      few := fun on => kept on ▸ familiar.few on }
  rcases run with run | ⟨on, run⟩
  · rw [run]
    exact ⟨after, Nat.zero_le _⟩
  · rw [run]
    exact ⟨hooks_append (familiar.attached on) after, familiar.few on⟩

theorem behave (familiar : Familiar serials limit s (.hook h :: rest)) (ran : List Nat) :
    Familiar serials limit s ((OnceHook.behave ran h).2.map .call ++ rest) := by
  unfold OnceHook.behave
  split
  · exact familiar.tail
  · cases h.followUp with
    | none => exact familiar.tail
    | some a => exact familiar.tail.action_cons a

/-- An agenda is worked off within as many items as can come up. The induction is on that number: an
action is replaced by no more hooks than it counts for, and a hook by a follow-up of its serial. -/
theorem exists_execute (familiar : Familiar serials limit s items)
    (enough : outlook serials limit ran items ≤ n) :
    ∃ x, execute OnceHook.behave n s ran items = some x := by
  induction n generalizing s ran items with
  | zero =>
    cases items with
    | nil => exact ⟨_, execute_nil⟩
    | cons i rest => cases i <;> simp [outlook, Item.cost] at enough
  | succ n ih =>
    cases items with
    | nil => exact ⟨_, execute_nil⟩
    | cons i rest =>
      cases i with
      | call c =>
        obtain ⟨a, rfl⟩ := familiar.actions c List.mem_cons_self
        obtain ⟨further, few⟩ := familiar.act
        rw [outlook_call] at enough
        have fewer : outlook serials limit ran ((s.act a).hooks.map .hook ++ rest) ≤ n := by
          rw [outlook_hooks]
          omega
        obtain ⟨x, hx⟩ := ih further fewer
        rw [execute_call, show s.call (.act a) = s.act a from rfl, hx]
        exact ⟨_, rfl⟩
      | hook h =>
        have spent : outlook serials limit ran (.hook h :: rest) = outlook serials limit ran rest + 1 :=
          outlook_hooks [h]
        have fewer : outlook serials limit ran rest ≤ n := by omega
        obtain ⟨x, hx⟩ := ih (familiar.behave ran)
          ((outlook_behave (familiar.hooks h List.mem_cons_self)).trans fewer)
        rw [execute_hook, hx]
        exact ⟨_, rfl⟩

end Familiar

/-! ## Calls return -/

/-- The hooks that are attached, whatever they are attached to. -/
def Source.allHooks (s : Source OnceHook) : List OnceHook :=
  s.onStandby ++ s.onActive ++ s.onClose

theorem mem_allHooks {on : Occasion} (attached : h ∈ s.hooks on) : h ∈ s.allHooks := by
  cases on <;> simp only [Source.hooks] at attached <;> simp [Source.allHooks, attached]

theorem length_hooks_le (s : Source OnceHook) (on : Occasion) :
    (s.hooks on).length ≤ s.allHooks.length := by
  cases on <;> simp only [Source.hooks, Source.allHooks, List.length_append] <;> omega

/-- A call attaches one hook at most, and runs hooks that are attached once it is through. -/
theorem allHooks_call (s : Source OnceHook) (c : Call OnceHook) :
    (s.call c).source.allHooks.length ≤ s.allHooks.length + 1 ∧
      (∀ h ∈ (s.call c).hooks, h ∈ (s.call c).source.allHooks) ∧
      (s.call c).hooks.length ≤ (s.call c).source.allHooks.length := by
  have answer := answer_call s c
  generalize s.call c = r, happenings s c = past at answer
  cases answer with
  | @entered _ on =>
    exact ⟨Nat.le_succ _, fun h hh => mem_allHooks (s := s) hh, length_hooks_le s on⟩
  | refused | ignored => exact ⟨Nat.le_succ _, fun h hh => (by cases hh), Nat.zero_le _⟩
  | @attached on h =>
    refine ⟨?_, fun k hk => ?_, ?_⟩
    · cases on <;> simp only [Source.withHook, Source.allHooks, List.length_append,
        List.length_singleton] <;> omega
    · dsimp only at hk
      split at hk
      · obtain rfl := List.mem_singleton.1 hk
        have attached : k ∈ (s.withHook on k).hooks on := by simp
        exact mem_allHooks attached
      · cases hk
    · refine le_trans ?_ (length_hooks_le (s.withHook on h) on)
      dsimp only
      split <;> simp

/-- Attached hooks that run are worked off. -/
theorem exists_execute_hooks {hs : List OnceHook} (run : ∀ h ∈ hs, h ∈ s.allHooks)
    (enough : s.allHooks.length * (s.allHooks.length + 1) + hs.length ≤ n) :
    ∃ x, execute OnceHook.behave n s ran (hs.map .hook) = some x := by
  have known {h : OnceHook} (hh : h ∈ s.allHooks) : h.serial ∈ (s.allHooks.map (·.serial)).toFinset :=
    List.mem_toFinset.2 (List.mem_map_of_mem hh)
  have idle : Familiar (s.allHooks.map (·.serial)).toFinset s.allHooks.length s [] :=
    ⟨fun on h hh => known (mem_allHooks hh), length_hooks_le s, fun _ hh => (by cases hh),
      fun _ hc => (by cases hc)⟩
  have serials_le : unspent (s.allHooks.map (·.serial)).toFinset ran ≤ s.allHooks.length :=
    (unspent_le ..).trans ((List.toFinset_card_le _).trans (by rw [List.length_map]))
  rw [← List.append_nil (hs.map Item.hook)]
  refine (idle.hooks_append fun h hh => known (run h hh)).exists_execute ?_
  rw [outlook_hooks]
  exact le_trans (Nat.add_le_add_right (Nat.mul_le_mul_right _ serials_le) _) enough

/-- The bound of a call suffices: a call of a source whose hooks follow up once always returns. -/
theorem execute_callOnce (s : Source OnceHook) (ran : List Nat) (c : Call OnceHook) :
    execute OnceHook.behave (onceBound s) s ran [.call c] = some (callOnce s ran c) := by
  obtain ⟨few, run, length⟩ := allHooks_call s c
  have bound : onceBound s = (s.allHooks.length + 1) * (s.allHooks.length + 3) + 1 := by
    simp only [onceBound, Source.allHooks, List.length_append]
    ring
  have enough : (s.call c).source.allHooks.length * ((s.call c).source.allHooks.length + 1) +
      (s.call c).hooks.length ≤ (s.allHooks.length + 1) * (s.allHooks.length + 3) := by
    calc _ ≤ (s.allHooks.length + 1) * (s.allHooks.length + 1 + 1) + (s.allHooks.length + 1) :=
          Nat.add_le_add (Nat.mul_le_mul few (Nat.succ_le_succ few)) (length.trans few)
      _ = _ := by ring
  obtain ⟨x, hx⟩ : ∃ x, execute OnceHook.behave _ (s.call c).source ran
      ((s.call c).hooks.map .hook) = some x := exists_execute_hooks run enough
  rw [callOnce, bound, execute_call, List.append_nil, hx]
  rfl

/-- So its hooks have run exactly as often as is owed for what has happened. -/
theorem count_ran_callOnce (s : Source OnceHook) (ran : List Nat) (c : Call OnceHook) (h : OnceHook) :
    (callOnce s ran c).history.count (.ran h) = owed h s (callOnce s ran c).history := by
  rw [(nested_execute (execute_callOnce s ran c)).count_ran]
  simp

end TopicRelay.Publication
