/-
How often hooks run. Whatever the hooks of a source call back, once all is through a hook has run, for
each time it was attached, once if the source was then in its state, and once for each later entry of
that state. The account is kept along nested executions: what has run is what was to be done, what the
hooks already attached owe to the entries, and what the attachments of the history make due. The
history itself tells the states as they follow upon one another, which limits how often the states can
be entered.
-/
import TopicRelay.Proofs.Publication.Nesting
import Mathlib.Data.List.Count
import Mathlib.Tactic.Ring

namespace TopicRelay.Publication

variable {σ η : Type}

/-! ## States as they follow upon one another -/

/-- The changes of state that a source makes. -/
inductive Transition.Allowed : Transition → Prop
  | registered : Allowed ⟨.unregistered, .standby⟩
  | activated : Allowed ⟨.standby, .active⟩
  | deactivated : Allowed ⟨.active, .standby⟩
  | closed {left : SourceState} (opened : left ≠ .closed) : Allowed ⟨left, .closed⟩

/-- Whether a history leads from a state to a state: each change is allowed and leaves the state that
the one before it entered, hooks are attached in the state that the source is in, and only a source
that is registered refuses. -/
inductive Leads : SourceState → List (Happening η) → SourceState → Prop
  | still {st : SourceState} : Leads st [] st
  | moved {left entered st' : SourceState} {rest : List (Happening η)}
      (allowed : Transition.Allowed ⟨left, entered⟩) (further : Leads entered rest st') :
      Leads left (.moved ⟨left, entered⟩ :: rest) st'
  | attached {st st' : SourceState} {on : Occasion} {h : η} {rest : List (Happening η)}
      (further : Leads st rest st') : Leads st (.attached on h st :: rest) st'
  | refused {st st' : SourceState} {e : PublishingError} {rest : List (Happening η)}
      (registered : st ≠ .unregistered) (further : Leads st rest st') :
      Leads st (.refused e :: rest) st'
  | ran {st st' : SourceState} {h : η} {rest : List (Happening η)}
      (further : Leads st rest st') : Leads st (.ran h :: rest) st'

namespace Leads

variable {st st₁ st' : SourceState} {past later : List (Happening η)}

theorem append (h₁ : Leads st past st₁) (h₂ : Leads st₁ later st') : Leads st (past ++ later) st' := by
  induction h₁ with
  | still => exact h₂
  | moved allowed _ ih => exact .moved allowed (ih h₂)
  | attached _ ih => exact .attached (ih h₂)
  | refused registered _ ih => exact .refused registered (ih h₂)
  | ran _ ih => exact .ran (ih h₂)

end Leads

/-! ## What a call can come to -/

/-- What a call makes of a source and adds to the history. -/
inductive Answer (s : Source η) : Call η → Reaction η → List (Happening η) → Prop
  | entered {a : Action} {on : Occasion} (allowed : Transition.Allowed ⟨s.state, on.state⟩)
      (first : a = .register ↔ s.state = .unregistered ∧ on = .standby) :
      Answer s (.act a) (s.enter on) [.moved ⟨s.state, on.state⟩]
  /-- Only registering is ever refused. -/
  | refused {e : PublishingError} (registered : s.state ≠ .unregistered) :
      Answer s (.act .register) { source := s, refused := some e } [.refused e]
  | ignored {a : Action} (other : a ≠ .register) : Answer s (.act a) s.ignore []
  | attached {on : Occasion} {h : η} :
      Answer s (.attach on h)
        { source := s.withHook on h, hooks := if s.state = on.state then [h] else [] }
        [.attached on h s.state]

theorem answer_call (s : Source η) (c : Call η) : Answer s c (s.call c) (happenings s c) := by
  cases c with
  | attach on hook => exact .attached
  | act a =>
    unfold happenings Source.call
    cases a <;> simp only [Source.act] <;> split
    case register.isTrue h =>
      exact .entered (by rw [h]; exact .registered) (by simp [h])
    case register.isFalse h => exact .refused h
    case activate.isTrue h => exact .entered (by rw [h]; exact .activated) (by simp)
    case standby.isTrue h => exact .entered (by rw [h]; exact .deactivated) (by simp [h])
    case close.isFalse h => exact .entered (.closed h) (by simp)
    all_goals exact .ignored (by simp)

/-- What a call adds to the history leads from the state that it finds to the state that it leaves. -/
theorem leads_happenings (s : Source η) (c : Call η) :
    Leads s.state (happenings s c) (s.call c).source.state := by
  have answer := answer_call s c
  generalize s.call c = r, happenings s c = past at answer
  cases answer with
  | entered allowed => exact .moved allowed .still
  | refused registered => exact .refused registered .still
  | ignored => exact .still
  | attached =>
    rw [Source.state_withHook]
    exact .attached .still

theorem Nested.leads {s s' : Source η} {items : List (Item η)} {past : List (Happening η)}
    (hr : Nested s items past s') : Leads s.state past s'.state := by
  induction hr with
  | done => exact .still
  | @call s _ _ c _ _ _ _ _ ih₁ ih₂ => exact ((leads_happenings s c).append ih₁).append ih₂
  | hook _ _ ih₁ ih₂ => exact .ran (ih₁.append ih₂)

/-! ## Entries and attachments -/

/-- Whether something that happened is a change to the state of an occasion. -/
def Happening.enters (on : Occasion) : Happening η → Bool
  | .moved t => t.entered = on.state
  | _ => false

/-- How often a history enters the state of an occasion. -/
def entries (on : Occasion) (past : List (Happening η)) : Nat :=
  past.countP (·.enters on)

@[simp] theorem entries_append (on : Occasion) (past later : List (Happening η)) :
    entries on (past ++ later) = entries on past + entries on later :=
  List.countP_append ..

/-- A source is closed at most once, and then it stays closed. -/
theorem Leads.entries_closed {st st' : SourceState} {past : List (Happening η)}
    (hp : Leads st past st') :
    (if st = .closed then 1 else 0) + entries .closed past = if st' = .closed then 1 else 0 := by
  induction hp with
  | still => rfl
  | moved allowed _ ih =>
    rw [← ih]
    cases allowed <;> simp_all [entries, Happening.enters, Occasion.state, Nat.add_comm]
  | attached _ ih | refused _ _ ih | ran _ ih =>
    rw [← ih]
    simp [entries, Happening.enters]

/-- A source is registered at most once. -/
theorem Leads.count_registrations [DecidableEq η] {st st' : SourceState} {past : List (Happening η)}
    (hp : Leads st past st') :
    past.count (.moved ⟨.unregistered, .standby⟩) ≤ if st = .unregistered then 1 else 0 := by
  induction hp with
  | still => simp
  | moved allowed _ ih => cases allowed <;> simp_all
  | attached _ ih | refused _ _ ih | ran _ ih => rwa [List.count_cons_of_ne (by simp)]

section Counting

variable [DecidableEq η]

/-- Whether something that happened is that a hook was attached to an occasion. -/
def Happening.attaches (h : η) (on : Occasion) : Happening η → Bool
  | .attached o k _ => o = on ∧ k = h
  | _ => false

/-- How often a hook was attached to an occasion. -/
def attachments (h : η) (on : Occasion) (past : List (Happening η)) : Nat :=
  past.countP (·.attaches h on)

@[simp] theorem attachments_append (h : η) (on : Occasion) (past later : List (Happening η)) :
    attachments h on (past ++ later) = attachments h on past + attachments h on later :=
  List.countP_append ..

/-- How often the attachments of a hook in a history make it run: each once if the source was in the
state of its occasion, and once for each entry of that state that comes after it. -/
def due (h : η) : List (Happening η) → Nat
  | [] => 0
  | .attached on k st :: rest =>
    (if k = h then (if st = on.state then 1 else 0) + entries on rest else 0) + due h rest
  | _ :: rest => due h rest

/-- The entries of a history, each as often as its occasion counts. -/
def weighed (weight : Occasion → Nat) (past : List (Happening η)) : Nat :=
  weight .standby * entries .standby past + weight .active * entries .active past
    + weight .closed * entries .closed past

omit [DecidableEq η] in
theorem weighed_append (weight : Occasion → Nat) (past later : List (Happening η)) :
    weighed weight (past ++ later) = weighed weight past + weighed weight later := by
  simp only [weighed, entries_append]
  ring

omit [DecidableEq η] in
theorem weighed_add (weight more : Occasion → Nat) (past : List (Happening η)) :
    weighed (fun on => weight on + more on) past = weighed weight past + weighed more past := by
  simp only [weighed]
  ring

/-- What is due in the end: what is due on either side, and what the later entries owe to the earlier
attachments. -/
theorem due_append (h : η) (past later : List (Happening η)) :
    due h (past ++ later) =
      due h past + due h later + weighed (fun on => attachments h on past) later := by
  induction past with
  | nil => simp [due, weighed, attachments]
  | cons e past ih =>
    -- an attachment at the head owes to the entries on both sides
    have split : ∀ on, attachments h on (e :: past) =
        attachments h on [e] + attachments h on past :=
      fun on => attachments_append h on [e] past
    simp only [split, weighed_add, List.cons_append]
    cases e with
    | attached on k st =>
      simp only [due, ih, entries_append]
      by_cases hk : k = h
      · cases on <;> simp [weighed, attachments, Happening.attaches, hk] <;> omega
      · simp [weighed, attachments, Happening.attaches, hk]
    | moved | refused | ran => simp [due, ih, weighed, attachments, Happening.attaches]

/-- How often a hook is to run in a history that starts from a source: for the entries it owes to the
hooks that the source has, and for what its own attachments make due. -/
def owed (h : η) (s : Source η) (past : List (Happening η)) : Nat :=
  weighed (fun on => (s.hooks on).count h) past + due h past

theorem owed_append {h : η} {s s₁ : Source η} {past : List (Happening η)}
    (hs : ∀ on, (s₁.hooks on).count h = (s.hooks on).count h + attachments h on past)
    (later : List (Happening η)) :
    owed h s (past ++ later) = owed h s past + owed h s₁ later := by
  simp only [owed, weighed_append, due_append, hs, weighed_add]
  omega

/-! ## The account of a call -/

/-- A call runs no hook by itself. -/
theorem count_ran_happenings (h : η) (s : Source η) (c : Call η) :
    (happenings s c).count (.ran h) = 0 := by
  have answer := answer_call s c
  generalize s.call c = r, happenings s c = past at answer
  cases answer <;> simp

/-- The hooks of a source after a call: those it had and those the call attaches. -/
theorem count_hooks_call (h : η) (s : Source η) (c : Call η) (on : Occasion) :
    ((s.call c).source.hooks on).count h = (s.hooks on).count h + attachments h on (happenings s c) := by
  have answer := answer_call s c
  generalize s.call c = r, happenings s c = past at answer
  cases answer with
  | entered =>
    cases on <;> simp [Source.enter, Source.hooks, attachments, Happening.attaches]
  | refused | ignored => simp [Source.ignore, attachments, Happening.attaches]
  | @attached o k =>
    rw [Source.hooks_withHook]
    by_cases ho : on = o
    · subst ho
      by_cases hk : k = h <;> simp [attachments, Happening.attaches, hk]
    · simp [attachments, Happening.attaches, ho, Ne.symm ho]

/-- A call leads to the hooks that are to run for what it adds to the history. -/
theorem count_hooks_reaction (h : η) (s : Source η) (c : Call η) :
    (s.call c).hooks.count h = owed h s (happenings s c) := by
  have answer := answer_call s c
  generalize s.call c = r, happenings s c = past at answer
  cases answer with
  | @entered _ on =>
    cases on <;> simp [Source.enter, owed, weighed, entries, Happening.enters, Occasion.state, due]
  | refused | ignored => simp [Source.ignore, owed, weighed, entries, Happening.enters, due]
  | @attached on k =>
    by_cases hs : s.state = on.state <;> by_cases hk : k = h <;>
      simp [owed, weighed, entries, Happening.enters, due, hs, hk]

/-! ## The account of nested executions -/

theorem Nested.count_hooks {s s' : Source η} {items : List (Item η)} {past : List (Happening η)}
    (hr : Nested s items past s') (h : η) (on : Occasion) :
    (s'.hooks on).count h = (s.hooks on).count h + attachments h on past := by
  induction hr with
  | done => rfl
  | @call s _ _ c _ _ _ _ _ ih₁ ih₂ =>
    rw [ih₂, ih₁, count_hooks_call, attachments_append, attachments_append]
    omega
  | hook _ _ ih₁ ih₂ =>
    rw [ih₂, ih₁, List.cons_append]
    simp only [attachments, List.countP_cons, List.countP_append, Happening.attaches]
    simp [Nat.add_assoc]

/-- The account: a hook has run as often as it was to be run, and as often as the history makes it. -/
theorem Nested.count_ran {s s' : Source η} {items : List (Item η)} {past : List (Happening η)}
    (hr : Nested s items past s') (h : η) :
    past.count (.ran h) = items.count (.hook h) + owed h s past := by
  induction hr with
  | done => rfl
  | @call s s₁ _ c rest inner later hooks _ ih₁ ih₂ =>
    -- what is owed is split at the call and after its hooks, with the hooks attached by then; the
    -- hooks the call leads to are what it owes itself
    have ran : ((s.call c).hooks.map Item.hook).count (.hook h) = owed h s (happenings s c) := by
      rw [List.count_map_of_injective _ _ fun _ _ => Item.hook.inj, count_hooks_reaction]
    have after_call := count_hooks_call h s c
    have after_hooks : ∀ on, (s₁.hooks on).count h =
        (s.hooks on).count h + attachments h on (happenings s c ++ inner) := fun on => by
      rw [hooks.count_hooks h on, after_call, attachments_append, Nat.add_assoc]
    rw [owed_append after_hooks, owed_append after_call, List.count_append, List.count_append, ih₁, ih₂,
      count_ran_happenings, ran, List.count_cons_of_ne (by simp)]
    omega
  | @hook s s₁ _ k calls rest inner later made _ ih₁ ih₂ =>
    have none_due : (calls.map Item.call).count (.hook h) = 0 := by simp [List.count_eq_zero]
    have after_calls : ∀ on, (s₁.hooks on).count h =
        (s.hooks on).count h + attachments h on (.ran k :: inner) := made.count_hooks h
    have of_inner : owed h s (.ran k :: inner) = owed h s inner := rfl
    rw [owed_append after_calls, of_inner, List.count_append, List.count_cons, ih₁, ih₂, none_due,
      List.count_cons]
    by_cases hk : k = h <;> simp [hk] <;> omega

/-! ## What a history makes due -/

section Due

variable {h : η} {past : List (Happening η)}

theorem due_of_not_attached (hp : ∀ on st, .attached on h st ∉ past) : due h past = 0 := by
  induction past with
  | nil => rfl
  | cons e past ih =>
    simp only [List.mem_cons, not_or] at hp
    have rest := ih fun on st => (hp on st).2
    cases e with
    | attached on k st =>
      have other : k ≠ h := by
        rintro rfl
        exact (hp on st).1 rfl
      simp [due, other, rest]
    | moved | refused | ran => exact rest

theorem attachments_of_not_attached (hp : ∀ on st, .attached on h st ∉ past) (on : Occasion) :
    attachments h on past = 0 := by
  rw [attachments, List.countP_eq_zero]
  intro e he
  cases e with
  | attached o k st =>
    have other : k ≠ h := by
      rintro rfl
      exact hp o st he
    simp [Happening.attaches, other]
  | moved | refused | ran => simp [Happening.attaches]

/-- For a hook that is attached once, its attachment and the entries after it tell what is due. -/
theorem due_of_attached_once {on : Occasion} {st : SourceState} {later : List (Happening η)}
    (hp : ∀ o st', .attached o h st' ∉ past) (hl : ∀ o st', .attached o h st' ∉ later) :
    due h (past ++ .attached on h st :: later) =
      (if st = on.state then 1 else 0) + entries on later := by
  rw [due_append, due_of_not_attached hp, due, due_of_not_attached hl]
  simp [weighed, attachments_of_not_attached hp]

/-- What is due to a hook that is attached for the end of the source alone. -/
theorem Leads.due_closed {st st' : SourceState} (hp : Leads st past st')
    (only : ∀ on k, .attached on h k ∈ past → on = .closed) :
    due h past = if st' = .closed then attachments h .closed past else 0 := by
  induction hp with
  | still => simp [due, attachments]
  | @attached st st' on k rest further ih =>
    have rest_due := ih fun o st₁ ho => only o st₁ (List.mem_cons_of_mem _ ho)
    by_cases hk : k = h
    · subst hk
      obtain rfl := only on st List.mem_cons_self
      have entered : (if st = Occasion.closed.state then 1 else 0) + entries .closed rest = _ :=
        further.entries_closed
      rw [due, if_pos rfl, entered, rest_due]
      split <;> simp [attachments, Happening.attaches, Nat.add_comm]
    · simpa [due, attachments, Happening.attaches, hk] using rest_due
  | moved _ _ ih | refused _ _ ih | ran _ ih =>
    have rest_due := ih fun o st₁ ho => only o st₁ (List.mem_cons_of_mem _ ho)
    simpa [due, attachments, Happening.attaches] using rest_due

end Due

/-! ## Once all is through -/

/-- A hook runs exactly once per entry, whatever the hooks of the source call back. Once calls of a new
source are through with all that they caused:
* a hook has run as often as its attachments make due; if it was attached once, that is once if the
  source was then in its state, and once for each entry of that state after the attachment;
* a hook that waits for the end alone has run once for each time it was attached if the source is
  closed, and never otherwise, where a source is closed at most once;
* the states follow upon one another, from the unregistered one to the one that the source is in,
  through registration, activation and its reverse, and the end from anywhere;
* at most one registration came about: whatever source a call meets, it makes that change exactly if
  it registers and is not refused, and where it is refused the source stays as it is and no hook runs. -/
theorem hooks_run_once_per_entry (behave : σ → η → σ × List (Call η)) (n : Nat) (topicPath : String)
    (w : σ) (calls : List (Call η)) {x : Execution σ η}
    (returned : execute behave n { topicPath } w (calls.map .call) = some x) :
    (∀ h, x.history.count (.ran h) = due h x.history) ∧
    (∀ h on st before after, x.history = before ++ .attached on h st :: after →
      (∀ o st', .attached o h st' ∉ before) → (∀ o st', .attached o h st' ∉ after) →
        x.history.count (.ran h) = (if st = on.state then 1 else 0) + entries on after) ∧
    (∀ h, (∀ on st, .attached on h st ∈ x.history → on = .closed) →
      x.history.count (.ran h) =
        if x.source.state = .closed then attachments h .closed x.history else 0) ∧
    entries .closed x.history = (if x.source.state = .closed then 1 else 0) ∧
    Leads .unregistered x.history x.source.state ∧
    x.history.count (.moved ⟨.unregistered, .standby⟩) ≤ 1 ∧
    ∀ (s : Source η) (c : Call η),
      (.moved ⟨.unregistered, .standby⟩ ∈ happenings s c ↔
        c = .act .register ∧ (s.call c).refused = none) ∧
      ∀ e, (s.call c).refused = some e →
        c = .act .register ∧ s.call c = { source := s, refused := some e } := by
  have nested := nested_execute returned
  have leads : Leads .unregistered x.history x.source.state := nested.leads
  have ran : ∀ h, x.history.count (.ran h) = due h x.history := fun h => by
    have none_due : (calls.map Item.call).count (.hook h) = 0 := by simp [List.count_eq_zero]
    rw [nested.count_ran, none_due, owed]
    simp [weighed, Source.hooks]
  refine ⟨ran, ?_, fun h only => (ran h).trans (leads.due_closed only), ?_, leads,
    leads.count_registrations, fun s c => ?_⟩
  · intro h on st before after hx hb ha
    rw [ran, hx, due_of_attached_once hb ha]
  · simpa using leads.entries_closed
  · have answer := answer_call s c
    generalize s.call c = r, happenings s c = past at answer
    cases answer with
    | @entered a on allowed first =>
      have standby : SourceState.standby = on.state ↔ on = .standby := by
        cases on <;> simp [Occasion.state]
      simp [Source.enter, first, standby, @eq_comm _ SourceState.unregistered]
    | refused => simp
    | ignored other => simp [Source.ignore, other]
    | attached => simp

/-- A hook on standby activates the source and a hook on activation closes it, all while the source is
being registered: each of them has run once, and so has the hook that waits for the end. -/
theorem hooks_run_once_per_entry_chain :
    ∃ x, execute OnceHook.behave 10 { topicPath := "root" } []
        ([.attach .standby ⟨"standby", 0, some .activate⟩, .attach .active ⟨"active", 1, some .close⟩,
          .attach .closed ⟨"closed", 2, none⟩, .act .register].map .call) = some x ∧
      x.source.state = .closed ∧ x.history.count (.ran ⟨"closed", 2, none⟩) = 1 := by
  refine ⟨_, rfl, rfl, ?_⟩
  rw [(hooks_run_once_per_entry OnceHook.behave 10 "root" [] [
    .attach .standby ⟨"standby", 0, some .activate⟩, .attach .active ⟨"active", 1, some .close⟩,
    .attach .closed ⟨"closed", 2, none⟩, .act .register] rfl).1]
  decide

end Counting

end TopicRelay.Publication
