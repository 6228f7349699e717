/-
What JSON values consist of: their numbers, their texts, the names of their objects, and how deep they
nest. A value whose objects list their members in ascending order of the names is the value of its own
node; an object made of members given one after the other lists them so.
-/
import TopicRelay.Json.Node
import TopicRelay.Json.Writer

namespace TopicRelay.Json

open TopicRelay.Decimal

namespace Value

mutual

/-- How many arrays and objects stand within each other. -/
def depth : Value → Nat
  | .null | .bool _ | .number _ | .text _ => 0
  | .array items => depthOfItems items + 1
  | .object members => depthOfMembers members + 1

/-- The greatest depth of an item. -/
def depthOfItems : List Value → Nat
  | [] => 0
  | v :: vs => max v.depth (depthOfItems vs)

/-- The greatest depth of the value of a member. -/
def depthOfMembers : List (String × Value) → Nat
  | [] => 0
  | (_, v) :: ms => max v.depth (depthOfMembers ms)

end

theorem depth_array_le {items : List Value} {d : Nat} :
    (array items).depth ≤ d + 1 ↔ ∀ v ∈ items, v.depth ≤ d := by
  rw [depth, Nat.add_le_add_iff_right]
  induction items with
  | nil => simp [depthOfItems]
  | cons v vs ih => rw [depthOfItems, Nat.max_le, ih, List.forall_mem_cons]

theorem exists_depth_array {items : List Value} {d : Nat} (h : (array items).depth ≤ d) :
    ∃ d', d = d' + 1 ∧ ∀ v ∈ items, v.depth ≤ d' := by
  have pos : 1 ≤ (array items).depth := by rw [depth]; omega
  obtain ⟨d, rfl⟩ := Nat.exists_eq_add_of_le' (Nat.le_trans pos h)
  exact ⟨d, rfl, depth_array_le.1 h⟩

theorem depth_object_le {members : List (String × Value)} {d : Nat} :
    (object members).depth ≤ d + 1 ↔ ∀ m ∈ members, m.2.depth ≤ d := by
  rw [depth, Nat.add_le_add_iff_right]
  induction members with
  | nil => simp [depthOfMembers]
  | cons m ms ih => rw [depthOfMembers, Nat.max_le, ih, List.forall_mem_cons]

theorem exists_depth_object {members : List (String × Value)} {d : Nat}
    (h : (object members).depth ≤ d) : ∃ d', d = d' + 1 ∧ ∀ m ∈ members, m.2.depth ≤ d' := by
  have pos : 1 ≤ (object members).depth := by rw [depth]; omega
  obtain ⟨d, rfl⟩ := Nat.exists_eq_add_of_le' (Nat.le_trans pos h)
  exact ⟨d, rfl, depth_object_le.1 h⟩

end Value

/-! ## Vocabularies -/

/-- What may stand in a value. -/
structure Vocabulary where
  number : Number → Prop
  /-- Texts and names of members. -/
  text : String → Prop := fun _ => True
  /-- The names of the members of one object, in their order. -/
  names : List String → Prop := fun _ => True

/-- The names of an object, each greater than those before it. -/
def Ascending (names : List String) : Prop :=
  names.Pairwise (· < ·)

/-- A value with nothing but words of a vocabulary in it. -/
inductive Value.Over (V : Vocabulary) : Value → Prop
  | null : Over V .null
  | bool (b : Bool) : Over V (.bool b)
  | number {n : Number} (h : V.number n) : Over V (.number n)
  | text {s : String} (h : V.text s) : Over V (.text s)
  | array {items : List Value} (h : ∀ v ∈ items, Over V v) : Over V (.array items)
  | object {members : List (String × Value)} (names : V.names (members.map Prod.fst))
      (texts : ∀ m ∈ members, V.text m.1) (h : ∀ m ∈ members, Over V m.2) : Over V (.object members)

/-- Values of natural numbers of at most 64 bits, with texts of a kind. -/
def naturals (P : String → Prop) : Vocabulary where
  number n := ∃ k : Nat, k < twoTo 64 ∧ n = .integer k
  text := P

@[simp]
theorem naturals_text {P : String → Prop} {s : String} : (naturals P).text s ↔ P s :=
  Iff.rfl

theorem Value.Over.item {V : Vocabulary} {items : List Value} (h : (Value.array items).Over V)
    {v : Value} (hv : v ∈ items) : v.Over V := by
  cases h with
  | array h => exact h v hv

theorem Value.Over.member {V : Vocabulary} {members : List (String × Value)}
    (h : (Value.object members).Over V) {m : String × Value} (hm : m ∈ members) : m.2.Over V := by
  cases h with
  | object _ _ h => exact h m hm

/-- A value over a vocabulary is one over each that allows more. -/
theorem Value.Over.mono {V W : Vocabulary} {v : Value} (h : v.Over V)
    (number : ∀ n, V.number n → W.number n) (text : ∀ s, V.text s → W.text s)
    (names : ∀ ns, V.names ns → W.names ns) : v.Over W := by
  induction h with
  | null => exact .null
  | bool b => exact .bool b
  | number h => exact .number (number _ h)
  | text h => exact .text (text _ h)
  | array _ ih => exact .array ih
  | object ordered texts _ ih => exact .object (names _ ordered) (fun m hm => text _ (texts m hm)) ih

/-- What two vocabularies say of a value they say together. -/
theorem Value.Over.and {V W : Vocabulary} {v : Value} (h : v.Over V) (h' : v.Over W) :
    v.Over ⟨fun n => V.number n ∧ W.number n, fun s => V.text s ∧ W.text s,
      fun ns => V.names ns ∧ W.names ns⟩ := by
  induction h with
  | null => exact .null
  | bool b => exact .bool b
  | number h => cases h' with | number h' => exact .number ⟨h, h'⟩
  | text h => cases h' with | text h' => exact .text ⟨h, h'⟩
  | array _ ih => cases h' with | array h' => exact .array fun v hv => ih v hv (h' v hv)
  | object ordered texts _ ih =>
    cases h' with
    | object ordered' texts' h' =>
      exact .object ⟨ordered, ordered'⟩ (fun m hm => ⟨texts m hm, texts' m hm⟩)
        fun m hm => ih m hm (h' m hm)

/-! ## Objects -/

section

variable {name : String} {v : Value} {members : List (String × Value)}

theorem mem_insertMember {m : String × Value} (h : m ∈ Value.insertMember name v members) :
    m = (name, v) ∨ m ∈ members := by
  induction members with
  | nil => exact .inl (List.mem_singleton.1 h)
  | cons n ms ih =>
    simp only [Value.insertMember] at h
    split at h
    · exact List.mem_cons.1 h
    · split at h
      · exact (List.mem_cons.1 h).imp_right (List.mem_cons_of_mem _)
      · rcases List.mem_cons.1 h with rfl | h
        · exact .inr List.mem_cons_self
        · exact (ih h).imp_right (List.mem_cons_of_mem _)

theorem ascending_insertMember (h : Ascending (members.map Prod.fst)) :
    Ascending ((Value.insertMember name v members).map Prod.fst) := by
  induction members with
  | nil => exact List.pairwise_singleton _ _
  | cons n ms ih =>
    have ⟨above, ascending⟩ := List.pairwise_cons.1 h
    simp only [Value.insertMember]
    split
    · rename_i less
      refine List.pairwise_cons.2 ⟨fun k hk => ?_, h⟩
      rcases List.mem_cons.1 hk with rfl | hk
      · exact less
      · exact String.lt_trans less (above k hk)
    · rename_i not_less
      split
      · rename_i same
        exact eq_of_beq same ▸ h
      · rename_i other
        refine List.pairwise_cons.2 ⟨fun k hk => ?_, ih ascending⟩
        obtain ⟨m, hm, rfl⟩ := List.mem_map.1 hk
        rcases mem_insertMember hm with rfl | hm
        · exact String.not_le.1 fun le =>
            other (beq_iff_eq.2 (String.le_antisymm le (String.not_lt.1 not_less)))
        · exact above _ (List.mem_map_of_mem hm)

/-- A member with a name above all others comes last. -/
theorem insertMember_of_lt (h : ∀ m ∈ members, m.1 < name) :
    Value.insertMember name v members = members ++ [(name, v)] := by
  induction members with
  | nil => rfl
  | cons n ms ih =>
    have less : n.1 < name := h n List.mem_cons_self
    have other : ¬ (name == n.1) = true := fun same =>
      String.lt_irrefl n.1 (eq_of_beq same ▸ less)
    rw [Value.insertMember, if_neg (String.lt_asymm less), if_neg other,
      ih fun m hm => h m (List.mem_cons_of_mem _ hm)]
    rfl

/-- The members of an object, after those that an earlier part of a text has put into `acc`. -/
theorem foldl_insertMember {acc : List (String × Value)}
    (h : Ascending ((acc ++ members).map Prod.fst)) :
    members.foldl (fun acc m => Value.insertMember m.1 m.2 acc) acc = acc ++ members := by
  induction members generalizing acc with
  | nil => exact (List.append_nil acc).symm
  | cons m ms ih =>
    have below : ∀ k ∈ acc, k.1 < m.1 := fun k hk => by
      rw [Ascending, List.map_append, List.pairwise_append] at h
      exact h.2.2 _ (List.mem_map_of_mem hk) _ List.mem_cons_self
    rw [List.foldl_cons, insertMember_of_lt below, ih (by simpa using h), List.append_assoc]
    rfl

theorem ascending_ofMembers (given : List (String × Value)) :
    ∃ members, Value.ofMembers given = .object members ∧ Ascending (members.map Prod.fst) ∧
      ∀ m ∈ members, m ∈ given := by
  suffices fold : ∀ acc, Ascending (acc.map Prod.fst) →
      Ascending ((given.foldl (fun acc m => Value.insertMember m.1 m.2 acc) acc).map Prod.fst) ∧
        ∀ m ∈ given.foldl (fun acc m => Value.insertMember m.1 m.2 acc) acc, m ∈ acc ∨ m ∈ given by
    obtain ⟨ascending, among⟩ := fold [] List.Pairwise.nil
    exact ⟨_, rfl, ascending, fun m hm => (among m hm).resolve_left List.not_mem_nil⟩
  induction given with
  | nil => exact fun acc ascending => ⟨ascending, fun m hm => .inl hm⟩
  | cons g given ih =>
    intro acc ascending
    obtain ⟨ascending', among⟩ := ih (Value.insertMember g.1 g.2 acc) (ascending_insertMember ascending)
    refine ⟨ascending', fun m hm => ?_⟩
    rcases among m hm with hm | hm
    · rcases mem_insertMember hm with rfl | hm
      · exact .inr List.mem_cons_self
      · exact .inl hm
    · exact .inr (List.mem_cons_of_mem _ hm)

end

/-! ## Nodes of values -/

namespace Node

theorem ofValues_eq_map (vs : List Value) : ofValues vs = vs.map ofValue := by
  induction vs with
  | nil => rfl
  | cons v vs ih => rw [ofValues, ih, List.map_cons]

theorem ofMembers_eq_map (ms : List (String × Value)) :
    ofMembers ms = ms.map fun m => (m.1, ofValue m.2) := by
  induction ms with
  | nil => rfl
  | cons m ms ih => rw [ofMembers, ih, List.map_cons]

theorem values?_ofValues {vs : List Value} (h : ∀ v ∈ vs, (ofValue v).value? = some v) :
    values? (ofValues vs) = some vs := by
  induction vs with
  | nil => rfl
  | cons v vs ih =>
    rw [ofValues, values?, h v List.mem_cons_self, ih fun w hw => h w (List.mem_cons_of_mem _ hw)]

theorem members?_ofMembers {ms : List (String × Value)}
    (h : ∀ m ∈ ms, (ofValue m.2).value? = some m.2) : members? (ofMembers ms) = some ms := by
  induction ms with
  | nil => rfl
  | cons m ms ih =>
    rw [ofMembers, members?, h m List.mem_cons_self, ih fun w hw => h w (List.mem_cons_of_mem _ hw)]

/-- The node of a value has that value, provided that objects list their members in order. -/
theorem value?_ofValue {V : Vocabulary} {v : Value} (h : v.Over V)
    (ordered : ∀ names, V.names names → Ascending names) : (ofValue v).value? = some v := by
  induction h with
  | null | bool | number | text => rfl
  | array _ ih =>
    rw [ofValue, value?, if_pos rfl, values?_ofValues ih]
    rfl
  | @object members names _ _ ih =>
    have ascending : Ascending (([] ++ members).map Prod.fst) := ordered _ names
    rw [ofValue, value?, if_pos rfl, members?_ofMembers ih, Option.map_some, Value.ofMembers,
      foldl_insertMember ascending]
    rfl

end Node

end TopicRelay.Json
