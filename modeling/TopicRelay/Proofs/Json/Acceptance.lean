/-
What a JSON text can be accepted as: its integers lie within the limits, its objects list each name
once and in ascending order, and it nests no deeper than the reader goes.
-/
import TopicRelay.Json.Reader
import TopicRelay.Proofs.Json.Numerals
import TopicRelay.Proofs.Json.Values

namespace TopicRelay.Json

/-- What may stand in a value that has been read. -/
def accepted : Vocabulary where
  number := Number.InRange
  names := Ascending

/-! ## Values of nodes -/

theorem Node.exists_of_mem_values? {ns : List Node} {vs : List Value} (h : values? ns = some vs)
    {v : Value} (hv : v ∈ vs) : ∃ n ∈ ns, n.value? = some v := by
  induction ns generalizing vs with
  | nil => cases h; cases hv
  | cons n ns ih =>
    rw [values?] at h
    split at h
    · rename_i w ws first others
      cases h
      rcases List.mem_cons.1 hv with rfl | hv
      · exact ⟨n, List.mem_cons_self, first⟩
      · obtain ⟨n', hn, value⟩ := ih others hv
        exact ⟨n', List.mem_cons_of_mem _ hn, value⟩
    · cases h

theorem Node.exists_of_mem_members? {ns : List (String × Node)} {ms : List (String × Value)}
    (h : members? ns = some ms) {m : String × Value} (hm : m ∈ ms) :
    ∃ n ∈ ns, n.2.value? = some m.2 := by
  induction ns generalizing ms with
  | nil => cases h; cases hm
  | cons n ns ih =>
    rw [members?] at h
    split at h
    · rename_i w ws first others
      cases h
      rcases List.mem_cons.1 hm with rfl | hm
      · exact ⟨n, List.mem_cons_self, first⟩
      · obtain ⟨n', hn, value⟩ := ih others hm
        exact ⟨n', List.mem_cons_of_mem _ hn, value⟩
    · cases h

/-- A node whose value, if it has one, may have been read with `d` levels left. -/
def Acceptable (d : Nat) (n : Node) : Prop :=
  ∀ v, n.value? = some v → v.Over accepted ∧ v.depth ≤ d

theorem acceptable_broken (d : Nat) : Acceptable d .broken :=
  nofun

theorem acceptable_array {d : Nat} {items : List Node} (h : ∀ n ∈ items, Acceptable d n)
    (closed : Bool) : Acceptable (d + 1) (.array items closed) := by
  intro v value
  rw [Node.value?] at value
  split at value
  · obtain ⟨vs, values, rfl⟩ := Option.map_eq_some_iff.1 value
    have each : ∀ v ∈ vs, v.Over accepted ∧ v.depth ≤ d := fun v hv => by
      obtain ⟨n, hn, value⟩ := Node.exists_of_mem_values? values hv
      exact h n hn v value
    exact ⟨.array fun v hv => (each v hv).1, Value.depth_array_le.2 fun v hv => (each v hv).2⟩
  · cases value

theorem acceptable_object {d : Nat} {members : List (String × Node)}
    (h : ∀ m ∈ members, Acceptable d m.2) (closed : Bool) :
    Acceptable (d + 1) (.object members closed) := by
  intro v value
  rw [Node.value?] at value
  split at value
  · obtain ⟨given, values, rfl⟩ := Option.map_eq_some_iff.1 value
    obtain ⟨ms, made, ascending, among⟩ := ascending_ofMembers given
    have each : ∀ m ∈ ms, m.2.Over accepted ∧ m.2.depth ≤ d := fun m hm => by
      obtain ⟨n, hn, value⟩ := Node.exists_of_mem_members? values (among m hm)
      exact h n hn m.2 value
    rw [made]
    exact ⟨.object ascending (fun _ _ => trivial) fun m hm => (each m hm).1,
      Value.depth_object_le.2 fun m hm => (each m hm).2⟩
  · cases value

/-! ## Nodes of texts -/

theorem readItems_of_mem {read : List Char → Reading} {fuel : Nat} {cs : List Char} {n : Node}
    (h : n ∈ (readItems read fuel cs).1) : ∃ cs', n = (read cs').1 := by
  induction fuel generalizing cs with
  | zero => cases h
  | succ fuel ih =>
    rw [readItems] at h
    split at h
    · rename_i n' first
      exact ⟨cs, by rw [first]; exact List.mem_singleton.1 h⟩
    · rename_i n' r first
      have only (h : n ∈ [n']) : ∃ cs', n = (read cs').1 :=
        ⟨cs, by rw [first]; exact List.mem_singleton.1 h⟩
      split at h
      · exact only h
      · rcases List.mem_cons.1 h with rfl | h
        · exact only List.mem_cons_self
        · exact ih h
      · exact only h

theorem readMembers_of_mem {read : List Char → Reading} {fuel : Nat} {cs : List Char}
    {m : String × Node} (h : m ∈ (readMembers read fuel cs).1) :
    m.2 = .broken ∨ ∃ cs', m.2 = (read cs').1 := by
  induction fuel generalizing cs with
  | zero => cases h
  | succ fuel ih =>
    rw [readMembers] at h
    split at h
    · split at h
      · cases h
      · rename_i name r _
        split at h
        · rename_i r' _
          have only {n : Node} {rest : Option (List Char)} (first : read r' = (n, rest))
              (h : m ∈ [(name, n)]) : m.2 = .broken ∨ ∃ cs', m.2 = (read cs').1 :=
            .inr ⟨r', by rw [first, List.mem_singleton.1 h]⟩
          split at h
          · rename_i n first
            exact only first h
          · rename_i n r'' first
            split at h
            · exact only first h
            · rcases List.mem_cons.1 h with rfl | h
              · exact only first List.mem_cons_self
              · exact ih h
            · exact only first h
        · exact .inl (by rw [List.mem_singleton.1 h])
    · cases h

theorem acceptable_readWord {d : Nat} {n : Node} (h : Acceptable d n) (word : String)
    (cs : List Char) : Acceptable d (readWord word n cs).1 := by
  unfold readWord
  split
  · exact h
  · exact acceptable_broken d

/-- What the reader makes of a text is acceptable. -/
theorem acceptable_readNode (d : Nat) (cs : List Char) : Acceptable d (readNode d cs).1 := by
  induction d using Nat.strongRecOn generalizing cs with
  | ind d ih =>
    unfold readNode
    split
    case h_1 => exact acceptable_broken d
    case h_2 => exact acceptable_readWord (by rintro v ⟨⟩; exact ⟨.null, Nat.zero_le d⟩) _ _
    case h_3 => exact acceptable_readWord (by rintro v ⟨⟩; exact ⟨.bool _, Nat.zero_le d⟩) _ _
    case h_4 => exact acceptable_readWord (by rintro v ⟨⟩; exact ⟨.bool _, Nat.zero_le d⟩) _ _
    case h_5 =>
      split
      · rintro v ⟨⟩
        exact ⟨.text trivial, Nat.zero_le d⟩
      · exact acceptable_broken d
    case h_6 =>
      split
      · exact acceptable_broken 0
      · rename_i d
        split
        · exact acceptable_array (by simp) true
        · refine acceptable_array (fun n hn => ?_) _
          obtain ⟨cs', rfl⟩ := readItems_of_mem hn
          exact ih d (Nat.lt_succ_self d) cs'
    case h_7 =>
      split
      · exact acceptable_broken 0
      · rename_i d
        split
        · exact acceptable_object (by simp) true
        · refine acceptable_object (fun m hm => ?_) _
          rcases readMembers_of_mem hm with broken | ⟨cs', read⟩
          · exact broken ▸ acceptable_broken d
          · exact read ▸ ih d (Nat.lt_succ_self d) cs'
    case h_8 =>
      split
      · split
        · rename_i n r read
          rintro v ⟨⟩
          exact ⟨.number (readNumber?_inRange read), Nat.zero_le d⟩
        · exact acceptable_broken d
      · exact acceptable_broken d

/-- A text is accepted as a value of integers within the limits and objects in order, which nests no
deeper than the limit. -/
theorem over_of_parse? {s : String} {v : Value} (h : parse? s = some v) :
    v.Over accepted ∧ v.depth ≤ depthLimit := by
  unfold parse? at h
  split at h
  · rename_i n read
    have node : n = (readNode depthLimit s.toList).1 := (congrArg Prod.fst read).symm
    exact acceptable_readNode depthLimit s.toList v (node ▸ h)
  · cases h

end TopicRelay.Json
