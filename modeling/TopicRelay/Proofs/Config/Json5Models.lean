/-
Models as JSON5 texts. The trees of JSON5 are a faithful format for integers that a double holds
exactly; so a configuration file with a written model gives the model, unless one of its texts has a
separator in it, with which no file can be read. An unknown field is seen if the file can be read at
all.
-/
import TopicRelay.Config.Load
import TopicRelay.Proofs.Config.Records
import TopicRelay.Proofs.Config.Words
import TopicRelay.Proofs.Json5.Texts

namespace TopicRelay.Config

open TopicRelay.Decimal
open TopicRelay.Json (Value naturals)
open TopicRelay.Json5 (Begins Plain Tree begins_cons depth_le_length exists_item_of_array
  exists_member_of_object read?_write readTree? unsignedOf_decimal)

/-- The trees of values are read as the values, with integers up to `2^53`. -/
theorem faithful_json5Text : Faithful json5Text Tree.ofValue (· ≤ twoTo 53) where
  null := rfl
  bool _ := rfl
  text _ := rfl
  array vs := by
    rw [Tree.ofValue, Tree.ofValues_eq_map]
    rfl
  object ms := by
    rw [Tree.ofValue, Tree.ofMembers_eq_map]
    exact congrArg (Shape.object · true) (List.map_map ..)
  unsigned bits n exact small := by
    have read : Json5.unsignedOf bits (Text.decimal n) = .ok n := unsignedOf_decimal exact small
    exact congrArg (Except.mapError fun e => Refusal.scalar e.message) read

theorem plain_names (k : RecordKind) : ∀ n ∈ k.names, Plain n := by
  cases k <;> decide

variable {m : Model} {v v' : Value}

/-- A configuration file with a written form of a model gives the model. -/
theorem parseModel_render (h : Gives m.fields v) (exact : ∀ n ∈ m.integers, n ≤ twoTo 53)
    (plain : ∀ s ∈ m.texts, Plain s) (path : String) : parseModel path v.render = .ok m := by
  have made : v.Over (naturals Plain) := Model.over plain_names plain h
  have deep : v.depth ≤ v.write.length + 1 := Nat.le_succ_of_le (depth_le_length made)
  have read : json5Text.model (Tree.ofValue v) = .ok m := faithful_json5Text.read_model exact h
  rw [parseModel, Model.ofJson5, Value.render, String.toList_ofList, read?_write made,
    Tree.ofValue?_eq_some made (fun _ => id) deep]
  simp only [read, Except.mapError]

/-- A configuration file with a separator in a text of the model is not well-formed. -/
theorem parseModel_render_of_separator (h : Gives m.fields v) (other : ∃ s ∈ m.texts, ¬ Plain s)
    (path : String) : parseModel path v.render = .error (.parse path .grammar) := by
  have made : v.Over (naturals fun _ => True) := Model.over (fun _ _ _ => trivial) (fun _ _ => trivial) h
  have unread : Tree.ofValue? (v.write.length + 1) v = none := by
    rw [Option.eq_none_iff_forall_ne_some]
    intro t read
    obtain ⟨s, hs, separator⟩ := other
    exact separator (Model.texts_of_over (by decide) h (Tree.over_of_ofValue? made read) s hs)
  rw [parseModel, Model.ofJson5, Value.render, String.toList_ofList, read?_write made, unread]
  rfl

theorem Extends.begins {k : RecordKind} (h : Extends k v v') : Begins v'.write := by
  cases h <;>
  · rw [Json.write_object_append]
    exact begins_cons (by decide) (by decide) _

/-- What is read of a written record, if anything, shows the unknown field in it. -/
theorem Extends.spoilt_tree {P : String → Prop} {k : RecordKind} (h : Extends k v v')
    (made : v.Over (naturals P)) {d : Nat} {rest r : List Char} {t : Tree}
    (read : readTree? d (v'.write ++ rest) = some (t, r)) : Spoilt json5Text k t := by
  have front {before after : List (String × Value)}
      (made : (Value.object (before ++ after)).Over (naturals P)) :
      ∀ m ∈ before, m.2.Over (naturals P) := fun m hm => made.member (List.mem_append_left _ hm)
  have shape {members : List (Json5.Joined × Tree)} {name : String} {t : Tree}
      (h : (.ok name, t) ∈ members) : ∃ ms, treeShape (.object members) = .object ms true ∧
        (.ok name, t) ∈ ms := ⟨_, rfl, List.mem_map.2 ⟨_, h, rfl⟩⟩
  -- where the unknown field stands; all members in front of it are written, so they are read or nothing is
  induction h generalizing d rest r t with
  | here extra unknown =>
    obtain ⟨_, members, t', _, rfl, -, mem⟩ := exists_member_of_object (front made) read
    obtain ⟨ms, shape, mem⟩ := shape mem
    exact .here shape mem unknown
  | part field h ih =>
    obtain ⟨_, members, t', _, rfl, inner, mem⟩ := exists_member_of_object (front made) read
    obtain ⟨ms, shape, mem⟩ := shape mem
    exact .part shape mem field (ih (made.member (List.mem_append_right _ List.mem_cons_self)) inner)
  | item field h ih =>
    obtain ⟨_, members, t', _, rfl, inner, mem⟩ := exists_member_of_object (front made) read
    obtain ⟨ms, shape, mem⟩ := shape mem
    have listed := made.member (List.mem_append_right _ List.mem_cons_self)
    obtain ⟨_, items, t'', _, rfl, own, among⟩ := exists_item_of_array
      (fun w hw => listed.item (List.mem_append_left _ hw)) h.begins inner
    exact .item shape mem field rfl among
      (ih (listed.item (List.mem_append_right _ List.mem_cons_self)) own)

/-- A configuration file with an unknown field anywhere in the model is refused. -/
theorem parseModel_render_error (h : Gives m.fields v) (more : Extends .model v v') (path : String) :
    ∃ e, parseModel path v'.render = .error e := by
  have made : v.Over (naturals fun _ => True) := Model.over (fun _ _ _ => trivial) (fun _ _ => trivial) h
  rw [parseModel, Model.ofJson5, Value.render, String.toList_ofList]
  cases read : Json5.read? v'.write with
  | none => exact ⟨_, rfl⟩
  | some t =>
    obtain ⟨⟨t', r⟩, whole, ended⟩ := Option.bind_eq_some_iff.1 read
    have same : t' = t := by
      dsimp only at ended
      split at ended
      · exact Option.some.inj ended
      · cases ended
    have spoilt : Spoilt json5Text .model t :=
      same ▸ more.spoilt_tree made (by rw [List.append_nil]; exact whole)
    obtain ⟨e, refused⟩ := spoilt.refuses
    have refused' : json5Text.model t = .error e := refused
    exact ⟨.parse path e, by simp only [refused', Except.mapError]⟩

end TopicRelay.Config
