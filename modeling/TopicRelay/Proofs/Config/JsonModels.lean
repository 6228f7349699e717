/-
Models as JSON texts. The nodes of a JSON text are a faithful format, in which every integer is exact;
and an unknown field is seen whatever its value and whatever follows it, since all that stands in front
of it has been read as it was written.
-/
import TopicRelay.Config.Load
import TopicRelay.Proofs.Config.Records
import TopicRelay.Proofs.Config.Words
import TopicRelay.Proofs.Json.Texts

namespace TopicRelay.Config

open TopicRelay.Json

/-- The nodes of values are read as the values. -/
theorem faithful_jsonText : Faithful jsonText Node.ofValue (fun _ => True) where
  null := rfl
  bool _ := rfl
  text _ := rfl
  array vs := by
    rw [Node.ofValue, Node.ofValues_eq_map]
    rfl
  object ms := by
    rw [Node.ofValue, Node.ofMembers_eq_map]
    exact congrArg (Shape.object · true) (List.map_map ..)
  unsigned _ _ _ small := if_pos small

/-- A model is read from any of its written forms. -/
theorem Model.ofJson_render {m : Model} {v : Value} (h : Gives m.fields v) :
    Model.ofJson v.render = .ok m := by
  have made : v.Over (naturals fun _ => True) := Model.over (fun _ _ _ => trivial) (fun _ _ => trivial) h
  have deep : v.depth ≤ depthLimit := Nat.le_trans (Model.depth_le h) (by decide)
  have read : jsonText.model (Node.ofValue v) = .ok m :=
    faithful_jsonText.read_model (fun _ _ => trivial) h
  rw [Model.ofJson, readJson, Value.render, String.toList_ofList,
    readText_write made (fun _ => readsBack_of_natural) deep]
  simp only [read, if_true]

theorem Extends.opens {k : RecordKind} {v v' : Value} (h : Extends k v v') : Opens v'.write := by
  cases h <;>
  · rw [write_object_append]
    exact opens_cons (by decide) (by decide) (by decide) _

/-- What is read of a written record shows the unknown field in it. -/
theorem Extends.spoilt_node {P : String → Prop} {k : RecordKind} {v v' : Value} (h : Extends k v v')
    {d : Nat} (made : v.Over (naturals P)) (deep : v.depth ≤ d) (rest : List Char) :
    Spoilt jsonText k (readNode d (v'.write ++ rest)).1 := by
  have reads {v : Value} {d : Nat} (made : v.Over (naturals P)) (deep : v.depth ≤ d) :
      Reads (readNode d) v := readNode_write made (fun _ => readsBack_of_natural) deep
  have front {before after : List (String × Value)} {d : Nat}
      (made : (Value.object (before ++ after)).Over (naturals P))
      (within : ∀ m ∈ before ++ after, m.2.depth ≤ d) : ∀ m ∈ before, Reads (readNode d) m.2 :=
    fun m hm => reads (made.member (List.mem_append_left _ hm)) (within m (List.mem_append_left _ hm))
  have shape {members : List (String × Node)} {closed : Bool} {name : String} {n : Node}
      (h : (name, n) ∈ members) : ∃ ms, nodeShape (.object members closed) = .object ms closed ∧
        (.ok name, n) ∈ ms := ⟨_, rfl, List.mem_map.2 ⟨_, h, rfl⟩⟩
  -- where the unknown field stands; what follows it may be anything, so only the front is read as written
  induction h generalizing d rest with
  | here extra unknown =>
    obtain ⟨d, rfl, within⟩ := Value.exists_depth_object deep
    obtain ⟨members, closed, read, mem⟩ := exists_member (front made within) _ extra _
    rw [read]
    obtain ⟨ms, shape, mem⟩ := shape mem
    exact .here shape mem unknown
  | @part k k' before after name v v' field h ih =>
    obtain ⟨d, rfl, within⟩ := Value.exists_depth_object deep
    obtain ⟨members, closed, read, mem⟩ := exists_member (front made within) name v' after
    rw [read]
    obtain ⟨ms, shape, mem⟩ := shape mem
    have own : (name, v) ∈ before ++ (name, v) :: after := List.mem_append_right _ List.mem_cons_self
    exact .part shape mem field (ih (made.member own) (within _ own) _)
  | @item k k' before after name previous next v v' field h ih =>
    obtain ⟨d, rfl, within⟩ := Value.exists_depth_object deep
    obtain ⟨members, closed, read, mem⟩ :=
      exists_member (front made within) name (.array (previous ++ v' :: next)) after
    rw [read]
    obtain ⟨ms, shape, mem⟩ := shape mem
    have own : (name, .array (previous ++ v :: next)) ∈
        before ++ (name, .array (previous ++ v :: next)) :: after :=
      List.mem_append_right _ List.mem_cons_self
    have listed := made.member own
    obtain ⟨d, rfl, inner⟩ := Value.exists_depth_array (within _ own)
    have front : ∀ w ∈ previous, Reads (readNode d) w := fun w hw =>
      reads (listed.item (List.mem_append_left _ hw)) (inner w (List.mem_append_left _ hw))
    have opens : ∀ w ∈ previous, Opens w.write := fun w hw =>
      (listed.item (List.mem_append_left _ hw)).opens fun _ => readsBack_of_natural
    obtain ⟨items, closed', items_read, among⟩ := exists_item front opens h.opens next
    have own : v ∈ previous ++ v :: next := List.mem_append_right _ List.mem_cons_self
    refine .item shape mem field (congrArg nodeShape items_read) among ?_
    exact ih (listed.item own) (inner v own) _

/-- A model with an unknown field anywhere in it is refused. -/
theorem Model.ofJson_render_error {m : Model} {v v' : Value} (h : Gives m.fields v)
    (more : Extends .model v v') : ∃ r, Model.ofJson v'.render = .error r := by
  have made : v.Over (naturals fun _ => True) := Model.over (fun _ _ _ => trivial) (fun _ _ => trivial) h
  have deep : v.depth ≤ depthLimit := Nat.le_trans (Model.depth_le h) (by decide)
  have spoilt := more.spoilt_node made deep []
  rw [List.append_nil] at spoilt
  obtain ⟨r, refused⟩ := spoilt.refuses
  refine ⟨r, ?_⟩
  have read : jsonText.model (readText v'.write).1 = .error r := refused
  rw [Model.ofJson, readJson, Value.render, String.toList_ofList]
  simp only [read]

end TopicRelay.Config
