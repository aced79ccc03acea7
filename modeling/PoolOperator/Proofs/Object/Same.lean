import Mathlib.Data.List.Forall2
import PoolOperator.Proofs.Object.WellFormed
import PoolOperator.Proofs.Value.Shape

/-!
# Sameness of objects

Objects can be compared if their bodies are objects or null (`Object.same_eq_ok_iff`).
Well-formed objects of one type are the same if and only if their metadata and
the members of their bodies are (`Object.same_of_parts`, `Object.parts_of_same`).
-/

namespace PoolOperator

namespace Value

/-! ## Records -/

/-- The present ones of some members. -/
def present (members : List (String × Option Value)) : Fields Value :=
  members.filterMap fun member => member.2.map (member.1, ·)

/-- Are the keys of members in order? -/
abbrev InOrder (members : List (String × Option Value)) : Prop :=
  members.Pairwise fun one other => one.1 < other.1

theorem key_of_mem_present {members : List (String × Option Value)} {field : String × Value}
    (there : field ∈ present members) : ∃ member ∈ members, member.1 = field.1 := by
  obtain ⟨member, member_mem, made⟩ := List.mem_filterMap.mp there
  obtain ⟨value, -, same⟩ := Option.map_eq_some_iff.mp made
  exact ⟨member, member_mem, same ▸ rfl⟩

theorem find?_present_of_lt {members : List (String × Option Value)} {key : String}
    (before : ∀ member ∈ members, key < member.1) : (present members).find? key = none := by
  refine Fields.find?_eq_none_of_lt fun field there => ?_
  obtain ⟨member, given, same⟩ := key_of_mem_present there
  exact same ▸ before member given

theorem sorted_present {members : List (String × Option Value)} (inOrder : InOrder members) :
    (present members).Sorted := by
  induction members with
  | nil => exact List.Pairwise.nil
  | cons member rest induction =>
      obtain ⟨key, value?⟩ := member
      obtain ⟨first, restInOrder⟩ := List.pairwise_cons.mp inOrder
      cases value? with
      | none => exact induction restInOrder
      | some value =>
          refine List.pairwise_cons.mpr ⟨fun field there => ?_, induction restInOrder⟩
          obtain ⟨member, given, same⟩ := key_of_mem_present there
          exact same ▸ first member given

/-- Are members under the same keys, and the same? -/
abbrev SameMembers : List (String × Option Value) → List (String × Option Value) → Prop :=
  List.Forall₂ fun one other => one.1 = other.1 ∧ SameOption one.2 other.2

theorem sameMembers_refl (members : List (String × Option Value)) : SameMembers members members :=
  List.forall₂_same.mpr fun member _ => ⟨rfl, sameOption_refl member.2⟩

theorem find?_present_first {key : String} {value? : Option Value}
    {rest : List (String × Option Value)} (inOrder : InOrder ((key, value?) :: rest)) :
    (present ((key, value?) :: rest)).find? key = value? := by
  cases value? with
  | none =>
      change (present rest).find? key = none
      exact find?_present_of_lt (List.pairwise_cons.mp inOrder).1
  | some value => exact if_pos rfl

theorem sameFields_present {ones others : List (String × Option Value)}
    (same : SameMembers ones others) :
    sameFields (present ones) (present others) = true := by
  induction same with
  | nil => rfl
  | @cons one other ones others first rest induction =>
      obtain ⟨key, one⟩ := one
      obtain ⟨_, other⟩ := other
      obtain ⟨rfl, alike⟩ := first
      cases alike with
      | none => exact induction
      | some same => exact sameFields_cons.mpr ⟨same, induction⟩

theorem sameMembers_of_present {ones others : List (String × Option Value)}
    (keys : ones.map Prod.fst = others.map Prod.fst) (inOrder : InOrder ones)
    (inOrder' : InOrder others) (same : sameFields (present ones) (present others) = true) :
    SameMembers ones others := by
  induction ones generalizing others with
  | nil =>
      rw [List.map_eq_nil_iff.mp keys.symm]
      exact .nil
  | cons one ones induction =>
      cases others with
      | nil => cases keys
      | cons other others =>
          obtain ⟨key, one⟩ := one
          obtain ⟨key', other⟩ := other
          obtain ⟨rfl, keysRest⟩ := List.cons.inj keys
          have alike := sameOption_find? same key
          rw [find?_present_first inOrder, find?_present_first inOrder'] at alike
          refine .cons ⟨rfl, alike⟩ (induction keysRest inOrder.of_cons inOrder'.of_cons ?_)
          cases alike with
          | none => exact same
          | some first => exact (sameFields_cons.mp same).2

/-- Records with the same keys, in order, are the same if their members are. -/
theorem same_ofMembers_iff {ones others : List (String × Option Value)} {keys : List String}
    (sorted : keys.Pairwise (· < ·)) (given : ones.map Prod.fst = keys)
    (given' : others.map Prod.fst = keys) :
    (ofMembers ones).same (ofMembers others) = true ↔ SameMembers ones others := by
  have inOrder : InOrder ones := List.pairwise_map.mp (given ▸ sorted)
  have inOrder' : InOrder others := List.pairwise_map.mp (given' ▸ sorted)
  change sameFields (Fields.ofList (present ones)) (Fields.ofList (present others)) = true ↔ _
  rw [Fields.ofList_of_sorted (sorted_present inOrder),
    Fields.ofList_of_sorted (sorted_present inOrder')]
  exact ⟨sameMembers_of_present (given.trans given'.symm) inOrder inOrder', sameFields_present⟩

theorem sameOption_stringMap {one other : Option (Fields String)} :
    SameOption (one.map stringMap) (other.map stringMap) ↔ one = other := by
  have entries : ∀ ones others : Fields String,
      sameFields (ones.mapValues .str) (others.mapValues .str) = true ↔ ones = others := by
    intro ones
    induction ones with
    | nil =>
        intro others
        cases others <;> simp [Fields.mapValues, sameFields]
    | cons one ones induction =>
        intro others
        cases others with
        | nil => simp [Fields.mapValues, sameFields]
        | cons other others =>
            have rest := induction others
            simp only [Fields.mapValues] at rest
            simp [Fields.mapValues, sameFields, Value.same, rest, Prod.ext_iff]
  cases one <;> cases other <;> simp [SameOption, stringMap, Value.same, entries]

end Value

/-! ## Objects -/

namespace Value

theorem flattened_eq_ok_iff {value : Value} {members : Fields Value} :
    value.flattened = .ok members ↔ Shape.object.allows value = true ∧ value.fields = members := by
  cases value <;> simp [flattened, Shape.allows, fields]

/-- Have two values the same members, which are those of an object or none in null? -/
structure Alike (one other : Value) : Prop where
  opened : Shape.object.allows one = true
  opened' : Shape.object.allows other = true
  members : sameFields one.fields other.fields = true

theorem alike_refl {value : Value} (opened : Shape.object.allows value = true) :
    value.Alike value :=
  ⟨opened, opened, sameFields_refl _⟩

theorem enters_fields {value : Value} (opened : Shape.object.allows value = true) :
    value.Enters value.fields := by
  cases value with
  | obj fields => exact .object fields
  | null => exact .null
  | _ => cases opened

/-- Writing a member respects likeness. -/
theorem Written.alike {new : Value} {path : Path} {value after : Value}
    (written : Written new path value after) (notEmpty : path ≠ []) {value' : Value}
    (alike : value.Alike value') :
    ∃ after' : Value, Written new path value' after' ∧ after.Alike after' := by
  cases written with
  | here => exact absurd rfl notEmpty
  | @inside key rest _ fields inner enters within =>
      obtain rfl : value.fields = fields := fields_of_enters enters
      obtain ⟨inner', within', same⟩ := within.same (sameOption_find? alike.members key).getD_null
      exact ⟨_, .inside (enters_fields alike.opened') within', rfl, rfl,
        sameFields_put key alike.members same⟩

end Value

namespace Object

theorem toValue_eq_ok_iff {object : Object} {value : Value} :
    object.toValue = .ok value ↔
      Shape.object.allows object.body = true ∧ object.valueWith object.body.fields = value := by
  rw [toValue, Except.map_eq_ok_iff]
  simp only [Value.flattened_eq_ok_iff]
  constructor
  · rintro ⟨members, ⟨opened, rfl⟩, same⟩
    exact ⟨opened, same⟩
  · rintro ⟨opened, same⟩
    exact ⟨_, ⟨opened, rfl⟩, same⟩

/-- Objects can be compared if they have members. -/
theorem same_eq_ok_iff {one other : Object} {alike : Bool} :
    one.same other = .ok alike ↔
      Shape.object.allows one.body = true ∧ Shape.object.allows other.body = true
        ∧ (one.valueWith one.body.fields).same (other.valueWith other.body.fields) = alike := by
  simp only [same, Except.bind_eq_ok_iff, toValue_eq_ok_iff]
  constructor
  · rintro ⟨_, ⟨opened, rfl⟩, _, ⟨opened', rfl⟩, compared⟩
    exact ⟨opened, opened', Except.ok.inj compared⟩
  · rintro ⟨opened, opened', compared⟩
    exact ⟨_, ⟨opened, rfl⟩, _, ⟨opened', rfl⟩, congrArg Except.ok compared⟩

/-- A comparison fails with what is wrong with the first body that has no members. -/
theorem same_eq_error_iff {one other : Object} {reason : String} :
    one.same other = .error reason ↔
      one.body.flattened = .error reason
        ∨ Shape.object.allows one.body = true ∧ other.body.flattened = .error reason := by
  simp only [same, Except.bind_eq_error_iff, toValue_eq_ok_iff]
  simp only [toValue, Except.map_eq_error_iff]
  constructor
  · rintro (failed | ⟨_, ⟨opened, rfl⟩, failed | ⟨_, _, done⟩⟩)
    · exact .inl failed
    · exact .inr ⟨opened, failed⟩
    · cases done
  · rintro (failed | ⟨opened, failed⟩)
    · exact .inl failed
    · exact .inr ⟨_, ⟨opened, rfl⟩, .inl failed⟩

theorem key_of_mem_front {object : Object} {field : String × Value} (there : field ∈ object.front) :
    field.1 ∈ ["apiVersion", "kind", "metadata"] := by
  rw [front] at there
  cases known : object.type? with
  | none =>
      rw [known] at there
      obtain rfl := List.mem_singleton.mp there
      simp
  | some type =>
      rw [known] at there
      simp only [List.cons_append, List.nil_append, List.mem_cons, List.not_mem_nil,
        or_false] at there
      rcases there with rfl | rfl | rfl <;> simp

/-- The members of a well-formed body are other ones. -/
theorem WellFormed.not_front {object : Object} (wellFormed : object.WellFormed)
    {field own : String × Value} (there : field ∈ object.front)
    (member : own ∈ object.body.fields) : own.1 ≠ field.1 := by
  rw [front] at there
  cases type : object.type? with
  | none =>
      rw [type] at there
      obtain rfl := List.mem_singleton.mp there
      exact wellFormed.noMetadata own member
  | some known =>
      have names := wellFormed.noType (by simp [type]) own member
      rw [type] at there
      simp only [List.cons_append, List.nil_append, List.mem_cons, List.not_mem_nil,
        or_false] at there
      rcases there with rfl | rfl | rfl
      · exact names.1
      · exact names.2
      · exact wellFormed.noMetadata own member

theorem find?_valueWith (object : Object) {members : Fields Value} (sorted : members.Sorted)
    {key : String} (absent : ∀ field ∈ object.front, field.1 ≠ key) :
    Fields.find? (object.valueWith members).fields key = Fields.find? members key :=
  Fields.find?_ofList_append sorted absent

theorem find?_metadata_valueWith (object : Object) {members : Fields Value}
    (noMetadata : ∀ field ∈ members, field.1 ≠ "metadata") :
    Fields.find? (object.valueWith members).fields "metadata" = some object.metadata.toValue := by
  have absent : Fields.find? members.reverse "metadata" = none :=
    Fields.find?_eq_none fun field there => noMetadata field (List.mem_reverse.mp there)
  have laid : Fields.ofList (object.front ++ members) =
    Fields.overlay [] (object.front ++ members) := rfl
  rw [valueWith, Value.fields, laid, Fields.find?_overlay, List.reverse_append,
    Fields.find?_append, absent, front, List.reverse_append, List.reverse_singleton]
  rfl

/-- Objects are the same if they are so in their parts. -/
theorem same_of_parts {one other : Object} (type : one.type? = other.type?)
    (metadata : one.metadata.toValue.same other.metadata.toValue = true)
    (body : one.body.Alike other.body) : one.same other = .ok true := by
  refine same_eq_ok_iff.mpr ⟨body.opened, body.opened', ?_⟩
  refine Value.sameFields_ofList (Value.sameFields_append (Value.sameFields_append ?_ ?_)
    body.members)
  · rw [type]
    exact Value.sameFields_refl _
  · exact Value.sameFields_cons.mpr ⟨metadata, rfl⟩

/-- The members of a body are in order. -/
theorem WellFormed.sorted_members {object : Object} (wellFormed : object.WellFormed) :
    object.body.fields.Sorted := by
  have ordered := wellFormed.body
  cases body : object.body with
  | obj fields => exact (Value.ordered_obj.mp (body ▸ ordered)).1
  | _ => exact List.Pairwise.nil

/-- Well-formed objects of one type are the same in their parts. -/
theorem parts_of_same {one other : Object} (wellFormed : one.WellFormed)
    (wellFormed' : other.WellFormed) (type : one.type? = other.type?)
    (same : one.same other = .ok true) :
    one.metadata.toValue.same other.metadata.toValue = true ∧ one.body.Alike other.body := by
  obtain ⟨opened, opened', same⟩ := same_eq_ok_iff.mp same
  have alike : ∀ key : String, Value.SameOption
      (Fields.find? (one.valueWith one.body.fields).fields key)
      (Fields.find? (other.valueWith other.body.fields).fields key) := Value.sameOption_find? same
  constructor
  · have metadata := alike "metadata"
    rw [find?_metadata_valueWith one wellFormed.noMetadata,
      find?_metadata_valueWith other wellFormed'.noMetadata] at metadata
    cases metadata with
    | some same => exact same
  · have sorted := wellFormed.sorted_members
    have sorted' := wellFormed'.sorted_members
    have keys : one.front.map Prod.fst = other.front.map Prod.fst := by
      rw [front, front, type]
      cases other.type? <;> rfl
    refine ⟨opened, opened', Value.sameFields_of_find? sorted sorted' fun key => ?_⟩
    by_cases inFront : key ∈ one.front.map Prod.fst
    · -- Neither body has a member under such a key.
      obtain ⟨field, there, rfl⟩ := List.mem_map.mp inFront
      obtain ⟨field', there', equal⟩ := List.mem_map.mp (keys ▸ inFront)
      rw [Fields.find?_eq_none fun own => wellFormed.not_front there,
        Fields.find?_eq_none fun own => equal ▸ wellFormed'.not_front there']
      exact .none
    · have absent : ∀ field ∈ one.front, field.1 ≠ key :=
        fun field there same => inFront (same ▸ List.mem_map_of_mem there)
      have absent' : ∀ field ∈ other.front, field.1 ≠ key :=
        fun field there same => inFront (keys ▸ same ▸ List.mem_map_of_mem there)
      have there := alike key
      rwa [find?_valueWith one sorted absent, find?_valueWith other sorted' absent'] at there

end Object

end PoolOperator
