import PoolOperator.Proofs.Except
import PoolOperator.Proofs.Value.Ordered
import PoolOperator.Proofs.Value.Shape
import PoolOperator.Proofs.Yaml.Nodes
import PoolOperator.Yaml.Reading

/-!
# The values of written documents

An outline stands for a value (`Outline.value`): its plain scalars stand for
what they mean, and all others for their texts.  A document that says the
outline is read as that value (`value_of_says`), and refused if one of its
scalars has none (`refused_of_says`).
-/

namespace PoolOperator.Yaml

/-! ## Steps of reading -/

/-- Reading gives what is expected in any document and follows no alias, or it
fails if an error is expected. -/
def Read.Meets {α : Type} (read : Read α) (expected : Except ReadError α) : Prop :=
  ∀ (document : Document) (jumps : Nat),
    match expected with
    | .ok result => (read.run document).run jumps = .ok (result, jumps)
    | .error _ => ∃ error : Error, (read.run document).run jumps = .error error

theorem Read.meets_pure {α : Type} (result : α) : (pure result : Read α).Meets (pure result) :=
  fun _ _ => rfl

theorem Read.Meets.bind {α β : Type} {read : Read α} {next : α → Read β}
    {expected : Except ReadError α} {others : α → Except ReadError β} (meets : read.Meets expected)
    (goesOn : ∀ result : α, (next result).Meets (others result)) :
    (read >>= next).Meets (expected >>= others) := by
  intro document jumps
  have first := meets document jumps
  cases expected with
  | ok result =>
      have second := goesOn result document jumps
      rw [ReaderT.run_bind, StateT.run_bind, first]
      exact second
  | error error =>
      obtain ⟨error, failed⟩ := first
      refine ⟨error, ?_⟩
      rw [ReaderT.run_bind, StateT.run_bind, failed]
      rfl

namespace Outline

/-! ## Values -/

mutual

/-- The value that an outline stands for. -/
def value : Outline → Except ReadError Value
  | .scalar style text => scalarValue none style text
  | .sequence items => do return .arr (← itemValues items)
  | .mapping fields => do return .obj (Fields.ofList (← memberValues fields))

/-- The values of some items. -/
def itemValues : List Outline → Except ReadError (List Value)
  | [] => return []
  | item :: items => do
      let first ← value item
      return first :: (← itemValues items)

/-- The values of some members, with their keys. -/
def memberValues : List (String × Outline) → Except ReadError (List (String × Value))
  | [] => return []
  | (key, outline) :: fields => do
      let first ← value outline
      return (key, first) :: (← memberValues fields)

end

mutual

/-- How deep the collections of an outline are nested. -/
def height : Outline → Nat
  | .scalar _ _ => 0
  | .sequence items => itemsHeight items + 1
  | .mapping fields => fieldsHeight fields + 1

/-- The greatest `height` of some items. -/
def itemsHeight : List Outline → Nat
  | [] => 0
  | item :: items => max (height item) (itemsHeight items)

/-- The greatest `height` of some members. -/
def fieldsHeight : List (String × Outline) → Nat
  | [] => 0
  | (_, outline) :: fields => max (height outline) (fieldsHeight fields)

end

/-- The outline at a path of keys. -/
def at? : Outline → Path → Option Outline
  | outline, [] => some outline
  | .mapping fields, key :: rest =>
      (Fields.find? fields.reverse key).bind fun inner => at? inner rest
  | _, _ :: _ => none

end Outline

theorem ordered_plainValue {text : String} {value : Value} (given : plainValue text = .ok value) :
    value.Ordered := by
  unfold plainValue at given
  split at given
  case h_1 | h_2 | h_5 =>
    cases given
    trivial
  case h_3 number _ =>
    unfold intValue at given
    split at given
    next =>
      cases given
      trivial
    next => cases given
  case h_4 number _ =>
    cases given
    cases number <;> trivial

/-- A plain scalar is read as a text exactly if it stands for itself. -/
theorem plainValue_eq_str_iff {text other : String} :
    plainValue text = .ok (.str other) ↔ Meaning.of text = .text ∧ text = other := by
  unfold plainValue
  split
  next meaning => simp [meaning]
  next value meaning => simp [meaning]
  next number meaning =>
    unfold intValue
    split <;> simp [meaning]
  next number meaning => cases number <;> simp [meaning, finiteValue]
  next meaning => simp [meaning]

theorem scalarValue_none (style : Style) (text : String) :
    scalarValue none style text = if style = .plain then plainValue text else .ok (.str text) := rfl

mutual

/-- The values of outlines are in order. -/
theorem ordered_value :
    ∀ (outline : Outline) {value : Value}, outline.value = .ok value → value.Ordered
  | .scalar style text, _, given => by
      rw [Outline.value, scalarValue_none] at given
      split at given
      next => exact ordered_plainValue given
      next =>
        cases given
        trivial
  | .sequence items, _, given => by
      obtain ⟨values, areItems, given⟩ := Except.bind_eq_ok_iff.mp given
      cases given
      exact ordered_itemValues items areItems
  | .mapping fields, _, given => by
      obtain ⟨members, areMembers, given⟩ := Except.bind_eq_ok_iff.mp given
      cases given
      exact Value.ordered_ofList (ordered_memberValues fields areMembers)

theorem ordered_itemValues : ∀ (items : List Outline) {values : List Value},
    Outline.itemValues items = .ok values → Value.OrderedItems values
  | [], _, given => by
      cases given
      trivial
  | item :: items, _, given => by
      obtain ⟨first, isFirst, given⟩ := Except.bind_eq_ok_iff.mp given
      obtain ⟨others, areOthers, given⟩ := Except.bind_eq_ok_iff.mp given
      cases given
      exact ⟨ordered_value item isFirst, ordered_itemValues items areOthers⟩

theorem ordered_memberValues :
    ∀ (fields : List (String × Outline)) {members : List (String × Value)},
    Outline.memberValues fields = .ok members → Value.OrderedFields members
  | [], _, given => by
      cases given
      trivial
  | (_, outline) :: fields, _, given => by
      obtain ⟨first, isFirst, given⟩ := Except.bind_eq_ok_iff.mp given
      obtain ⟨others, areOthers, given⟩ := Except.bind_eq_ok_iff.mp given
      cases given
      exact ⟨ordered_value outline isFirst, ordered_memberValues fields areOthers⟩

end

/-! ## Paths -/

/-- What is found among the members is the value of what is found in the outline. -/
theorem find?_memberValues {fields : List (String × Outline)} {members : List (String × Value)}
    (given : Outline.memberValues fields = .ok members) (key : String) :
    (Fields.find? members.reverse key).map Except.ok =
      (Fields.find? fields.reverse key).map Outline.value := by
  induction fields generalizing members with
  | nil =>
      cases given
      rfl
  | cons field fields induction =>
      obtain ⟨name, outline⟩ := field
      obtain ⟨first, isFirst, given⟩ := Except.bind_eq_ok_iff.mp given
      obtain ⟨others, areOthers, given⟩ := Except.bind_eq_ok_iff.mp given
      cases given
      simp only [List.reverse_cons, Fields.find?_append, Option.map_or, induction areOthers]
      by_cases same : name = key <;> simp [Fields.find?, same, isFirst]

/-- What is at a path in an outline stands for what is there in its value. -/
theorem value_at : ∀ (path : Path) {outline inner : Outline} {value : Value},
    outline.value = .ok value → outline.at? path = some inner → inner.value = .ok (value.under path)
  | [], outline, inner, value, given, there => by
      cases there
      exact given
  | key :: path, .mapping fields, inner, value, given, there => by
      obtain ⟨members, areMembers, given⟩ := Except.bind_eq_ok_iff.mp given
      cases given
      obtain ⟨outline, found, there⟩ := Option.bind_eq_some_iff.mp there
      have same := find?_memberValues areMembers key
      rw [found, ← Fields.find?_ofList] at same
      obtain ⟨first, isFirst, first⟩ := Option.map_eq_some_iff.mp same
      rw [Value.under, isFirst]
      exact value_at path first.symm there

/-! ## Reading nodes -/

theorem valueAt_scalar {spot : Spot} {mark : Mark} {style : Style} {text : String}
    (there : spot.node = some (.scalar (.bare mark) style text)) (depth : Nat) :
    spot.valueAt depth =
      match scalarValue none style text with
      | .ok value => pure value
      | .error error => spot.refuse error := by
  obtain ⟨_, path, deep⟩ := spot
  cases there
  rw [Spot.valueAt.eq_def]
  rfl

theorem valueAt_sequence {spot : Spot} {mark : Mark} {items : List Node}
    (there : spot.node = some (.sequence (.bare mark) items)) (depth : Nat) :
    spot.valueAt
    (depth + 1) = (do return .arr (← (spot.enterItems items).mapM (Spot.valueAt depth))) := by
  obtain ⟨_, path, deep⟩ := spot
  cases there
  rw [Spot.valueAt.eq_def]
  rfl

theorem valueAt_mapping {spot : Spot} {mark : Mark} {pairs : List (Node × Node)}
    (there : spot.node = some (.mapping (.bare mark) pairs)) (depth : Nat) :
    spot.valueAt (depth + 1) = (do
      let members ← pairs.mapM fun (key, value) => do
        let name ← Spot.readText "a string" { spot with node := some key, depth }
        return (name, ← Spot.valueAt depth (spot.member key value))
      return .obj (Fields.ofList members)) := by
  obtain ⟨_, path, deep⟩ := spot
  cases there
  rw [Spot.valueAt.eq_def]
  rfl

mutual

/-- A node that says an outline is read as the value of the outline. -/
theorem meets_value : ∀ (outline : Outline) (depth : Nat) (spot : Spot) (node : Node),
    outline.height ≤ depth → spot.node = some node → outline.Says node →
    (spot.valueAt depth).Meets outline.value
  | .scalar style text, depth, spot, node, _, there, said => by
      obtain ⟨mark, rfl⟩ := said
      rw [valueAt_scalar there, Outline.value]
      cases scalarValue none style text with
      | ok value => exact Read.meets_pure value
      | error error => exact fun _ _ => ⟨_, rfl⟩
  | .sequence items, depth + 1, spot, node, enough, there, said => by
      obtain ⟨mark, nodes, rfl, said⟩ := said
      rw [Outline.height] at enough
      rw [valueAt_sequence there, Outline.value]
      exact (meets_items items depth nodes spot.item (by omega) (fun _ _ => rfl) said).bind
        fun _ => Read.meets_pure _
  | .mapping fields, depth + 1, spot, node, enough, there, said => by
      obtain ⟨mark, pairs, rfl, said⟩ := said
      rw [Outline.height] at enough
      rw [valueAt_mapping there, Outline.value]
      exact (meets_members fields depth pairs spot (by omega) said).bind fun _ => Read.meets_pure _

theorem meets_items : ∀ (items : List Outline) (depth : Nat) (nodes : List Node)
    (place : Nat → Node → Spot), Outline.itemsHeight items ≤ depth →
    (∀ (index : Nat) (node : Node), (place index node).node = some node) →
    Outline.SayItems items nodes →
    ((nodes.mapIdx place).mapM (Spot.valueAt depth)).Meets (Outline.itemValues items)
  | [], depth, nodes, place, _, _, said => by
      cases said
      exact Read.meets_pure []
  | item :: items, depth, nodes, place, enough, same, said => by
      obtain ⟨node, others, rfl, first, rest⟩ := said
      rw [Outline.itemsHeight, Nat.max_le] at enough
      rw [List.mapIdx_cons, List.mapM_cons, Outline.itemValues]
      exact (meets_value item depth (place 0 node) node enough.1 (same 0 node) first).bind fun _ =>
        (meets_items items depth others _ enough.2
          (fun index node => same (index + 1) node) rest).bind
          fun _ => Read.meets_pure _

theorem meets_members :
    ∀ (fields : List (String × Outline)) (depth : Nat) (pairs : List (Node × Node))
    (spot : Spot), Outline.fieldsHeight fields ≤ depth → Outline.SayFields fields pairs →
    (pairs.mapM (fun (key, value) => do
        let name ← Spot.readText "a string" { spot with node := some key, depth }
        return (name, ← Spot.valueAt depth (spot.member key value)) : Node × Node →
          Read (String × Value))).Meets
      (Outline.memberValues fields)
  | [], depth, pairs, spot, _, said => by
      cases said
      exact Read.meets_pure []
  | (key, outline) :: fields, depth, pairs, spot, enough, said => by
      obtain ⟨mark, node, others, rfl, first, rest⟩ := said
      rw [Outline.fieldsHeight, Nat.max_le] at enough
      have value :=
        meets_value outline depth (spot.member (.scalar (.bare mark) .plain key) node) node
        enough.1 rfl first
      have members := meets_members fields depth others spot enough.2 rest
      -- The key is read as it is.
      have named : ∀ β : Type, ∀ next : String → Read β,
          Spot.readText "a string"
              { spot with node := some (.scalar (.bare mark) .plain key), depth } >>= next =
            next key := fun _ _ => rfl
      rw [List.mapM_cons, Outline.memberValues]
      simp only [named, bind_assoc, pure_bind]
      exact value.bind fun _ => members.bind fun _ => Read.meets_pure _

end

section

variable {outline : Outline} {root : Node}

/-- A document that says an outline has the value of the outline. -/
theorem value_of_says (said : outline.Says root) (enough : outline.height ≤ depthLimit)
    {value : Value} (given : outline.value = .ok value) :
    (⟨some root⟩ : Document).value = .ok value := by
  have meets := meets_value outline depthLimit ⟨some root, ".", depthLimit⟩ root enough rfl said
    ⟨some root⟩ 0
  simp only [given] at meets
  simp only [Document.value, Document.read, StateT.run'_eq, meets]
  rfl

/-- It is refused if a scalar of the outline has no value. -/
theorem refused_of_says (said : outline.Says root) (enough : outline.height ≤ depthLimit)
    {error : ReadError} (given : outline.value = .error error) :
    ∃ error : Error, (⟨some root⟩ : Document).value = .error error := by
  have meets := meets_value outline depthLimit ⟨some root, ".", depthLimit⟩ root enough rfl said
    ⟨some root⟩ 0
  simp only [given] at meets
  obtain ⟨error, failed⟩ := meets
  refine ⟨error, ?_⟩
  simp only [Document.value, Document.read, StateT.run'_eq, failed]
  rfl

end

end PoolOperator.Yaml
