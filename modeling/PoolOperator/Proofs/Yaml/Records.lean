import Mathlib.Data.List.Forall2
import PoolOperator.Proofs.Yaml.Legible
import PoolOperator.Yaml.Reading

/-!
# Reading records from written documents

A node that says a value is read back as what the value was made from: a text
(`Spot.Holds.text`), a truth value (`Spot.Holds.flag`), a list
(`Spot.Holds.items`) or the fields of a record (`Spot.Holds.slots`).  There are
no aliases in such a node, so that reading it leaves no trace (`Read.Returns`).
-/

namespace PoolOperator.Yaml

/-! ## Steps of reading -/

/-- Reading gives a result in any document, and follows no alias. -/
def Read.Returns {α : Type} (read : Read α) (result : α) : Prop :=
  ∀ (document : Document) (jumps : Nat), (read.run document).run jumps = .ok (result, jumps)

theorem Read.returns_pure {α : Type} (result : α) : (pure result : Read α).Returns result :=
  fun _ _ => rfl

theorem Read.Returns.andThen {α β : Type} {read : Read α} {next : α → Read β}
    {result : α} {value : β} (returns : read.Returns result)
    (goesOn : (next result).Returns value) :
    (read >>= next).Returns value := by
  intro document jumps
  rw [ReaderT.run_bind, StateT.run_bind, returns]
  exact goesOn document jumps

theorem Read.returns_mapM {α β : Type} {read : α → Read β} {places : List α} {results : List β}
    (each : List.Forall₂ (fun place result => (read place).Returns result) places results) :
    (places.mapM read).Returns results := by
  induction each with
  | nil => exact Read.returns_pure []
  | cons first _ induction =>
      rw [List.mapM_cons]
      exact first.andThen (induction.andThen (Read.returns_pure _))

/-! ## Spots -/

/-- A spot holds a node that says a value, and collections may be nested to some
depth from there on. -/
structure Spot.Holds (spot : Spot) (value : Value) (depth : Nat) : Prop where
  /-- The node says the value. -/
  said : ∃ node : Node, spot.node = some node ∧ Says value node
  /-- The depth that is left. -/
  deep : spot.depth = depth

theorem Spot.Holds.text {spot : Spot} {text : String} {depth : Nat}
    (holds : spot.Holds (.str text) depth) (expected : String) :
    (spot.readText expected).Returns text := by
  obtain ⟨_, there, mark, rfl⟩ := holds.said
  obtain ⟨node, path, deep⟩ := spot
  cases there
  exact fun _ _ => rfl

theorem Spot.Holds.flag {spot : Spot} {value : Bool} {depth : Nat}
    (holds : spot.Holds (.bool value) depth) : spot.readFlag.Returns value := by
  obtain ⟨_, there, mark, rfl⟩ := holds.said
  obtain ⟨node, path, deep⟩ := spot
  cases there
  cases value with
  | true => exact fun _ _ => rfl
  | false => exact fun _ _ => rfl

theorem Spot.Holds.nullable_bool {spot : Spot} {value : Bool} {depth : Nat}
    (holds : spot.Holds (.bool value) depth) : spot.readNullable.Returns (some spot) := by
  obtain ⟨_, there, mark, rfl⟩ := holds.said
  obtain ⟨node, path, deep⟩ := spot
  cases there
  cases value with
  | true => exact fun _ _ => rfl
  | false => exact fun _ _ => rfl

theorem Spot.Holds.nullable_arr {spot : Spot} {items : List Value} {depth : Nat}
    (holds : spot.Holds (.arr items) depth) : spot.readNullable.Returns (some spot) := by
  obtain ⟨_, there, mark, nodes, rfl, _⟩ := holds.said
  obtain ⟨node, path, deep⟩ := spot
  cases there
  exact fun _ _ => rfl

/-- Spots for the nodes of some items hold the items. -/
theorem forall₂_holds {depth : Nat} : ∀ (items : List Value) (nodes : List Node)
    (spot : Nat → Node → Spot),
    (∀ (index : Nat) (node : Node), (spot index node).node = some node
      ∧ (spot index node).depth = depth) →
    SayItems items nodes →
    List.Forall₂ (fun place item => Spot.Holds place item depth) (nodes.mapIdx spot) items
  | [], nodes, spot, _, said => by
      cases said
      exact .nil
  | item :: items, nodes, spot, same, said => by
      obtain ⟨node, others, rfl, first, rest⟩ := said
      rw [List.mapIdx_cons]
      exact .cons ⟨⟨node, (same 0 node).1, first⟩, (same 0 node).2⟩
        (forall₂_holds items others _ (fun index node => same (index + 1) node) rest)

theorem Spot.Holds.items {spot : Spot} {items : List Value} {depth : Nat}
    (holds : spot.Holds (.arr items) (depth + 1)) :
    ∃ places : List Spot, spot.readItems.Returns places
      ∧ List.Forall₂ (fun place item => Spot.Holds place item depth) places items := by
  obtain ⟨_, there, mark, nodes, rfl, said⟩ := holds.said
  have deep := holds.deep
  refine ⟨spot.enterItems nodes, ?_, ?_⟩
  · obtain ⟨node, path, _⟩ := spot
    cases there
    cases deep
    exact fun _ _ => rfl
  · refine forall₂_holds items nodes spot.item (fun index node => ⟨rfl, ?_⟩) said
    simp [Spot.item, deep]

/-! ## Records -/

/-- The members of a mapping hold the members of an object, under the same names. -/
def HoldFields (depth : Nat) (members : List (String × Spot))
    (fields : List (String × Value)) : Prop :=
  List.Forall₂ (fun member field => member.1 = field.1 ∧ member.2.Holds field.2 depth)
    members fields

theorem HoldFields.names {depth : Nat} {members : List (String × Spot)}
    {fields : List (String × Value)} (holds : HoldFields depth members fields) :
    members.map Prod.fst = fields.map Prod.fst := by
  induction holds with
  | nil => rfl
  | cons first _ induction => rw [List.map_cons, List.map_cons, first.1, induction]

/-- What is found among the members holds what is found among the fields. -/
theorem HoldFields.find? {depth : Nat} {members : List (String × Spot)}
    {fields : List (String × Value)} (holds : HoldFields depth members fields) (name : String) :
    (Fields.find? fields name = none ∧ Fields.find? members name = none)
      ∨ ∃ (value : Value) (place : Spot), Fields.find? fields name = some value
          ∧ Fields.find? members name = some place ∧ place.Holds value depth := by
  induction holds with
  | nil => exact .inl ⟨rfl, rfl⟩
  | @cons member field members fields first _ induction =>
      obtain ⟨key, place⟩ := member
      obtain ⟨key', value⟩ := field
      obtain ⟨rfl, held⟩ := first
      by_cases same : key = name
      · refine .inr ⟨value, place, ?_, ?_, held⟩
        · simp [Fields.find?, same]
        · simp [Fields.find?, same]
      · simpa [Fields.find?, same] using induction

theorem returns_members (spot : Spot) :
    ∀ (fields : List (String × Value)) (pairs : List (Node × Node)),
    SayFields fields pairs →
    ∃ members : List (String × Spot),
      List.Forall₂ (fun (pair : Node × Node) member => (do
          let name ←
            Spot.readText "a string" { spot with node := some pair.1, depth := spot.depth - 1 }
          return (name, spot.member pair.1 pair.2) : Read (String × Spot)).Returns member)
            pairs members
        ∧ HoldFields (spot.depth - 1) members fields
  | [], pairs, said => by
      cases said
      exact ⟨[], .nil, .nil⟩
  | (key, value) :: fields, pairs, said => by
      obtain ⟨mark, node, others, rfl, first, rest⟩ := said
      obtain ⟨members, returns, holds⟩ := returns_members spot fields others rest
      refine ⟨(key, spot.member (.scalar (.bare mark) .plain key) node) :: members,
        .cons (fun _ _ => rfl) returns, .cons ⟨rfl, ⟨node, rfl, first⟩, rfl⟩ holds⟩

/-- No name is given twice. -/
theorem find?_twice_eq_none {members : List (String × Spot)}
    (distinct : (members.map Prod.fst).Nodup) (names : List String) :
    (names.find? fun name => (members.filter fun member => member.1 = name).length > 1) = none := by
  rw [List.find?_eq_none]
  intro name _
  have once := List.nodup_iff_count.mp distinct name
  rw [List.count_eq_countP, List.countP_map, List.countP_eq_length_filter] at once
  rw [decide_eq_true_eq, Nat.not_lt]
  exact once

/-- The fields of a record. -/
theorem Spot.Holds.slots {spot : Spot} (fields : List (String × Value)) {depth : Nat}
    (holds : spot.Holds (.obj fields) (depth + 1)) (distinct : (fields.map Prod.fst).Nodup)
    (expected : String) (names : List String) :
    ∃ members : List (String × Spot),
      (Reading.slots expected names spot : Read _).Returns ⟨false, members⟩
        ∧ HoldFields depth members fields := by
  obtain ⟨_, there, mark, pairs, rfl, said⟩ := holds.said
  have deep := holds.deep
  obtain ⟨members, each, held⟩ := returns_members spot fields pairs said
  have returns := Read.returns_mapM each
  rw [deep, Nat.add_sub_cancel] at held
  rw [← held.names] at distinct
  refine ⟨members, ?_, held⟩
  have given : (spot.readMembers expected).Returns members := by
    obtain ⟨node, path, _⟩ := spot
    cases there
    cases deep
    exact returns
  have record : (Source.record expected spot : Read _).Returns (.named members) :=
    given.andThen (Read.returns_pure _)
  refine record.andThen ?_
  simp only [find?_twice_eq_none distinct]
  exact Read.returns_pure _

/-! ## Fields -/

/-- A field with a default is read back, also if it was left out for being the
default. -/
theorem HoldFields.defaulted {α : Type} {depth : Nat} {members : List (String × Spot)}
    {fields : List (String × Value)} {name : String} {default result : α} {read : Spot → Read α}
    (holds : HoldFields depth members fields)
    (present : ∀ value ∈ Fields.find? fields name, ∀ place : Spot, place.Holds value depth →
      (read place).Returns result)
    (absent : Fields.find? fields name = none → result = default) :
    (Reading.Slots.defaulted ⟨false, members⟩ name default read : Read α).Returns result := by
  unfold Reading.Slots.defaulted Reading.Slots.find?
  rcases holds.find? name with ⟨missing, noPlace⟩ | ⟨value, place, found, there, held⟩
  · rw [absent missing]
    simp only [noPlace]
    exact Read.returns_pure default
  · simp only [there]
    exact present value found place held

/-- A field that may be left out is read back. -/
theorem HoldFields.optional {α : Type} {depth : Nat} {members : List (String × Spot)}
    {fields : List (String × Value)} {name : String} {result : Option α} {read : Spot → Read α}
    (holds : HoldFields depth members fields)
    (present : ∀ value ∈ Fields.find? fields name, ∀ place : Spot, place.Holds value depth →
      place.readNullable.Returns (some place) ∧ ∃ content ∈ result, (read place).Returns content)
    (absent : Fields.find? fields name = none → result = none) :
    (Reading.Slots.optional ⟨false, members⟩ name read : Read (Option α)).Returns result := by
  unfold Reading.Slots.optional Reading.Slots.find?
  rcases holds.find? name with ⟨missing, noPlace⟩ | ⟨value, place, found, there, held⟩
  · rw [absent missing]
    simp only [noPlace]
    exact Read.returns_pure none
  · obtain ⟨notNull, content, same, returns⟩ := present value found place held
    cases same
    simp only [there]
    exact Read.Returns.andThen notNull (returns.andThen (Read.returns_pure (some content)))

theorem Spot.Holds.list {α : Type} {spot : Spot} {items : List Value} {depth : Nat}
    {results : List α} {read : Spot → Read α} (holds : spot.Holds (.arr items) (depth + 1))
    (each : List.Forall₂ (fun item result => ∀ place : Spot, place.Holds item depth →
      (read place).Returns result) items results) :
    (Reading.list read spot).Returns results := by
  obtain ⟨places, given, held⟩ := holds.items
  refine Read.Returns.andThen given (Read.returns_mapM ?_)
  clear given holds
  induction held generalizing results with
  | nil =>
      cases each
      exact .nil
  | cons first _ induction =>
      cases each with
      | cons returns others => exact .cons (returns _ first) (induction others)

/-- The only document of a text is read as its root is. -/
theorem readText_eq_ok {α : Type} {text : String} {root : Node} {read : Spot → Read α} {result : α}
    (single : documents text = ([⟨some root⟩], none))
    (returns : (read ⟨some root, ".", depthLimit⟩).Returns result) :
    readText read text = .ok result := by
  rw [readText, single]
  simp only [Document.read, StateT.run'_eq]
  rw [returns ⟨some root⟩ 0]
  rfl

end PoolOperator.Yaml
