import PoolOperator.Pool.Resource
import PoolOperator.Proofs.Yaml.Records

/-!
# Writing and reading the pool configuration

Whatever pools a configuration holds, its document is read back as the same
configuration (`PoolConfig.ofYaml_toYaml`).  The texts in it may be anything;
what was left out because it is empty or not given is the default.
-/

namespace PoolOperator

open Yaml

/-! ## Entries -/

namespace PoolEntry

/-- The members of an entry in the document. -/
def members (entry : PoolEntry) : List (String × Value) :=
  [("name", .str entry.name)]
    ++ (if entry.protocol = "" then [] else [("protocol", .str entry.protocol)])
    ++ [("addresses", .strings entry.addresses)]
    ++ (entry.autoAssign.map fun flag => ("auto-assign", Value.bool flag)).toList
    ++ (entry.avoidBuggyIps.map fun flag => ("avoid-buggy-ips", Value.bool flag)).toList

theorem find?_members (entry : PoolEntry) :
    Fields.find? entry.members "name" = some (.str entry.name)
      ∧ Fields.find? entry.members "protocol" =
          (if entry.protocol = "" then none else some (.str entry.protocol))
      ∧ Fields.find? entry.members "addresses" = some (.strings entry.addresses)
      ∧ Fields.find? entry.members "auto-assign" = entry.autoAssign.map .bool
      ∧ Fields.find? entry.members "avoid-buggy-ips" = entry.avoidBuggyIps.map .bool := by
  obtain ⟨name, protocol, addresses, autoAssign, avoidBuggyIps⟩ := entry
  by_cases noProtocol : protocol = ""
  · cases autoAssign <;> cases avoidBuggyIps <;> simp [members, Fields.find?, noProtocol]
  · cases autoAssign <;> cases avoidBuggyIps <;> simp [members, Fields.find?, noProtocol]

theorem nodup_members (entry : PoolEntry) : (entry.members.map Prod.fst).Nodup := by
  obtain ⟨name, protocol, addresses, autoAssign, avoidBuggyIps⟩ := entry
  by_cases noProtocol : protocol = ""
  · cases autoAssign <;> cases avoidBuggyIps <;> simp [members, noProtocol]
  · cases autoAssign <;> cases avoidBuggyIps <;> simp [members, noProtocol]

/-- The keys of the configuration are read back as they are written. -/
theorem isPlainKey_of_known :
    ∀ key ∈ ["address-pools", "name", "protocol", "addresses", "auto-assign", "avoid-buggy-ips"],
      isPlainKey key = true := by
  decide +kernel

theorem areLegible_strings : ∀ texts : List String, areLegible (texts.map .str) = true
  | [] => rfl
  | text :: texts => by
      rw [List.map_cons, areLegible, areLegible_strings texts]
      rfl

theorem fieldsLegible_append : ∀ fields others : List (String × Value),
    fieldsLegible (fields ++ others) = (fieldsLegible fields && fieldsLegible others)
  | [], others => rfl
  | (key, value) :: fields, others => by
      rw [List.cons_append, fieldsLegible, fieldsLegible, fieldsLegible_append fields others]
      simp only [Bool.and_assoc]

theorem fieldsLegible_members (entry : PoolEntry) : fieldsLegible entry.members = true := by
  obtain ⟨name, protocol, addresses, autoAssign, avoidBuggyIps⟩ := entry
  have texts : isLegible (.strings addresses) = true := areLegible_strings addresses
  have text (text : String) : isLegible (.str text) = true := rfl
  have flag (flag : Bool) : isLegible (.bool flag) = true := rfl
  have key (key : String) (known : key ∈ ["address-pools", "name", "protocol", "addresses",
      "auto-assign", "avoid-buggy-ips"]) := isPlainKey_of_known key known
  simp only [members, fieldsLegible_append]
  by_cases noProtocol : protocol = ""
  · cases autoAssign <;> cases avoidBuggyIps <;>
      simp [fieldsLegible, noProtocol, texts, text, flag, key]
  · cases autoAssign <;> cases avoidBuggyIps <;>
      simp [fieldsLegible, noProtocol, texts, text, flag, key]

/-- An entry is read back from where its value is said. -/
theorem read_returns (entry : PoolEntry) {place : Spot} {depth : Nat}
    (holds : place.Holds entry.toValue (depth + 2)) :
    (PoolEntry.read place : Read PoolEntry).Returns entry := by
  obtain ⟨members, slots, held⟩ := holds.slots entry.members entry.nodup_members
    "struct AddressPoolEntry" ["name", "protocol", "addresses", "auto-assign", "avoid-buggy-ips"]
  obtain ⟨name, protocol, addresses, autoAssign, avoidBuggyIps⟩ := entry.find?_members
  have readName : (Reading.Slots.defaulted ⟨false, members⟩ "name" "" Reading.text :
      Read String).Returns entry.name := by
    refine held.defaulted (fun value found place held => ?_) (fun missing => ?_)
    · rw [name] at found
      cases found
      exact held.text "a string"
    · rw [name] at missing
      cases missing
  have readProtocol : (Reading.Slots.defaulted ⟨false, members⟩ "protocol" "" Reading.text :
      Read String).Returns entry.protocol := by
    refine held.defaulted (fun value found place held => ?_) (fun missing => ?_)
    · rw [protocol] at found
      split at found
      next => cases found
      next =>
        cases found
        exact held.text "a string"
    · rw [protocol] at missing
      split at missing
      next empty => exact empty
      next => cases missing
  have readAddresses : (Reading.Slots.defaulted ⟨false, members⟩ "addresses" [] Reading.texts :
      Read (List String)).Returns entry.addresses := by
    refine held.defaulted (fun value found place held => ?_) (fun missing => ?_)
    · rw [addresses] at found
      cases found
      refine held.list (List.forall₂_map_left_iff.mpr (List.forall₂_same.mpr ?_))
      intro text _ place held
      exact held.text "a string"
    · rw [addresses] at missing
      cases missing
  have readFlag (name : String) (flag : Option Bool)
      (given : Fields.find? entry.members name = flag.map .bool) :
      (Reading.Slots.optional ⟨false, members⟩ name Source.flag : Read (Option Bool)).Returns
      flag := by
    refine held.optional (fun value found place held => ?_) (fun missing => ?_)
    · rw [given] at found
      obtain ⟨content, same, rfl⟩ := Option.map_eq_some_iff.mp found
      exact ⟨held.nullable_bool, content, same, held.flag⟩
    · rw [given] at missing
      exact Option.map_eq_none_iff.mp missing
  exact slots.andThen (readName.andThen (readProtocol.andThen (readAddresses.andThen
    ((readFlag _ _ autoAssign).andThen
      ((readFlag _ _ avoidBuggyIps).andThen (Read.returns_pure _))))))

end PoolEntry

/-! ## Configurations -/

namespace PoolConfig

/-- The members of a configuration in the document. -/
def members (config : PoolConfig) : List (String × Value) :=
  [("address-pools", .arr (config.pools.map PoolEntry.toValue))]

theorem fieldsLegible_members (config : PoolConfig) : fieldsLegible config.members = true := by
  have entries : ∀ pools : List PoolEntry, areLegible (pools.map PoolEntry.toValue) = true := by
    intro pools
    induction pools with
    | nil => rfl
    | cons entry pools induction =>
        rw [List.map_cons, areLegible, induction, Bool.and_true]
        exact entry.fieldsLegible_members
  rw [members, fieldsLegible, PoolEntry.isPlainKey_of_known _ (by simp), isLegible, entries]
  rfl

/-- A configuration is read back from where its value is said. -/
theorem read_returns (config : PoolConfig) (place : Spot) {depth : Nat}
    (holds : place.Holds config.toValue (depth + 4)) :
    (PoolConfig.read place : Read PoolConfig).Returns config := by
  obtain ⟨members, slots, held⟩ := holds.slots config.members (by simp [members])
    "struct AddressPoolConfig" ["address-pools"]
  have readPools : (Reading.Slots.optional ⟨false, members⟩ "address-pools"
      (Reading.list PoolEntry.read) : Read (Option (List PoolEntry))).Returns
      (some config.pools) := by
    refine held.optional (fun value found place held => ?_) (fun missing => ?_)
    · cases found
      refine ⟨held.nullable_arr, config.pools, rfl, ?_⟩
      refine held.list (List.forall₂_map_left_iff.mpr (List.forall₂_same.mpr ?_))
      intro entry _ place held
      exact entry.read_returns held
    · cases missing
  exact slots.andThen (readPools.andThen (Read.returns_pure _))

theorem allBlank_toYaml (config : PoolConfig) : Text.allBlank config.toYaml = false := by
  have plain := PoolEntry.isPlainKey_of_known "address-pools" (by simp)
  simp only [isPlainKey, Bool.and_eq_true, decide_eq_true_eq] at plain
  have begins : writeText true 2 "address-pools" = "address-pools".toList := by
    simp only [writeText, plain.1]
  have text : config.toYaml.toList = writeFields 0 config.members := String.toList_ofList
  rw [Text.allBlank, text, members, writeFields, begins, List.all_append]
  rfl

/-- A configuration is read back from its document. -/
theorem ofYaml_toYaml (config : PoolConfig) : ofYaml config.toYaml = .ok config := by
  obtain ⟨root, said, written⟩ := documents_write ("address-pools",
    .arr (config.pools.map PoolEntry.toValue)) [] config.fieldsLegible_members
  have returns := config.read_returns ⟨some root, ".", depthLimit⟩ ⟨⟨root, rfl, said⟩, rfl⟩
  rw [ofYaml, allBlank_toYaml, if_neg (by simp)]
  exact readText_eq_ok written returns

end PoolConfig

end PoolOperator
