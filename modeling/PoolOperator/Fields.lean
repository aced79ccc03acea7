/-!
# Fields

A list of keyed values in increasing order of the keys.  The members of a JSON
object, the labels of a cluster object and the samples of a metric are kept
this way, so that two equal maps are equal lists.  Keys are compared as text,
character by character, which for UTF-8 is also the order of the bytes.

`find?_put_self` and `find?_put_ne` say what `put` does to look-up, and hold of
any list.  `Sorted` is the order that every list built by `put` has
(`sorted_put`, `sorted_ofList`).
-/

namespace PoolOperator

/-- Values under textual keys. -/
abbrev Fields (α : Type) := List (String × α)

namespace Fields

variable {α β : Type}

/-- The value under a key, the first one if there are several. -/
def find? : Fields α → String → Option α
  | [], _ => none
  | (name, value) :: rest, key => if name = key then some value else find? rest key

/-- Does the list hold the key? -/
def has (fields : Fields α) (key : String) : Bool := (fields.find? key).isSome

/-- Stores a value under a key, in place of an earlier value. -/
def put : Fields α → String → α → Fields α
  | [], key, new => [(key, new)]
  | (name, value) :: rest, key, new =>
      if name = key then (key, new) :: rest
      else if key < name then (key, new) :: (name, value) :: rest
      else (name, value) :: put rest key new

/-- Removes a key. -/
def erase (fields : Fields α) (key : String) : Fields α :=
  fields.filter fun field => field.1 ≠ key

/-- The ordered form of a list of pairs.  Of a repeated key the last value
stays. -/
def ofList (pairs : List (String × α)) : Fields α :=
  pairs.foldl (fun fields pair => fields.put pair.1 pair.2) []

/-- The second list laid over the first: its values win. -/
def overlay (base above : Fields α) : Fields α :=
  above.foldl (fun fields pair => fields.put pair.1 pair.2) base

/-- Keeps the keys and changes the values. -/
def mapValues (f : α → β) (fields : Fields α) : Fields β :=
  fields.map fun field => (field.1, f field.2)

/-- The keys stand in increasing order, each once. -/
def Sorted (fields : Fields α) : Prop := fields.Pairwise fun one other => one.1 < other.1

/-! ## Look-up after a change -/

@[simp] theorem find?_nil (key : String) : find? ([] : Fields α) key = none := rfl

/-- A stored value is found. -/
theorem find?_put_self (fields : Fields α) (key : String) (new : α) :
    (fields.put key new).find? key = some new := by
  induction fields with
  | nil => simp [put, find?]
  | cons field rest induction =>
      obtain ⟨name, value⟩ := field
      simp only [put]
      split
      next => simp [find?]
      next different =>
        split
        next => simp [find?]
        next => simp [find?, different, induction]

/-- Storing a value leaves all other keys alone. -/
theorem find?_put_ne (fields : Fields α) {key other : String} (new : α) (different : other ≠ key) :
    (fields.put key new).find? other = fields.find? other := by
  induction fields with
  | nil => simp [put, find?, Ne.symm different]
  | cons field rest induction =>
      obtain ⟨name, value⟩ := field
      simp only [put]
      split
      next same => simp [find?, same, Ne.symm different]
      next =>
        split
        next => simp [find?, Ne.symm different]
        next => simp only [find?, induction]

/-! ## Order -/

theorem mem_put {fields : Fields α} {key : String} {new : α} {field : String × α}
    (membership : field ∈ fields.put key new) : field = (key, new) ∨ field ∈ fields := by
  induction fields with
  | nil => simpa [put] using membership
  | cons first rest induction =>
      obtain ⟨name, value⟩ := first
      simp only [put] at membership
      split at membership
      next =>
        rcases List.mem_cons.mp membership with equal | later
        · exact .inl equal
        · exact .inr (List.mem_cons_of_mem _ later)
      next =>
        split at membership
        next =>
          rcases List.mem_cons.mp membership with equal | later
          · exact .inl equal
          · exact .inr later
        next =>
          rcases List.mem_cons.mp membership with equal | later
          · exact .inr (equal ▸ List.mem_cons_self)
          · rcases induction later with equal | earlier
            · exact .inl equal
            · exact .inr (List.mem_cons_of_mem _ earlier)

/-- Storing a value keeps the keys in order. -/
theorem sorted_put {fields : Fields α} (sorted : fields.Sorted) (key : String) (new : α) :
    (fields.put key new).Sorted := by
  induction fields with
  | nil => simp [put, Sorted]
  | cons field rest induction =>
      obtain ⟨name, value⟩ := field
      obtain ⟨first, restSorted⟩ := List.pairwise_cons.mp sorted
      simp only [put]
      split
      next same =>
        exact List.pairwise_cons.mpr ⟨fun other member => same ▸ first other member, restSorted⟩
      next different =>
        split
        next before =>
          refine List.pairwise_cons.mpr ⟨fun other member => ?_, sorted⟩
          rcases List.mem_cons.mp member with equal | later
          · exact equal ▸ before
          · exact String.lt_trans before (first other later)
        next notBefore =>
          refine List.pairwise_cons.mpr ⟨fun other member => ?_, induction restSorted⟩
          rcases mem_put member with equal | earlier
          · subst equal
            exact Std.lt_of_le_of_ne notBefore different
          · exact first other earlier

theorem sorted_overlay {base : Fields α} (sorted : base.Sorted) (above : Fields α) :
    (base.overlay above).Sorted := by
  induction above generalizing base with
  | nil => exact sorted
  | cons pair rest induction => exact induction (sorted_put sorted pair.1 pair.2)

/-- The ordered form is in order. -/
theorem sorted_ofList (pairs : List (String × α)) : (ofList pairs).Sorted :=
  sorted_overlay List.Pairwise.nil pairs

end Fields

end PoolOperator
