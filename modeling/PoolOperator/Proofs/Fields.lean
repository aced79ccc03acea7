import PoolOperator.Fields

/-!
# Looking up and storing fields

Of several values under a key, `find?` gives the first one, and the ordered form
of a list keeps the last one.  Where the keys are in order there is only one,
so that the two agree (`find?_ofList_append`), and fields that are in order are
their own ordered form (`ofList_of_sorted`).

Values under different keys may be stored in any order (`put_comm`), the later
of two values under one key stays (`put_put`), and storing what is there changes
nothing (`put_of_find?`).  Two lists in order are equal if the same is found in both
(`eq_of_find?`).
-/

namespace PoolOperator

namespace Fields

variable {α : Type}

theorem find?_append (front back : Fields α) (key : String) :
    find? (front ++ back) key = (find? front key).or (find? back key) := by
  induction front with
  | nil => rfl
  | cons field rest induction =>
      obtain ⟨name, value⟩ := field
      by_cases same : name = key
      · simp [find?, same]
      · simp [find?, same, induction]

/-- In the overlay of two lists, the last value of the second one wins. -/
theorem find?_overlay (base above : Fields α) (key : String) :
    find? (overlay base above) key = (find? above.reverse key).or (find? base key) := by
  induction above generalizing base with
  | nil => rfl
  | cons pair rest induction =>
      obtain ⟨name, value⟩ := pair
      have step : overlay base ((name, value) :: rest) = overlay (base.put name value) rest := rfl
      rw [step, induction, List.reverse_cons, find?_append, Option.or_assoc]
      congr 1
      by_cases same : name = key
      · subst same
        rw [find?_put_self]
        simp [find?]
      · rw [find?_put_ne base value (Ne.symm same)]
        simp [find?, same]

/-- In the ordered form of a list the last value wins. -/
theorem find?_ofList (pairs : Fields α) (key : String) :
    find? (ofList pairs) key = find? pairs.reverse key := by
  have ordered : ofList pairs = overlay [] pairs := rfl
  rw [ordered, find?_overlay, find?_nil, Option.or_none]

/-- All of some keys have the same value. -/
theorem find?_map_mk (keys : List String) (value : α) (key : String) :
    find? (keys.map (·, value)) key = if key ∈ keys then some value else none := by
  induction keys with
  | nil => rfl
  | cons name rest induction =>
      rw [List.map_cons, find?, induction]
      by_cases same : name = key
      · rw [if_pos same, if_pos (same ▸ List.mem_cons_self)]
      · simp only [if_neg same, List.mem_cons, Ne.symm same, false_or]

theorem find?_eq_none {fields : Fields α} {key : String}
    (absent : ∀ field ∈ fields, field.1 ≠ key) :
    find? fields key = none := by
  induction fields with
  | nil => rfl
  | cons field rest induction =>
      obtain ⟨name, value⟩ := field
      rw [find?, if_neg (absent _ List.mem_cons_self)]
      exact induction fun field member => absent field (List.mem_cons_of_mem _ member)

/-- A key before all others is not there. -/
theorem find?_eq_none_of_lt {fields : Fields α} {key : String}
    (before : ∀ field ∈ fields, key < field.1) : find? fields key = none :=
  find?_eq_none fun field member => Ne.symm (String.ne_of_lt (before field member))

/-- In fields that are in order no key is before the first one. -/
theorem not_lt_of_find? {name key : String} {value : α} {rest : Fields α}
    (sorted : Sorted ((name, value) :: rest)) (there : find? ((name, value) :: rest) key ≠ none) :
    ¬ key < name := by
  intro before
  refine there (find?_eq_none_of_lt fun field member => ?_)
  rcases List.mem_cons.mp member with rfl | later
  · exact before
  · exact String.lt_trans before ((List.pairwise_cons.mp sorted).1 field later)

/-- In fields that are in order, there is one value under a key. -/
theorem find?_reverse_of_sorted {fields : Fields α} (sorted : fields.Sorted) (key : String) :
    find? fields.reverse key = find? fields key := by
  induction fields with
  | nil => rfl
  | cons field rest induction =>
      obtain ⟨name, value⟩ := field
      obtain ⟨first, restSorted⟩ := List.pairwise_cons.mp sorted
      rw [List.reverse_cons, find?_append, induction restSorted]
      by_cases same : name = key
      · subst same
        have later : find? rest name = none :=
          find?_eq_none fun field member equal => String.ne_of_lt (first field member) equal.symm
        simp [find?, later]
      · simp [find?, same]

/-- A member is found in the ordered form of a list that ends with ordered
fields, unless its key comes before them. -/
theorem find?_ofList_append {front fields : Fields α} (sorted : fields.Sorted) {key : String}
    (absent : ∀ field ∈ front, field.1 ≠ key) :
    find? (ofList (front ++ fields)) key = find? fields key := by
  have noFront : find? front.reverse key = none :=
    find?_eq_none fun field member => absent field (List.mem_reverse.mp member)
  rw [find?_ofList, List.reverse_append, find?_append, find?_reverse_of_sorted sorted, noFront,
    Option.or_none]

/-! ## Storing -/

theorem mem_of_find? {fields : Fields α} {key : String} {value : α}
    (there : fields.find? key = some value) : (key, value) ∈ fields := by
  induction fields with
  | nil => cases there
  | cons field rest induction =>
      obtain ⟨name, first⟩ := field
      by_cases same : name = key
      · rw [find?, if_pos same] at there
        cases there
        exact same ▸ List.mem_cons_self
      · rw [find?, if_neg same] at there
        exact List.mem_cons_of_mem _ (induction there)

theorem mem_overlay {base above : Fields α} {field : String × α}
    (there : field ∈ base.overlay above) :
    field ∈ base ∨ field ∈ above := by
  induction above generalizing base with
  | nil => exact .inl there
  | cons pair rest induction =>
      rcases induction there with stored | later
      · rcases mem_put stored with same | earlier
        · exact .inr (same ▸ List.mem_cons_self)
        · exact .inl earlier
      · exact .inr (List.mem_cons_of_mem _ later)

theorem mem_ofList {pairs : List (String × α)} {field : String × α} (there : field ∈ ofList pairs) :
    field ∈ pairs := (mem_overlay there).resolve_left List.not_mem_nil

/-- In fields that are in order every member is found. -/
theorem find?_of_mem {fields : Fields α} (sorted : fields.Sorted) {field : String × α}
    (there : field ∈ fields) : fields.find? field.1 = some field.2 := by
  induction fields with
  | nil => cases there
  | cons first rest induction =>
      obtain ⟨least, restSorted⟩ := List.pairwise_cons.mp sorted
      rcases List.mem_cons.mp there with rfl | later
      · exact if_pos rfl
      · rw [find?, if_neg (String.ne_of_lt (least field later))]
        exact induction restSorted later

/-- Fields in order hold what is found in them. -/
theorem mem_iff_find? {fields : Fields α} (sorted : fields.Sorted) {field : String × α} :
    field ∈ fields ↔ fields.find? field.1 = some field.2 :=
  ⟨find?_of_mem sorted, mem_of_find?⟩

theorem Sorted.nodup {fields : Fields α} (sorted : fields.Sorted) : fields.Nodup :=
  sorted.imp fun before same => String.ne_of_lt before (congrArg Prod.fst same)

/-- Fields in order are the same if the same is found in them. -/
theorem eq_of_find? {one other : Fields α} (sorted : one.Sorted) (sorted' : other.Sorted)
    (same : ∀ key : String, one.find? key = other.find? key) : one = other := by
  have members : ∀ field : String × α, field ∈ one ↔ field ∈ other := fun field => by
    rw [mem_iff_find? sorted, mem_iff_find? sorted', same]
  refine ((List.perm_ext_iff_of_nodup sorted.nodup sorted'.nodup).mpr members).eq_of_pairwise ?_
    sorted sorted'
  exact fun one other _ _ before after => absurd after (String.lt_asymm before)

/-- Of two values that are stored under a key the later one stays. -/
theorem put_put (fields : Fields α) (key : String) (old new : α) :
    (fields.put key old).put key new = fields.put key new := by
  induction fields with
  | nil => simp [put]
  | cons field rest induction =>
      obtain ⟨name, value⟩ := field
      by_cases same : name = key
      · simp [put, same]
      · by_cases before : key < name
        · simp [put, same, before]
        · simp [put, same, before, induction]

theorem lt_or_lt_of_ne {one other : String} (different : one ≠ other) :
    one < other ∨ other < one := by
  by_cases before : one < other
  · exact .inl before
  · exact .inr (Std.lt_of_le_of_ne before (Ne.symm different))

/-- Values under two keys may be stored in any order. -/
theorem put_comm (fields : Fields α) {key other : String} (different : key ≠ other) (new new' : α) :
    (fields.put key new).put other new' = (fields.put other new').put key new := by
  have ordered : ∀ {low high : String} {one two : α}, low < high →
      (fields.put low one).put high two = (fields.put high two).put low one := by
    intro low high one two before
    have apart : high ≠ low := Ne.symm (String.ne_of_lt before)
    have after : ¬ high < low := String.lt_asymm before
    induction fields with
    | nil => simp [put, Ne.symm apart, apart, before, after]
    | cons field rest induction =>
        obtain ⟨name, value⟩ := field
        -- Where the first key lies decides which of the two are stored before it.
        by_cases first : low < name
        · have notLow : name ≠ low := Ne.symm (String.ne_of_lt first)
          grind [put]
        · grind [put, String.lt_trans]
  rcases lt_or_lt_of_ne different with before | after
  · exact ordered before
  · exact (ordered after).symm

/-- Storing the value that is there changes nothing, if the keys are in order. -/
theorem put_of_find? {fields : Fields α} (sorted : fields.Sorted) {key : String} {value : α}
    (there : fields.find? key = some value) : fields.put key value = fields := by
  induction fields with
  | nil => cases there
  | cons field rest induction =>
      obtain ⟨name, first⟩ := field
      obtain ⟨least, restSorted⟩ := List.pairwise_cons.mp sorted
      by_cases same : name = key
      · rw [find?, if_pos same] at there
        cases there
        rw [put, if_pos same, same]
      · rw [find?, if_neg same] at there
        have after : name < key := least _ (mem_of_find? there)
        rw [put, if_neg same, if_neg (String.lt_asymm after), induction restSorted there]

/-- Storing a value under a key leaves the other members as they are. -/
theorem erase_put (fields : Fields α) (key : String) (new : α) :
    (fields.put key new).erase key = fields.erase key := by
  induction fields with
  | nil => simp [put, erase]
  | cons field rest induction =>
      obtain ⟨name, value⟩ := field
      by_cases same : name = key
      · simp [put, erase, same]
      · by_cases before : key < name
        · simp [put, erase, same, before]
        · rw [put, if_neg same, if_neg before]
          simp only [erase, List.filter_cons] at induction ⊢
          rw [induction]

/-- A value under a key behind all others comes last. -/
theorem put_eq_append {fields : Fields α} {key : String} (before : ∀ field ∈ fields, field.1 < key)
    (new : α) : fields.put key new = fields ++ [(key, new)] := by
  induction fields with
  | nil => rfl
  | cons field rest induction =>
      obtain ⟨name, value⟩ := field
      have first : name < key := before _ List.mem_cons_self
      rw [put, if_neg (String.ne_of_lt first), if_neg (String.lt_asymm first),
        induction fun field member => before field (List.mem_cons_of_mem _ member)]
      rfl

/-- Fields that all come after others are appended to them. -/
theorem overlay_eq_append {base above : Fields α} (sorted : (base ++ above).Sorted) :
    base.overlay above = base ++ above := by
  induction above generalizing base with
  | nil => exact (List.append_nil base).symm
  | cons field rest induction =>
      obtain ⟨key, value⟩ := field
      have before : ∀ field ∈ base, field.1 < key :=
        fun field member => (List.pairwise_append.mp sorted).2.2 field member _ List.mem_cons_self
      have step : overlay base ((key, value) :: rest) = overlay (base.put key value) rest := rfl
      rw [step, put_eq_append before, induction (by simpa using sorted), List.append_assoc]
      rfl

/-- Fields that are in order are their own ordered form. -/
theorem ofList_of_sorted {fields : Fields α} (sorted : fields.Sorted) : ofList fields = fields :=
  overlay_eq_append sorted

/-- Laying over what is there already changes nothing. -/
theorem overlay_of_find? {base above : Fields α} (sorted : base.Sorted)
    (there : ∀ field ∈ above, base.find? field.1 = some field.2) : base.overlay above = base := by
  induction above with
  | nil => rfl
  | cons field rest induction =>
      have step : overlay base (field :: rest) = overlay (base.put field.1 field.2) rest := rfl
      rw [step, put_of_find? sorted (there field List.mem_cons_self)]
      exact induction fun field member => there field (List.mem_cons_of_mem _ member)

end Fields

end PoolOperator
