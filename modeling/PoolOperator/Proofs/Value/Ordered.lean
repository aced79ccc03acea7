import PoolOperator.Proofs.Fields
import PoolOperator.Value

/-!
# Values with their members in order

Every value that was read is in order, because `canonical` brings the members
of all objects in it into order (`ordered_canonical`).  It leaves a value alone
that is in order already (`canonical_of_ordered`).
-/

namespace PoolOperator

namespace Value

mutual

/-- Are the members of every object in order? -/
def Ordered : Value → Prop
  | .arr items => OrderedItems items
  | .obj fields => Fields.Sorted fields ∧ OrderedFields fields
  | _ => True

/-- `Ordered` for the items of a list. -/
def OrderedItems : List Value → Prop
  | [] => True
  | item :: items => item.Ordered ∧ OrderedItems items

/-- `Ordered` for the members of an object. -/
def OrderedFields : List (String × Value) → Prop
  | [] => True
  | (_, value) :: rest => value.Ordered ∧ OrderedFields rest

end

theorem orderedFields_iff {fields : Fields Value} :
    OrderedFields fields ↔ ∀ field ∈ fields, field.2.Ordered := by
  induction fields with
  | nil => simp [OrderedFields]
  | cons field rest induction => simp [OrderedFields, induction]

theorem ordered_obj {fields : Fields Value} :
    (Value.obj fields).Ordered ↔ fields.Sorted ∧ ∀ field ∈ fields, field.2.Ordered := by
  rw [Ordered, orderedFields_iff]

theorem Ordered.getD_find? {fields : Fields Value} (ordered : (Value.obj fields).Ordered)
    (key : String) :
    ((fields.find? key).getD .null).Ordered := by
  cases there : fields.find? key with
  | none => exact trivial
  | some value => exact (ordered_obj.mp ordered).2 _ (Fields.mem_of_find? there)

theorem Ordered.put {fields : Fields Value} (ordered : (Value.obj fields).Ordered) (key : String)
    {new : Value} (newOrdered : new.Ordered) : (Value.obj (fields.put key new)).Ordered := by
  obtain ⟨sorted, members⟩ := ordered_obj.mp ordered
  refine ordered_obj.mpr ⟨Fields.sorted_put sorted key new, fun field member => ?_⟩
  rcases Fields.mem_put member with rfl | earlier
  · exact newOrdered
  · exact members field earlier

/-! ## What was read is in order -/

theorem ordered_ofList {pairs : List (String × Value)} (members : OrderedFields pairs) :
    (Value.obj (Fields.ofList pairs)).Ordered := by
  have laid : ∀ {base : Fields Value}, (Value.obj base).Ordered →
      (Value.obj (base.overlay pairs)).Ordered := by
    induction pairs with
    | nil => exact id
    | cons pair rest induction =>
        exact fun ordered => induction members.2 (ordered.put pair.1 members.1)
  exact laid ⟨List.Pairwise.nil, trivial⟩

mutual

theorem ordered_canonical : ∀ value : Value, value.canonical.Ordered
  | .null => trivial
  | .bool _ => trivial
  | .int _ => trivial
  | .float _ => trivial
  | .str _ => trivial
  | .arr items => orderedItems_canonical items
  | .obj fields => ordered_ofList (orderedFields_canonical fields)

theorem orderedItems_canonical : ∀ items : List Value, OrderedItems (canonicalItems items)
  | [] => trivial
  | item :: items => ⟨ordered_canonical item, orderedItems_canonical items⟩

theorem orderedFields_canonical : ∀ fields : List (String × Value),
    OrderedFields (canonicalFields fields)
  | [] => trivial
  | (_, value) :: rest => ⟨ordered_canonical value, orderedFields_canonical rest⟩

end

mutual

theorem canonical_of_ordered : ∀ {value : Value}, value.Ordered → value.canonical = value
  | .null, _ => rfl
  | .bool _, _ => rfl
  | .int _, _ => rfl
  | .float _, _ => rfl
  | .str _, _ => rfl
  | .arr items, ordered => congrArg Value.arr (canonicalItems_of_ordered ordered)
  | .obj fields, ordered => by
      rw [canonical, canonicalFields_of_ordered ordered.2, Fields.ofList_of_sorted ordered.1]

theorem canonicalItems_of_ordered : ∀ {items : List Value}, OrderedItems items →
    canonicalItems items = items
  | [], _ => rfl
  | item :: items, ordered => by
      rw [canonicalItems, canonical_of_ordered ordered.1, canonicalItems_of_ordered ordered.2]

theorem canonicalFields_of_ordered : ∀ {fields : List (String × Value)}, OrderedFields fields →
    canonicalFields fields = fields
  | [], _ => rfl
  | (key, value) :: rest, ordered => by
      rw [canonicalFields, canonical_of_ordered ordered.1, canonicalFields_of_ordered ordered.2]

end

end Value

end PoolOperator
