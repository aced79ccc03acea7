import PoolOperator.Proofs.Yaml.Nodes

/-!
# Outlines of values

The writer gives each value an outline (`outline`).  A value is *legible* if it
is made of texts, truth values, nothing, lists and objects whose keys are short
and plain.  Then its outline is legible, so that its document has a node that
says the value (`documents_write`).
-/

namespace PoolOperator.Yaml

/-! ## Legible values -/

/-- Can a key be told from its colon?  It is plain, and on one short line. -/
def isPlainKey (key : String) : Bool :=
  styleFor true key = .plain && decide (key.toList.length ≤ 1024)

mutual

/-- Is the value made of texts, truth values, nothing, lists and objects with
plain keys? -/
def isLegible : Value → Bool
  | .null => true
  | .bool _ => true
  | .int _ => false
  | .float _ => false
  | .str _ => true
  | .arr items => areLegible items
  | .obj fields => fieldsLegible fields

/-- `isLegible` of all items. -/
def areLegible : List Value → Bool
  | [] => true
  | item :: items => isLegible item && areLegible items

/-- `isLegible` of all members, and `isPlainKey` of their keys. -/
def fieldsLegible : List (String × Value) → Bool
  | [] => true
  | (key, value) :: fields => isPlainKey key && isLegible value && fieldsLegible fields

end

/-! ## Outlines -/

mutual

/-- The outline that the writer gives a value. -/
def outline : Value → Outline
  | .str text => .scalar (styleFor false text) text
  | .arr items => .sequence (outlines items)
  | .obj fields => .mapping (fieldOutlines fields)
  | value => .scalar .plain (String.ofList (inlineText 0 value))

/-- `outline` of all items. -/
def outlines : List Value → List Outline
  | [] => []
  | item :: items => outline item :: outlines items

/-- `outline` of all members. -/
def fieldOutlines : List (String × Value) → List (String × Outline)
  | [] => []
  | (key, value) :: fields => (key, outline value) :: fieldOutlines fields

end

theorem isShortKey_of_isPlainKey {key : String} (plain : isPlainKey key = true) :
    Outline.isShortKey key = true := by
  rw [isPlainKey, Bool.and_eq_true, decide_eq_true_eq] at plain
  rw [Outline.isShortKey, Bool.and_eq_true]
  refine ⟨?_, plain.2⟩
  rw [← plain.1]
  exact styleFor_carries true key

mutual

theorem isLegible_outline :
    ∀ value : Value, isLegible value = true → (outline value).isLegible = true
  | .null, _ => by decide
  | .bool true, _ => by decide
  | .bool false, _ => by decide
  | .str text, _ => styleFor_carries false text
  | .arr items, legible => areLegible_outlines items legible
  | .obj fields, legible => fieldsLegible_fieldOutlines fields legible

theorem areLegible_outlines : ∀ items : List Value, areLegible items = true →
    Outline.areLegible (outlines items) = true
  | [], _ => rfl
  | item :: items, legible => by
      rw [areLegible, Bool.and_eq_true] at legible
      rw [outlines, Outline.areLegible, isLegible_outline item legible.1,
        areLegible_outlines items legible.2, Bool.and_self]

theorem fieldsLegible_fieldOutlines :
    ∀ fields : List (String × Value), fieldsLegible fields = true →
    Outline.fieldsLegible (fieldOutlines fields) = true
  | [], _ => rfl
  | (key, value) :: fields, legible => by
      rw [fieldsLegible, Bool.and_eq_true, Bool.and_eq_true] at legible
      rw [fieldOutlines, Outline.fieldsLegible, isShortKey_of_isPlainKey legible.1.1,
        isLegible_outline value legible.1.2, fieldsLegible_fieldOutlines fields legible.2,
        Bool.and_self,
        Bool.and_self]

end

/-! ## Writing -/

theorem inlineText_outline (value : Value) (indent : Nat) :
    (outline value).inlineText indent = inlineText indent value := by
  cases value with
  | str text => rw [outline, Outline.inlineText, inlineText, writeText_eq]
  | arr items => rfl
  | obj fields => rfl
  | float number => cases number <;> simp [outline, Outline.inlineText, Style.written, inlineText]
  | _ => simp [outline, Outline.inlineText, Style.written, inlineText]

/-- A plain key is written as it is. -/
theorem writeText_key {key : String} (plain : isPlainKey key = true) (indent : Nat) :
    writeText true indent key = key.toList := by
  rw [isPlainKey, Bool.and_eq_true, decide_eq_true_eq] at plain
  rw [writeText_eq, plain.1]
  rfl

/-- A value without lines of its own goes on with its text. -/
theorem inline_outline (value : Value) (column : Nat) :
    ' ' :: scalarLine ((outline value).inlineText (column + 2)) =
      ' ' :: scalarLine (inlineText (column + 2) value) := by
  rw [inlineText_outline]

mutual

theorem afterHyphen_outline : ∀ (value : Value) (column : Nat), isLegible value = true →
    (outline value).afterHyphen column = afterHyphen column value
  | .null, column, _ => inline_outline .null column
  | .bool value, column, _ => inline_outline (.bool value) column
  | .str text, column, _ => inline_outline (.str text) column
  | .arr [], _, _ => rfl
  | .obj [], _, _ => rfl
  | .arr (item :: items), column, legible =>
      congrArg (' ' :: ·) (itemLines_outlines (item :: items) (column + 2) legible)
  | .obj (field :: fields), column, legible =>
      congrArg (' ' :: ·) (fieldLines_fieldOutlines (field :: fields) (column + 2) legible)

theorem afterKey_outline : ∀ (value : Value) (column : Nat), isLegible value = true →
    (outline value).afterKey column = afterKey column value
  | .null, column, _ => inline_outline .null column
  | .bool value, column, _ => inline_outline (.bool value) column
  | .str text, column, _ => inline_outline (.str text) column
  | .arr [], _, _ => rfl
  | .obj [], _, _ => rfl
  | .arr (item :: items), column, legible =>
      congrArg ('\n' :: spaces column ++ ·) (itemLines_outlines (item :: items) column legible)
  | .obj (field :: fields), column, legible =>
      congrArg ('\n' :: spaces (column + 2) ++ ·)
        (fieldLines_fieldOutlines (field :: fields) (column + 2) legible)

theorem itemLines_outlines : ∀ (items : List Value) (column : Nat), areLegible items = true →
    Outline.itemLines column (outlines items) = writeItems column items
  | [], _, _ => rfl
  | [item], column, legible => by
      rw [areLegible, Bool.and_eq_true] at legible
      have first := afterHyphen_outline item column legible.1
      simp only [outlines, Outline.itemLines, writeItems, first]
  | item :: next :: items, column, legible => by
      rw [areLegible, Bool.and_eq_true] at legible
      have first := afterHyphen_outline item column legible.1
      have others := itemLines_outlines (next :: items) column legible.2
      simp only [outlines, Outline.itemLines, writeItems, first] at others ⊢
      rw [others]

theorem fieldLines_fieldOutlines : ∀ (fields : List (String × Value)) (column : Nat),
    fieldsLegible fields = true →
    Outline.fieldLines column (fieldOutlines fields) = writeFields column fields
  | [], _, _ => rfl
  | [(key, value)], column, legible => by
      rw [fieldsLegible, Bool.and_eq_true, Bool.and_eq_true] at legible
      have name := writeText_key legible.1.1 (column + 2)
      have first := afterKey_outline value column legible.1.2
      simp only [fieldOutlines, Outline.fieldLines, writeFields, name, first]
  | (key, value) :: (next, other) :: fields, column, legible => by
      rw [fieldsLegible, Bool.and_eq_true, Bool.and_eq_true] at legible
      have name := writeText_key legible.1.1 (column + 2)
      have first := afterKey_outline value column legible.1.2
      have others := fieldLines_fieldOutlines ((next, other) :: fields) column legible.2
      simp only [fieldOutlines, Outline.fieldLines, writeFields, name, first] at others ⊢
      rw [others]

end

/-! ## Nodes -/

/-- Does a node say a value?  It is written as the value is, and has no
properties. -/
def Says (value : Value) (node : Node) : Prop := (outline value).Says node

/-- `Says` of all items. -/
def SayItems (items : List Value) (nodes : List Node) : Prop :=
  Outline.SayItems (outlines items) nodes

/-- `Says` of all members, with their keys. -/
def SayFields (fields : List (String × Value)) (pairs : List (Node × Node)) : Prop :=
  Outline.SayFields (fieldOutlines fields) pairs

/-- The document of an object with legible members has a node that says the
object, and is the only one of its text. -/
theorem documents_write (field : String × Value) (fields : List (String × Value))
    (legible : fieldsLegible (field :: fields) = true) :
    ∃ root : Node, Says (.obj (field :: fields)) root
      ∧ documents (write (.obj (field :: fields))) = ([⟨some root⟩], none) := by
  have written : (write (.obj (field :: fields))).toList =
      Outline.fieldLines 0 (fieldOutlines (field :: fields)) ++ Outline.laterLines [] := by
    rw [fieldLines_fieldOutlines (field :: fields) 0 legible, Outline.laterLines, List.append_nil]
    exact String.toList_ofList
  have first : Outline.isDocument (fieldOutlines (field :: fields)) = true := by
    rw [Outline.isDocument, fieldsLegible_fieldOutlines (field :: fields) legible]
    rfl
  obtain ⟨roots, said, read⟩ := documents_stream written first (by simp)
  cases said with
  | cons first later =>
      cases later
      exact ⟨_, first, read⟩

end PoolOperator.Yaml
