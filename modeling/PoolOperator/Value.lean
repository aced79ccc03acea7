import PoolOperator.Fields
import PoolOperator.Number.Shortest

/-!
# Values

The values of JSON, which is what cluster objects are made of.  A whole number
and a double are different numbers, also when they are equal as reals.  An
object keeps its members in the order of their keys; `canonical` brings the
members of a text, which come in any order, into that form.

`same` is the comparison that decides whether an object changed.  It is
equality but for the sign of a zero (`same_refl`).
-/

namespace PoolOperator

/-- A JSON value. -/
inductive Value where
  /-- The absent value. -/
  | null
  /-- A truth value. -/
  | bool (value : Bool)
  /-- A whole number. -/
  | int (value : Int)
  /-- A number written with a point or an exponent. -/
  | float (value : Binary64)
  /-- A text. -/
  | str (text : String)
  /-- A list. -/
  | arr (items : List Value)
  /-- An object. -/
  | obj (fields : List (String × Value))
  deriving Inhabited, Repr

namespace Value

/-- The least whole number that is not read as a double. -/
def leastInt : Int := -(Nat.pow 2 63)

/-- The greatest whole number that is not read as a double. -/
def greatestInt : Int := Nat.pow 2 64 - 1

/-- The name of the type of a value, as error texts have it. -/
def typeName : Value → String
  | .null => "null"
  | .bool _ => "bool"
  | .int _ => "number"
  | .float _ => "number"
  | .str _ => "string"
  | .arr _ => "array"
  | .obj _ => "object"

/-- Is the value `null`? -/
def isNull : Value → Bool
  | .null => true
  | _ => false

/-- A list of texts. -/
def strings (texts : List String) : Value := .arr (texts.map .str)

/-- A map from texts to texts. -/
def stringMap (entries : Fields String) : Value := .obj (entries.mapValues .str)

/-- The object with the present ones of some members. -/
def ofMembers (members : List (String × Option Value)) : Value :=
  .obj (Fields.ofList (members.filterMap fun member => member.2.map (member.1, ·)))

/-- The members of an object; nothing for any other value. -/
def fields : Value → Fields Value
  | .obj fields => fields
  | _ => []

mutual

/-- Equality up to the sign of a zero. -/
def same : Value → Value → Bool
  | .null, .null => true
  | .bool one, .bool other => one = other
  | .int one, .int other => one = other
  | .float one, .float other => one.same other
  | .str one, .str other => one = other
  | .arr one, .arr other => sameItems one other
  | .obj one, .obj other => sameFields one other
  | _, _ => false

/-- `same` on the items of two lists. -/
def sameItems : List Value → List Value → Bool
  | [], [] => true
  | one :: ones, other :: others => same one other && sameItems ones others
  | _, _ => false

/-- `same` on the members of two objects. -/
def sameFields : List (String × Value) → List (String × Value) → Bool
  | [], [] => true
  | (key, one) :: ones, (key', other) :: others =>
      key = key' && same one other && sameFields ones others
  | _, _ => false

end

mutual

/-- The form with the members of every object in order, the last one of a
repeated key. -/
def canonical : Value → Value
  | .arr items => .arr (canonicalItems items)
  | .obj fields => .obj (Fields.ofList (canonicalFields fields))
  | value => value

/-- `canonical` on the items of a list. -/
def canonicalItems : List Value → List Value
  | [] => []
  | item :: items => canonical item :: canonicalItems items

/-- `canonical` on the members of an object. -/
def canonicalFields : List (String × Value) → List (String × Value)
  | [] => []
  | (key, value) :: rest => (key, canonical value) :: canonicalFields rest

end

mutual

/-- How deep lists and objects are nested. -/
def nesting : Value → Nat
  | .arr items => nestingItems items + 1
  | .obj fields => nestingFields fields + 1
  | _ => 0

/-- The deepest of some items. -/
def nestingItems : List Value → Nat
  | [] => 0
  | item :: items => max (nesting item) (nestingItems items)

/-- The deepest of some members. -/
def nestingFields : List (String × Value) → Nat
  | [] => 0
  | (_, value) :: rest => max (nesting value) (nestingFields rest)

end

mutual

theorem same_refl : ∀ value : Value, value.same value = true
  | .null => rfl
  | .bool _ => by simp [same]
  | .int _ => by simp [same]
  | .float number => by simp [same, Binary64.same_refl number]
  | .str _ => by simp [same]
  | .arr items => by simp [same, sameItems_refl items]
  | .obj fields => by simp [same, sameFields_refl fields]

theorem sameItems_refl : ∀ items : List Value, sameItems items items = true
  | [] => rfl
  | item :: items => by simp [sameItems, same_refl item, sameItems_refl items]

theorem sameFields_refl : ∀ fields : List (String × Value), sameFields fields fields = true
  | [] => rfl
  | (_, value) :: rest => by simp [sameFields, same_refl value, sameFields_refl rest]

end

end Value

end PoolOperator
