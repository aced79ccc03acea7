import PoolOperator.Reading
import PoolOperator.Text.Quoted

/-!
# Reading records from values
-/

namespace PoolOperator

namespace Value

/-- How an error text names a value. -/
def describe : Value → String
  | .null => "null"
  | .bool value => s!"boolean `{value}`"
  | .int number => s!"integer `{number}`"
  | .float number => s!"floating point `{number.compactText}`"
  | .str text => "string " ++ Text.quoted text
  | .arr _ => "sequence"
  | .obj _ => "map"

/-- A value of another type than expected. -/
def mismatch {α : Type} (value : Value) (expected : String) : Except ReadError α :=
  .error (.invalidType value.describe expected)

/-- A whole number of sixty-four bits with a sign. -/
def readWholeNumber : Value → Except ReadError Int
  | .int number =>
      if number < Nat.pow 2 63 then .ok number
      else .error (.invalidValue (Value.int number).describe "i64")
  | other => other.mismatch "i64"

/-- A name out of some known ones: a text, or an object with the name as its
only key and null as its value. -/
def readVariant (known : List String) : Value → Except ReadError String
  | .str name =>
      if name ∈ known then .ok name else .error (.unknownVariant name known)
  | .obj [(name, inner)] =>
      if name ∉ known then .error (.unknownVariant name known)
      else if inner.isNull then .ok name
      else inner.mismatch "unit"
  | .obj _ => .error (.invalidValue "map" "map with a single key")
  | other => other.mismatch "string or map"

instance : Source Value (Except ReadError) where
  refuse _ error := .error error
  text expected
    | .str text => .ok text
    | other => other.mismatch expected
  flag
    | .bool value => .ok value
    | other => other.mismatch "a boolean"
  wholeNumber := readWholeNumber
  nullable value := .ok (if value.isNull then none else some value)
  items
    | .arr items => .ok items
    | other => other.mismatch "a sequence"
  members expected
    | .obj fields => .ok fields
    | other => other.mismatch expected
  record expected
    | .arr items => .ok (.listed items)
    | .obj fields => .ok (.named fields)
    | other => other.mismatch expected
  variant _ known := readVariant known
  value value := .ok value.canonical

end Value

end PoolOperator
