import PoolOperator.Value

/-!
# Paths into values

A path is a list of keys, read from the outside in.  Reading along a path
treats a missing member and `null` alike, as absent, and refuses to enter any
other value that is not an object.  Writing is done in place and creates the
objects on the way.  It fails under exactly the same condition: the whole way
is probed before anything is written.
-/

namespace PoolOperator

/-- Why a value cannot be read or written along a path. -/
inductive AccessError where
  /-- The value at the path has another type than expected. -/
  | fieldType (path expected found : String)
  /-- A value on the way is not an object.  `segment` is the path to it. -/
  | notAnObject (path segment found : String)
  /-- There is nothing to write to. -/
  | emptyPath
  deriving DecidableEq, Repr, Inhabited

namespace AccessError

/-- The text of an access error. -/
def message : AccessError → String
  | .fieldType path expected found => s!"field {path} is of type {found}, expected {expected}"
  | .notAnObject path segment found =>
      s!"cannot access {path}: {segment} is of type {found}, expected object"
  | .emptyPath => "empty field path"

end AccessError

/-- Keys from the outside in. -/
abbrev Path := List String

namespace Path

/-- The text of a path. -/
def text (path : Path) : String := ".".intercalate path

end Path

namespace Value

/-- Follows the keys `rest` of `path`, after the keys `passed`. -/
def descend (path : Path) : Path → Path → Value → Except AccessError (Option Value)
  | _, _, .null => .ok none
  | _, [], value => .ok (some value)
  | passed, key :: rest, .obj fields =>
      match Fields.find? fields key with
      | none => .ok none
      | some value => descend path (passed ++ [key]) rest value
  | passed, _ :: _, value => .error (.notAnObject path.text (Path.text passed) value.typeName)

/-- The value at a path, unless it is absent. -/
def get? (value : Value) (path : Path) : Except AccessError (Option Value) :=
  descend path [] path value

/-- The text at a path. -/
def string? (value : Value) (path : Path) : Except AccessError (Option String) := do
  match ← value.get? path with
  | none => return none
  | some (.str text) => return some text
  | some other => throw (.fieldType path.text "string" other.typeName)

/-- The list at a path. -/
def list? (value : Value) (path : Path) : Except AccessError (Option (List Value)) := do
  match ← value.get? path with
  | none => return none
  | some (.arr items) => return some items
  | some other => throw (.fieldType path.text "array" other.typeName)

/-- An item of the list at a path, as a text. -/
def itemText (path : Path) : Value → Except AccessError String
  | .str text => .ok text
  | other => .error (.fieldType (path.text ++ "[]") "string" other.typeName)

/-- The list of texts at a path. -/
def strings? (value : Value) (path : Path) : Except AccessError (Option (List String)) := do
  match ← value.list? path with
  | none => return none
  | some items => return some (← items.mapM (itemText path))

/-- The members that a value is entered by: those of an object, and none for
null, which an object takes the place of. -/
def members? : Value → Option (Fields Value)
  | .obj fields => some fields
  | .null => some []
  | _ => none

/-- Looks along the keys `rest` of `path`, after the keys `passed`, whether
everything up to their end can be entered.  Nothing is in the way where
something is missing. -/
def probe (path : Path) : Path → Path → Value → Except AccessError Unit
  | _, _, .null => .ok ()
  | _, [], .obj _ => .ok ()
  | passed, key :: rest, .obj fields =>
      probe path (passed ++ [key]) rest ((Fields.find? fields key).getD .null)
  | passed, _, value => .error (.notAnObject path.text (Path.text passed) value.typeName)

/-- Writes `new` in place, under the key `last` of the object that the keys of
a path lead to.  What the value is afterwards comes with the outcome, because
the objects on the way are there also if the writing stops. -/
def writeIn (path : Path) (last : String) (new : Value) :
    Path → Value → Except AccessError Unit × Value
  | [], value =>
      match value.members? with
      | some fields => (.ok (), .obj (fields.put last new))
      | none => (.ok (), value)
  | key :: rest, value =>
      match value.members? with
      | some fields =>
          let (outcome, inner) := writeIn path last new rest ((fields.find? key).getD .null)
          (outcome, .obj (fields.put key inner))
      | none => (.error (.notAnObject path.text key value.typeName), value)

/-- Writes a value at a path in place, with the objects on the way.  The whole
way is probed first. -/
def assign (value : Value) (path : Path) (new : Value) : Except AccessError Unit × Value :=
  match path.getLast? with
  | none => (.error .emptyPath, value)
  | some last =>
      match probe path [] path.dropLast value with
      | .error error => (.error error, value)
      | .ok () => writeIn path last new path.dropLast value

/-- The value with another one written at a path. -/
def set (value : Value) (path : Path) (new : Value) : Except AccessError Value :=
  let (outcome, after) := value.assign path new
  outcome.map fun () => after

end Value

end PoolOperator
