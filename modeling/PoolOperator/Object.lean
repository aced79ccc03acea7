import PoolOperator.Object.Metadata
import PoolOperator.Text.Split
import PoolOperator.Value.Path
import PoolOperator.Value.Reading

/-!
# Cluster objects

An object has a type, unless that is unknown, metadata, and a body, which is
everything else and is kept as it is.  `Object.toValue` and `Object.ofValue`
go from objects to values and back.  The body of an object that was read is an
object itself.  An object that was made in another way may have any body, and if
that has no members to be written, the object has no value, and cannot be
compared with another one (`Object.same`).

An object is addressed by its type, namespace and name (`Object.key`).
-/

namespace PoolOperator

/-- The type of an object. -/
structure ObjectType where
  /-- The group and the version of the interface, with a slash between them;
  the version alone for the core group. -/
  apiVersion : String
  /-- The kind. -/
  kind : String
  deriving DecidableEq, Repr, Inhabited

/-- The group that an interface version belongs to, empty for the core group. -/
def apiGroup (apiVersion : String) : String :=
  match Text.cutAtSlash? apiVersion with
  | some (group, _) => group
  | none => ""

/-- A kind of a group, whatever the version. -/
structure GroupKind where
  /-- The group. -/
  group : String
  /-- The kind. -/
  kind : String
  deriving DecidableEq, Repr, Inhabited

/-- A cluster object. -/
structure Object where
  /-- The type. -/
  type? : Option ObjectType
  /-- The metadata. -/
  metadata : Metadata
  /-- What holds all other members. -/
  body : Value
  deriving Repr, Inhabited

/-- What an object is stored under.  An absent part counts as empty. -/
structure ObjectKey where
  /-- The interface version. -/
  apiVersion : String
  /-- The kind. -/
  kind : String
  /-- The namespace. -/
  namespaceName : String
  /-- The name. -/
  name : String
  deriving DecidableEq, Repr, Inhabited

/-- The error text of a value that is none of those that have members. -/
def Value.memberless (found : String) : String :=
  s!"can only flatten structs and maps (got {found})"

/-- The members that a value adds to the object that it is written into.  There
are none in null, and any other value that is not an object is refused. -/
def Value.flattened : Value → Except String (Fields Value)
  | .null => .ok []
  | .obj fields => .ok fields
  | .bool _ => .error (memberless "a boolean")
  | .int _ => .error (memberless "an integer")
  | .float _ => .error (memberless "a float")
  | .str _ => .error (memberless "a string")
  | .arr _ => .error (memberless "a sequence")

namespace Object

/-- The group and the kind, both empty if the type is unknown. -/
def groupKind (object : Object) : GroupKind :=
  match object.type? with
  | some type => ⟨apiGroup type.apiVersion, type.kind⟩
  | none => ⟨"", ""⟩

/-- The name with the namespace before it, for messages. -/
def displayName (object : Object) : String :=
  let name := object.metadata.name.getD "<unnamed>"
  match object.metadata.namespaceName with
  | some space => space ++ "/" ++ name
  | none => name

/-- What the object is stored under. -/
def key (object : Object) : ObjectKey where
  apiVersion := (object.type?.map ObjectType.apiVersion).getD ""
  kind := (object.type?.map ObjectType.kind).getD ""
  namespaceName := object.metadata.namespaceName.getD ""
  name := object.metadata.name.getD ""

/-- The name, unless it is missing or empty. -/
def name? (object : Object) : Option String := object.metadata.name.filter (· ≠ "")

/-- The members of an object that do not come from its body. -/
def front (object : Object) : List (String × Value) :=
  (match object.type? with
    | some type => [("apiVersion", .str type.apiVersion), ("kind", .str type.kind)]
    | none => []) ++ [("metadata", object.metadata.toValue)]

/-- The value of an object whose body has some members. -/
def valueWith (object : Object) (members : Fields Value) : Value :=
  .obj (Fields.ofList (object.front ++ members))

/-- The value of an object, or the reason why it has none. -/
def toValue (object : Object) : Except String Value := object.body.flattened.map object.valueWith

/-- Do two objects have the same value?  Both have to have one. -/
def same (one other : Object) : Except String Bool := do
  return (← one.toValue).same (← other.toValue)

/-- The object with a value written into its body. -/
def setBody (object : Object) (path : Path) (value : Value) : Except AccessError Object :=
  (object.body.set path value).map fun body => { object with body }

/-- Takes the type out of the members of an object.  The members are looked at
in order.  The first one that should be a text and is none, or that comes a
second time, ends the search, and then the type is unknown.  A member of the
type that was looked at is gone in any case. -/
def takeType (apiVersion kind : Option String) :
    List (String × Value) → Option ObjectType × List (String × Value)
  | [] => ((apiVersion.bind fun apiVersion => kind.map (⟨apiVersion, ·⟩)), [])
  | (key, value) :: rest =>
      if key = "apiVersion" then
        match apiVersion, value with
        | none, .str text => takeType (some text) kind rest
        | _, _ => (none, rest)
      else if key = "kind" then
        match kind, value with
        | none, .str text => takeType apiVersion (some text) rest
        | _, _ => (none, rest)
      else
        let (type?, others) := takeType apiVersion kind rest
        (type?, (key, value) :: others)

/-- The object that a value stands for. -/
def ofValue (value : Value) : Except ReadError Object :=
  match value with
  | .obj members => do
      let isMetadata (member : String × Value) : Bool := member.1 = "metadata"
      let metadata ← (members.filter isMetadata).mapM fun member => Metadata.read member.2
      if metadata.length > 1 then throw (.duplicateField "metadata")
      let (type?, body) := takeType none none (members.filter fun member => !isMetadata member)
      return {
        type?
        metadata := metadata.head?.getD .empty
        body := .obj (Fields.ofList (Value.canonicalFields body)) }
  | other => other.mismatch "struct DynamicObject"

end Object

end PoolOperator
