import PoolOperator.Value

/-!
# Schemas

A schema tells which values a resource may have.  `Schema.members` writes it
down the way that the cluster wants it.
-/

namespace PoolOperator

/-- A set of values. -/
inductive Schema where
  /-- Texts. -/
  | text
  /-- Truth values. -/
  | flag
  /-- Whole numbers of sixty-four bits. -/
  | wholeNumber
  /-- Some texts. -/
  | choice (texts : List String)
  /-- Lists of values. -/
  | list (item : Schema)
  /-- Objects with some fields.  The flag says whether a field has to be
  there. -/
  | record (fields : List (String × Bool × Schema))
  /-- The values of a schema, and what they mean. -/
  | described (meaning : String) (schema : Schema)
  /-- The values of a schema, under a title. -/
  | titled (title : String) (schema : Schema)
  /-- The values of a schema, and null. -/
  | nullable (schema : Schema)
  /-- The lists of a schema.  Without a value, the list is empty. -/
  | emptyByDefault (schema : Schema)
  deriving Inhabited, Repr

namespace Schema

/-- The names of the fields that have to be there. -/
def requiredNames (fields : List (String × Bool × Schema)) : List String :=
  (fields.filter fun field => field.2.1).map Prod.fst

/-- The present ones of some lists, as members. -/
def nonEmpty (name : String) (isEmpty : Bool) (value : Value) : List (String × Value) :=
  if isEmpty then [] else [(name, value)]

mutual

/-- The members that describe a schema. -/
def members : Schema → Fields Value
  | .text => [("type", .str "string")]
  | .flag => [("type", .str "boolean")]
  | .wholeNumber => [("format", .str "int64"), ("type", .str "integer")]
  | .choice texts => [("enum", .strings texts), ("type", .str "string")]
  | .list item => [("items", .obj (members item)), ("type", .str "array")]
  | .record fields =>
      nonEmpty "properties" fields.isEmpty (.obj (Fields.ofList (properties fields)))
        ++ nonEmpty "required" (requiredNames fields).isEmpty (.strings (requiredNames fields))
        ++ [("type", .str "object")]
  | .described meaning schema => (members schema).put "description" (.str meaning)
  | .titled title schema => (members schema).put "title" (.str title)
  | .nullable schema => (members schema).put "nullable" (.bool true)
  | .emptyByDefault schema => (members schema).put "default" (.arr [])

/-- The descriptions of some fields, under their names. -/
def properties : List (String × Bool × Schema) → List (String × Value)
  | [] => []
  | (name, _, schema) :: fields => (name, .obj (members schema)) :: properties fields

end

end Schema

end PoolOperator
