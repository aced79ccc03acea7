import PoolOperator.Store

/-!
# A store in memory

A store that keeps its objects in a list.  Like a cluster, it gives every new
object an identity, and every written object a version.  Both are numbered by
the writes.  Each object is kept under its own key, in the order of the keys.
-/

namespace PoolOperator

/-- The parts of a key, in the order in which keys are compared. -/
def ObjectKey.parts (key : ObjectKey) : List String :=
  [key.apiVersion, key.kind, key.namespaceName, key.name]

/-- A store in memory. -/
structure MemoryStore where
  /-- The objects, in the order of their keys. -/
  objects : List Object := []
  /-- The number of writes that gave a version. -/
  versions : Nat := 0
  /-- The number of replacements. -/
  replacements : Nat := 0
  deriving Repr, Inhabited

namespace MemoryStore

/-- A store without objects. -/
def empty : MemoryStore := {}

/-- The object under a key. -/
def find? (store : MemoryStore) (key : ObjectKey) : Option Object :=
  store.objects.find? fun object => object.key = key

/-- Puts an object in its place in a list. -/
def place (object : Object) : List Object → List Object
  | [] => [object]
  | first :: rest =>
      if first.key = object.key then object :: rest
      else if object.key.parts < first.key.parts then object :: first :: rest
      else first :: place object rest

/-- Stores an object as it is, as if somebody else had written it. -/
def insert (store : MemoryStore) (object : Object) : MemoryStore :=
  { store with objects := place object store.objects }

/-- The objects of a kind, in the order of their keys. -/
def ofKind (store : MemoryStore) (kind : String) : List Object :=
  store.objects.filter fun object => object.key.kind = kind

/-- A new object as it is stored under a version. -/
def created (object : Object) (version : Nat) : Object :=
  { object with
    metadata := { object.metadata with
      uid := some s!"uid-{version}"
      resourceVersion := some (toString version)
      generation := some 1 } }

/-- A changed object as it is stored under a version.  Generations have sixty-four
bits with a sign, and it is assumed that none of them gets to the greatest one. -/
def replaced (object : Object) (version : Nat) : Object :=
  { object with
    metadata := { object.metadata with
      resourceVersion := some (toString version)
      generation := some (object.metadata.generation.getD 0 + 1) } }

/-- Creates an object. -/
def create (store : MemoryStore) (object : Object) : Object × MemoryStore :=
  let version := store.versions + 1
  let stored := created object version
  (stored, { store with versions := version }.insert stored)

/-- Puts an object in place of the live one. -/
def replace (store : MemoryStore) (object : Object) : Object × MemoryStore :=
  let version := store.versions + 1
  let stored := replaced object version
  (stored, { store with versions := version, replacements := store.replacements + 1 }.insert stored)

/-- Answers a call.  No call fails. -/
def answer : (call : StoreCall) → StateM MemoryStore call.Answer
  | .get object => fun store => (.ok (store.find? object.key), store)
  | .create object => fun store => ((store.create object).map .ok id)
  | .replace object => fun store => ((store.replace object).map .ok id)

end MemoryStore

end PoolOperator
