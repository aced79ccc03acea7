import PoolOperator.Cluster.Request
import PoolOperator.Object

/-!
# Collections

The objects of one kind stand in collections, one for each namespace, or one
for the whole cluster.  The cluster tells what its collections are called: it
lists the kinds of a group (`KindList`).  `Object.collection` finds out which
collection an object belongs to.
-/

namespace PoolOperator

/-- What the cluster tells about a kind. -/
structure KindEntry where
  /-- What the collections of the kind are called. -/
  name : String
  /-- The kind. -/
  kind : String
  /-- Do its objects stand in namespaces? -/
  namespaced : Bool
  /-- The group of the kind, if it is another one than that of the list. -/
  group : Option String
  deriving DecidableEq, Repr, Inhabited

/-- The kinds of a group in a version. -/
structure KindList where
  /-- The group and the version. -/
  groupVersion : String
  /-- The kinds. -/
  entries : List KindEntry
  deriving DecidableEq, Repr, Inhabited

/-- A collection of objects. -/
structure Collection where
  /-- The group of the objects, empty for the core group. -/
  group : String
  /-- The interface version. -/
  apiVersion : String
  /-- The namespace, unless the objects belong to the whole cluster. -/
  space : Option String
  /-- What the collection is called. -/
  name : String
  deriving DecidableEq, Repr, Inhabited

namespace Collection

/-- The address of a collection. -/
def address (collection : Collection) : String :=
  let root := if collection.group = "" then "/api/" else "/apis/"
  let space := match collection.space with
    | some space => "namespaces/" ++ space ++ "/"
    | none => ""
  root ++ collection.apiVersion ++ "/" ++ space ++ collection.name

end Collection

/-! ## Lists of kinds -/

/-- Refuses a member that is not a certain text. -/
def Reading.constant (members : List (String × Value)) (name text : String) :
    Except ReadError Unit :=
  members.forM fun member =>
    if member.1 = name then do
      let found ← Reading.text member.2
      if found ≠ text then throw (.invalidValue (Value.str found).describe text)
    else pure ()

/-- Reads what the cluster tells about a kind. -/
def KindEntry.read (value : Value) : Except ReadError KindEntry := do
  let members ← Source.members "APIResource" value
  let text? := Reading.member? members Reading.text
  let texts? := Reading.member? members Reading.texts
  let _ ← texts? "categories"
  let _ ← texts? "shortNames"
  let _ ← texts? "verbs"
  let _ ← text? "singularName"
  let _ ← text? "storageVersionHash"
  let _ ← text? "version"
  return {
    name := (← text? "name").getD ""
    kind := (← text? "kind").getD ""
    namespaced := (← Reading.member? members Source.flag "namespaced").getD false
    group := ← text? "group" }

namespace KindList

/-- Reads a list of kinds. -/
def read (value : Value) : Except ReadError KindList := do
  let members ← Source.members "APIResourceList" value
  Reading.constant members "apiVersion" "v1"
  Reading.constant members "kind" "APIResourceList"
  return {
    groupVersion := (← Reading.member? members Reading.text "groupVersion").getD ""
    entries := (← Reading.member? members (Reading.list KindEntry.read) "resources").getD [] }

/-- The first entry of a kind.  What has a slash in its name is a part of the
objects of a kind. -/
def find? (list : KindList) (kind : String) : Option KindEntry :=
  list.entries.find? fun entry => entry.kind = kind && !entry.name.toList.contains '/'

/-- Do the objects of a collection stand in namespaces?  The first entry with
the name of the collection tells. -/
def isNamespaced (list : KindList) (name : String) : Bool :=
  ((list.entries.find? fun entry => entry.name = name).map KindEntry.namespaced).getD false

/-- The group and the version of a list, and both together. -/
def parts (list : KindList) : String × String :=
  match Text.cutAtSlash? list.groupVersion with
  | some ("", version) => ("", version)
  | some (group, version) => (group, group ++ "/" ++ version)
  | none => ("", list.groupVersion)

/-- The collection of a kind.  `space` is the namespace for a kind whose
objects stand in namespaces. -/
def collection? (list : KindList) (kind space : String) : Option Collection :=
  (list.find? kind).map fun entry => {
    group := entry.group.getD list.parts.1
    apiVersion := list.parts.2
    space := if list.isNamespaced entry.name then some space else none
    name := entry.name }

end KindList

/-! ## Finding collections -/

/-- The group and the version of an interface version. -/
def groupAndVersion (apiVersion : String) : String × String :=
  (Text.cutAtSlash? apiVersion).getD ("", apiVersion)

/-- Where the kinds of a group are listed. -/
def kindListAddress (group version : String) : String :=
  if group = "" then "/api/" ++ version else "/apis/" ++ group ++ "/" ++ version

/-- Asks for the kinds of a group. -/
def fetchKinds (group version : String) : ClusterCall KindList := do
  match Address.ofText (kindListAddress group version) with
  | .error reason => throw (.unaddressable reason)
  | .ok address => ClusterCall.send ⟨.get, address, none⟩ KindList.read

/-- The collection that objects of a type belong to. -/
def ObjectType.collection (type : ObjectType) (space : String) : ClusterCall Collection := do
  let (group, version) := groupAndVersion type.apiVersion
  let kinds ← fetchKinds group version
  match kinds.collection? type.kind space with
  | some collection => return collection
  | none => throw (.missingKind group version type.kind)

end PoolOperator
