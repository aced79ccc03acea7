import PoolOperator.Cluster.Collection

/-!
# Where objects stand

The kinds of a group are listed under the two parts of the interface version, which ends
its first part at the first slash (`splitsAt_groupAndVersion`).  The first part is also the
group that objects are merged by (`Object.groupKind_of_type?`).

A list of kinds tells what the collection of an object is called and whether it stands in
a namespace (`standsIn_of_collection?`).  If the list is of the group and the version that
it was asked for, the collection is too, and its address goes on from that of the list.
-/

namespace PoolOperator

/-! ## Groups and versions -/

/-- The parts of an interface version: what stands before and after its first slash, or
nothing and all of it if there is none. -/
def SplitsAt (apiVersion group version : String) : Prop :=
  apiVersion.toList = group.toList ++ '/' :: version.toList ∧ '/' ∉ group.toList
    ∨ '/' ∉ apiVersion.toList ∧ group = "" ∧ version = apiVersion

namespace Text

/-- The part before a separator is free of separators. -/
theorem not_stop_of_splitOnce? {α : Type} {stop : α → Bool} {items before after : List α}
    (found : splitOnce? stop items = some (before, after)) :
    ∀ item ∈ before, stop item = false := by
  induction items generalizing before with
  | nil => cases found
  | cons item rest induction =>
      rw [splitOnce?] at found
      split at found
      next stops =>
        cases found
        exact fun item member => absurd member List.not_mem_nil
      next goesOn =>
        obtain ⟨⟨front, back⟩, cut, equal⟩ := Option.map_eq_some_iff.mp found
        cases equal
        exact List.forall_mem_cons.mpr ⟨Bool.eq_false_iff.mpr goesOn, induction cut⟩

theorem not_stop_of_splitOnce?_eq_none {α : Type} {stop : α → Bool} {items : List α}
    (missing : splitOnce? stop items = none) : ∀ item ∈ items, stop item = false := by
  induction items with
  | nil => exact fun item member => absurd member List.not_mem_nil
  | cons item rest induction =>
      rw [splitOnce?] at missing
      split at missing
      next stops => cases missing
      next goesOn =>
        exact List.forall_mem_cons.mpr
          ⟨Bool.eq_false_iff.mpr goesOn, induction (Option.map_eq_none_iff.mp missing)⟩

theorem splitsAt_of_cutAtSlash? {text front back : String}
    (cut : cutAtSlash? text = some (front, back)) :
    text.toList = front.toList ++ '/' :: back.toList ∧ '/' ∉ front.toList := by
  obtain ⟨⟨before, after⟩, found, equal⟩ := Option.map_eq_some_iff.mp cut
  cases equal
  obtain ⟨separator, stops, whole⟩ := append_of_splitOnce? found
  obtain rfl : separator = '/' := by simpa using stops
  rw [String.toList_ofList, String.toList_ofList]
  exact ⟨whole, fun member => by simpa using not_stop_of_splitOnce? found '/' member⟩

theorem no_slash_of_cutAtSlash? {text : String} (missing : cutAtSlash? text = none) :
    '/' ∉ text.toList := by
  intro member
  simpa using not_stop_of_splitOnce?_eq_none (Option.map_eq_none_iff.mp missing) '/' member

end Text

theorem splitsAt_groupAndVersion (apiVersion : String) :
    SplitsAt apiVersion (groupAndVersion apiVersion).1 (groupAndVersion apiVersion).2 := by
  rw [groupAndVersion]
  cases cut : Text.cutAtSlash? apiVersion with
  | some parts => exact .inl (Text.splitsAt_of_cutAtSlash? cut)
  | none => exact .inr ⟨Text.no_slash_of_cutAtSlash? cut, rfl, rfl⟩

namespace ObjectType

variable (type : ObjectType)

/-- The group in whose list the kind is looked up. -/
def group : String := (groupAndVersion type.apiVersion).1

/-- The version in whose list the kind is looked up. -/
def version : String := (groupAndVersion type.apiVersion).2

theorem apiGroup_apiVersion : apiGroup type.apiVersion = type.group := by
  rw [apiGroup, group, groupAndVersion]
  cases Text.cutAtSlash? type.apiVersion <;> rfl

end ObjectType

/-- The kind of an object is looked up in the group that the object is merged by. -/
theorem Object.groupKind_of_type? {object : Object} {type : ObjectType}
    (typed : object.type? = some type) :
    object.groupKind = ⟨type.group, type.kind⟩ := by
  rw [Object.groupKind, typed, ← type.apiGroup_apiVersion]

/-! ## Lists of kinds -/

namespace KindList

/-- Is a list of the group and the version that were asked for?  An entry that tells no
group is of the group of the list. -/
structure IsOf (kinds : KindList) (type : ObjectType) : Prop where
  list : groupAndVersion kinds.groupVersion = (type.group, type.version)
  entries : ∀ entry ∈ kinds.entries, entry.kind = type.kind → '/' ∉ entry.name.toList →
    entry.group = none ∨ entry.group = some type.group

theorem parts_eq (kinds : KindList) {group version : String}
    (split : groupAndVersion kinds.groupVersion = (group, version)) :
    kinds.parts = (group, if group = "" then version else group ++ "/" ++ version) := by
  rw [groupAndVersion] at split
  rw [parts]
  cases cut : Text.cutAtSlash? kinds.groupVersion with
  | none =>
      rw [cut] at split
      cases split
      rfl
  | some both =>
      rw [cut] at split
      cases split
      by_cases core : group = ""
      · subst core
        rfl
      · rw [if_neg core]
        split
        next same => cases same; exact absurd rfl core
        next same => cases same; rfl
        next same => cases same

end KindList

/-- The part of an address that tells the namespace. -/
def spacePart : Option String → String
  | some space => "namespaces/" ++ space ++ "/"
  | none => ""

/-- Which collection an object of a type stands in, as a list of kinds tells. -/
structure StandsIn (defaultSpace : String) (object : Object) (type : ObjectType) (kinds : KindList)
    (collection : Collection) : Prop where
  /-- It is called what the list calls objects of the kind, and not what it calls a part of them. -/
  name : ∃ entry ∈ kinds.entries, entry.kind = type.kind ∧ '/' ∉ entry.name.toList
    ∧ collection.name = entry.name
  /-- It stands in no namespace if its objects do not, whatever the object tells. -/
  clusterWide : kinds.isNamespaced collection.name = false → collection.space = none
  /-- Otherwise it stands in the namespace of the object, or in the default one. -/
  namespaced : kinds.isNamespaced collection.name = true →
    collection.space = some (object.metadata.namespaceName.getD defaultSpace)
  /-- It is of the group that was asked for, if the list is. -/
  group : kinds.IsOf type → collection.group = type.group
  /-- It is of the version that was asked for, and stands below the list. -/
  address : kinds.IsOf type →
    collection.address =
      kindListAddress type.group type.version ++ "/" ++ spacePart collection.space ++
      collection.name

theorem Collection.address_eq (collection : Collection) {group version : String}
    (sameGroup : collection.group = group)
    (same : collection.apiVersion = if group = "" then version else group ++ "/" ++ version) :
    collection.address = kindListAddress group version ++ "/" ++ spacePart collection.space ++
    collection.name := by
  rw [Collection.address, kindListAddress, sameGroup, same]
  cases collection.space <;> by_cases core : group = "" <;>
    simp [spacePart, core, String.append_assoc]

theorem standsIn_of_collection? {defaultSpace : String} {object : Object} {type : ObjectType}
    {kinds : KindList} {collection : Collection}
    (found : kinds.collection? type.kind (object.metadata.namespaceName.getD defaultSpace) =
      some collection) :
    StandsIn defaultSpace object type kinds collection := by
  obtain ⟨entry, first, rfl⟩ := Option.map_eq_some_iff.mp found
  have member : entry ∈ kinds.entries := List.mem_of_find?_eq_some first
  obtain ⟨sameKind, whole⟩ : entry.kind = type.kind ∧ '/' ∉ entry.name.toList := by
    simpa using List.find?_some first
  have group : kinds.IsOf type → entry.group.getD kinds.parts.1 = type.group := by
    intro isOf
    rw [kinds.parts_eq isOf.list]
    rcases isOf.entries entry member sameKind whole with none | some
    · rw [none]
      rfl
    · rw [some]
      rfl
  refine ⟨⟨entry, member, sameKind, whole, rfl⟩, fun wide => ?_, fun inSpace => ?_, group,
    fun isOf => ?_⟩
  · exact if_neg (by simp [wide])
  · exact if_pos inSpace
  · exact Collection.address_eq _ (group isOf) (congrArg Prod.snd (kinds.parts_eq isOf.list))

/-- The Deployments of a namespace stand below the list of their group and version. -/
example :
    let kinds : KindList := ⟨"apps/v1", [⟨"deployments", "Deployment", true, none⟩]⟩
    kinds.IsOf ⟨"apps/v1", "Deployment"⟩
      ∧ (kinds.collection? "Deployment" "here").map Collection.address =
        some "/apis/apps/v1/namespaces/here/deployments" :=
  ⟨⟨by decide, by decide⟩, by decide⟩

end PoolOperator
