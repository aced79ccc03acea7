import Mathlib.Data.List.Forall2
import Mathlib.Data.List.Lex
import Mathlib.Data.List.Sort
import Mathlib.Data.String.Basic
import PoolOperator.Proofs.Store.Memory

/-!
# The order of a store

The objects of a store in memory stand in the order of their keys, each key once
(`InOrder`), and every write keeps them so (`InOrder.insert`).  Then an object is
in the store exactly if it is found under its key (`InOrder.find?_eq_some_iff`),
and two stores that are alike under every key are alike object by object
(`InOrder.forall₂`).
-/

namespace PoolOperator

theorem ObjectKey.parts_injective {one other : ObjectKey} (same : one.parts = other.parts) :
    one = other := by
  cases one
  cases other
  simpa [ObjectKey.parts] using same

namespace MemoryStore

/-- The objects stand in the order of their keys, and no two under one key. -/
def InOrder (store : MemoryStore) : Prop :=
  store.objects.Pairwise fun one other => one.key.parts < other.key.parts

theorem inOrder_empty : empty.InOrder := List.Pairwise.nil

/-! ## Objects in their places -/

theorem mem_place {stored object : Object} {objects : List Object}
    (there : object ∈ place stored objects) : object = stored ∨ object ∈ objects := by
  induction objects with
  | nil => exact .inl (List.mem_singleton.mp there)
  | cons first rest induction =>
      rw [place] at there
      split at there
      next =>
        rcases List.mem_cons.mp there with same | later
        · exact .inl same
        · exact .inr (List.mem_cons_of_mem _ later)
      next =>
        split at there
        next => exact List.mem_cons.mp there
        next =>
          rcases List.mem_cons.mp there with same | later
          · exact .inr (same ▸ List.mem_cons_self)
          · exact (induction later).imp_right (List.mem_cons_of_mem _)

theorem pairwise_place (stored : Object) {objects : List Object}
    (inOrder : objects.Pairwise fun one other => one.key.parts < other.key.parts) :
    (place stored objects).Pairwise fun one other => one.key.parts < other.key.parts := by
  induction objects with
  | nil => exact List.pairwise_singleton _ _
  | cons first rest induction =>
      obtain ⟨fromFirst, restInOrder⟩ := List.pairwise_cons.mp inOrder
      rw [place]
      split
      next same => exact List.pairwise_cons.mpr ⟨same ▸ fromFirst, restInOrder⟩
      next different =>
        split
        next before =>
          refine List.pairwise_cons.mpr
            ⟨List.forall_mem_cons.mpr ⟨before, fun other there => ?_⟩, inOrder⟩
          exact before.trans (fromFirst other there)
        next notBefore =>
          have after : first.key.parts < stored.key.parts :=
            (lt_or_gt_of_ne (mt ObjectKey.parts_injective different)).resolve_right notBefore
          refine List.pairwise_cons.mpr ⟨fun other there => ?_, induction restInOrder⟩
          rcases mem_place there with rfl | earlier
          · exact after
          · exact fromFirst other earlier

/-- An object under a new key is one more. -/
theorem length_place_of_absent {stored : Object} {objects : List Object}
    (absent : ∀ object ∈ objects, object.key ≠ stored.key) :
    (place stored objects).length = objects.length + 1 := by
  induction objects with
  | nil => rfl
  | cons first rest induction =>
      obtain ⟨different, others⟩ := List.forall_mem_cons.mp absent
      rw [place, if_neg different]
      split
      next => rfl
      next => rw [List.length_cons, List.length_cons, induction others]

/-- An object under an old key takes the place of another one. -/
theorem length_place_of_present {stored : Object} {objects : List Object}
    (inOrder : objects.Pairwise fun one other => one.key.parts < other.key.parts)
    (present : ∃ object ∈ objects, object.key = stored.key) :
    (place stored objects).length = objects.length := by
  induction objects with
  | nil =>
      obtain ⟨object, there, -⟩ := present
      cases there
  | cons first rest induction =>
      obtain ⟨fromFirst, restInOrder⟩ := List.pairwise_cons.mp inOrder
      obtain ⟨object, there, same⟩ := present
      rw [place]
      split
      next => rfl
      next different =>
        have later : object ∈ rest := (List.mem_cons.mp there).resolve_left fun head =>
          different (head ▸ same)
        split
        next before =>
          -- The old object would stand after the first one and before it.
          exact absurd (fromFirst object later) (same ▸ before.not_gt)
        next => rw [List.length_cons, List.length_cons, induction restInOrder ⟨object, later, same⟩]

/-! ## Stores in order -/

variable {store : MemoryStore}

theorem length_insert_of_absent {stored : Object} (absent : store.find? stored.key = none) :
    (store.insert stored).objects.length = store.objects.length + 1 :=
  length_place_of_absent
    fun object there => by simpa using List.find?_eq_none.mp absent object there

namespace InOrder

theorem insert (inOrder : store.InOrder) (object : Object) : (store.insert object).InOrder :=
  pairwise_place object inOrder

theorem create (inOrder : store.InOrder) (object : Object) : (store.create object).2.InOrder :=
  pairwise_place _ inOrder

theorem replace (inOrder : store.InOrder) (object : Object) : (store.replace object).2.InOrder :=
  pairwise_place _ inOrder

theorem nodup (inOrder : store.InOrder) : store.objects.Nodup :=
  List.Pairwise.imp (fun before same => (same ▸ before).false) inOrder

/-- Every object is found under its key. -/
theorem find?_of_mem (inOrder : store.InOrder) {object : Object} (there : object ∈ store.objects) :
    store.find? object.key = some object := by
  rw [InOrder] at inOrder
  rw [find?]
  generalize store.objects = objects at inOrder there
  induction objects with
  | nil => cases there
  | cons first rest induction =>
      obtain ⟨fromFirst, restInOrder⟩ := List.pairwise_cons.mp inOrder
      rcases List.mem_cons.mp there with rfl | later
      · exact List.find?_cons_of_pos (decide_eq_true rfl)
      · have different : first.key ≠ object.key := fun same =>
          (same ▸ fromFirst object later).false
        rw [List.find?_cons_of_neg (by simpa using different)]
        exact induction restInOrder later

theorem find?_eq_some_iff (inOrder : store.InOrder) {key : ObjectKey} {object : Object} :
    store.find? key = some object ↔ object ∈ store.objects ∧ object.key = key := by
  constructor
  · intro there
    exact ⟨List.mem_of_find?_eq_some there, key_of_find? there⟩
  · rintro ⟨there, rfl⟩
    exact inOrder.find?_of_mem there

/-- What is stored once an object was put in is that object, or stood under
another key before. -/
theorem eq_or_mem_of_insert (inOrder : store.InOrder) {stored object : Object}
    (there : object ∈ (store.insert stored).objects) :
    object = stored ∨ object ∈ store.objects ∧ object.key ≠ stored.key := by
  by_cases same : object.key = stored.key
  · have found := (inOrder.insert stored).find?_of_mem there
    rw [same] at found
    exact .inl (Option.some.inj (found.symm.trans (find?_place stored store.objects)))
  · exact .inr ⟨(mem_place there).resolve_left fun head => same (congrArg Object.key head), same⟩

/-- What tells the stored objects apart still does so, if it tells them from the
object that was put in. -/
theorem nodup_map_insert {α : Type} (inOrder : store.InOrder) {part : Object → α}
    (apart : (store.objects.map part).Nodup) {stored : Object}
    (fresh : ∀ object ∈ store.objects, object.key ≠ stored.key → part object ≠ part stored) :
    ((store.insert stored).objects.map part).Nodup := by
  refine List.Nodup.map_on (fun one there other there' same => ?_) (inOrder.insert stored).nodup
  rcases inOrder.eq_or_mem_of_insert there with rfl | ⟨member, different⟩ <;>
    rcases inOrder.eq_or_mem_of_insert there' with rfl | ⟨member', different'⟩
  · rfl
  · exact absurd same.symm (fresh other member' different')
  · exact absurd same (fresh one member different)
  · exact List.inj_on_of_nodup_map apart member member' same

theorem length_insert_of_present (inOrder : store.InOrder) {stored current : Object}
    (present : store.find? stored.key = some current) :
    (store.insert stored).objects.length = store.objects.length :=
  length_place_of_present inOrder ⟨current, inOrder.find?_eq_some_iff.mp present⟩

/-- The keys of a store are those that something is found under. -/
theorem mem_parts_iff (inOrder : store.InOrder) {parts : List String} :
    parts ∈ store.objects.map (fun object => object.key.parts) ↔
      ∃ key : ObjectKey, key.parts = parts ∧ (store.find? key).isSome = true := by
  constructor
  · intro there
    obtain ⟨object, member, rfl⟩ := List.mem_map.mp there
    exact ⟨object.key, rfl, Option.isSome_of_eq_some (inOrder.find?_of_mem member)⟩
  · rintro ⟨key, rfl, found⟩
    obtain ⟨object, there⟩ := Option.isSome_iff_exists.mp found
    obtain ⟨member, rfl⟩ := inOrder.find?_eq_some_iff.mp there
    exact List.mem_map_of_mem member

/-- Two stores that are alike under every key are alike object by object. -/
theorem forall₂ {one other : MemoryStore} (inOrder : one.InOrder) (inOrder' : other.InOrder)
    {Alike : Object → Object → Prop}
    (alike : ∀ key : ObjectKey, Option.Rel Alike (one.find? key) (other.find? key)) :
    List.Forall₂ Alike one.objects other.objects := by
  have sameParts : one.objects.map (fun object => object.key.parts) =
      other.objects.map (fun object => object.key.parts) := by
    refine List.Pairwise.eq_of_mem_iff (List.pairwise_map.mpr inOrder)
      (List.pairwise_map.mpr inOrder')
      fun parts => ?_
    rw [inOrder.mem_parts_iff, inOrder'.mem_parts_iff]
    refine exists_congr fun key => and_congr_right fun _ => ?_
    have found := alike key
    generalize one.find? key = object?, other.find? key = object'? at found
    cases found <;> simp
  have sameKeys : List.Forall₂ (fun object object' => object.key.parts = object'.key.parts)
      one.objects other.objects := by
    rw [← List.forall₂_map_right_iff, ← List.forall₂_map_left_iff, sameParts]
    exact List.forall₂_refl _
  obtain ⟨lengths, keys⟩ := List.forall₂_iff_zip.mp sameKeys
  refine List.forall₂_iff_zip.mpr ⟨lengths, fun {object object'} there => ?_⟩
  obtain ⟨member, member'⟩ := List.of_mem_zip there
  have found := alike object.key
  rw [inOrder.find?_of_mem member, ObjectKey.parts_injective (keys there),
    inOrder'.find?_of_mem member'] at found
  cases found with
  | some related => exact related

end InOrder

end MemoryStore

end PoolOperator
