import PoolOperator.Proofs.Apply.InMemory
import PoolOperator.Proofs.Merge.WellFormed

/-!
# Annotations and labels

Of all objects that were applied to a stored one with success, the last one that
states a label or an annotation wins over the others and over the stored value
(`Entries`).  Only the revision of a Deployment stays as it first was.
-/

namespace PoolOperator

/-! ## The last of several values -/

/-- The value that the last object with one has. -/
def lastStated (read : Object → Option String) (objects : List Object) : Option String :=
  objects.reverse.findSome? read

theorem lastStated_append (read : Object → Option String) (objects later : List Object) :
    lastStated read (objects ++ later) = (lastStated read later).or (lastStated read objects) := by
  rw [lastStated, List.reverse_append, List.findSome?_append]
  rfl

theorem lastStated_singleton (read : Object → Option String) (object : Object) :
    lastStated read [object] = read object := by
  rw [lastStated, List.reverse_singleton, List.findSome?_singleton]

theorem isSome_lastStated_iff {read : Object → Option String} {objects : List Object} :
    (lastStated read objects).isSome = true ↔ ∃ object ∈ objects, (read object).isSome = true := by
  rw [lastStated, List.findSome?_isSome_iff]
  simp

/-! ## Entries -/

/-- How the annotations and labels of a stored object come about when objects are
applied to it with success. -/
structure Entries (desireds : List Object) (before after : Object) : Prop where
  /-- The last stated label wins over the stored one. -/
  labels : ∀ key : String, after.label? key =
    (lastStated (Object.label? · key) desireds).or (before.label? key)
  /-- The last stated annotation wins over the stored one. -/
  annotations : ∀ key : String, ¬ before.IsRevision key → after.annotation? key =
    (lastStated (Object.annotation? · key) desireds).or (before.annotation? key)
  /-- The first revision of a Deployment wins. -/
  revision : ∀ key : String, before.IsRevision key → after.annotation? key =
    (before.annotation? key).or (desireds.findSome? (Object.annotation? · key))

namespace Entries

theorem refl (object : Object) : Entries [] object object where
  labels _ := rfl
  annotations _ _ := rfl
  revision _ _ := Option.or_none.symm

theorem trans {desireds later : List Object} {before between after : Object}
    (type : between.type? = before.type?) (first : Entries desireds before between)
    (second : Entries later between after) : Entries (desireds ++ later) before after := by
  have same (key : String) : between.IsRevision key ↔ before.IsRevision key := by
    rw [Object.IsRevision, Object.IsRevision, Object.groupKind_eq_of_type? type]
  refine ⟨fun key => ?_, fun key notRevision => ?_, fun key revision => ?_⟩
  · rw [second.labels, first.labels, lastStated_append, Option.or_assoc]
  · rw [second.annotations key (mt (same key).mp notRevision), first.annotations key notRevision,
      lastStated_append, Option.or_assoc]
  · rw [second.revision key ((same key).mpr revision), first.revision key revision,
      List.findSome?_append, Option.or_assoc]

/-- A label is there if it was stored or stated. -/
theorem isSome_label?_iff {desireds : List Object} {before after : Object}
    (entries : Entries desireds before after) (key : String) :
    (after.label? key).isSome = true ↔
      (before.label? key).isSome = true ∨ ∃ desired ∈ desireds,
        (desired.label? key).isSome = true := by
  rw [entries.labels, Option.isSome_or, Bool.or_eq_true, isSome_lastStated_iff, or_comm]

/-- An annotation is there if it was stored or stated. -/
theorem isSome_annotation?_iff {desireds : List Object} {before after : Object}
    (entries : Entries desireds before after) (key : String) :
    (after.annotation? key).isSome = true ↔
      (before.annotation? key).isSome = true ∨
        ∃ desired ∈ desireds, (desired.annotation? key).isSome = true := by
  by_cases revision : before.IsRevision key
  · rw [entries.revision key revision, Option.isSome_or, Bool.or_eq_true, List.findSome?_isSome_iff]
  · rw [entries.annotations key revision, Option.isSome_or, Bool.or_eq_true,
      isSome_lastStated_iff, or_comm]

/-- Entries of a merged object. -/
theorem of_merge {current desired merged : Object} (own : desired.WellFormed)
    (type : current.type? = desired.type?) (done : merge current desired = .ok merged) :
    Entries [desired] current merged := by
  have same (key : String) : desired.IsRevision key ↔ current.IsRevision key := by
    rw [Object.IsRevision, Object.IsRevision, Object.groupKind_eq_of_type? type]
  refine ⟨fun key => ?_, fun key notRevision => ?_, fun key revision => ?_⟩
  · rw [label?_merge own.labels done, lastStated_singleton]
  · rw [annotation?_merge own.annotations done, if_neg (mt (same key).mp notRevision),
      lastStated_singleton]
  · rw [annotation?_merge own.annotations done, if_pos ((same key).mpr revision),
      List.findSome?_singleton]

/-- A live object that is as it should be has the entries of the merged one. -/
theorem of_same {current desired merged : Object} (live : current.WellFormed)
    (own : desired.WellFormed) (type : current.type? = desired.type?)
    (done : merge current desired = .ok merged) (same : current.same merged = .ok true) :
    Entries [desired] current current := by
  obtain ⟨annotations, labels⟩ := entries_of_same live own type done same
  have ofMerged := of_merge own type done
  have sameAnnotations (key : String) : current.annotation? key = merged.annotation? key := by
    rw [Object.annotation?, Object.annotation?, annotations]
  have sameLabels (key : String) : current.label? key = merged.label? key := by
    rw [Object.label?, Object.label?, labels]
  exact ⟨fun key => (sameLabels key).trans (ofMerged.labels key),
    fun key notRevision => (sameAnnotations key).trans (ofMerged.annotations key notRevision),
    fun key revision => (sameAnnotations key).trans (ofMerged.revision key revision)⟩

end Entries

namespace MemoryStore

/-! ## Calls -/

/-- The objects that were applied to a key with success, in the order of the
calls. -/
def successes (key : ObjectKey) (calls : List (Object × Except ApplyError Outcome)) : List Object :=
  (calls.filter fun call => call.1.key = key ∧ call.2.isOk = true).map Prod.fst

theorem successes_cons (key : ObjectKey) (call : Object × Except ApplyError Outcome)
    (calls : List (Object × Except ApplyError Outcome)) :
    successes key (call :: calls) = successes key [call] ++ successes key calls := by
  rw [successes, successes, successes, ← List.map_append, ← List.filter_append]
  rfl

theorem entries_of_fate {desired before : Object} {key : ObjectKey}
    {result : Except ApplyError Outcome} {live? : Option Object}
    (fate : Fate desired key result (some before) live?) (stored : before.WellFormed)
    (own : desired.WellFormed) :
    ∃ live : Object, live? = some live ∧ live.WellFormed ∧ live.type? = before.type?
      ∧ Entries (successes key [(desired, result)]) before live := by
  cases fate with
  | apart different =>
      refine ⟨before, rfl, stored, rfl, ?_⟩
      simp only [successes]
      rw [List.filter_cons_of_neg (by simp [Ne.symm different])]
      exact .refl before
  | failed =>
      refine ⟨before, rfl, stored, rfl, ?_⟩
      rw [successes, List.filter_cons_of_neg (by simp [Except.isOk, Except.toBool])]
      exact .refl before
  | unchanged addressed applicable type done same =>
      refine ⟨before, rfl, stored, rfl, ?_⟩
      rw [successes, List.filter_cons_of_pos (by simp [addressed, Except.isOk, Except.toBool])]
      exact .of_same stored own type done same
  | @updated _ merged version addressed applicable type done =>
      refine ⟨replaced merged version, rfl, (stored.merge own done).replaced version,
        (type?_merge done).trans type.symm, ?_⟩
      rw [successes, List.filter_cons_of_pos (by simp [addressed, Except.isOk, Except.toBool])]
      have entries := Entries.of_merge own type done
      exact ⟨entries.labels, entries.annotations, entries.revision⟩

theorem entries_of_history {store after : MemoryStore}
    {calls : List (Object × Except ApplyError Outcome)} (history : History store calls after)
    (wellFormed : ∀ call ∈ calls, call.1.WellFormed) {key : ObjectKey} {before : Object}
    (there : store.find? key = some before) (stored : before.WellFormed) :
    ∃ live : Object, after.find? key = some live ∧ Entries (successes key calls) before live := by
  induction history generalizing before with
  | nil store => exact ⟨before, there, .refl before⟩
  | @cons store between after desired result calls first others induction =>
      have fate := first.fate key
      rw [there] at fate
      obtain ⟨middle, found, middleStored, type, step⟩ :=
        entries_of_fate fate stored (wellFormed _ List.mem_cons_self)
      obtain ⟨live, final, rest⟩ :=
        induction (fun call member => wellFormed call (List.mem_cons_of_mem _ member)) found
          middleStored
      refine ⟨live, final, ?_⟩
      rw [successes_cons]
      exact step.trans type rest

variable (surroundings : Surroundings (StateM MemoryStore)) (metrics : Metrics)

/-- Whatever is applied, the annotations and labels of a stored object are those
that it had, and those of the objects that were applied to it with success.

The objects are as they are read (`Object.wellFormed_of_ofValue`): their maps are
in order, and no member of the body passes for the type or the metadata. -/
theorem applyEach_entries (store : MemoryStore) (desireds : List Object)
    (wellFormed : ∀ desired ∈ desireds, desired.WellFormed) {key : ObjectKey} {before : Object}
    (there : store.find? key = some before) (stored : before.WellFormed) :
    let applied := successes key (desireds.zip (applyEach surroundings metrics store desireds).1)
    ∃ live : Object, (applyEach surroundings metrics store desireds).2.find? key = some live
      ∧ Entries applied before live
      ∧ (∀ name : String, (live.label? name).isSome = true ↔
          (before.label? name).isSome = true
            ∨ ∃ desired ∈ applied, (desired.label? name).isSome = true)
      ∧ ∀ name : String, (live.annotation? name).isSome = true ↔
          (before.annotation? name).isSome = true
            ∨ ∃ desired ∈ applied, (desired.annotation? name).isSome = true := by
  obtain ⟨live, final, entries⟩ :=
    entries_of_history (history_applyEach surroundings metrics store desireds)
    (fun _ member => wellFormed _ (List.of_mem_zip member).1) there stored
  exact ⟨live, final, entries, entries.isSome_label?_iff, entries.isSome_annotation?_iff⟩

/-- A Deployment with a revision and a label, as it is written. -/
def revisedValue (revision label value : String) : Value :=
  .obj [("apiVersion", .str "apps/v1"), ("kind", .str "Deployment"),
    ("metadata", .obj [("name", .str "web"),
      ("annotations", .obj [( revisionAnnotation, .str revision)]),
      ("labels", .obj [(label, .str value)])])]

/-- The same Deployment as it is read. -/
def revised (revision label value : String) : Object :=
  { Object.bare "apps/v1" "Deployment" "web" with
    metadata := { Metadata.empty with
      name := some "web"
      annotations := some [( revisionAnnotation, revision)]
      labels := some [(label, value)] } }

theorem ofValue_revisedValue (revision label value : String) :
    Object.ofValue (revisedValue revision label value) = .ok (revised revision label value) := by
  rfl

theorem wellFormed_revised (revision label value : String) :
    (revised revision label value).WellFormed :=
  Object.wellFormed_of_ofValue (ofValue_revisedValue revision label value)

/-- Deployments of one name.  The second one is the first one again, and the third one
cannot be compared with the live one. -/
def revisedCalls : List Object :=
  [revised "1" "tier" "front", revised "1" "tier" "front",
    { revised "2" "tier" "lost" with body := .arr [] }, revised "4" "team" "net"]

/-- Of a stored Deployment that others are applied to, the revision stays, and of the labels the
last ones that were applied with success. -/
theorem applyEach_entries_revision :
    (∀ desired ∈ revisedCalls, desired.WellFormed)
      ∧ (empty.insert (revised "3" "tier" "back")).find? (revised "3" "tier" "back").key =
        some (revised "3" "tier" "back")
      ∧ (revised "3" "tier" "back").WellFormed
      ∧ (applyEach .idle .empty (empty.insert (revised "3" "tier" "back")) revisedCalls).1 =
        [.ok .updated, .ok .unchanged,
          .error (.incomparable "can only flatten structs and maps (got a sequence)"), .ok .updated]
      ∧ ∃ live : Object,
        (applyEach .idle .empty (empty.insert (revised "3" "tier" "back")) revisedCalls).2.find?
            (revised "3" "tier" "back").key = some live
          ∧ live.annotation? revisionAnnotation = some "3"
          ∧ live.label? "tier" = some "front"
          ∧ live.label? "team" = some "net" := by
  have own := wellFormed_revised
  have wellFormed : ∀ desired ∈ revisedCalls, desired.WellFormed := by
    simp only [revisedCalls, List.forall_mem_cons]
    exact ⟨own "1" "tier" "front", own "1" "tier" "front",
      { own "2" "tier" "lost" with body := trivial, noMetadata := nofun, noType := nofun },
      own "4" "team" "net", List.forall_mem_nil _⟩
  have there : (empty.insert (revised "3" "tier" "back")).find? (revised "3" "tier" "back").key =
      some (revised "3" "tier" "back") := rfl
  obtain ⟨live, final, entries, -⟩ :=
    applyEach_entries .idle .empty _ _ wellFormed there (own "3" "tier" "back")
  have results :
      (applyEach .idle .empty (empty.insert (revised "3" "tier" "back")) revisedCalls).1 =
        [.ok .updated, .ok .unchanged,
          .error (.incomparable "can only flatten structs and maps (got a sequence)"),
          .ok .updated] := by
    rfl
  have applied : successes (revised "3" "tier" "back").key
      (revisedCalls.zip [.ok .updated, .ok .unchanged,
        .error (.incomparable "can only flatten structs and maps (got a sequence)"),
        .ok .updated]) =
      [revised "1" "tier" "front", revised "1" "tier" "front", revised "4" "team" "net"] := by
    rfl
  rw [results, applied] at entries
  refine ⟨wellFormed, there, own "3" "tier" "back", results, live, final, ?_, ?_, ?_⟩
  · exact entries.revision revisionAnnotation (by decide)
  · exact entries.labels "tier"
  · exact entries.labels "team"

end MemoryStore

end PoolOperator
