import PoolOperator.Manifest
import PoolOperator.Proofs.Except

/-!
# The documents of a manifest

The reader yields the documents of a text in order, each as a value or as an error
(`Yaml.stream`).  Every document that is not empty has to be an object with a type.  The
first one that is not decides the error, which tells its place among all documents
(`objects_eq_error_iff`).  Otherwise the objects are those of the documents, in order
(`objects_eq_ok_iff`).
-/

namespace PoolOperator

/-- What the reader yields for a text: the values of its documents, and the error that ends
them. -/
def Yaml.stream (text : String) : List (Except Yaml.Error Value) :=
  (Yaml.documents text).1.map Yaml.Document.value ++ ((Yaml.documents text).2.map .error).toList

namespace Manifest

/-! ## One document -/

/-- Has an object an interface version and a kind? -/
def IsTyped (object : Object) : Prop :=
  ∃ type : ObjectType, object.type? = some type ∧ type.apiVersion ≠ "" ∧ type.kind ≠ ""

/-- What is read from a document. -/
inductive ReadsAs : Except Yaml.Error Value → Option Object → Prop
  /-- Nothing, because it is empty. -/
  | empty : ReadsAs (.ok .null) none
  /-- The object that its value stands for. -/
  | object {value : Value} {object : Object} (filled : value ≠ .null)
      (read : Object.ofValue value = .ok object) (typed : IsTyped object) :
      ReadsAs (.ok value) (some object)

/-- Why a document at a place in a file is refused. -/
inductive Refuses (file : String) (index : Nat) : Except Yaml.Error Value → RenderError → Prop
  /-- It is no YAML. -/
  | unreadable (error : Yaml.Error) : Refuses file index (.error error) (.invalidYaml file error)
  /-- Its value is no object. -/
  | malformed {value : Value} {error : ReadError} (filled : value ≠ .null)
      (refused : Object.ofValue value = .error error) :
      Refuses file index (.ok value) (.invalidObject file index error.message)
  /-- Its object has no type. -/
  | untyped {value : Value} {object : Object} (filled : value ≠ .null)
      (read : Object.ofValue value = .ok object) (untyped : ¬ IsTyped object) :
      Refuses file index (.ok value) (.invalidObject file index RenderError.missingType)

theorem readsAs_or_refuses (file : String) (index : Nat) (item : Except Yaml.Error Value) :
    (∃ found : Option Object, ReadsAs item found)
      ∨ ∃ error : RenderError, Refuses file index item error := by
  cases item with
  | error error => exact .inr ⟨_, .unreadable error⟩
  | ok value =>
      by_cases null : value = .null
      · exact .inl ⟨none, null ▸ .empty⟩
      · cases read : Object.ofValue value with
        | error error => exact .inr ⟨_, .malformed null read⟩
        | ok object =>
            by_cases typed : IsTyped object
            · exact .inl ⟨some object, .object null read typed⟩
            · exact .inr ⟨_, .untyped null read typed⟩

section

variable {file : String} {index : Nat} {document : Yaml.Document}

theorem isNull_of_ne {value : Value} (filled : value ≠ .null) : value.isNull = false := by
  cases value with
  | null => exact absurd rfl filled
  | _ => rfl

theorem objectOf_of_readsAs {found : Option Object} (reads : ReadsAs document.value found)
    (file : String) (index : Nat) : objectOf file index document = .ok found := by
  rw [objectOf]
  cases value : document.value with
  | error error =>
      rw [value] at reads
      cases reads
  | ok value =>
      rw [value] at reads
      cases reads with
      | empty => rfl
      | object filled read typed =>
          obtain ⟨type, there, version, kind⟩ := typed
          simp [isNull_of_ne filled, read, there, version, kind, Except.mapError, bind,
            Except.bind, pure, Except.pure]

theorem objectOf_of_refuses {error : RenderError}
    (refuses : Refuses file index document.value error) :
    objectOf file index document = .error error := by
  rw [objectOf]
  cases value : document.value with
  | error source =>
      rw [value] at refuses
      cases refuses
      rfl
  | ok value =>
      rw [value] at refuses
      cases refuses with
      | malformed filled refused =>
          simp [isNull_of_ne filled, refused, Except.mapError, bind, Except.bind]
      | @untyped _ object filled read untyped =>
          cases there : object.type? with
          | none =>
              simp [isNull_of_ne filled, read, there, Except.mapError, bind, Except.bind,
                throw, throwThe, MonadExceptOf.throw]
          | some type =>
              have missing : type.apiVersion = "" ∨ type.kind = "" := by
                by_contra both
                exact untyped ⟨type, there, not_or.mp both⟩
              simp [isNull_of_ne filled, read, there, missing, Except.mapError, bind, Except.bind,
                throw, throwThe, MonadExceptOf.throw]

theorem objectOf_eq_ok_iff {found : Option Object} :
    objectOf file index document = .ok found ↔ ReadsAs document.value found := by
  refine ⟨fun given => ?_, fun reads => objectOf_of_readsAs reads file index⟩
  obtain ⟨other, reads⟩ | ⟨error, refuses⟩ := readsAs_or_refuses file index document.value
  · rw [objectOf_of_readsAs reads] at given
    cases given
    exact reads
  · rw [objectOf_of_refuses refuses] at given
    cases given

theorem objectOf_eq_error_iff {error : RenderError} :
    objectOf file index document = .error error ↔ Refuses file index document.value error := by
  refine ⟨fun failed => ?_, objectOf_of_refuses⟩
  obtain ⟨found, reads⟩ | ⟨other, refuses⟩ := readsAs_or_refuses file index document.value
  · rw [objectOf_of_readsAs reads] at failed
    cases failed
  · rw [objectOf_of_refuses refuses] at failed
    cases failed
    exact refuses

end

/-! ## All documents -/

/-- The objects of some documents, in order. -/
def Reads (items : List (Except Yaml.Error Value)) (objects : List Object) : Prop :=
  ∃ found : List (Option Object), List.Forall₂ ReadsAs items found
    ∧ objects = found.flatMap Option.toList

/-- Documents are read if each of them is. -/
theorem exists_reads_iff {items : List (Except Yaml.Error Value)} :
    (∃ objects : List Object, Reads items objects) ↔
      ∀ item ∈ items, ∃ found : Option Object, ReadsAs item found := by
  induction items with
  | nil => exact ⟨fun _ _ member => absurd member List.not_mem_nil, fun _ => ⟨[], [], .nil, rfl⟩⟩
  | cons item items induction =>
      rw [List.forall_mem_cons, ← induction]
      constructor
      · rintro ⟨objects, found, reads, -⟩
        cases reads with
        | @cons _ one _ more first rest => exact ⟨⟨one, first⟩, _, more, rest, rfl⟩
      · rintro ⟨⟨one, first⟩, objects, more, rest, rfl⟩
        exact ⟨_, one :: more, .cons first rest, rfl⟩

/-- The first document that is refused, after others that are read. -/
def Stops (file : String) (index : Nat) (items : List (Except Yaml.Error Value))
    (error : RenderError) : Prop :=
  ∃ (before : List (Except Yaml.Error Value)) (item : Except Yaml.Error Value),
    before ++ [item] <+: items
    ∧ (∀ other ∈ before, ∃ found : Option Object, ReadsAs other found)
    ∧ Refuses file (index + before.length) item error

theorem objectsFrom_eq_ok_iff {file : String} {index : Nat} {documents : List Yaml.Document}
    {objects : List Object} :
    objectsFrom file index documents = .ok objects ↔
      Reads (documents.map Yaml.Document.value) objects := by
  induction documents generalizing index objects with
  | nil => simp [objectsFrom, Reads, @eq_comm _ []]
  | cons document documents induction =>
      rw [objectsFrom, Except.bind_eq_ok_iff, Reads, List.map_cons]
      constructor
      · rintro ⟨found, first, others⟩
        obtain ⟨later, rest, done⟩ := Except.bind_eq_ok_iff.mp others
        cases done
        obtain ⟨more, reads, rfl⟩ := induction.mp rest
        exact ⟨found :: more, .cons (objectOf_eq_ok_iff.mp first) reads, rfl⟩
      · rintro ⟨found, reads, rfl⟩
        cases reads with
        | @cons _ one _ more first rest =>
            have later := (@induction (index + 1) _).mpr ⟨more, rest, rfl⟩
            exact ⟨one, objectOf_eq_ok_iff.mpr first, Except.bind_eq_ok_iff.mpr ⟨_, later, rfl⟩⟩

theorem objectsFrom_eq_error_iff {file : String} {index : Nat} {documents : List Yaml.Document}
    {error : RenderError} :
    objectsFrom file index documents = .error error ↔
      Stops file index (documents.map Yaml.Document.value) error := by
  induction documents generalizing index with
  | nil => simp [objectsFrom, Stops]
  | cons document documents induction =>
      rw [objectsFrom, Except.bind_eq_error_iff, objectOf_eq_error_iff, List.map_cons]
      constructor
      · rintro (refuses | ⟨found, first, others⟩)
        · exact ⟨[], document.value, by simp, by simp, refuses⟩
        · rcases Except.bind_eq_error_iff.mp others with failed | ⟨later, rest, done⟩
          · obtain ⟨before, item, isPrefix, given, refuses⟩ := induction.mp failed
            refine ⟨document.value :: before, item, List.cons_prefix_cons.mpr ⟨rfl, isPrefix⟩,
              List.forall_mem_cons.mpr ⟨⟨found, objectOf_eq_ok_iff.mp first⟩, given⟩, ?_⟩
            rwa [List.length_cons, Nat.add_comm before.length, ← Nat.add_assoc]
          · cases done
      · rintro ⟨before, item, isPrefix, given, refuses⟩
        cases before with
        | nil =>
            obtain ⟨rfl, -⟩ := List.cons_prefix_cons.mp isPrefix
            exact .inl refuses
        | cons first before =>
            obtain ⟨rfl, others⟩ := List.cons_prefix_cons.mp isPrefix
            obtain ⟨⟨found, reads⟩, given⟩ := List.forall_mem_cons.mp given
            rw [List.length_cons, Nat.add_comm before.length, ← Nat.add_assoc] at refuses
            refine .inr ⟨found, objectOf_eq_ok_iff.mpr reads,
              Except.bind_eq_error_iff.mpr (.inl ?_)⟩
            exact induction.mpr ⟨before, item, others, given, refuses⟩

section

variable {file text : String}

theorem stream_of_documents {documents : List Yaml.Document} {error? : Option Yaml.Error}
    (read : Yaml.documents text = (documents, error?)) :
    Yaml.stream text = documents.map Yaml.Document.value ++ (error?.map .error).toList := by
  rw [Yaml.stream, read]

/-- The objects of a text are those of its documents. -/
theorem objects_eq_ok_iff {objects : List Object} :
    Manifest.objects file text = .ok objects ↔ Reads (Yaml.stream text) objects := by
  rcases read : Yaml.documents text with ⟨documents, error?⟩
  rw [Manifest.objects, stream_of_documents read, read, Except.bind_eq_ok_iff]
  cases error? with
  | none => simp [objectsFrom_eq_ok_iff, pure, Except.pure]
  | some error =>
      constructor
      · rintro ⟨others, -, done⟩
        cases done
      · intro reads
        obtain ⟨found, ended⟩ := exists_reads_iff.mp ⟨objects, reads⟩ (.error error) (by simp)
        cases ended

/-- The first document that is refused decides the error. -/
theorem objects_eq_error_iff {error : RenderError} :
    Manifest.objects file text = .error error ↔ Stops file 0 (Yaml.stream text) error := by
  rcases read : Yaml.documents text with ⟨documents, error?⟩
  rw [Manifest.objects, stream_of_documents read, read, Except.bind_eq_error_iff,
    objectsFrom_eq_error_iff]
  cases error? with
  | none => simp [pure, Except.pure]
  | some source =>
      simp only [Option.map_some, Option.toList_some, objectsFrom_eq_ok_iff]
      constructor
      · rintro (⟨before, item, isPrefix, given, refuses⟩ | ⟨objects, reads, done⟩)
        · exact ⟨before, item, isPrefix.trans (List.prefix_append _ _), given, refuses⟩
        · cases done
          exact ⟨_, _, List.prefix_rfl, exists_reads_iff.mp ⟨objects, reads⟩, .unreadable source⟩
      · rintro ⟨before, item, isPrefix, given, refuses⟩
        rcases List.prefix_concat_iff.mp isPrefix with whole | earlier
        · obtain ⟨rfl, ended⟩ := List.append_inj' whole rfl
          obtain rfl : item = .error source := by simpa using ended
          obtain ⟨objects, reads⟩ := exists_reads_iff.mpr given
          cases refuses
          exact .inr ⟨objects, reads, rfl⟩
        · exact .inl ⟨before, item, earlier, given, refuses⟩

end

end Manifest

end PoolOperator
