import Mathlib.Logic.Relation
import PoolOperator.Proofs.Apply.Transcript
import PoolOperator.Proofs.Concurrent
import PoolOperator.Proofs.Merge.Shape

/-!
# How an object is applied

Whatever a store answers, an object that is applied is refused without a call, or
fetched once and then written at most once (`Course`).  What is written, and what
the result is, depends on the object that was fetched (`Conduct`).

An object that replaces another one has the version of that one, so that a server
which guards its objects by versions refuses it if the live object is no longer
the one that was merged (`Server.live_of_replaced`).
-/

namespace PoolOperator

/-! ## Objects that can be applied -/

/-- Has an object a name and a kind, and is it supported? -/
structure Object.Applicable (object : Object) : Prop where
  named : object.name?.isSome = true
  typed : object.groupKind.kind ≠ ""
  supported : checkSupported object = .ok ()

theorem Object.label_eq_ok_iff {object : Object} {label : String} :
    object.label = .ok label ↔
      object.name?.isSome = true ∧ object.groupKind.kind ≠ ""
        ∧ label = object.groupKind.kind ++ " " ++ object.displayName := by
  rw [Object.label]
  cases object.name? with
  | none => simp
  | some name =>
      by_cases typed : object.groupKind.kind = ""
      · simp [typed]
      · simp [typed, eq_comm]

theorem Object.label_eq_error_iff {object : Object} {error : ApplyError} :
    object.label = .error error ↔
      object.name? = none ∧ error = .missingName
        ∨ object.name?.isSome = true ∧ object.groupKind.kind = ""
          ∧ error = .missingType object.displayName := by
  rw [Object.label]
  cases object.name? with
  | none => simp [@eq_comm _ error]
  | some name =>
      by_cases typed : object.groupKind.kind = ""
      · simp [typed, @eq_comm _ error]
      · simp [typed]

theorem Object.applicable_iff {object : Object} :
    object.Applicable ↔
      (∃ label : String, object.label = .ok label) ∧ checkSupported object = .ok () := by
  constructor
  · rintro ⟨named, typed, supported⟩
    exact ⟨⟨_, Object.label_eq_ok_iff.mpr ⟨named, typed, rfl⟩⟩, supported⟩
  · rintro ⟨⟨label, there⟩, supported⟩
    obtain ⟨named, typed, -⟩ := Object.label_eq_ok_iff.mp there
    exact ⟨named, typed, supported⟩

theorem Object.not_applicable_of_label {desired : Object} {error : ApplyError}
    (labelled : desired.label = .error error) :
    ¬ desired.Applicable := by
  intro applicable
  obtain ⟨⟨label, there⟩, -⟩ := Object.applicable_iff.mp applicable
  rw [labelled] at there
  cases there

theorem Object.not_applicable_of_check {desired : Object} {source : MergeError}
    (checked : checkSupported desired = .error source) :
    ¬ desired.Applicable := by
  intro applicable
  rw [applicable.supported] at checked
  cases checked

/-! ## The course -/

/-- The calls that are made to apply an object, with their answers, and the
result. -/
inductive Course (desired : Object) : List AnsweredCall → Except ApplyError Outcome → Prop
  /-- The object has no name or no kind. -/
  | nameless {error : ApplyError} (labelled : desired.label = .error error) :
      Course desired [] (.error error)
  /-- The object is not supported. -/
  | unsupported {label : String} {source : MergeError} (labelled : desired.label = .ok label)
      (checked : checkSupported desired = .error source) :
      Course desired [] (.error (.merge label source))
  /-- The live object cannot be fetched. -/
  | notFetched {error : ApplyError} (applicable : desired.Applicable) :
      Course desired [.get desired (.error error)] (.error error)
  /-- There is none, and the object is to be created. -/
  | absent {answer : Except ApplyError Object} (applicable : desired.Applicable) :
      Course desired [.get desired (.ok none), .create desired answer]
      (answer.map fun _ => .created)
  /-- The object cannot be merged into the live one. -/
  | notMerged {current : Object} {label : String} {source : MergeError}
      (applicable : desired.Applicable)
      (labelled : desired.label = .ok label) (done : merge current desired = .error source) :
      Course desired [.get desired (.ok (some current))] (.error (.merge label source))
  /-- The live object is as it should be. -/
  | unchanged {current merged : Object} (applicable : desired.Applicable)
      (done : merge current desired = .ok merged) (same : current.same merged = .ok true) :
      Course desired [.get desired (.ok (some current))] (.ok .unchanged)
  /-- The merged object cannot be compared with the live one. -/
  | notCompared {current merged : Object} {reason : String} (applicable : desired.Applicable)
      (done : merge current desired = .ok merged)
      (incomparable : current.same merged = .error reason) :
      Course desired [.get desired (.ok (some current))] (.error (.incomparable reason))
  /-- The live object is to be replaced. -/
  | changed {current merged : Object} {answer : Except ApplyError Object}
      (applicable : desired.Applicable)
      (done : merge current desired = .ok merged) (different : current.same merged = .ok false) :
      Course desired [.get desired (.ok (some current)), .replace merged answer]
        (answer.map fun _ => .updated)

namespace Transcript

variable {α : Type} {calls : List AnsweredCall} {result : α}

theorem of_done {final : α} (transcript : Transcript (.done final) calls result) :
    calls = [] ∧ result = final := by
  cases transcript
  exact ⟨rfl, rfl⟩

theorem of_call {call : StoreCall} {next : call.Answer → Operation α}
    (transcript : Transcript (.ask (.store call) next) calls result) :
    ∃ (answer : call.Answer) (others : List AnsweredCall),
      calls = .of call answer :: others ∧ Transcript (next answer) others result := by
  cases transcript with
  | call answer rest => exact ⟨answer, _, rfl, rest⟩
  | other noCall answer rest => exact absurd rfl (noCall call)

theorem of_count {counter : Counter} {label : String} {next : Unit → Operation α}
    (transcript : Transcript (.ask (.count counter label) next) calls result) :
    Transcript (next ()) calls result := by
  cases transcript with
  | other noCall answer rest => exact rest

theorem of_finishing {outcome : Outcome} {answer : Except ApplyError Object}
    {result : Except ApplyError Outcome}
    (transcript : Transcript (Object.finishing outcome answer) calls result) :
    calls = [] ∧ result = answer.map fun _ => outcome := by
  cases answer with
  | error error => exact transcript.of_done
  | ok stored => exact transcript.of_count.of_done

end Transcript

section

variable {desired : Object} {calls : List AnsweredCall} {result : Except ApplyError Outcome}

/-- What remains once the live object was merged. -/
theorem course_of_comparing {current : Object} {label : String} (applicable : desired.Applicable)
    (labelled : desired.label = .ok label)
    (transcript : Transcript (Object.comparing label current (merge current desired))
      calls result) :
    Course desired (.get desired (.ok (some current)) :: calls) result := by
  cases done : merge current desired with
  | error source =>
      rw [done] at transcript
      obtain ⟨rfl, rfl⟩ := transcript.of_count.of_done
      exact .notMerged applicable labelled done
  | ok merged =>
      rw [done, Object.comparing] at transcript
      cases same : current.same merged with
      | error reason =>
          rw [same] at transcript
          obtain ⟨rfl, rfl⟩ := transcript.of_done
          exact .notCompared applicable done same
      | ok equal =>
          rw [same] at transcript
          cases equal with
          | true =>
              obtain ⟨rfl, rfl⟩ := transcript.of_count.of_done
              exact .unchanged applicable done same
          | false =>
              obtain ⟨answer, others, rfl, written⟩ := transcript.of_call
              obtain ⟨rfl, rfl⟩ := written.of_finishing
              exact .changed applicable done same

/-- Every transcript of applying an object is one of its courses. -/
theorem course_of_transcript (transcript : Transcript (apply desired).run calls result) :
    Course desired calls result := by
  rw [apply_run] at transcript
  cases labelled : desired.label with
  | error error =>
      rw [labelled] at transcript
      obtain ⟨rfl, rfl⟩ := transcript.of_done
      exact .nameless labelled
  | ok label =>
      rw [labelled, Object.applying] at transcript
      cases checked : checkSupported desired with
      | error source =>
          rw [checked] at transcript
          obtain ⟨rfl, rfl⟩ := transcript.of_count.of_done
          exact .unsupported labelled checked
      | ok _ =>
          have applicable : desired.Applicable :=
            Object.applicable_iff.mpr ⟨⟨label, labelled⟩, checked⟩
          rw [checked] at transcript
          obtain ⟨fetched, others, rfl, merging⟩ := transcript.of_call
          rcases fetched with error | (_ | current)
          · obtain ⟨rfl, rfl⟩ := merging.of_done
            exact .notFetched applicable
          · obtain ⟨answer, others, rfl, written⟩ := merging.of_call
            obtain ⟨rfl, rfl⟩ := written.of_finishing
            exact .absent applicable
          · exact course_of_comparing applicable labelled merging

end

/-! ## Versions -/

/-- A server after any number of answers to anybody. -/
abbrev Server.Later : Server → Server → Prop :=
  Relation.ReflTransGen fun before after =>
    ∃ (call : StoreCall) (answer : call.Answer), before.Answers call answer after

/-- What is known by its version stays so. -/
theorem Server.Remembers.later {before after : Server} {key : ObjectKey} {object : Object}
    (remembers : before.Remembers key object) (later : before.Later after) :
    after.Remembers key object := by
  induction later with
  | refl => exact remembers
  | tail _ step induction =>
      obtain ⟨call, answer, answers⟩ := step
      exact answers.remembers induction

/-- A replacement with the version of an object that the server once had is only
accepted while that object is live. -/
theorem Server.live_of_replaced {before between after : Server} {current merged stored : Object}
    (versioned : before.Versioned) (fetched : before.live merged.key = some current)
    (later : before.Later between)
    (version : merged.metadata.resourceVersion = current.metadata.resourceVersion)
    (accepted : between.Answers (.replace merged) (Except.ok stored) after) :
    between.live merged.key = some current := by
  have remembers := (versioned.remembers fetched).later later
  cases accepted with
  | replaced _ live _ _ present sameVersion _ _ =>
      rw [present, remembers.same live present (sameVersion.symm.trans version)]

/-! ## Conduct -/

/-- Is a call a write? -/
def AnsweredCall.isWrite : AnsweredCall → Bool
  | .get _ _ => false
  | .create _ _ => true
  | .replace _ _ => true

/-- A step of applying an object failed with an error, after some calls. -/
inductive FailedStep (desired : Object) (calls : List AnsweredCall) : ApplyError → Prop
  /-- The object has no name. -/
  | nameless (nameless : desired.name? = none) : FailedStep desired calls .missingName
  /-- The object has no kind. -/
  | typeless (named : desired.name?.isSome = true) (typeless : desired.groupKind.kind = "") :
      FailedStep desired calls (.missingType desired.displayName)
  /-- The object is not supported. -/
  | check {label : String} {source : MergeError} (labelled : desired.label = .ok label)
      (unsupported : checkSupported desired = .error source) :
      FailedStep desired calls (.merge label source)
  /-- The live object cannot be fetched. -/
  | get {error : ApplyError} (answered : .get desired (.error error) ∈ calls) :
      FailedStep desired calls error
  /-- The object cannot be merged into the live one. -/
  | merge {current : Object} {label : String} {source : MergeError}
      (answered : .get desired (.ok (some current)) ∈ calls) (labelled : desired.label = .ok label)
      (notMerged : merge current desired = .error source) :
      FailedStep desired calls (.merge label source)
  /-- The merged object cannot be compared with the live one. -/
  | compare {current merged : Object} {reason : String}
      (answered : .get desired (.ok (some current)) ∈ calls)
      (done : merge current desired = .ok merged)
      (incomparable : current.same merged = .error reason) :
      FailedStep desired calls (.incomparable reason)
  /-- The object cannot be created. -/
  | create {error : ApplyError} (answered : .create desired (.error error) ∈ calls) :
      FailedStep desired calls error
  /-- The live object cannot be replaced. -/
  | replace {merged : Object} {error : ApplyError}
      (answered : .replace merged (.error error) ∈ calls) :
      FailedStep desired calls error

/-- How an object is applied: the calls that are made, with their answers, and the
result. -/
structure Conduct (desired : Object) (calls : List AnsweredCall)
    (result : Except ApplyError Outcome) :
    Prop where
  /-- Nothing is asked about an object that cannot be applied. -/
  silent : ¬ desired.Applicable → calls = []
  /-- Any other object is fetched first and once, and at most one object is written. -/
  fetchedFirst : desired.Applicable → ∃ (answer : Except ApplyError (Option Object))
    (writes : List AnsweredCall), calls = .get desired answer :: writes ∧ writes.length ≤ 1
      ∧ ∀ call ∈ writes, call.isWrite = true
  /-- The object itself is created if there is none, and nothing else is. -/
  create : ∀ object : Object, (∃ answer, .create object answer ∈ calls) ↔
    .get desired (.ok none) ∈ calls ∧ object = desired
  /-- The live object is replaced by the merged one if the two differ. -/
  replace : ∀ merged : Object, (∃ answer, .replace merged answer ∈ calls) ↔
    ∃ current : Object, .get desired (.ok (some current)) ∈ calls
      ∧ merge current desired = .ok merged ∧ current.same merged = .ok false
  /-- Nothing is written if the live object cannot be fetched, cannot be merged,
  cannot be compared, or is as it should be. -/
  noWrite : desired.Applicable → ((∀ call ∈ calls, call.isWrite = false) ↔
    (∃ error, .get desired (.error error) ∈ calls)
      ∨ ∃ current : Object, .get desired (.ok (some current)) ∈ calls
          ∧ ((∃ source, merge current desired = .error source)
            ∨ ∃ merged : Object, merge current desired = .ok merged
                ∧ (current.same merged = .ok true ∨ ∃ reason, current.same merged = .error reason)))
  /-- The replacement is addressed as desired and has the identity and the version
  of the live object. -/
  replaced : ∀ (current merged : Object) (answer : Except ApplyError Object),
    .get desired (.ok (some current)) ∈ calls → .replace merged answer ∈ calls →
    merged.type? = desired.type? ∧ merged.metadata.namespaceName = desired.metadata.namespaceName
      ∧ merged.metadata.name = desired.metadata.name ∧ merged.metadata.uid = current.metadata.uid
      ∧ merged.metadata.resourceVersion = current.metadata.resourceVersion
  /-- A server that guards its objects by versions, and had the fetched object,
  accepts the replacement only while that object is live. -/
  guarded :
    ∀ (current merged : Object) (answer : Except ApplyError Object) (before between after : Server)
    (stored : Object), .get desired (.ok (some current)) ∈ calls → .replace merged answer ∈ calls →
    before.Versioned → before.live desired.key = some current → before.Later between →
    between.Answers (.replace merged) (Except.ok stored) after →
    between.live desired.key = some current
  /-- When the result is that the object was created. -/
  created : result = .ok .created ↔ ∃ stored : Object, .create desired (.ok stored) ∈ calls
  /-- When the result is that the live object was replaced. -/
  updated : result = .ok .updated ↔ ∃ merged stored : Object, .replace merged (.ok stored) ∈ calls
  /-- When the result is that the live object was left alone. -/
  unchanged : result = .ok .unchanged ↔ ∃ current merged : Object,
    .get desired (.ok (some current)) ∈ calls ∧ merge current desired = .ok merged
      ∧ current.same merged = .ok true
  /-- Any other result is the error of the step that failed. -/
  failed : ∀ error : ApplyError, result = .error error ↔ FailedStep desired calls error

namespace Course

variable {desired : Object} {calls : List AnsweredCall} {result : Except ApplyError Outcome}

theorem replaced (course : Course desired calls result) {current merged : Object}
    {answer : Except ApplyError Object} (fetched : .get desired (.ok (some current)) ∈ calls)
    (written : .replace merged answer ∈ calls) :
    ∃ body : Value, merged = mergedObject current desired body := by
  cases course with
  | changed applicable done different =>
      simp at fetched written
      obtain ⟨rfl, rfl⟩ := written
      subst fetched
      obtain ⟨body, -, same⟩ := merge_eq_ok_iff.mp done
      exact ⟨body, same⟩
  | _ => simp at written

theorem failedStep (course : Course desired calls result) {error : ApplyError}
    (failed : result = .error error) : FailedStep desired calls error := by
  cases course with
  | nameless labelled =>
      cases failed
      rcases Object.label_eq_error_iff.mp labelled with ⟨nameless, rfl⟩ | ⟨named, typeless, rfl⟩
      · exact .nameless nameless
      · exact .typeless named typeless
  | unsupported labelled checked =>
      cases failed
      exact .check labelled checked
  | notFetched applicable =>
      cases failed
      exact .get List.mem_cons_self
  | absent applicable =>
      rw [Except.map_eq_error_iff] at failed
      subst failed
      exact .create (List.mem_cons_of_mem _ List.mem_cons_self)
  | notMerged applicable labelled done =>
      cases failed
      exact .merge List.mem_cons_self labelled done
  | unchanged applicable done same => cases failed
  | notCompared applicable done incomparable =>
      cases failed
      exact .compare List.mem_cons_self done incomparable
  | changed applicable done different =>
      rw [Except.map_eq_error_iff] at failed
      subst failed
      exact .replace (List.mem_cons_of_mem _ List.mem_cons_self)

theorem failed_of_label (course : Course desired calls result) {error : ApplyError}
    (labelled : desired.label = .error error) : result = .error error := by
  cases course with
  | nameless other =>
      rw [labelled] at other
      cases other
      rfl
  | unsupported other checked =>
      rw [labelled] at other
      cases other
  | _ => exact absurd ‹desired.Applicable› (Object.not_applicable_of_label labelled)

theorem failed_of_check (course : Course desired calls result) {label : String}
    {source : MergeError} (labelled : desired.label = .ok label)
    (checked : checkSupported desired = .error source) :
    result = .error (.merge label source) := by
  cases course with
  | nameless other =>
      rw [labelled] at other
      cases other
  | unsupported other checked' =>
      rw [labelled] at other
      rw [checked] at checked'
      cases other
      cases checked'
      rfl
  | _ => exact absurd ‹desired.Applicable› (Object.not_applicable_of_check checked)

theorem failed_of_step (course : Course desired calls result) {error : ApplyError}
    (step : FailedStep desired calls error) : result = .error error := by
  cases step with
  | nameless nameless =>
      exact course.failed_of_label (Object.label_eq_error_iff.mpr (.inl ⟨nameless, rfl⟩))
  | typeless named typeless =>
      exact course.failed_of_label (Object.label_eq_error_iff.mpr (.inr ⟨named, typeless, rfl⟩))
  | check labelled unsupported => exact course.failed_of_check labelled unsupported
  | get answered => cases course <;> simp_all
  | merge answered labelled notMerged => cases course <;> simp_all
  | compare answered done incomparable => cases course <;> simp_all
  | create answered => cases course <;> simp_all [Except.map_eq_error_iff]
  | replace answered => cases course <;> simp_all [Except.map_eq_error_iff]

/-- What was fetched and merged is not different if it was not found to be so. -/
theorem not_different {current other merged : Object} (done : merge current desired = .ok other)
    (found : current.same other ≠ .ok false) :
    ¬ ∃ current' : Object,
      .get desired (.ok (some current')) ∈ [AnsweredCall.get desired (.ok (some current))]
      ∧ merge current' desired = .ok merged ∧ current'.same merged = .ok false := by
  rintro ⟨current', fetched, done', different⟩
  obtain rfl : current' = current := by simpa using fetched
  rw [done] at done'
  cases done'
  exact found different

theorem mem_replace_iff (course : Course desired calls result) (merged : Object) :
    (∃ answer, .replace merged answer ∈ calls) ↔
      ∃ current : Object, .get desired (.ok (some current)) ∈ calls
        ∧ merge current desired = .ok merged ∧ current.same merged = .ok false := by
  cases course with
  | unchanged applicable done same =>
      exact iff_of_false (by simp) (not_different done (by simp [same]))
  | notCompared applicable done incomparable =>
      exact iff_of_false (by simp) (not_different done (by simp [incomparable]))
  | @changed current other answer applicable done different =>
      constructor
      · rintro ⟨answer, written⟩
        obtain ⟨rfl, -⟩ : merged = other ∧ _ := by simpa using written
        exact ⟨current, List.mem_cons_self, done, different⟩
      · rintro ⟨current', fetched, done', -⟩
        obtain rfl : current' = current := by simpa using fetched
        rw [done] at done'
        cases done'
        exact ⟨answer, List.mem_cons_of_mem _ List.mem_cons_self⟩
  | _ => simp_all

theorem conduct (course : Course desired calls result) : Conduct desired calls result where
  silent notApplicable := by
    cases course with
    | nameless labelled => rfl
    | unsupported labelled checked => rfl
    | _ => exact absurd ‹desired.Applicable› notApplicable
  fetchedFirst applicable := by
    cases course with
    | nameless labelled => exact absurd applicable (Object.not_applicable_of_label labelled)
    | unsupported labelled checked =>
        exact absurd applicable (Object.not_applicable_of_check checked)
    | _ => simp [AnsweredCall.isWrite]
  create object := by cases course <;> simp
  replace := course.mem_replace_iff
  noWrite applicable := by
    cases course with
    | nameless labelled => exact absurd applicable (Object.not_applicable_of_label labelled)
    | unsupported labelled checked =>
        exact absurd applicable (Object.not_applicable_of_check checked)
    | _ => simp_all [AnsweredCall.isWrite]
  replaced current merged answer fetched written := by
    obtain ⟨body, rfl⟩ := course.replaced fetched written
    exact ⟨rfl, rfl, rfl, rfl, rfl⟩
  guarded current merged answer before between after stored fetched written versioned live later
    accepted := by
    obtain ⟨body, rfl⟩ := course.replaced fetched written
    have key : (mergedObject current desired body).key = desired.key := rfl
    exact key ▸ Server.live_of_replaced versioned (key ▸ live) later rfl accepted
  created := by
    cases course with
    | @absent answer => cases answer <;> simp [Except.map]
    | @changed _ _ answer => cases answer <;> simp [Except.map]
    | _ => simp
  updated := by
    cases course with
    | @absent answer => cases answer <;> simp [Except.map]
    | @changed _ _ answer => cases answer <;> simp [Except.map]
    | _ => simp
  unchanged := by cases course <;> simp_all [Except.map_eq_ok_iff]
  failed error := ⟨course.failedStep, course.failed_of_step⟩

end Course

/-- Whatever the surroundings answer, an object is applied as described. -/
theorem apply_conduct {σ : Type} (surroundings : Surroundings (StateM σ)) (desired : Object)
    (metrics : Metrics) (state : σ) :
    ∃ (calls : List AnsweredCall) (result : Except ApplyError Outcome) (metrics' : Metrics)
      (after : σ),
      (surroundings.run (apply desired).run metrics).run state = ((result, metrics'), after)
        ∧ ((surroundings.recorded.run (apply desired).run metrics).run []).run state =
          (((result, metrics'), calls), after)
        ∧ Conduct desired calls result := by
  obtain ⟨calls, result, metrics', after, transcript, ran, recorded⟩ :=
    surroundings.run_recorded (apply desired).run metrics [] state
  exact ⟨calls, result, metrics', after, ran, recorded, (course_of_transcript transcript).conduct⟩

end PoolOperator
