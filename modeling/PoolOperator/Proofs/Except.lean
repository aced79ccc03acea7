import Mathlib.Data.List.Forall2

/-!
# Computations that may fail

When a step of a computation that may fail has a result.  Each lemma takes one
step off, so that a computation can be taken apart step by step.  The same for all
items of a list: the first one without a result decides (`mapM_eq_error_iff`).

What a computation fails with is put together from what its steps fail with
(`FailsOnly`).
-/

namespace PoolOperator.Except

variable {ε ε' α β : Type}

theorem bind_eq_ok_iff {computation : Except ε α} {next : α → Except ε β} {result : β} :
    (computation >>= next) = .ok result ↔
      ∃ between : α, computation = .ok between ∧ next between = .ok result := by
  cases computation with
  | error error =>
      constructor
      · intro failed
        cases failed
      · rintro ⟨between, there, -⟩
        cases there
  | ok between => simp [bind, Except.bind]

theorem bind_eq_error_iff {computation : Except ε α} {next : α → Except ε β} {error : ε} :
    (computation >>= next) = .error error ↔
      computation = .error error ∨ ∃ between : α, computation = .ok between
        ∧ next between = .error error := by
  cases computation <;> simp [bind, Except.bind]

theorem map_eq_ok_iff {computation : Except ε α} {f : α → β} {result : β} :
    computation.map f = .ok result ↔
      ∃ between : α, computation = .ok between ∧ f between = result := by
  cases computation <;> simp [Except.map]

theorem map_eq_error_iff {computation : Except ε α} {f : α → β} {error : ε} :
    computation.map f = .error error ↔ computation = .error error := by
  cases computation <;> simp [Except.map]

theorem mapError_eq_ok_iff {computation : Except ε α} {f : ε → ε'} {result : α} :
    computation.mapError f = .ok result ↔ computation = .ok result := by
  cases computation with
  | error error => exact ⟨nofun, nofun⟩
  | ok between =>
      exact ⟨fun same => congrArg Except.ok (Except.ok.inj same),
        fun same => congrArg Except.ok (Except.ok.inj same)⟩

theorem mapError_eq_error_iff {computation : Except ε α} {f : ε → ε'} {error : ε'} :
    computation.mapError f = .error error ↔
      ∃ source : ε, computation = .error source ∧ error = f source := by
  constructor
  · intro failed
    cases computation with
    | error source => exact ⟨source, rfl, (Except.error.inj failed).symm⟩
    | ok result => cases failed
  · rintro ⟨source, rfl, rfl⟩
    rfl

theorem mapError_bind (computation : Except ε α) (next : α → Except ε β) (f : ε → ε') :
    (computation >>= next).mapError f =
      computation.mapError f >>= fun between => (next between).mapError f := by
  cases computation <;> rfl

theorem mapError_pure (result : α) (f : ε → ε') :
    (pure result : Except ε α).mapError f = pure result := rfl

theorem exists_error_iff {computation : Except ε α} :
    (∃ error : ε, computation = .error error) ↔ ¬ ∃ result : α, computation = .ok result := by
  cases computation <;> simp

/-! ## Items of a list -/

theorem mapM_eq_ok_iff {compute : α → Except ε β} {items : List α} {results : List β} :
    items.mapM compute = .ok results ↔
      List.Forall₂ (fun item result => compute item = .ok result) items results := by
  induction items generalizing results with
  | nil => simp [pure, Except.pure, @eq_comm _ []]
  | cons item items induction =>
      rw [List.mapM_cons, List.forall₂_cons_left_iff, bind_eq_ok_iff]
      constructor
      · rintro ⟨first, one, others⟩
        obtain ⟨rest, more, done⟩ := bind_eq_ok_iff.mp others
        cases done
        exact ⟨first, rest, one, induction.mp more, rfl⟩
      · rintro ⟨first, rest, one, more, rfl⟩
        exact ⟨first, one, bind_eq_ok_iff.mpr ⟨rest, induction.mpr more, rfl⟩⟩

theorem exists_of_mapM_eq_ok {compute : α → Except ε β} {items : List α} {results : List β}
    (done : items.mapM compute = .ok results) :
    ∀ item ∈ items, ∃ result ∈ results, compute item = .ok result := by
  rw [mapM_eq_ok_iff] at done
  induction done with
  | nil => exact fun item member => absurd member List.not_mem_nil
  | @cons item result items results first others induction =>
      refine List.forall_mem_cons.mpr ⟨⟨result, List.mem_cons_self, first⟩, fun other member => ?_⟩
      obtain ⟨result', there, given⟩ := induction other member
      exact ⟨result', List.mem_cons_of_mem _ there, given⟩

/-- The first item without a result decides, whatever the later ones are. -/
theorem mapM_eq_error_iff {compute : α → Except ε β} {items : List α} {error : ε} :
    items.mapM compute = .error error ↔
      ∃ (before : List α) (failing : α) (later : List α), items = before ++ failing :: later
        ∧ (∀ item ∈ before, ∃ result : β, compute item = .ok result)
        ∧ compute failing = .error error := by
  induction items with
  | nil => simp [pure, Except.pure]
  | cons item items induction =>
      rw [List.mapM_cons, bind_eq_error_iff]
      constructor
      · rintro (failed | ⟨first, one, others⟩)
        · exact ⟨[], item, items, rfl, by simp, failed⟩
        · rcases bind_eq_error_iff.mp others with failed | ⟨rest, more, done⟩
          · obtain ⟨before, failing, later, rfl, given, failed⟩ := induction.mp failed
            exact ⟨item :: before, failing, later, rfl,
              List.forall_mem_cons.mpr ⟨⟨first, one⟩, given⟩, failed⟩
          · cases done
      · rintro ⟨before, failing, later, split, given, failed⟩
        cases before with
        | nil =>
            obtain ⟨rfl, rfl⟩ := List.cons.inj split
            exact .inl failed
        | cons first before =>
            obtain ⟨rfl, rfl⟩ := List.cons.inj split
            obtain ⟨⟨result, one⟩, given⟩ := List.forall_mem_cons.mp given
            refine .inr ⟨result, one, bind_eq_error_iff.mpr (.inl ?_)⟩
            exact induction.mpr ⟨before, failing, later, rfl, given, failed⟩

/-! ## What a computation fails with -/

/-- Is every error of a computation an allowed one? -/
def FailsOnly (allowed : ε → Prop) (computation : Except ε α) : Prop :=
  ∀ error : ε, computation = .error error → allowed error

namespace FailsOnly

variable {allowed : ε → Prop} {computation : Except ε α}

theorem ok (result : α) : FailsOnly allowed (.ok result : Except ε α) := nofun

theorem bind {next : α → Except ε β} (first : FailsOnly allowed computation)
    (others : ∀ result : α, FailsOnly allowed (next result)) :
    FailsOnly allowed (computation >>= next) := by
  intro error failed
  rcases bind_eq_error_iff.mp failed with fails | ⟨result, -, fails⟩
  · exact first error fails
  · exact others result error fails

theorem mapError (computation : Except ε' α) {f : ε' → ε} (all : ∀ error : ε', allowed (f error)) :
    FailsOnly allowed (computation.mapError f) := by
  intro error failed
  obtain ⟨source, -, rfl⟩ := mapError_eq_error_iff.mp failed
  exact all source

end FailsOnly

end PoolOperator.Except
