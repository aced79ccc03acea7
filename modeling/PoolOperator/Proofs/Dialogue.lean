import PoolOperator.Dialogue

/-!
# The course of a dialogue

A dialogue runs through some questions, each with its answer, to a result
(`Dialogue.Runs`).  Two dialogues one after the other run through the questions of the
first one and then through those of the second one (`Runs.of_bind`).  Whoever gives the
answers, `Dialogue.recording` writes down what the dialogue runs through
(`exists_runs`), and what every answer preserves holds in the end
(`exists_runs_of_invariant`).
-/

namespace PoolOperator.Dialogue

variable {Question : Type} {Answer : Question → Type} {α β ε : Type}

/-- The questions that a dialogue asks in order, each with an answer, and its result. -/
inductive Runs : Dialogue Question Answer α → List (Sigma Answer) → α → Prop
  /-- The dialogue is over. -/
  | done (result : α) : Runs (.done result) [] result
  /-- A question is answered. -/
  | ask {question : Question} {next : Answer question → Dialogue Question Answer α}
      {log : List (Sigma Answer)} {result : α} (answer : Answer question)
      (rest : Runs (next answer) log result) :
      Runs (.ask question next) (⟨question, answer⟩ :: log) result

/-- Does a dialogue ask nothing but allowed questions, whatever the answers? -/
def Asks (allowed : Question → Prop) : Dialogue Question Answer α → Prop
  | .done _ => True
  | .ask question next => allowed question ∧ ∀ answer : Answer question, (next answer).Asks allowed

theorem Asks.bind {dialogue : Dialogue Question Answer α} {next : α → Dialogue Question Answer β}
    {allowed : Question → Prop} (first : dialogue.Asks allowed)
    (others : ∀ result : α, (next result).Asks allowed) : (dialogue >>= next).Asks allowed := by
  induction dialogue with
  | done result => exact others result
  | ask question answered induction =>
      exact ⟨first.1, fun answer => induction answer (first.2 answer)⟩

theorem Asks.imp {dialogue : Dialogue Question Answer α} {allowed others : Question → Prop}
    (asks : dialogue.Asks allowed)
    (weaker : ∀ question : Question, allowed question → others question) :
    dialogue.Asks others := by
  induction dialogue with
  | done result => trivial
  | ask question next induction =>
      exact ⟨weaker question asks.1, fun answer => induction answer (asks.2 answer)⟩

namespace Runs

variable {log : List (Sigma Answer)}

theorem of_done {final result : α}
    (runs : Runs (.done final : Dialogue Question Answer α) log result) :
    log = [] ∧ result = final := by
  cases runs
  exact ⟨rfl, rfl⟩

theorem of_ask {question : Question} {next : Answer question → Dialogue Question Answer α}
    {result : α} (runs : Runs (.ask question next) log result) :
    ∃ (answer : Answer question) (others : List (Sigma Answer)),
      log = ⟨question, answer⟩ :: others ∧ Runs (next answer) others result := by
  cases runs with
  | ask answer rest => exact ⟨answer, _, rfl, rest⟩

theorem of_bind {dialogue : Dialogue Question Answer α} {next : α → Dialogue Question Answer β}
    {result : β} (runs : Runs (dialogue >>= next) log result) :
    ∃ (first others : List (Sigma Answer)) (between : α),
      log = first ++ others ∧ Runs dialogue first between ∧ Runs (next between) others result := by
  induction dialogue generalizing log with
  | done between => exact ⟨[], log, between, rfl, .done between, runs⟩
  | ask question answered induction =>
      obtain ⟨answer, later, rfl, rest⟩ := of_ask runs
      obtain ⟨first, others, between, rfl, before, after⟩ := induction answer rest
      exact ⟨⟨question, answer⟩ :: first, others, between, rfl, .ask answer before, after⟩

theorem of_map {dialogue : Dialogue Question Answer α} {f : α → β} {result : β}
    (runs : Runs (f <$> dialogue) log result) :
    ∃ before : α, result = f before ∧ Runs dialogue log before := by
  obtain ⟨first, others, before, rfl, given, after⟩ := of_bind runs
  obtain ⟨rfl, rfl⟩ := of_done after
  rw [List.append_nil]
  exact ⟨before, rfl, given⟩

/-- After an error nothing is asked. -/
theorem of_bind_except {compute : ExceptT ε (Dialogue Question Answer) α}
    {next : α → ExceptT ε (Dialogue Question Answer) β} {result : Except ε β}
    (runs : Runs (compute >>= next).run log result) :
    (∃ error : ε, result = .error error ∧ Runs compute.run log (.error error))
      ∨ ∃ (first others : List (Sigma Answer)) (value : α),
        log = first ++ others ∧ Runs compute.run first (.ok value)
          ∧ Runs (next value).run others result := by
  obtain ⟨first, others, between, rfl, before, after⟩ := of_bind runs
  cases between with
  | error error =>
      obtain ⟨rfl, rfl⟩ := of_done after
      rw [List.append_nil]
      exact .inl ⟨error, rfl, before⟩
  | ok value => exact .inr ⟨first, others, value, rfl, before, after⟩

theorem allowed {dialogue : Dialogue Question Answer α} {result : α}
    (runs : Runs dialogue log result) {allowed : Question → Prop} (asks : dialogue.Asks allowed) :
    ∀ answered ∈ log, allowed answered.1 := by
  induction runs with
  | done result => exact fun answered member => absurd member List.not_mem_nil
  | ask answer rest induction => exact List.forall_mem_cons.mpr ⟨asks.1, induction (asks.2 answer)⟩

end Runs

/-! ## Recording -/

/-- Answers that are written down with their questions, each after the ones before. -/
def recording {m : Type → Type} [Monad m] (answer : (question : Question) → m (Answer question))
    (question : Question) : StateT (List (Sigma Answer)) m (Answer question) := do
  let given ← StateT.lift (answer question)
  modify fun log => log ++ [⟨question, given⟩]
  return given

variable {ρ σ : Type} (answer : (question : Question) → StateT ρ (StateM σ) (Answer question))

/-- The answer to a question, and the states after it. -/
def given (question : Question) (own : ρ) (state : σ) : (Answer question × ρ) × σ :=
  ((answer question).run own).run state

/-- A dialogue that is recorded runs as it does otherwise, and the record tells how.
What every answer preserves of the record and the states holds in the end. -/
theorem exists_runs_of_invariant (Invariant : List (Sigma Answer) → ρ → σ → Prop)
    (preserved : ∀ (question : Question) (log : List (Sigma Answer)) (own : ρ) (state : σ),
      Invariant log own state →
      Invariant (log ++ [⟨question, (given answer question own state).1.1⟩])
        (given answer question own state).1.2 (given answer question own state).2)
    (dialogue : Dialogue Question Answer α) (earlier : List (Sigma Answer)) (own : ρ) (state : σ)
    (holds : Invariant earlier own state) :
    ∃ (log : List (Sigma Answer)) (result : α) (own' : ρ) (after : σ), Runs dialogue log result
      ∧ ((dialogue.run answer).run own).run state = ((result, own'), after)
      ∧ (((dialogue.run (recording answer)).run earlier).run own).run state =
        (((result, earlier ++ log), own'), after)
      ∧ Invariant (earlier ++ log) own' after := by
  induction dialogue generalizing earlier own state with
  | done result =>
      refine ⟨[], result, own, state, .done result, rfl, ?_⟩
      rw [List.append_nil]
      exact ⟨rfl, holds⟩
  | ask question next induction =>
      -- The rest is recorded after what the first answer leaves behind.
      let first := given answer question own state
      obtain ⟨log, result, own', after, runs, ran, recorded, holds'⟩ :=
        induction first.1.1 (earlier ++ [⟨question, first.1.1⟩]) first.1.2 first.2
          (preserved question earlier own state holds)
      refine ⟨⟨question, first.1.1⟩ :: log, result, own', after, .ask first.1.1 runs, ran, ?_⟩
      rw [List.append_cons]
      exact ⟨recorded, holds'⟩

theorem exists_runs (dialogue : Dialogue Question Answer α)
    (earlier : List (Sigma Answer)) (own : ρ) (state : σ) :
    ∃ (log : List (Sigma Answer)) (result : α) (own' : ρ) (after : σ), Runs dialogue log result
      ∧ ((dialogue.run answer).run own).run state = ((result, own'), after)
      ∧ (((dialogue.run (recording answer)).run earlier).run own).run state =
        (((result, earlier ++ log), own'), after) := by
  have always : ∀ (question : Question) (log : List (Sigma Answer)) (own : ρ) (state : σ),
      True → True :=
    fun _ _ _ _ _ => trivial
  obtain ⟨log, result, own', after, runs, ran, recorded, -⟩ :=
    exists_runs_of_invariant answer (fun _ _ _ => True) always dialogue earlier own state trivial
  exact ⟨log, result, own', after, runs, ran, recorded⟩

end PoolOperator.Dialogue
