/-!
# Dialogues

A dialogue is a computation that puts questions to its surroundings and goes on
with the answers.  It is a value: what is asked, and in which order, can be
read off it, and nothing is said about where the answers come from.

`Dialogue.run` gives the answers, in any monad.  Dialogues form a lawful monad,
and running them respects it (`run_bind`).
-/

namespace PoolOperator

/-- A computation that asks questions.  `Answer` is the type of the answers to
a question. -/
inductive Dialogue (Question : Type) (Answer : Question → Type) (α : Type) : Type where
  /-- The result, without a further question. -/
  | done (result : α)
  /-- A question, and what is done with the answer. -/
  | ask (question : Question) (next : Answer question → Dialogue Question Answer α)

namespace Dialogue

variable {Question : Type} {Answer : Question → Type} {α β γ : Type}

/-- Goes on with the result of a dialogue. -/
def bind :
    Dialogue Question Answer α → (α → Dialogue Question Answer β) → Dialogue Question Answer β
  | .done result, next => next result
  | .ask question answered, next => .ask question fun answer => (answered answer).bind next

instance : Monad (Dialogue Question Answer) where
  pure := .done
  bind := bind

/-- The result of a dialogue whose questions are answered in a monad. -/
def run {m : Type → Type} [Monad m] (answer : (question : Question) → m (Answer question)) :
    Dialogue Question Answer α → m α
  | .done result => pure result
  | .ask question next => do (next (← answer question)).run answer

/-! ## Laws -/

theorem bind_done (dialogue : Dialogue Question Answer α) : dialogue.bind .done = dialogue := by
  induction dialogue with
  | done result => rfl
  | ask question next induction => simp only [bind, induction]

theorem bind_assoc (dialogue : Dialogue Question Answer α) (f : α → Dialogue Question Answer β)
    (g : β → Dialogue Question Answer γ) :
    (dialogue.bind f).bind g = dialogue.bind fun result => (f result).bind g := by
  induction dialogue with
  | done result => rfl
  | ask question next induction => simp only [bind, induction]

instance : LawfulMonad (Dialogue Question Answer) :=
  LawfulMonad.mk' (Dialogue Question Answer) bind_done (fun _ _ => rfl) bind_assoc

/-- Running one dialogue after another is running both. -/
theorem run_bind {m : Type → Type} [Monad m] [LawfulMonad m]
    (answer : (question : Question) → m (Answer question)) (dialogue : Dialogue Question Answer α)
    (next : α → Dialogue Question Answer β) :
    (dialogue.bind next).run answer = dialogue.run answer >>= fun result =>
      (next result).run answer := by
  induction dialogue with
  | done result => simp [bind, run]
  | ask question answered induction => simp [bind, run, induction]

end Dialogue

end PoolOperator
