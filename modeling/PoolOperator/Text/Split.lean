/-!
# Splitting texts
-/

namespace PoolOperator.Text

/-- The parts of a list before and after the first item of a kind; nothing if
there is none. -/
def splitOnce? {α : Type} (stop : α → Bool) : List α → Option (List α × List α)
  | [] => none
  | item :: rest =>
      if stop item then some ([], rest)
      else (splitOnce? stop rest).map fun (before, after) => (item :: before, after)

/-- Cuts a text at its first slash. -/
def cutAtSlash? (text : String) : Option (String × String) :=
  (splitOnce? (· = '/') text.toList).map fun (before, after) =>
    (String.ofList before, String.ofList after)

/-- Nothing but the separator is lost. -/
theorem append_of_splitOnce? {α : Type} {stop : α → Bool} {items before after : List α}
    (found : splitOnce? stop items = some (before, after)) :
    ∃ separator, stop separator = true ∧ items = before ++ separator :: after := by
  induction items generalizing before with
  | nil => simp [splitOnce?] at found
  | cons item rest induction =>
      simp only [splitOnce?] at found
      split at found
      next stops =>
        cases found
        exact ⟨item, stops, rfl⟩
      next =>
        obtain ⟨⟨front, back⟩, cut, equal⟩ := Option.map_eq_some_iff.mp found
        cases equal
        obtain ⟨separator, stops, whole⟩ := induction cut
        exact ⟨separator, stops, by simp [whole]⟩

end PoolOperator.Text
