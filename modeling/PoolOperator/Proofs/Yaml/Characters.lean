import PoolOperator.Yaml.Writer

/-!
# Characters of written documents

What the readers need to know of the characters that `Yaml.write` puts out:
they are allowed in a document and no tabs, carriage returns or byte order
marks.  The last section says how a place moves over characters that end no
line.
-/

namespace PoolOperator.Yaml

/-! ## Blanks and line breaks -/

@[simp] theorem isGap_space : isGap ' ' = true := rfl

@[simp] theorem isBreak_space : isBreak ' ' = false := rfl

@[simp] theorem isBreak_newline : isBreak '\n' = true := rfl

@[simp] theorem isGap_newline : isGap '\n' = false := rfl

/-- A printable character is one that a document may hold. -/
theorem isAllowed_of_isPrintable {char : Char} (printable : isPrintable char = true) :
    isAllowed char = true := by
  simp only [isPrintable, isAllowed, Bool.or_eq_true, Bool.and_eq_true, decide_eq_true_eq] at *
  omega

theorem ne_tab_of_isPrintable {char : Char} (printable : isPrintable char = true) :
    char ≠ '\t' := by
  intro same
  subst same
  exact absurd printable (by decide)

theorem isGap_of_isPrintable {char : Char} (printable : isPrintable char = true) :
    isGap char = decide (char = ' ') := by
  simp [isGap, ne_tab_of_isPrintable printable]

/-- The line breaks of printable characters are in the common form already. -/
theorem unifyBreaks_eq_self :
    ∀ chars : List Char, (∀ char ∈ chars, isPrintable char = true) → unifyBreaks chars = chars
  | [], _ => rfl
  | char :: rest, printable => by
      have first : isPrintable char = true := printable char List.mem_cons_self
      have notReturn : char ≠ '\r' := by
        intro same
        subst same
        exact absurd first (by decide)
      have notNext : char ≠ '\x85' := by
        intro same
        subst same
        exact absurd first (by decide)
      rw [unifyBreaks]
      · simp [notReturn, notNext,
          unifyBreaks_eq_self rest fun other member =>
            printable other (List.mem_cons_of_mem _ member)]
      · intro _ same
        exact absurd same notReturn

/-! ## Neighbours -/

theorem anyNeighbours_tail {condition : Char → Char → Bool} {char : Char} {rest : List Char}
    (none : anyNeighbours condition (char :: rest) = false) :
    anyNeighbours condition rest = false := by
  cases rest with
  | nil => rfl
  | cons other rest =>
      simp only [anyNeighbours, Bool.or_eq_false_iff] at none
      exact none.2

theorem anyNeighbours_cons_cons {condition : Char → Char → Bool} {one other : Char}
    {rest : List Char} (none : anyNeighbours condition (one :: other :: rest) = false) :
    condition one other = false := by
  simp only [anyNeighbours, Bool.or_eq_false_iff] at none
  exact none.1

/-! ## Places -/

@[simp] theorem Mark.right_zero (mark : Mark) : mark.right 0 = mark := rfl

@[simp] theorem Mark.right_right (mark : Mark) (some more : Nat) :
    (mark.right some).right more = mark.right (some + more) := by
  simp [Mark.right, Nat.add_assoc]

@[simp] theorem Mark.right_line (mark : Mark) (columns : Nat) :
    (mark.right columns).line = mark.line := rfl

@[simp] theorem Mark.right_column (mark : Mark) (columns : Nat) :
    (mark.right columns).column = mark.column + columns := rfl

theorem Mark.past_of_not_break (mark : Mark) {char : Char} (inLine : isBreak char = false) :
    mark.past char = mark.right 1 := by
  simp [Mark.past, inLine]

theorem Mark.past_of_break (mark : Mark) {char : Char} (breaks : isBreak char = true) :
    mark.past char = ⟨mark.line + 1, 0⟩ := by
  simp [Mark.past, breaks]

@[simp] theorem Mark.past_space (mark : Mark) : mark.past ' ' = mark.right 1 := rfl

@[simp] theorem Mark.past_newline (mark : Mark) : mark.past '\n' = ⟨mark.line + 1, 0⟩ := rfl

end PoolOperator.Yaml
