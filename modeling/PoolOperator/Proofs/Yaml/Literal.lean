import PoolOperator.Proofs.Yaml.Inline
import PoolOperator.Yaml.Token.Block

/-!
# Reading literal blocks

A text with line feeds is written as a literal block, and the block is read
back as the text (`readBlock_value`).  Two things have to fit together.  The
header tells the indentation where the first line does not show it, and the
lines keep what stands behind the indentation.  The header also tells how many
of the line breaks at the end belong to the text, and the block that is written
ends with one line break in any case.
-/

namespace PoolOperator.Yaml

/-! ## The lines -/

/-- What has been read of the lines of a block when the characters `read` are
behind, and the next place is `mark`. -/
structure BlockLines.Kept (lines : BlockLines) (read : List Char) (mark : Mark) : Prop where
  /-- All characters are kept. -/
  joined : lines.others ++ lines.first.toList ++ lines.done = read.reverse
  /-- No line breaks are pending inside a line. -/
  inside : lines.inLine = true → lines.others = [] ∧ lines.first = none
  /-- Outside of a line, a new one is about to begin. -/
  lineStart : lines.inLine = false → mark.column = 0

/-- Before the first line. -/
theorem BlockLines.kept_nil (line : Nat) : BlockLines.Kept {} [] ⟨line, 0⟩ :=
  ⟨rfl, nofun, fun _ => rfl⟩

theorem readBlockLines_indentation {indent : Nat} {start : Mark} {lines : BlockLines}
    {rest : List Char} (outside : lines.inLine = false) :
    ∀ (count : Nat) (mark : Mark), mark.column + count ≤ indent →
      readBlockLines false indent start lines (spaces count ++ rest) mark =
        readBlockLines false indent start lines rest (mark.right count)
  | 0, _, _ => rfl
  | count + 1, mark, fits => by
      have left : mark.column < indent := by omega
      rw [spaces_succ, List.cons_append, readBlockLines]
      simp only [outside, Bool.false_eq_true, if_false, isBreak_space, left, if_true]
      rw [readBlockLines_indentation outside count (mark.right 1)
        (by simp only [Mark.right_column]; omega), Mark.right_right, Nat.add_comm 1]

theorem readBlockLines_break (indent : Nat) (start : Mark) {mark : Mark} {lines : BlockLines}
    {read : List Char} {char : Char} (kept : lines.Kept read mark) (breaks : isBreak char = true) :
    ∃ next : BlockLines, next.Kept (read ++ [char]) (mark.past char) ∧ next.inLine = false
      ∧ (lines.inLine = true → next.others = [] ∧ next.first = some char) ∧ ∀ rest : List Char,
        readBlockLines false indent start lines (char :: rest) mark =
          readBlockLines false indent start next rest (mark.past char) := by
  have column : (mark.past char).column = 0 := by rw [Mark.past_of_break mark breaks]
  by_cases inLine : lines.inLine = true
  · obtain ⟨noOthers, noFirst⟩ := kept.inside inLine
    have done : lines.done = read.reverse := by simpa [noOthers, noFirst] using kept.joined
    refine ⟨{ lines with inLine := false, first := some char }, ⟨?_, nofun, fun _ => column⟩, rfl,
      fun _ => ⟨noOthers, rfl⟩, fun rest => ?_⟩
    · simp [noOthers, done]
    · rw [readBlockLines, if_pos inLine, if_pos breaks]
  · refine ⟨{ lines with others := char :: lines.others },
      ⟨?_, ?_, fun _ =>
        column⟩, by simpa using inLine, fun inside => absurd inside inLine, fun rest => ?_⟩
    · simp only [List.cons_append, kept.joined, List.reverse_append, List.reverse_cons,
        List.reverse_nil, List.nil_append]
    · intro inside
      exact absurd inside inLine
    · rw [readBlockLines, if_neg inLine, if_pos breaks]

/-- A character of a line, with the indentation before it if it is the first. -/
theorem readBlockLines_char (indent : Nat) (start : Mark) {mark : Mark} {lines : BlockLines}
    {read : List Char} {char : Char} (kept : lines.Kept read mark) (inLine : isBreak char = false) :
    ∃ (next : BlockLines) (after : Mark), after.line = mark.line ∧ next.Kept (read ++ [char]) after
      ∧ next.inLine = true ∧ ∀ rest : List Char,
        readBlockLines false indent start lines
            ((if !lines.inLine then spaces indent else []) ++ char :: rest) mark =
          readBlockLines false indent start next rest after := by
  by_cases inside : lines.inLine = true
  · obtain ⟨noOthers, noFirst⟩ := kept.inside inside
    have done : lines.done = read.reverse := by simpa [noOthers, noFirst] using kept.joined
    refine ⟨{ lines with done := char :: lines.done }, mark.right 1, rfl, ⟨?_, ?_, ?_⟩, inside,
      fun rest => ?_⟩
    · simp [noOthers, noFirst, done]
    · exact fun _ => ⟨noOthers, noFirst⟩
    · intro outside
      exact absurd inside (by simpa using outside)
    · rw [if_neg (by simp [inside]), List.nil_append, readBlockLines, if_pos inside,
        if_neg (by simp [inLine])]
  · have outside : lines.inLine = false := by simpa using inside
    have column : mark.column = 0 := kept.lineStart outside
    refine ⟨
      { inLine := true, done := char :: lines.joined false (isGap char), blankLine := isGap char },
      mark.right (indent + 1), rfl, ⟨?_, ?_, nofun⟩, rfl, fun rest => ?_⟩
    · simp [BlockLines.joined, ← kept.joined]
    · exact fun _ => ⟨rfl, rfl⟩
    · have deep : ¬ (mark.right indent).column < indent := by simp [column]
      rw [if_pos (by simp [outside]), readBlockLines_indentation outside indent mark (by omega),
        readBlockLines, if_neg (by simp [outside]), if_neg (by simp [inLine]), if_neg deep,
        Mark.right_right]

/-- What is written as the lines of a block is read back, from the middle of
the block on. -/
theorem readBlockLines_literalLines (indent : Nat) (start : Mark) :
    ∀ (chars : List Char) (lines : BlockLines) (read : List Char) (mark : Mark),
      lines.Kept read mark →
      ∃ (next : BlockLines) (after : Mark), mark.line ≤ after.line
        ∧ next.Kept (read ++ chars) after
        ∧ next.inLine = (chars.getLast?.map fun last => !isBreak last).getD lines.inLine
        ∧ ∀ rest : List Char,
          readBlockLines false indent start lines
              (literalLines indent (!lines.inLine) chars ++ rest) mark =
            readBlockLines false indent start next rest after
  | [], lines, read, mark, kept =>
      ⟨lines, mark, Nat.le_refl _, by simpa using kept, rfl, fun _ => rfl⟩
  | char :: chars, lines, read, mark, kept => by
      have last (flag : Bool) : ((char :: chars).getLast?.map fun last => !isBreak last).getD flag =
          (chars.getLast?.map fun last => !isBreak last).getD (!isBreak char) := by
        cases chars with
        | nil => rfl
        | cons other chars => simp [List.getLast?_cons]
      rw [last]
      by_cases breaks : isBreak char = true
      · obtain ⟨next, nextKept, outside, _, first⟩ :=
          readBlockLines_break indent start kept breaks
        obtain ⟨final, after, later, finalKept, inLine, others⟩ :=
          readBlockLines_literalLines indent start chars next _ _ nextKept
        refine ⟨final, after, Nat.le_trans (mark.line_le_past char) later,
          by simpa using finalKept, by simp [inLine, outside, breaks], fun rest => ?_⟩
        rw [literalLines, if_pos breaks, List.cons_append, first, ← others rest, outside]
        rfl
      · have noBreak : isBreak char = false := by simpa using breaks
        obtain ⟨next, middle, line, nextKept, inside, first⟩ :=
          readBlockLines_char indent start kept noBreak
        obtain ⟨final, after, later, finalKept, inLine, others⟩ :=
          readBlockLines_literalLines indent start chars next _ _ nextKept
        refine ⟨final, after, Nat.le_trans (Nat.le_of_eq line.symm) later,
          by simpa using finalKept, by simp [inLine, inside, noBreak], fun rest => ?_⟩
        rw [literalLines, if_neg breaks, List.append_assoc, List.cons_append, first, ← others rest,
          inside]
        rfl

/-- A block ends before a line that is not indented as far. -/
theorem readBlockLines_end {indent column : Nat} {start mark : Mark} {lines : BlockLines}
    {rest : List Char} (outside : lines.inLine = false) (lineStart : mark.column = 0)
    (near : column < indent) (begins : beginsToken rest = true) :
    readBlockLines false indent start lines (spaces column ++ rest) mark =
      .ok (lines, ⟨rest, ⟨mark.line, column⟩⟩) := by
  have place : mark.right column = ⟨mark.line, column⟩ := by simp [Mark.right, lineStart]
  rw [readBlockLines_indentation outside column mark (by omega), place]
  cases rest with
  | nil => rfl
  | cons char rest =>
      simp only [beginsToken, Bool.not_eq_true', Bool.or_eq_false_iff, isGap,
        decide_eq_false_iff_not] at begins
      obtain ⟨⟨⟨⟨noSpace, noTab⟩, noBreak⟩, _⟩, _⟩ := begins
      rw [readBlockLines, if_neg (by simp [outside]), if_neg (by simp [noBreak]), if_pos near,
        if_neg noSpace, if_neg noTab]

/-! ## The end of a text -/

/-- The mark in a header for what becomes of the line breaks at the end. -/
def Chomping.mark : Chomping → List Char
  | .strip => ['-']
  | .clip => []
  | .keep => ['+']

/-- What has to become of the line breaks at the end of a block so that a text
comes out of it. -/
inductive Chomping.Fits : Chomping → List Char → Prop where
  /-- The line break at the end of the block is not in the text. -/
  | strip {init : List Char} {last : Char} (inLine : isBreak last = false) :
      Fits .strip (init ++ [last])
  /-- The line break at the end of the block is the one of the text. -/
  | clip {init : List Char} {before last : Char} (inLine : isBreak before = false)
      (breaks : isBreak last = true) : Fits .clip (init ++ [before] ++ [last])
  /-- The text ends with several line breaks, or is nothing but one. -/
  | keep {init : List Char} {last : Char} (breaks : isBreak last = true) :
      Fits .keep (init ++ [last])

/-- The indentation in a header, where the first line does not show it. -/
def indentationMark : List Char → List Char
  | char :: _ => if char = ' ' || isBreak char then ['2'] else []
  | [] => []

/-- The mark in a header for the line breaks at the end of a text. -/
def endMark (chars : List Char) : List Char :=
  match chars.reverse with
  | char :: rest =>
      if !isBreak char then ['-']
      else match rest with
        | [] => ['+']
        | char :: _ => if isBreak char then ['+'] else []
  | [] => ['-']

theorem literalHeader_eq (chars : List Char) :
    literalHeader chars = '|' :: (indentationMark chars ++ endMark chars) := by
  cases chars with
  | nil => rfl
  | cons char rest => rfl

/-- The header of a text says what its end asks for. -/
theorem endMark_eq {chars : List Char} (filled : chars ≠ []) :
    ∃ chomping : Chomping, chomping.Fits chars ∧ endMark chars = chomping.mark := by
  obtain ⟨init, last, same⟩ := (List.eq_nil_or_concat chars).resolve_left filled
  rw [List.concat_eq_append] at same
  subst same
  by_cases breaks : isBreak last = true
  · rcases List.eq_nil_or_concat init with same | ⟨init, before, same⟩
    · subst same
      exact ⟨.keep, .keep breaks, by simp [endMark, breaks, Chomping.mark]⟩
    · rw [List.concat_eq_append] at same
      subst same
      by_cases again : isBreak before = true
      · exact ⟨.keep, .keep breaks, by simp [endMark, breaks, again, Chomping.mark]⟩
      · exact ⟨.clip, .clip (by simpa using again) breaks, by
          simp [endMark, breaks, again, Chomping.mark]⟩
  · exact ⟨.strip, .strip (by simpa using breaks), by simp [endMark, breaks, Chomping.mark]⟩

theorem readBlockMarks_header (start mark : Mark) (rest chars : List Char) (chomping : Chomping) :
    ∃ after : Mark, after.line = mark.line ∧
      readBlockMarks start ⟨indentationMark chars ++ chomping.mark ++ '\n' :: rest, mark⟩ =
        .ok (chomping, if indentationMark chars = [] then none else some 2,
          ⟨'\n' :: rest, after⟩) := by
  have shown : indentationMark chars = [] ∨ indentationMark chars = ['2'] := by
    unfold indentationMark
    split
    next => split <;> simp
    next => exact .inl rfl
  rcases shown with same | same
  · rw [same]
    cases chomping with
    | strip => exact ⟨mark.right 1, rfl, rfl⟩
    | clip => exact ⟨mark, rfl, rfl⟩
    | keep => exact ⟨mark.right 1, rfl, rfl⟩
  · rw [same]
    cases chomping with
    | strip => exact ⟨(mark.right 1).right 1, rfl, rfl⟩
    | clip => exact ⟨mark.right 1, rfl, rfl⟩
    | keep => exact ⟨(mark.right 1).right 1, rfl, rfl⟩

theorem literalLines_concat {indent : Nat} {last : Char} (breaks : isBreak last = true) :
    ∀ (init : List Char) (broken : Bool),
      literalLines indent broken (init ++ [last]) = literalLines indent broken init ++ [last]
  | [], _ => by simp [literalLines, breaks]
  | char :: init, broken => by
      simp only [List.cons_append, literalLines, literalLines_concat breaks init]
      split
      next => rfl
      next => simp

theorem getLast?_literalLines (indent : Nat) :
    ∀ (chars : List Char) (broken : Bool), chars ≠ [] →
      (literalLines indent broken chars).getLast? = chars.getLast?
  | [], _, filled => absurd rfl filled
  | [char], broken, _ => by
      unfold literalLines
      split
      next => rfl
      next => simp [literalLines]
  | char :: other :: chars, broken, _ => by
      have rest (flag : Bool) := getLast?_literalLines indent (other :: chars) flag (by simp)
      rw [literalLines, List.getLast?_cons_cons]
      split
      next => rw [List.getLast?_cons, rest]; simp [List.getLast?_cons]
      next => rw [List.getLast?_append, List.getLast?_cons, rest]; simp [List.getLast?_cons]

/-- The line break that the writer adds at the end of a block. -/
def addedBreak (chars : List Char) : List Char :=
  if (chars.getLast?.map isBreak).getD false then [] else ['\n']

/-- The lines of a text are read back up to the end of the last one, and what is
left of the line breaks makes up the text. -/
theorem readBlockLines_text (indent : Nat) (start : Mark) {chars : List Char}
    {chomping : Chomping} (fits : chomping.Fits chars) (line : Nat) :
    ∃ (lines : BlockLines) (after : Mark), line ≤ after.line ∧ after.column = 0
      ∧ lines.inLine = false ∧ lines.text chomping = String.ofList chars
      ∧ ∀ rest : List Char,
        readBlockLines false indent start {}
            (literalLines indent true chars ++ (addedBreak chars ++ rest)) ⟨line, 0⟩ =
          readBlockLines false indent start lines rest after := by
  cases fits with
  | @strip init last inLine =>
      obtain ⟨middle, place, later, kept, inside, read⟩ := readBlockLines_literalLines
        indent start (init ++ [last]) {} [] ⟨line, 0⟩ (BlockLines.kept_nil line)
      have inside : middle.inLine = true := by simpa [inLine] using inside
      obtain ⟨lines, linesKept, outside, single, ending⟩ :=
        readBlockLines_break indent start kept isBreak_newline
      obtain ⟨noOthers, first⟩ := single inside
      refine ⟨lines, _, Nat.le_trans later (place.line_le_past '\n'), rfl, outside, ?_, fun rest =>
        ?_⟩
      · have done := linesKept.joined
        simp only [noOthers, first, Option.toList_some, List.nil_append, List.singleton_append,
          List.reverse_append, List.reverse_cons, List.reverse_nil, List.cons.injEq,
          true_and] at done
        simp [BlockLines.text, done]
      · have added : addedBreak (init ++ [last]) = ['\n'] := by simp [addedBreak, inLine]
        rw [added, List.singleton_append, ← ending rest]
        exact read _
  | @clip init before last inLine breaks =>
      obtain ⟨middle, place, later, kept, inside, read⟩ := readBlockLines_literalLines
        indent start (init ++ [before]) {} [] ⟨line, 0⟩ (BlockLines.kept_nil line)
      have inside : middle.inLine = true := by simpa [inLine] using inside
      obtain ⟨lines, linesKept, outside, single, ending⟩ :=
        readBlockLines_break indent start kept breaks
      obtain ⟨noOthers, first⟩ := single inside
      refine ⟨lines, _, Nat.le_trans later (place.line_le_past last), linesKept.lineStart outside,
        outside, ?_, fun rest => ?_⟩
      · have all := linesKept.joined
        rw [noOthers, List.nil_append] at all
        simp [BlockLines.text, all]
      · have added : addedBreak (init ++ [before] ++ [last]) = [] := by simp [addedBreak, breaks]
        rw [added, List.nil_append, literalLines_concat breaks, List.append_assoc,
          List.singleton_append, ← ending rest]
        exact read _
  | @keep init last breaks =>
      obtain ⟨lines, after, later, kept, outside, read⟩ := readBlockLines_literalLines
        indent start (init ++ [last]) {} [] ⟨line, 0⟩ (BlockLines.kept_nil line)
      have outside : lines.inLine = false := by simpa [breaks] using outside
      refine ⟨lines, after, later, kept.lineStart outside, outside, ?_, fun rest => ?_⟩
      · rw [BlockLines.text, kept.joined]
        simp
      · have added : addedBreak (init ++ [last]) = [] := by simp [addedBreak, breaks]
        rw [added, List.nil_append]
        exact read rest

/-! ## Blocks -/

/-- The first line shows the indentation, if it does not begin with a blank. -/
theorem leadingColumn_spaces {start : Mark} {char : Char} {rest : List Char}
    (noGap : isGap char = false) (inLine : isBreak char = false) :
    ∀ (count : Nat) (mark : Mark),
      leadingColumn start 0 (spaces count ++ char :: rest) mark = .ok (mark.column + count)
  | 0, mark => by
      simp only [isGap, Bool.or_eq_false_iff, decide_eq_false_iff_not] at noGap
      rw [spaces, List.replicate_zero, List.nil_append, leadingColumn, if_neg noGap.1,
        if_neg noGap.2, if_neg (by simp [inLine])]
      simp
  | count + 1, mark => by
      rw [spaces_succ, List.cons_append, leadingColumn, if_pos rfl,
        leadingColumn_spaces noGap inLine count (mark.right 1), Mark.right_column]
      congr 1
      omega

theorem Cursor.skipComment_newline (rest : List Char) (mark : Mark) :
    Cursor.skipComment ⟨'\n' :: rest, mark⟩ = ⟨'\n' :: rest, mark⟩ := rfl

theorem Cursor.skipBreak?_newline (rest : List Char) (mark : Mark) :
    Cursor.skipBreak? ⟨'\n' :: rest, mark⟩ = some ⟨rest, ⟨mark.line + 1, 0⟩⟩ := rfl

/-- A literal block is read back, from after the character that starts it. -/
theorem readBlock_value (start mark : Mark) {parent : Int} {chars header rest : List Char}
    {column : Nat} (inside : 0 ≤ parent) (allowed : allowsBlock chars = true)
    (headed : literalHeader chars = '|' :: header) (near : column ≤ parent)
    (begins : beginsToken rest = true) :
    ∃ line : Nat, mark.line < line ∧
      readBlock false parent start
          ⟨header ++ '\n' :: (literalLines (parent.toNat + 2) true chars
            ++ (addedBreak chars ++ (spaces column ++ rest))), mark⟩ =
        .ok (String.ofList chars, ⟨rest, ⟨line, column⟩⟩) := by
  simp only [allowsBlock, isClean, Bool.and_eq_true, Bool.not_eq_true', List.isEmpty_eq_false_iff,
    List.all_eq_true] at allowed
  obtain ⟨⟨⟨printable, _⟩, filled⟩, _⟩ := allowed
  obtain ⟨chomping, fits, ending⟩ := endMark_eq filled
  rw [literalHeader_eq, ending] at headed
  cases headed
  obtain ⟨after, line, marks⟩ := readBlockMarks_header start mark
    (literalLines (parent.toNat + 2) true chars
      ++ (addedBreak chars ++ (spaces column ++ rest))) chars chomping
  obtain ⟨lines, final, later, lineStart, outside, text, read⟩ :=
    readBlockLines_text (parent.toNat + 2) start fits (after.line + 1)
  refine ⟨final.line, by omega, ?_⟩
  have ended := read (spaces column ++ rest)
  rw [readBlockLines_end outside lineStart (by omega) begins] at ended
  unfold readBlock
  rw [marks]
  simp only [bind, Except.bind, Cursor.skipComment_newline, Cursor.skipBreak?_newline]
  by_cases shown : indentationMark chars = []
  · -- The first line shows the indentation.
    cases chars with
    | nil => exact absurd rfl filled
    | cons char chars =>
        have first := shown
        simp only [indentationMark, ite_eq_right_iff, List.cons_ne_nil, imp_false, Bool.or_eq_true,
          decide_eq_true_eq, not_or, Bool.not_eq_true] at first
        have noGap : isGap char = false := by
          simp [isGap_of_isPrintable (printable char List.mem_cons_self), first.1]
        have leading : leadingColumn start 0 (literalLines (parent.toNat + 2) true (char :: chars)
            ++ (addedBreak (char :: chars) ++ (spaces column ++ rest))) ⟨after.line + 1, 0⟩ =
              .ok (parent.toNat + 2) := by
          rw [literalLines, if_neg (by simp [first.2]), if_pos rfl, List.append_assoc,
            List.cons_append, leadingColumn_spaces noGap first.2, Nat.zero_add]
        have indent : max (parent.toNat + 2) (max (parent + 1) 1).toNat = parent.toNat + 2 := by
          omega
        simp only [shown, if_true, leading, pure, Except.pure, indent, ended, text]
  · have indent : (max parent 0).toNat + 2 = parent.toNat + 2 := by omega
    simp only [shown, if_false, pure, Except.pure, indent, ended, text]

end PoolOperator.Yaml
