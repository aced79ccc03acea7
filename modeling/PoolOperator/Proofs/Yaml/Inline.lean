import PoolOperator.Proofs.Yaml.Characters
import PoolOperator.Yaml.Token.Quoted

/-!
# Reading plain and quoted scalars

What the writer puts on a line as a plain scalar, or between quotes, is read
back as the text that was written (`readPlain_value`, `readPlain_key`,
`readSingleQuoted_quotedLines`, `readDoubleQuoted_escapeChar`).

The readers keep the characters that they have read and the gap since the last
one of them.  So each statement is first proved from the middle of a scalar:
reading on gives what is kept so far, the gap, and the characters to come.
-/

namespace PoolOperator.Yaml

/-! ## Gaps -/

/-- A gap of some spaces on one line. -/
def Gap.ofSpaces (count : Nat) : Gap := { blanks := spaces count }

@[simp] theorem Gap.ofSpaces_zero : Gap.ofSpaces 0 = Gap.empty := rfl

@[simp] theorem Gap.broken_empty : Gap.empty.broken = false := rfl

@[simp] theorem Gap.isEmpty_empty : Gap.empty.isEmpty = true := rfl

@[simp] theorem Gap.onto_empty (done : List Char) : Gap.empty.onto done = done := rfl

@[simp] theorem Gap.broken_ofSpaces (count : Nat) : (Gap.ofSpaces count).broken = false := rfl

@[simp] theorem Gap.add_space_ofSpaces (count : Nat) :
    (Gap.ofSpaces count).add ' ' = Gap.ofSpaces (count + 1) := rfl

theorem Gap.onto_ofSpaces (count : Nat) (done : List Char) :
    (Gap.ofSpaces count).onto done = spaces count ++ done := by
  simp [Gap.onto, Gap.text, Gap.ofSpaces, spaces, List.reverseAux_eq]

/-! ## Plain scalars -/

/-- Two neighbours at which a plain scalar ends. -/
def endsBetween (one other : Char) : Bool :=
  (one = ':' && isGap other) || (one = ' ' && other = '#')

/-- A line that a plain scalar can hold, from some point on where `count` spaces
are pending. -/
structure PlainLine (count : Nat) (chars : List Char) : Prop where
  /-- No character ends the line or has to be escaped. -/
  inLine : ∀ char ∈ chars, isPrintable char = true ∧ isBreak char = false
  /-- The scalar does not end before its last character. -/
  goesOn : anyNeighbours endsBetween (spaces count ++ chars) = false
  /-- The last character is no colon. -/
  noColon : chars.getLast? ≠ some ':'
  /-- The last character is no space. -/
  noSpace : (spaces count ++ chars).getLast? ≠ some ' '

/-- The spaces before a line can be dropped one by one. -/
theorem anyNeighbours_drop_spaces {condition : Char → Char → Bool} {chars : List Char} :
    ∀ count : Nat, anyNeighbours condition (spaces count ++ chars) = false →
      anyNeighbours condition chars = false
  | 0, absent => absent
  | count + 1, absent => anyNeighbours_drop_spaces count (anyNeighbours_tail absent)

theorem anyNeighbours_after_space {condition : Char → Char → Bool} {char : Char}
    {rest : List Char} :
    ∀ count : Nat, anyNeighbours condition (spaces (count + 1) ++ char :: rest) = false →
      condition ' ' char = false
  | 0, absent => anyNeighbours_cons_cons absent
  | count + 1, absent => anyNeighbours_after_space count (anyNeighbours_tail absent)

theorem spaces_succ (count : Nat) : spaces (count + 1) = ' ' :: spaces count := rfl

theorem spaces_succ_append (count : Nat) (rest : List Char) :
    spaces (count + 1) ++ rest = spaces count ++ ' ' :: rest := by
  simp [spaces, List.replicate_succ']

theorem PlainLine.space {count : Nat} {rest : List Char} (line : PlainLine count (' ' :: rest)) :
    PlainLine (count + 1) rest := by
  refine ⟨fun char member => line.inLine char (List.mem_cons_of_mem _ member), ?_, ?_, ?_⟩
  · rw [spaces_succ_append]
    exact line.goesOn
  · intro last
    refine line.noColon ?_
    cases rest with
    | nil => simp at last
    | cons char rest => rw [List.getLast?_cons_cons]; exact last
  · rw [spaces_succ_append]
    exact line.noSpace

/-- Nothing is pending after a character that is no space. -/
theorem PlainLine.other {count : Nat} {char : Char} {rest : List Char}
    (line : PlainLine count (char :: rest)) : PlainLine 0 rest := by
  refine ⟨fun other member => line.inLine other (List.mem_cons_of_mem _ member), ?_, ?_, ?_⟩
  · exact anyNeighbours_tail (anyNeighbours_drop_spaces count line.goesOn)
  · intro last
    refine line.noColon ?_
    cases rest with
    | nil => simp at last
    | cons other rest => rw [List.getLast?_cons_cons]; exact last
  · intro last
    refine line.noSpace ?_
    cases rest with
    | nil => simp [spaces] at last
    | cons other rest =>
        rw [List.getLast?_append, List.getLast?_cons_cons]
        simpa [spaces] using last

/-- A plain scalar does not end inside its line. -/
theorem PlainLine.not_plainEndsAhead {count : Nat} {char : Char} {rest : List Char}
    (line : PlainLine count (char :: rest)) (tail : List Char) :
    plainEndsAhead false (char :: (rest ++ tail)) = false := by
  have colon : char ≠ ':' ∨ blankAhead (rest ++ tail) = false := by
    cases rest with
    | nil => exact .inl fun same => line.noColon (by simp [same])
    | cons other rest =>
        have apart : endsBetween char other = false :=
          anyNeighbours_cons_cons (anyNeighbours_drop_spaces count line.goesOn)
        have inLine : isBreak other = false := (line.inLine other (by simp)).2
        simp only [endsBetween, Bool.or_eq_false_iff, Bool.and_eq_false_iff,
          decide_eq_false_iff_not] at apart
        rcases apart.1 with different | noGap
        · exact .inl different
        · exact .inr (by simp [blankAhead, noGap, inLine])
  rcases colon with different | noBlank
  · simp [plainEndsAhead, different]
  · simp [plainEndsAhead, noBlank]

/-- A plain scalar is read to the end of its line. -/
theorem readPlain_line {indent : Int} {start : Mark} (tail : List Char) :
    ∀ (chars : List Char) (count : Nat) (done : List Char) (mark : Mark),
      PlainLine count chars → indent ≤ mark.column + 1 →
      (0 < count → 0 < mark.column ∧ indent ≤ mark.column) →
      readPlain false indent start done (.ofSpaces count) (chars ++ tail) mark =
        readPlain false indent start (chars.reverse ++ spaces count ++ done) .empty tail
          (mark.right chars.length)
  | [], 0, done, mark, _, _, _ => by simp [spaces]
  | [], count + 1, _, _, line, _, _ => by
      exact absurd (by simp [spaces, List.getLast?_replicate]) line.noSpace
  | char :: rest, count, done, mark, line, far, later => by
      obtain ⟨printable, inLine⟩ := line.inLine char List.mem_cons_self
      rw [List.cons_append, readPlain]
      by_cases space : char = ' '
      · subst space
        simp only [isGap_space, Bool.true_or, if_true, Gap.broken_ofSpaces, Bool.false_and,
          Bool.false_eq_true, if_false, Gap.add_space_ofSpaces, Mark.past_space]
        rw [readPlain_line tail rest (count + 1) done (mark.right 1) line.space
          (by simp only [Mark.right_column]; omega) (by simp only [Mark.right_column]; omega)]
        simp [spaces_succ, Nat.add_comm]
      · have noGap : isGap char = false := by simp [isGap_of_isPrintable printable, space]
        have noEnd : (!(Gap.ofSpaces count).isEmpty
            && ((!false && decide ((mark.column : Int) < indent)) || decide (char = '#')
              || (decide (mark.column = 0) && documentMarkAhead (char :: (rest ++ tail)))))
            = false := by
          cases count with
          | zero => rfl
          | succ count =>
              have apart := anyNeighbours_after_space count line.goesOn
              simp only [endsBetween, Bool.or_eq_false_iff, Bool.and_eq_false_iff,
                decide_eq_false_iff_not, not_true_eq_false, false_or] at apart
              obtain ⟨column, inside⟩ := later (Nat.succ_pos count)
              have near : ¬ (mark.column : Int) < indent := Int.not_lt.mpr inside
              simp [apart.2, near, Nat.ne_of_gt column]
        rw [if_neg (by simp [noGap, inLine]), if_neg (by rw [noEnd]; exact Bool.false_ne_true),
          if_neg (by simp), if_neg (by simp [line.not_plainEndsAhead tail]), Gap.onto_ofSpaces,
          Mark.past_of_not_break mark inLine, ← Gap.ofSpaces_zero,
          readPlain_line tail rest 0 _ (mark.right 1) line.other
            (by simp only [Mark.right_column]; omega) (by simp)]
        simp [spaces, Nat.add_comm]

/-- Does a token begin here, or does the text end? -/
def beginsToken : List Char → Bool
  | [] => true
  | char :: _ => !(isGap char || isBreak char || char = '#' || char = '\ufeff')

theorem readPlain_indentation {indent : Int} {start : Mark} {done rest : List Char} {gap : Gap}
    (broken : gap.broken = true) : ∀ (count : Nat) (mark : Mark),
      readPlain false indent start done gap (spaces count ++ rest) mark =
        readPlain false indent start done gap rest (mark.right count)
  | 0, _ => rfl
  | count + 1, mark => by
      have same : gap.add ' ' = gap := by simp [Gap.add, broken]
      rw [spaces_succ, List.cons_append, readPlain]
      simp only [isGap_space, Bool.true_or, if_true, Char.reduceEq, decide_false, Bool.and_false,
        Bool.false_eq_true, if_false, same, Mark.past_space]
      rw [readPlain_indentation broken count (mark.right 1), Mark.right_right, Nat.add_comm]

/-- A plain scalar ends with its line, if the next one is not indented further. -/
theorem readPlain_newline {indent : Int} {start : Mark} {done rest : List Char} {mark : Mark}
    {column : Nat} (near : column < indent) (begins : beginsToken rest = true) :
    readPlain false indent start done .empty ('\n' :: (spaces column ++ rest)) mark =
      .ok ⟨String.ofList done.reverse, true, ⟨rest, ⟨mark.line + 1, column⟩⟩⟩ := by
  have broken : (Gap.empty.add '\n').broken = true := rfl
  rw [readPlain]
  simp only [isGap_newline, isBreak_newline, Bool.or_true, if_true, Char.reduceEq, decide_false,
    Bool.and_false, Bool.false_eq_true, if_false, Mark.past_newline]
  rw [readPlain_indentation broken]
  cases rest with
  | nil => rw [readPlain, broken]; simp [Mark.right]
  | cons char rest =>
      simp only [beginsToken, Bool.not_eq_true', Bool.or_eq_false_iff] at begins
      have inside : ((Mark.mk (mark.line + 1) 0).right column).column = column := by simp
      rw [readPlain, if_neg (by simp [begins.1.1.1, begins.1.1.2]), inside,
        if_pos (by simp [Gap.isEmpty, broken, near]), broken]
      simp [Mark.right]

/-- A plain scalar ends before the colon that makes it a key. -/
theorem readPlain_colon {indent : Int} {start : Mark} {done rest : List Char} {mark : Mark}
    (blank : blankAhead rest = true) :
    readPlain false indent start done .empty (':' :: rest) mark =
      .ok ⟨String.ofList done.reverse, false, ⟨':' :: rest, mark⟩⟩ := by
  rw [readPlain, if_neg (by decide), if_neg (by simp), if_neg (by simp),
    if_pos (by simp [plainEndsAhead, blank])]
  rfl

theorem plainLine_of_allowsPlain {chars : List Char} (allowed : allowsPlain chars = true) :
    PlainLine 0 chars := by
  simp only [allowsPlain, isClean, endsEarly, Bool.and_eq_true, Bool.not_eq_true',
    List.all_eq_true, decide_eq_true_eq, Bool.or_eq_false_iff, decide_eq_false_iff_not,
    List.any_eq_false] at allowed
  obtain ⟨⟨⟨⟨⟨⟨⟨printable, _⟩, unbroken⟩, _⟩, noSpace⟩, _⟩, _⟩, goesOn, noColon⟩ := allowed
  exact ⟨fun char member => ⟨printable char member, by simpa using unbroken char member⟩,
    goesOn, noColon, noSpace⟩

/-- A plain scalar that ends its line is read back. -/
theorem readPlain_value (start : Mark) {indent : Int} {mark : Mark} {chars rest : List Char}
    {column : Nat} (allowed : allowsPlain chars = true) (far : indent ≤ mark.column + 1)
    (near : column < indent) (begins : beginsToken rest = true) :
    readPlain false indent start [] .empty (chars ++ '\n' :: (spaces column ++ rest)) mark =
      .ok ⟨String.ofList chars, true, ⟨rest, ⟨mark.line + 1, column⟩⟩⟩ := by
  rw [← Gap.ofSpaces_zero, readPlain_line _ chars 0 [] mark (plainLine_of_allowsPlain allowed) far
    (by simp), readPlain_newline near begins]
  simp [spaces]

/-- A plain scalar before a colon is read back. -/
theorem readPlain_key (start : Mark) {indent : Int} {mark : Mark} {chars rest : List Char}
    (allowed : allowsPlain chars = true) (far : indent ≤ mark.column + 1)
    (blank : blankAhead rest = true) :
    readPlain false indent start [] .empty (chars ++ ':' :: rest) mark =
      .ok ⟨String.ofList chars, false, ⟨':' :: rest, mark.right chars.length⟩⟩ := by
  rw [← Gap.ofSpaces_zero, readPlain_line _ chars 0 [] mark (plainLine_of_allowsPlain allowed) far
    (by simp), readPlain_colon blank]
  simp [spaces]

/-! ## Scalars in single quotes -/

/-- A gap of line breaks, none of them the one that counts as a space. -/
def Gap.ofBreaks (first : Char) (others : List Char) : Gap :=
  { broken := true, first := some first, others }

/-- What a reader of single quotes has between the characters that it has read
and the characters `chars` to come, so that all of them are kept. -/
inductive Gap.Before : Gap → List Char → Prop where
  /-- Spaces are kept, unless the line ends after them. -/
  | spaces {count : Nat} {chars : List Char}
      (apart : 0 < count → ∀ char ∈ chars.head?, isBreak char = false) :
      Gap.Before (.ofSpaces count) chars
  /-- Line breaks are kept, and the blanks after them are not. -/
  | breaks {first : Char} {others chars : List Char} (special : first ≠ '\n')
      (apart : chars.head? ≠ some ' ') : Gap.Before (.ofBreaks first others) chars

/-- What may stand in single quotes: no line feeds, and no space beside a line
break. -/
structure QuotableText (chars : List Char) : Prop where
  /-- No character has to be escaped, and none is a line feed. -/
  printable : ∀ char ∈ chars, isPrintable char = true ∧ char ≠ '\n'
  /-- No space stands before a line break. -/
  noSpaceBreak : anyNeighbours (fun one other => one = ' ' && isBreak other) chars = false
  /-- No space stands after a line break. -/
  noBreakSpace : anyNeighbours (fun one other => isBreak one && other = ' ') chars = false

theorem QuotableText.tail {char : Char} {rest : List Char} (text : QuotableText (char :: rest)) :
    QuotableText rest :=
  ⟨fun other member => text.printable other (List.mem_cons_of_mem _ member),
    anyNeighbours_tail text.noSpaceBreak, anyNeighbours_tail text.noBreakSpace⟩

/-- After a space, the gap goes on to be kept. -/
theorem QuotableText.before_ofSpaces {count : Nat} {rest : List Char}
    (text : QuotableText (' ' :: rest)) : (Gap.ofSpaces count).Before rest := by
  refine .spaces fun _ char first => ?_
  cases rest with
  | nil => simp at first
  | cons other rest =>
      have pair := anyNeighbours_cons_cons text.noSpaceBreak
      simp only [List.head?_cons, Option.mem_some_iff] at first
      subst first
      simpa using pair

theorem Gap.before_empty (chars : List Char) : Gap.empty.Before chars :=
  .spaces fun positive => absurd positive (Nat.lt_irrefl 0)

/-- After a line break, the gap goes on to be kept. -/
theorem QuotableText.head?_ne_space {char : Char} {rest : List Char}
    (text : QuotableText (char :: rest)) (breaks : isBreak char = true) :
    rest.head? ≠ some ' ' := by
  cases rest with
  | nil => simp
  | cons other rest =>
      have pair := anyNeighbours_cons_cons text.noBreakSpace
      simpa [breaks] using pair

theorem Gap.reverse_onto (gap : Gap) (done : List Char) :
    (gap.onto done).reverse = done.reverse ++ gap.text := by
  simp [Gap.onto, List.reverseAux_eq]

@[simp] theorem Gap.text_empty : Gap.empty.text = [] := rfl

theorem Gap.text_ofBreaks {first : Char} (others : List Char) (special : first ≠ '\n') :
    (Gap.ofBreaks first others).text = first :: others.reverse := by
  simp [Gap.ofBreaks, Gap.text]

theorem Gap.text_ofSpaces (count : Nat) : (Gap.ofSpaces count).text = Yaml.spaces count := by
  simp [Gap.ofSpaces, Gap.text, Yaml.spaces]

/-- The text of a gap grows with every character that is added to it. -/
theorem Gap.Before.add {gap : Gap} {char : Char} {rest : List Char}
    (before : gap.Before (char :: rest)) (text : QuotableText (char :: rest))
    (blank : isGap char = true ∨ isBreak char = true) :
    (gap.add char).Before rest ∧ (gap.add char).text = gap.text ++ [char]
      ∧ (gap.add char).broken = isBreak char := by
  obtain ⟨printable, noFeed⟩ := text.printable char List.mem_cons_self
  by_cases breaks : isBreak char = true
  · cases before with
    | @spaces count _ apart =>
        cases count with
        | zero =>
            have same : (Gap.ofSpaces 0).add char = .ofBreaks char [] := by
              simp [Gap.add, breaks, Gap.ofBreaks, Gap.empty]
            rw [same, Gap.text_ofBreaks _ noFeed, breaks]
            exact ⟨.breaks noFeed (text.head?_ne_space breaks), rfl, rfl⟩
        | succ count => exact absurd breaks (by simp [apart (Nat.succ_pos count) char rfl])
    | @breaks first others _ special apart =>
        have same : (Gap.ofBreaks first others).add char = .ofBreaks first (char :: others) := by
          simp [Gap.add, breaks, Gap.ofBreaks]
        rw [same, Gap.text_ofBreaks _ special, Gap.text_ofBreaks _ special, breaks]
        exact ⟨.breaks special (text.head?_ne_space breaks), by simp, rfl⟩
  · have space : char = ' ' := by
      rw [isGap_of_isPrintable printable] at blank
      simpa [breaks] using blank
    subst space
    cases before with
    | @spaces count _ apart =>
        rw [Gap.add_space_ofSpaces, Gap.text_ofSpaces, Gap.text_ofSpaces]
        refine ⟨text.before_ofSpaces, ?_, rfl⟩
        simpa using spaces_succ_append count []
    | breaks special apart => exact absurd rfl apart

theorem readSingleQuoted_other {start mark : Mark} {done rest : List Char} {gap : Gap} {char : Char}
    (different : char ≠ '\'') (column : mark.column = 0 → isGap char = true ∨ isBreak char = true) :
    readSingleQuoted start done gap (char :: rest) mark =
      if isGap char || isBreak char then
        readSingleQuoted start done (gap.add char) rest (mark.past char)
      else readSingleQuoted start (char :: gap.onto done) .empty rest (mark.past char) := by
  have noMarker : ¬ (decide (mark.column = 0) && documentMarkAhead (char :: rest)) = true := by
    intro marker
    simp only [Bool.and_eq_true, decide_eq_true_eq] at marker
    obtain ⟨zero, marker⟩ := marker
    unfold documentMarkAhead at marker
    split at marker
    next same => cases same; exact absurd (column zero) (by decide)
    next same => cases same; exact absurd (column zero) (by decide)
    next => cases marker
  rw [readSingleQuoted]
  · rw [if_neg noMarker]
  · intro _ same
    exact absurd same different
  · exact different

theorem readSingleQuoted_indentation {start : Mark} {done rest : List Char} {gap : Gap}
    (broken : gap.broken = true) : ∀ (count : Nat) (mark : Mark),
      readSingleQuoted start done gap (spaces count ++ rest) mark =
        readSingleQuoted start done gap rest (mark.right count)
  | 0, _ => rfl
  | count + 1, mark => by
      have same : gap.add ' ' = gap := by simp [Gap.add, broken]
      rw [spaces_succ, List.cons_append, readSingleQuoted_other (by decide) (by simp)]
      simp only [isGap_space, Bool.true_or, if_true, same, Mark.past_space]
      rw [readSingleQuoted_indentation broken count (mark.right 1), Mark.right_right, Nat.add_comm]

/-- The indentation that the writer puts after a line break is skipped. -/
theorem readSingleQuoted_lineStart (start : Mark) (done : List Char) {mark : Mark} {gap : Gap}
    {indent : Nat} (positive : 0 < indent) (inside : mark.column = 0 → gap.broken = true) :
    ∃ inner : Mark, 0 < inner.column ∧ inner.line = mark.line ∧ ∀ rest : List Char,
      readSingleQuoted start done gap ((if gap.broken then spaces indent else []) ++ rest) mark =
        readSingleQuoted start done gap rest inner := by
  by_cases broken : gap.broken = true
  · refine ⟨mark.right indent, by simp only [Mark.right_column]; omega, rfl, fun rest => ?_⟩
    rw [if_pos broken, readSingleQuoted_indentation broken]
  · refine ⟨mark, Nat.pos_of_ne_zero fun zero => broken (inside zero), rfl, fun rest => ?_⟩
    rw [if_neg broken, List.nil_append]

theorem readSingleQuoted_close {start mark : Mark} {done tail : List Char} {gap : Gap}
    (closed : tail.head? ≠ some '\'') :
    readSingleQuoted start done gap ('\'' :: tail) mark =
      .ok (String.ofList (done.reverse ++ gap.text), ⟨tail, mark.right 1⟩) := by
  rw [readSingleQuoted]
  · rw [Gap.reverse_onto]
  · intro rest same
    exact closed (by rw [same]; rfl)

theorem Mark.line_le_past (mark : Mark) (char : Char) : mark.line ≤ (mark.past char).line := by
  unfold Mark.past
  split
  next => exact Nat.le_succ _
  next => exact Nat.le_refl _

/-- What is written between single quotes is read back, from the middle of the
scalar on. -/
theorem readSingleQuoted_quotedLines (start : Mark) {indent : Nat} {tail : List Char}
    (positive : 0 < indent) (closed : tail.head? ≠ some '\'') :
    ∀ (chars done : List Char) (gap : Gap) (mark : Mark), QuotableText chars → gap.Before chars →
      (mark.column = 0 → gap.broken = true) →
      ∃ after : Mark, mark.line ≤ after.line ∧
        readSingleQuoted start done gap (quotedLines indent gap.broken chars ++ '\'' :: tail) mark =
          .ok (String.ofList (done.reverse ++ gap.text ++ chars), ⟨tail, after⟩)
  | [], done, gap, mark, _, _, inside => by
      obtain ⟨inner, _, line, skipped⟩ :=
        readSingleQuoted_lineStart start done positive inside
      refine ⟨inner.right 1, Nat.le_of_eq line.symm, ?_⟩
      rw [quotedLines, skipped, readSingleQuoted_close closed, List.append_nil]
  | char :: rest, done, gap, mark, text, before, inside => by
      by_cases breaks : isBreak char = true
      · -- A line break extends the gap, wherever it stands.
        obtain ⟨next, kept, broken⟩ := before.add text (.inr breaks)
        obtain ⟨after, later, read⟩ := readSingleQuoted_quotedLines start positive closed rest done
          (gap.add char) (mark.past char) text.tail next (fun _ => broken.trans breaks)
        have noQuote : char ≠ '\'' := by
          intro same
          subst same
          exact absurd breaks (by decide)
        refine ⟨after, Nat.le_trans (mark.line_le_past char) later, ?_⟩
        rw [quotedLines, if_pos breaks, List.cons_append,
          readSingleQuoted_other noQuote (fun _ => .inr breaks), if_pos (by simp [breaks]),
          ← breaks, ← broken, read, kept]
        simp
      · have inLine : isBreak char = false := by simpa using breaks
        obtain ⟨inner, column, line, skipped⟩ :=
          readSingleQuoted_lineStart start done positive inside
        rw [quotedLines, if_neg breaks, List.append_assoc, List.append_assoc, skipped]
        by_cases quote : char = '\''
        · subst quote
          obtain ⟨after, later, read⟩ := readSingleQuoted_quotedLines start positive closed rest
            ('\'' :: gap.onto done) .empty (inner.right 2) text.tail
            (Gap.before_empty _) (by simp)
          refine ⟨after, Nat.le_trans (Nat.le_of_eq line.symm) later, ?_⟩
          rw [if_pos rfl, List.cons_append, List.cons_append, List.nil_append, readSingleQuoted]
          refine read.trans ?_
          simp [Gap.reverse_onto]
        · rw [if_neg quote, List.cons_append, List.nil_append,
            readSingleQuoted_other quote (fun zero => absurd zero (Nat.ne_of_gt column)),
            Mark.past_of_not_break inner inLine]
          by_cases space : isGap char = true
          · obtain ⟨next, kept, broken⟩ := before.add text (.inl space)
            obtain ⟨after, later, read⟩ :=
              readSingleQuoted_quotedLines start positive closed rest done
              (gap.add char) (inner.right 1) text.tail next (by simp)
            refine ⟨after, Nat.le_trans (Nat.le_of_eq line.symm) later, ?_⟩
            rw [if_pos (by simp [space]), ← inLine, ← broken, read, kept]
            simp
          · obtain ⟨after, later, read⟩ := readSingleQuoted_quotedLines start positive closed rest
              (char :: gap.onto done) .empty (inner.right 1) text.tail
              (Gap.before_empty _) (by simp)
            refine ⟨after, Nat.le_trans (Nat.le_of_eq line.symm) later, ?_⟩
            rw [if_neg (by simp [space, inLine])]
            refine read.trans ?_
            simp [Gap.reverse_onto]

theorem quotableText_of_allowsQuotes {chars : List Char} (allowed : allowsQuotes chars = true)
    (noFeed : '\n' ∉ chars) : QuotableText chars := by
  simp only [allowsQuotes, isClean, Bool.and_eq_true, Bool.not_eq_true',
    List.all_eq_true] at allowed
  obtain ⟨⟨printable, noSpaceBreak⟩, noBreakSpace⟩ := allowed
  refine ⟨fun char member => ⟨printable char member, ?_⟩, noSpaceBreak, noBreakSpace⟩
  intro same
  exact noFeed (same ▸ member)

/-- A scalar in single quotes is read back. -/
theorem readSingleQuoted_value (start mark : Mark) (tail : List Char) {chars : List Char}
    {indent : Nat} (positive : 0 < indent) (closed : tail.head? ≠ some '\'')
    (inside : 0 < mark.column) (allowed : allowsQuotes chars = true) (noFeed : '\n' ∉ chars) :
    ∃ after : Mark, mark.line ≤ after.line ∧
      readSingleQuoted start [] .empty (quotedLines indent false chars ++ '\'' :: tail) mark =
        .ok (String.ofList chars, ⟨tail, after⟩) := by
  obtain ⟨after, later, read⟩ := readSingleQuoted_quotedLines start positive closed chars
    [] .empty mark (quotableText_of_allowsQuotes allowed noFeed) (Gap.before_empty _)
    (fun zero => absurd zero (Nat.ne_of_gt inside))
  exact ⟨after, later, by simpa using read⟩

end PoolOperator.Yaml
