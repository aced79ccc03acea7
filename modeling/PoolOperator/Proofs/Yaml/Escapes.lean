import Mathlib.Algebra.Group.Nat.Defs
import PoolOperator.Proofs.Yaml.Inline

/-!
# Reading scalars in double quotes

A character in double quotes is written as it is or as an escape, and both are
read back as the character (`readDoubleQuoted_value`).  An escape is a letter
or a number of two, four or eight hexadecimal digits.
-/

namespace PoolOperator.Yaml

/-! ## Hexadecimal numbers -/

theorem hexDigit?_toUpper_digitChar :
    ∀ digit < 16, Value.hexDigit? (Nat.digitChar digit).toUpper = some digit := by
  decide

theorem hexNumber?_append (digits : List Char) (digit : Char) :
    hexNumber? (digits ++ [digit]) = do
      return (← hexNumber? digits) * 16 + (← Value.hexDigit? digit) := by
  simp [hexNumber?, List.foldl_append]

/-- The digits of a number stand for the number. -/
theorem hexNumber?_toDigits (number : Nat) :
    hexNumber? ((Nat.toDigits 16 number).map Char.toUpper) = some number := by
  induction number using Nat.strongRecOn with
  | ind number induction =>
      by_cases small : number < 16
      · rw [Nat.toDigits_of_lt_base small]
        simp [hexNumber?, hexDigit?_toUpper_digitChar number small]
      · have remainder : number % 16 < 16 := Nat.mod_lt _ (by decide)
        rw [Nat.toDigits_of_base_le (by decide) (Nat.le_of_not_lt small), List.map_append,
          List.map_singleton, hexNumber?_append, induction (number / 16) (by omega),
          hexDigit?_toUpper_digitChar _ remainder]
        simp only [Option.pure_def, Option.bind_eq_bind, Option.bind_some, Option.some.injEq]
        omega

theorem hexNumber?_zeros (count : Nat) (digits : List Char) :
    hexNumber? (List.replicate count '0' ++ digits) = hexNumber? digits := by
  have zeros : ∀ count : Nat, (List.replicate count '0').foldl
      (fun sum digit => do return (← sum) * 16 + (← Value.hexDigit? digit)) (some 0) = some 0 := by
    intro count
    induction count with
    | zero => rfl
    | succ count induction => rw [List.replicate_succ, List.foldl_cons]; exact induction
  rw [hexNumber?, List.foldl_append, zeros]
  rfl

theorem hexNumber?_upperHex (width number : Nat) :
    hexNumber? (upperHex width number) = some number := by
  have zero : Char.toUpper '0' = '0' := by decide
  rw [upperHex, Value.hexText, List.map_append, List.map_replicate, zero, hexNumber?_zeros,
    hexNumber?_toDigits]

theorem length_upperHex {width number : Nat} (positive : 0 < width) (fits : number < 16 ^ width) :
    (upperHex width number).length = width := by
  have short : (Nat.toDigits 16 number).length ≤ width :=
    (Nat.length_toDigits_le_iff (by decide) positive).mpr fits
  rw [upperHex, List.length_map, Value.hexText, List.length_append, List.length_replicate]
  omega

theorem numberedChar_upperHex {width : Nat} {char : Char} (positive : 0 < width)
    (fits : char.toNat < 16 ^ width) (rest : List Char) :
    numberedChar ((upperHex width char.toNat ++ rest).take width) width = .ok char := by
  have length := length_upperHex positive fits
  have valid : char.toNat.isValidChar := char.valid
  rw [List.take_append_of_le_length (Nat.le_of_eq length.symm), List.take_of_length_le
    (Nat.le_of_eq length), numberedChar, hexNumber?_upperHex, length]
  exact (if_neg (Nat.lt_irrefl width)).trans (dif_pos valid)

/-! ## Escapes -/

/-- The digits of an escape are passed over once they were read. -/
theorem readDoubleQuoted_skip (start : Mark) (done rest : List Char) (gap : Gap) :
    ∀ (digits : List Char) (mark : Mark),
      readDoubleQuoted start digits.length done gap (digits ++ rest) mark =
        readDoubleQuoted start 0 done gap rest (mark.right digits.length)
  | [], _ => rfl
  | digit :: digits, mark => by
      rw [List.cons_append, List.length_cons, readDoubleQuoted,
        readDoubleQuoted_skip start done rest gap digits (mark.right 1), Mark.right_right,
        Nat.add_comm 1]

theorem readDoubleQuoted_letter {start mark : Mark} {done rest : List Char} {gap : Gap}
    {letter char : Char} (inside : 0 < mark.column) (inLine : isBreak letter = false)
    (short : shortEscape? letter = some char) :
    readDoubleQuoted start 0 done gap ('\\' :: letter :: rest) mark =
      readDoubleQuoted start 0 (char :: gap.onto done) .empty rest (mark.right 2) := by
  rw [readDoubleQuoted]
  simp [Nat.ne_of_gt inside, isGap, inLine, short, show isBreak '\\' = false from rfl]

theorem readDoubleQuoted_number {start mark : Mark} {done rest : List Char} {gap : Gap}
    {letter char : Char} {width : Nat} (inside : 0 < mark.column) (inLine : isBreak letter = false)
    (long : shortEscape? letter = none) (wide : escapeWidth? letter = some width)
    (positive : 0 < width) (fits : char.toNat < 16 ^ width) :
    readDoubleQuoted start 0 done gap ('\\' :: letter :: (upperHex width char.toNat ++ rest)) mark =
      readDoubleQuoted start 0 (char :: gap.onto done) .empty rest (mark.right (width + 2)) := by
  rw [readDoubleQuoted]
  simp only [Nat.ne_of_gt inside, decide_false, Bool.false_and, Bool.false_eq_true, if_false, isGap,
    Char.reduceEq, Bool.or_false, show isBreak '\\' = false from rfl, inLine, long, wide,
    numberedChar_upperHex positive fits, if_true]
  have skip := readDoubleQuoted_skip start (char :: gap.onto done) rest .empty
    (upperHex width char.toNat) (mark.right 2)
  rw [length_upperHex positive fits] at skip
  rw [skip, Mark.right_right, Nat.add_comm 2]

/-- An escape is read back. -/
theorem readDoubleQuoted_escaped (start : Mark) (done rest : List Char) (gap : Gap) {mark : Mark}
    (char : Char) (inside : 0 < mark.column) :
    ∃ columns, readDoubleQuoted start 0 done gap (escaped char ++ rest) mark =
      readDoubleQuoted start 0 (char :: gap.onto done) .empty rest (mark.right columns) := by
  unfold escaped
  split
  case h_15 =>
    dsimp only
    split
    next small =>
      exact ⟨4, readDoubleQuoted_number inside rfl rfl rfl (by decide) (by omega)⟩
    next =>
      split
      next small =>
        exact ⟨6, readDoubleQuoted_number inside rfl rfl rfl (by decide) (by omega)⟩
      next =>
        have bound : char.toNat < 0x110000 := by
          rcases char.valid with low | ⟨_, high⟩
          · exact Nat.lt_trans low (by decide)
          · exact high
        exact ⟨10, readDoubleQuoted_number inside rfl rfl rfl (by decide) (by omega)⟩
  all_goals exact ⟨2, readDoubleQuoted_letter inside rfl rfl⟩

/-! ## Texts -/

theorem readDoubleQuoted_other {start mark : Mark} {done rest : List Char} {gap : Gap} {char : Char}
    (inside : 0 < mark.column) (different : char ≠ '\\') :
    readDoubleQuoted start 0 done gap (char :: rest) mark =
      if isGap char || isBreak char then
        readDoubleQuoted start 0 done (gap.add char) rest (mark.past char)
      else if char = '\x22' then
        .ok (String.ofList (gap.onto done).reverse, ⟨rest, mark.right 1⟩)
      else readDoubleQuoted start 0 (char :: gap.onto done) .empty rest (mark.past char) := by
  rw [readDoubleQuoted.eq_def]
  simp [Nat.ne_of_gt inside, different]

/-- What is written between double quotes is read back, from the middle of the
scalar on. -/
theorem readDoubleQuoted_escapeChar (start : Mark) (tail : List Char) :
    ∀ (chars done : List Char) (count : Nat) (mark : Mark), 0 < mark.column →
      ∃ after : Mark, after.line = mark.line ∧
        readDoubleQuoted start 0 done (.ofSpaces count)
            (chars.flatMap escapeChar ++ '\x22' :: tail) mark =
          .ok (String.ofList (done.reverse ++ spaces count ++ chars), ⟨tail, after⟩)
  | [], done, count, mark, inside => by
      refine ⟨mark.right 1, rfl, ?_⟩
      rw [List.flatMap_nil, List.nil_append, readDoubleQuoted_other inside (by decide),
        if_neg (by decide), if_pos rfl, Gap.reverse_onto, Gap.text_ofSpaces, List.append_nil]
  | char :: rest, done, count, mark, inside => by
      rw [List.flatMap_cons, List.append_assoc]
      by_cases special : (!isPrintable char || isBreak char || char = '\x22' || char = '\\') = true
      · obtain ⟨columns, escape⟩ := readDoubleQuoted_escaped start done
          (rest.flatMap escapeChar ++ '\x22' :: tail) (.ofSpaces count) char inside
        obtain ⟨after, line, read⟩ := readDoubleQuoted_escapeChar start tail rest
          (char :: (Gap.ofSpaces count).onto done) 0 (mark.right columns)
          (by simp only [Mark.right_column]; omega)
        refine ⟨after, line, ?_⟩
        rw [escapeChar, if_pos special, escape, ← Gap.ofSpaces_zero, read]
        simp [Gap.reverse_onto, Gap.text_ofSpaces, spaces]
      · have plain := special
        simp only [Bool.or_eq_true, Bool.not_eq_true', decide_eq_true_eq, not_or,
          Bool.not_eq_false, Bool.not_eq_true] at plain
        obtain ⟨⟨⟨printable, inLine⟩, noQuote⟩, noBackslash⟩ := plain
        rw [escapeChar, if_neg special, List.cons_append, List.nil_append,
          readDoubleQuoted_other inside noBackslash]
        by_cases space : char = ' '
        · subst space
          obtain ⟨after, line, read⟩ := readDoubleQuoted_escapeChar start tail
            rest done (count + 1) (mark.right 1) (by simp)
          refine ⟨after, line, ?_⟩
          rw [if_pos (by simp), Gap.add_space_ofSpaces, Mark.past_space, read]
          simp [spaces_succ_append]
        · have noGap : isGap char = false := by simp [isGap_of_isPrintable printable, space]
          obtain ⟨after, line, read⟩ := readDoubleQuoted_escapeChar start tail
            rest (char :: (Gap.ofSpaces count).onto done) 0 (mark.right 1) (by simp)
          refine ⟨after, line, ?_⟩
          rw [if_neg (by simp [noGap, inLine]), if_neg noQuote, Mark.past_of_not_break mark inLine,
            ← Gap.ofSpaces_zero, read]
          simp [Gap.reverse_onto, Gap.text_ofSpaces, spaces]

/-- A scalar in double quotes is read back. -/
theorem readDoubleQuoted_value (start mark : Mark) (tail : List Char) (chars : List Char)
    (inside : 0 < mark.column) :
    ∃ after : Mark, after.line = mark.line ∧
      readDoubleQuoted start 0 [] .empty (chars.flatMap escapeChar ++ '\x22' :: tail) mark =
        .ok (String.ofList chars, ⟨tail, after⟩) := by
  obtain ⟨after, line, read⟩ :=
    readDoubleQuoted_escapeChar start tail chars [] 0 mark inside
  exact ⟨after, line, by simpa [spaces] using read⟩

end PoolOperator.Yaml
