import PoolOperator.Proofs.Yaml.Written

/-!
# Written characters

A legible outline is written in printable characters only
(`all_isPrintable_fieldLines`): a style that does not escape the others does not
carry a text that has them.  So nothing in a document may not stand in it, and
its line breaks are line feeds or stay as they are.
-/

namespace PoolOperator.Yaml

/-! ## Scalars -/

theorem all_isPrintable_spaces (count : Nat) : (spaces count).all isPrintable = true := by
  rw [spaces, List.all_replicate]
  split
  next => rfl
  next => decide

theorem all_isPrintable_quotedLines (indent : Nat) :
    ∀ (chars : List Char) (broken : Bool), chars.all isPrintable = true →
      (quotedLines indent broken chars).all isPrintable = true
  | [], broken, _ => by
      rw [quotedLines]
      split
      next => exact all_isPrintable_spaces indent
      next => rfl
  | char :: rest, broken, printable => by
      rw [List.all_cons, Bool.and_eq_true] at printable
      have others (broken : Bool) := all_isPrintable_quotedLines indent rest broken printable.2
      have indentation : (if broken then spaces indent else []).all isPrintable = true := by
        split
        next => exact all_isPrintable_spaces indent
        next => rfl
      have first : (if char = '\'' then ['\'', '\''] else [char]).all isPrintable = true := by
        split
        next => decide
        next => simp [printable.1]
      rw [quotedLines]
      split
      next => rw [List.all_cons, printable.1, others, Bool.and_self]
      next =>
        rw [List.all_append, List.all_append, indentation, first, others, Bool.and_self,
          Bool.and_self]

theorem all_isPrintable_literalLines (indent : Nat) :
    ∀ (chars : List Char) (broken : Bool), chars.all isPrintable = true →
      (literalLines indent broken chars).all isPrintable = true
  | [], _, _ => rfl
  | char :: rest, broken, printable => by
      rw [List.all_cons, Bool.and_eq_true] at printable
      have others (broken : Bool) := all_isPrintable_literalLines indent rest broken printable.2
      have indentation : (if broken then spaces indent else []).all isPrintable = true := by
        split
        next => exact all_isPrintable_spaces indent
        next => rfl
      rw [literalLines]
      split
      next => rw [List.all_cons, printable.1, others, Bool.and_self]
      next =>
        rw [List.all_append, List.all_cons, indentation, printable.1, others, Bool.and_self,
          Bool.and_self]

theorem all_isPrintable_literalHeader (chars : List Char) :
    (literalHeader chars).all isPrintable = true := by
  have indentation : (indentationMark chars).all isPrintable = true := by
    unfold indentationMark
    split
    next => split <;> decide
    next => rfl
  have ending : (endMark chars).all isPrintable = true := by
    by_cases filled : chars = []
    · subst filled
      decide
    · obtain ⟨chomping, _, same⟩ := endMark_eq filled
      rw [same]
      cases chomping <;> decide
  rw [literalHeader_eq, List.all_cons, List.all_append, indentation, ending]
  decide

theorem all_isPrintable_toDigits (number : Nat) :
    ((Nat.toDigits 16 number).map Char.toUpper).all isPrintable = true := by
  have digits : ∀ digit < 16, isPrintable (Nat.digitChar digit).toUpper = true := by decide
  induction number using Nat.strongRecOn with
  | ind number induction =>
      by_cases small : number < 16
      · rw [Nat.toDigits_of_lt_base small]
        simp [digits number small]
      · have remainder : number % 16 < 16 := Nat.mod_lt _ (by decide)
        rw [Nat.toDigits_of_base_le (by decide) (Nat.le_of_not_lt small), List.map_append,
          List.all_append, induction (number / 16) (by omega)]
        simp [digits _ remainder]

theorem all_isPrintable_upperHex (width number : Nat) :
    (upperHex width number).all isPrintable = true := by
  have zeros (count : Nat) : (List.replicate count '0').all isPrintable = true := by
    rw [List.all_replicate]
    split
    next => rfl
    next => decide
  have zero : Char.toUpper '0' = '0' := by decide
  rw [upperHex, Value.hexText, List.map_append, List.map_replicate, zero, List.all_append, zeros,
    all_isPrintable_toDigits, Bool.and_self]

/-- An escape is printable, whatever character it stands for. -/
theorem all_isPrintable_escapeChar (char : Char) : (escapeChar char).all isPrintable = true := by
  have number (letter : Char) (width : Nat) (printable : isPrintable letter = true) :
      ('\\' :: letter :: upperHex width char.toNat).all isPrintable = true := by
    rw [List.all_cons, List.all_cons, printable, all_isPrintable_upperHex]
    decide
  unfold escapeChar
  split
  next =>
    unfold escaped
    split
    all_goals first | decide | skip
    dsimp only
    split
    next => exact number 'x' 2 (by decide)
    next =>
      split
      next => exact number 'u' 4 (by decide)
      next => exact number 'U' 8 (by decide)
  next plain =>
    simp only [Bool.or_eq_true, Bool.not_eq_true', not_or, Bool.not_eq_false] at plain
    rw [List.all_cons, plain.1.1.1]
    rfl

/-- A text is printable in any style that carries it. -/
theorem all_isPrintable_written {style : Style} {text : String}
    (carries : style.carries text = true) (indent : Nat) :
    (style.written indent text).all isPrintable = true := by
  have clean (chars : List Char) (clean : isClean chars = true) : chars.all isPrintable = true := by
    rw [isClean, Bool.and_eq_true] at clean
    exact clean.1
  cases style with
  | plain =>
      obtain ⟨_, allowed⟩ := Style.carries_plain_iff.mp carries
      simp only [allowsPlain, Bool.and_eq_true] at allowed
      exact clean _ allowed.1.1.1.1.1.1
  | singleQuoted =>
      obtain ⟨_, allowed⟩ := Style.carries_singleQuoted_iff.mp carries
      rw [allowsQuotes, Bool.and_eq_true] at allowed
      have lines := all_isPrintable_quotedLines indent _ false (clean _ allowed.1)
      simp only [Style.written, List.all_append, List.all_cons, lines]
      decide
  | doubleQuoted =>
      have escapes : (text.toList.flatMap escapeChar).all isPrintable = true := by
        rw [List.all_flatMap, List.all_eq_true]
        intro char _
        exact all_isPrintable_escapeChar char
      simp only [Style.written, List.all_append, List.all_cons, escapes]
      decide
  | literal =>
      simp only [Style.carries, allowsBlock, Bool.and_eq_true] at carries
      have lines := all_isPrintable_literalLines indent _ true (clean _ carries.1.1)
      simp only [Style.written, List.all_append, List.all_cons, lines,
        all_isPrintable_literalHeader]
      decide
  | folded => cases carries

theorem all_isPrintable_key {key : String} (short : Outline.isShortKey key = true) :
    key.toList.all isPrintable = true := by
  rw [Outline.isShortKey, Bool.and_eq_true] at short
  exact all_isPrintable_written short.1 0

/-! ## Outlines -/

theorem all_isPrintable_inlineText {outline : Outline} (legible : outline.isLegible = true)
    (column : Nat) :
    (' ' :: scalarLine (outline.inlineText (column + 2))).all isPrintable = true := by
  have line (scalar : List Char) (printable : scalar.all isPrintable = true) :
      (' ' :: scalarLine scalar).all isPrintable = true := by
    have blank : isPrintable ' ' = true := by decide
    rw [List.all_cons, blank, Bool.true_and]
    unfold scalarLine
    split
    next => exact printable
    next =>
      rw [List.all_append, printable]
      decide
  refine line _ ?_
  cases outline with
  | scalar style text =>
      rw [Outline.isLegible] at legible
      exact all_isPrintable_written legible (column + 2)
  | sequence items =>
      rw [Outline.inlineText]
      decide
  | mapping fields =>
      rw [Outline.inlineText]
      decide

mutual

theorem all_isPrintable_afterHyphen : ∀ (outline : Outline) (column : Nat),
    outline.isLegible = true → (outline.afterHyphen column).all isPrintable = true
  | .scalar _ _, column, legible => all_isPrintable_inlineText legible column
  | .sequence [], column, legible => all_isPrintable_inlineText legible column
  | .mapping [], column, legible => all_isPrintable_inlineText legible column
  | .sequence (item :: items), column, legible => by
      rw [Outline.isLegible] at legible
      have lines := all_isPrintable_itemLines (item :: items) (column + 2) legible
      rw [Outline.afterHyphen, List.all_cons, lines]
      decide
  | .mapping (field :: fields), column, legible => by
      rw [Outline.isLegible] at legible
      have lines := all_isPrintable_fieldLines (field :: fields) (column + 2) legible
      rw [Outline.afterHyphen, List.all_cons, lines]
      decide

theorem all_isPrintable_afterKey : ∀ (outline : Outline) (column : Nat),
    outline.isLegible = true → (outline.afterKey column).all isPrintable = true
  | .scalar _ _, column, legible => all_isPrintable_inlineText legible column
  | .sequence [], column, legible => all_isPrintable_inlineText legible column
  | .mapping [], column, legible => all_isPrintable_inlineText legible column
  | .sequence (item :: items), column, legible => by
      rw [Outline.isLegible] at legible
      have lines := all_isPrintable_itemLines (item :: items) column legible
      rw [Outline.afterKey, List.all_append, List.all_cons, all_isPrintable_spaces, lines]
      decide
  | .mapping (field :: fields), column, legible => by
      rw [Outline.isLegible] at legible
      have lines := all_isPrintable_fieldLines (field :: fields) (column + 2) legible
      rw [Outline.afterKey, List.all_append, List.all_cons, all_isPrintable_spaces, lines]
      decide

theorem all_isPrintable_itemLines : ∀ (items : List Outline) (column : Nat),
    Outline.areLegible items = true → (Outline.itemLines column items).all isPrintable = true
  | [], _, _ => rfl
  | [item], column, legible => by
      rw [Outline.areLegible, Bool.and_eq_true] at legible
      rw [Outline.itemLines, List.all_cons, all_isPrintable_afterHyphen item column legible.1]
      decide
  | item :: next :: items, column, legible => by
      rw [Outline.areLegible, Bool.and_eq_true] at legible
      have first := all_isPrintable_afterHyphen item column legible.1
      have others := all_isPrintable_itemLines (next :: items) column legible.2
      simp only [Outline.itemLines, List.all_append, List.all_cons, first,
        all_isPrintable_spaces, others]
      decide

theorem all_isPrintable_fieldLines : ∀ (fields : List (String × Outline)) (column : Nat),
    Outline.fieldsLegible fields = true → (Outline.fieldLines column fields).all isPrintable = true
  | [], _, _ => rfl
  | [(key, outline)], column, legible => by
      rw [Outline.fieldsLegible, Bool.and_eq_true, Bool.and_eq_true] at legible
      have name := all_isPrintable_key legible.1.1
      have first := all_isPrintable_afterKey outline column legible.1.2
      simp only [Outline.fieldLines, List.all_append, List.all_cons, name, first]
      decide
  | (key, outline) :: next :: fields, column, legible => by
      rw [Outline.fieldsLegible, Bool.and_eq_true, Bool.and_eq_true] at legible
      have name := all_isPrintable_key legible.1.1
      have first := all_isPrintable_afterKey outline column legible.1.2
      have others := all_isPrintable_fieldLines (next :: fields) column legible.2
      simp only [Outline.fieldLines, List.all_append, List.all_cons, name, first,
        all_isPrintable_spaces, others]
      decide

end

end PoolOperator.Yaml
