import PoolOperator.Proofs.Yaml.Layout
import PoolOperator.Proofs.Yaml.Outline

/-!
# The tokens of a written outline

A legible outline is cut into the tokens that can be told from it alone
(`leadsOn_item`, `leadsOn_field`, `leadsOn_fields`).

The proof is an induction on the outline.  It goes along with the lines, from a
place in the text to the token behind them, which tells how many of the open
collections end.
-/

namespace PoolOperator.Yaml

/-! ## What begins a token -/

theorem beginsToken_of_allowsPlain {chars : List Char} (allowed : allowsPlain chars = true)
    (filled : chars ≠ []) (tail : List Char) : beginsToken (chars ++ tail) = true := by
  have line := plainLine_of_allowsPlain allowed
  simp only [allowsPlain, Bool.and_eq_true, Bool.not_eq_true', decide_eq_true_eq] at allowed
  obtain ⟨⟨⟨⟨⟨⟨_, _⟩, noSpace⟩, _⟩, _⟩, noIndicator⟩, _⟩ := allowed
  cases chars with
  | nil => exact absurd rfl filled
  | cons char chars =>
      obtain ⟨printable, noBreak⟩ := line.inLine char List.mem_cons_self
      have noGap : isGap char = false := by
        rw [isGap_of_isPrintable printable]
        simpa using noSpace
      have noComment : char ≠ '#' := by
        intro same
        subst same
        cases noIndicator
      have noMark : char ≠ '\ufeff' := by
        intro same
        subst same
        cases printable
      simp [beginsToken, noGap, noBreak, noComment, noMark]

theorem beginsToken_written {style : Style} {text : String} (carries : style.carries text = true)
    (indent : Nat) (tail : List Char) : beginsToken (style.written indent text ++ tail) = true := by
  cases style with
  | plain =>
      obtain ⟨filled, allowed⟩ := Style.carries_plain_iff.mp carries
      exact beginsToken_of_allowsPlain allowed filled tail
  | singleQuoted => rfl
  | doubleQuoted => rfl
  | literal => rfl
  | folded => cases carries

theorem beginsToken_key {key : String} (short : Outline.isShortKey key = true) (tail : List Char) :
    beginsToken (key.toList ++ tail) = true := by
  rw [Outline.isShortKey, Bool.and_eq_true] at short
  exact beginsToken_written short.1 0 tail

theorem beginsToken_inlineText {outline : Outline} (legible : outline.isLegible = true)
    (indent : Nat) (tail : List Char) :
    beginsToken (scalarLine (outline.inlineText indent) ++ tail) = true := by
  have line (scalar : List Char) : ∃ ending : List Char, scalarLine scalar = scalar ++ ending := by
    unfold scalarLine
    split
    next => exact ⟨[], by simp⟩
    next => exact ⟨['\n'], rfl⟩
  obtain ⟨ending, written⟩ := line (outline.inlineText indent)
  rw [written, List.append_assoc]
  cases outline with
  | scalar style text =>
      rw [Outline.isLegible] at legible
      exact beginsToken_written legible indent (ending ++ tail)
  | sequence items => rfl
  | mapping fields => rfl

/-- An outline without lines of its own is read back. -/
theorem Place.Holds.inline {place : Place} {outline : Outline} {rest : List Char}
    {parent column : Nat} (inline : outline.isInline = true) (legible : outline.isLegible = true)
    (holds : place.Holds (scalarLine (outline.inlineText (parent + 2))) parent column rest) :
    place.LeadsOn outline.inlineKinds place.stack column rest := by
  cases outline with
  | scalar style text =>
      rw [Outline.isLegible] at legible
      exact holds.written legible
  | sequence items =>
      cases items with
      | nil => exact holds.brackets .square
      | cons item items => cases inline
  | mapping fields =>
      cases fields with
      | nil => exact holds.brackets .curly
      | cons field fields => cases inline

/-! ## From an outline to the token behind it -/

/-- Some lines of a collection begin at a place, at the column of the
collection, and the next token is not further to the right. -/
structure Place.Begins (place : Place) (lines : List Char) (column : Nat) (rest : List Char) :
    Prop where
  /-- The text goes on with the next token, at its column. -/
  text : place.rest = lines ++ (spaces column ++ rest)
  /-- A key may begin here. -/
  allowed : place.keyAllowed = true
  /-- At least the outside is there. -/
  filled : place.stack ≠ []
  /-- The innermost collection is not further to the right. -/
  inside : place.stack.headD (-1) ≤ place.mark.column
  /-- The next token is not either. -/
  near : column ≤ place.mark.column
  /-- There is a next token, or the text ends. -/
  begins : beginsToken rest = true

/-- The hyphen of an item whose lines are `inner`. -/
theorem Place.Begins.hyphen {place : Place} {inner rest : List Char} {column : Nat}
    (begins : place.Begins ('-' :: ' ' :: inner) column rest)
    (starts : beginsToken (inner ++ (spaces column ++ rest)) = true) :
    Reads place (opening place.stack place.mark.column .blockSequenceStart ++ [.blockEntry])
      ⟨inner ++ (spaces column ++ rest), place.mark.right 2, opened place.stack place.mark.column,
        true⟩ :=
  Reads.hyphen begins.text begins.allowed begins.filled begins.inside starts

/-- The lines of a collection that is nested behind a hyphen. -/
theorem Place.Begins.nested {place : Place} {lines rest : List Char} {column : Nat}
    (begins : place.Begins lines column rest) (inner : List Char) (line : Nat) :
    Place.Begins ⟨inner ++ (spaces column ++ rest), ⟨line, place.mark.column + 2⟩,
      opened place.stack place.mark.column, true⟩ inner column rest where
  text := rfl
  allowed := rfl
  filled := opened_ne_nil begins.filled
  inside := by
    rw [headD_opened begins.inside]
    simp only
    omega
  near := Nat.le_trans begins.near (Nat.le_add_right _ 2)
  begins := begins.begins

theorem Place.Begins.following {place : Place} {lines rest : List Char} {column : Nat}
    (begins : place.Begins lines column rest) (inner : List Char) (line : Nat) :
    Place.Begins ⟨inner ++ (spaces column ++ rest), ⟨line, place.mark.column⟩,
      opened place.stack place.mark.column, true⟩ inner column rest where
  text := rfl
  allowed := rfl
  filled := opened_ne_nil begins.filled
  inside := Int.le_of_eq (headD_opened begins.inside)
  near := begins.near
  begins := begins.begins

theorem Place.Begins.first {place : Place} {lines more rest : List Char} {column : Nat}
    (begins : place.Begins (lines ++ spaces place.mark.column ++ more) column rest)
    (starts : beginsToken (more ++ (spaces column ++ rest)) = true) :
    place.Begins lines place.mark.column (more ++ (spaces column ++ rest)) where
  text := by
    rw [begins.text]
    simp
  allowed := begins.allowed
  filled := begins.filled
  inside := begins.inside
  near := Nat.le_refl _
  begins := starts

/-- A nested collection begins with its first token, and ends before the next
token of the collection around it. -/
theorem Place.LeadsOn.nested {place : Place} {stack : List Int} {indent column : Nat}
    {first : TokenKind} {kinds : List TokenKind} {rest : List Char}
    (innermost : stack.headD (-1) = indent) (near : column ≤ indent)
    (leads : place.LeadsOn (opening stack (indent + 2) first ++ kinds) (opened stack (indent + 2))
      column rest) :
    place.LeadsOn (first :: (kinds ++ [.blockEnd])) stack column rest := by
  have further : stack.headD (-1) < ((indent + 2 : Nat) : Int) := by
    rw [innermost]
    omega
  rw [opening, opened, if_pos further, if_pos further] at leads
  exact leads.close (by omega)

theorem leadsOn_inlineItem {place : Place} {item : Outline} {rest : List Char} {column : Nat}
    (inline : item.isInline = true) (legible : item.isLegible = true)
    (begins : place.Begins ('-' :: ' ' :: scalarLine (item.inlineText (place.mark.column + 2)))
      column rest) :
    place.LeadsOn (opening place.stack place.mark.column .blockSequenceStart
        ++ .blockEntry :: item.inlineKinds)
      (opened place.stack place.mark.column) column rest := by
  have hyphen := begins.hyphen (beginsToken_inlineText legible _ _)
  have holds : Place.Holds ⟨scalarLine (item.inlineText (place.mark.column + 2))
      ++ (spaces column ++ rest), place.mark.right 2, opened place.stack place.mark.column, true⟩
      (scalarLine (item.inlineText (place.mark.column + 2))) place.mark.column column rest :=
    ⟨rfl, headD_opened begins.inside, by simp, begins.near, begins.begins⟩
  have leads := hyphen.leadsOn (holds.inline inline legible)
  rw [List.append_assoc] at leads
  exact leads

/-- A key and its colon before a value. -/
theorem Place.Begins.key {place : Place} {key : String} {after inner : List Char} {column : Nat}
    {rest : List Char} {mark : Mark} {keyAllowed : Bool}
    (begins : place.Begins (key.toList ++ ':' :: after) column rest)
    (isShort : Outline.isShortKey key = true)
    (blank : blankAhead (after ++ (spaces column ++ rest)) = true)
    (skips : Scanner.skipBlanks false false false (after ++ (spaces column ++ rest))
      ((place.mark.right key.toList.length).right 1) = (⟨inner, mark⟩, keyAllowed))
    (shorter : inner.length ≤ (after ++ (spaces column ++ rest)).length)
    (further : place.mark.column ≤ mark.column) :
    Reads place (opening place.stack place.mark.column .blockMappingStart
        ++ [.key, .scalar .plain key, .value])
      ⟨inner, mark, opened place.stack place.mark.column, keyAllowed⟩ := by
  simp only [Outline.isShortKey, Bool.and_eq_true, decide_eq_true_eq,
    Style.carries_plain_iff] at isShort
  obtain ⟨⟨filled, allowed⟩, short⟩ := isShort
  have text := begins.text
  simp only [List.append_assoc, List.cons_append] at text
  have reads := Reads.key text begins.allowed begins.filled begins.inside allowed filled short blank
    skips shorter further
  rw [String.ofList_toList] at reads
  exact reads

theorem leadsOn_inlineField {place : Place} {key : String} {outline : Outline} {rest : List Char}
    {column : Nat} (inline : outline.isInline = true) (short : Outline.isShortKey key = true)
    (legible : outline.isLegible = true)
    (begins : place.Begins (key.toList
      ++ ':' :: ' ' :: scalarLine (outline.inlineText (place.mark.column + 2))) column rest) :
    place.LeadsOn (opening place.stack place.mark.column .blockMappingStart
        ++ .key :: .scalar .plain key :: .value :: outline.inlineKinds)
      (opened place.stack place.mark.column) column rest := by
  have further : place.mark.column ≤
      (((place.mark.right key.toList.length).right 1).right 1).column := by
    simp only [Mark.right_column]
    omega
  have reads := Place.Begins.key begins short rfl
    (Scanner.skipBlanks_sameLine (beginsToken_inlineText legible _ _)) (by simp) further
  have holds : Place.Holds ⟨scalarLine (outline.inlineText (place.mark.column + 2))
      ++ (spaces column ++ rest), ((place.mark.right key.toList.length).right 1).right 1,
      opened place.stack place.mark.column, false⟩
      (scalarLine (outline.inlineText (place.mark.column + 2))) place.mark.column column rest := by
    refine ⟨rfl, headD_opened begins.inside, ?_, begins.near, begins.begins⟩
    simp only [Mark.right_column]
    omega
  have leads := reads.leadsOn (holds.inline inline legible)
  rw [List.append_assoc] at leads
  exact leads

/-- A key before an outline with lines of its own, which begin at some column. -/
theorem Place.Begins.keyLine {place : Place} {key : String} {inner rest : List Char}
    {indent column : Nat}
    (begins : place.Begins (key.toList ++ ':' :: '\n' :: (spaces indent ++ inner)) column rest)
    (short : Outline.isShortKey key = true)
    (starts : beginsToken (inner ++ (spaces column ++ rest)) = true)
    (further : place.mark.column ≤ indent) :
    Reads place (opening place.stack place.mark.column .blockMappingStart
        ++ [.key, .scalar .plain key, .value])
      ⟨inner ++ (spaces column ++ rest), ⟨place.mark.line + 1, indent⟩,
        opened place.stack place.mark.column, true⟩ := by
  have skips : Scanner.skipBlanks false false false
      ('\n' :: (spaces indent ++ (inner ++ (spaces column ++ rest))))
      ((place.mark.right key.toList.length).right 1) = _ := Scanner.skipBlanks_nextLine starts
  refine begins.key short rfl ?_ ?_ further
  · rw [List.cons_append, List.append_assoc]
    exact skips
  · simp only [List.cons_append, List.length_cons, List.length_append]
    omega

theorem beginsToken_itemLines (column : Nat) (item : Outline) (items : List Outline)
    (tail : List Char) : beginsToken (Outline.itemLines column (item :: items) ++ tail) = true := by
  cases items with
  | nil => rfl
  | cons next items => rfl

theorem beginsToken_fieldLines (column : Nat) {field : String × Outline}
    {fields : List (String × Outline)} (legible : Outline.fieldsLegible (field :: fields) = true)
    (tail : List Char) :
    beginsToken (Outline.fieldLines column (field :: fields) ++ tail) = true := by
  obtain ⟨key, outline⟩ := field
  rw [Outline.fieldsLegible, Bool.and_eq_true, Bool.and_eq_true] at legible
  cases fields with
  | nil =>
      rw [Outline.fieldLines, List.append_assoc]
      exact beginsToken_key legible.1.1 _
  | cons next fields =>
      simp only [Outline.fieldLines, List.append_assoc]
      exact beginsToken_key legible.1.1 _

mutual

/-- An item with its hyphen. -/
theorem leadsOn_item : ∀ (item : Outline) (place : Place) (column : Nat) (rest : List Char),
    item.isLegible = true →
    place.Begins ('-' :: item.afterHyphen place.mark.column) column rest →
    place.LeadsOn (opening place.stack place.mark.column .blockSequenceStart
        ++ .blockEntry :: item.hyphenKinds)
      (opened place.stack place.mark.column) column rest
  | .scalar style text, place, column, rest, legible, begins =>
      leadsOn_inlineItem rfl legible begins
  | .sequence [], place, column, rest, legible, begins => leadsOn_inlineItem rfl legible begins
  | .mapping [], place, column, rest, legible, begins => leadsOn_inlineItem rfl legible begins
  | .sequence (item :: items), place, column, rest, legible, begins => by
      rw [Outline.isLegible] at legible
      have hyphen := begins.hyphen (beginsToken_itemLines _ item items _)
      have inner := begins.nested (Outline.itemLines (place.mark.column + 2) (item :: items))
        place.mark.line
      have leads := leadsOn_items (item :: items) _ column rest (by simp) legible inner
      have closed := leads.nested (headD_opened begins.inside) begins.near
      simpa [Outline.hyphenKinds] using hyphen.leadsOn closed
  | .mapping (field :: fields), place, column, rest, legible, begins => by
      rw [Outline.isLegible] at legible
      have hyphen := begins.hyphen (beginsToken_fieldLines _ legible _)
      have inner := begins.nested (Outline.fieldLines (place.mark.column + 2) (field :: fields))
        place.mark.line
      have leads := leadsOn_fields (field :: fields) _ column rest (by simp) legible inner
      have closed := leads.nested (headD_opened begins.inside) begins.near
      simpa [Outline.hyphenKinds] using hyphen.leadsOn closed

/-- A member with its key. -/
theorem leadsOn_field : ∀ (outline : Outline) (key : String) (place : Place) (column : Nat)
    (rest : List Char), Outline.isShortKey key = true → outline.isLegible = true →
    place.Begins (key.toList ++ ':' :: outline.afterKey place.mark.column) column rest →
    place.LeadsOn (opening place.stack place.mark.column .blockMappingStart
        ++ .key :: .scalar .plain key :: .value :: outline.keyKinds)
      (opened place.stack place.mark.column) column rest
  | .scalar style text, key, place, column, rest, short, legible, begins =>
      leadsOn_inlineField rfl short legible begins
  | .sequence [], key, place, column, rest, short, legible, begins =>
      leadsOn_inlineField rfl short legible begins
  | .mapping [], key, place, column, rest, short, legible, begins =>
      leadsOn_inlineField rfl short legible begins
  | .sequence (item :: items), key, place, column, rest, short, legible, begins => by
      rw [Outline.isLegible] at legible
      have reads := begins.keyLine short (beginsToken_itemLines _ item items _) (Nat.le_refl _)
      have inner := begins.following (Outline.itemLines place.mark.column (item :: items))
        (place.mark.line + 1)
      have leads := leadsOn_items (item :: items) _ column rest (by simp) legible inner
      rw [opened_opened begins.inside, opening_opened begins.inside] at leads
      simpa [Outline.keyKinds] using reads.leadsOn leads
  | .mapping (field :: fields), key, place, column, rest, short, legible, begins => by
      rw [Outline.isLegible] at legible
      have reads := begins.keyLine short (beginsToken_fieldLines _ legible _) (Nat.le_add_right _ 2)
      have inner := begins.nested (Outline.fieldLines (place.mark.column + 2) (field :: fields))
        (place.mark.line + 1)
      have leads := leadsOn_fields (field :: fields) _ column rest (by simp) legible inner
      have closed := leads.nested (headD_opened begins.inside) begins.near
      simpa [Outline.keyKinds] using reads.leadsOn closed

theorem leadsOn_items : ∀ (items : List Outline) (place : Place) (column : Nat) (rest : List Char),
    items ≠ [] → Outline.areLegible items = true →
    place.Begins (Outline.itemLines place.mark.column items) column rest →
    place.LeadsOn
    (opening place.stack place.mark.column .blockSequenceStart ++ Outline.itemsKinds items)
      (opened place.stack place.mark.column) column rest
  | [], place, column, rest, filled, _, _ => absurd rfl filled
  | [item], place, column, rest, _, legible, begins => by
      simp only [Outline.areLegible, Bool.and_true] at legible
      have leads := leadsOn_item item place column rest legible begins
      simpa [Outline.itemsKinds] using leads
  | item :: next :: items, place, column, rest, _, legible, begins => by
      rw [Outline.areLegible, Bool.and_eq_true] at legible
      have first := leadsOn_item item place _ _ legible.1
        (begins.first (beginsToken_itemLines _ next items _))
      obtain ⟨line, reads⟩ := first.reads (Int.le_of_eq (headD_opened begins.inside))
      have inner := begins.following (Outline.itemLines place.mark.column (next :: items)) line
      have leads := leadsOn_items (next :: items) _ column rest (by simp) legible.2 inner
      rw [opened_opened begins.inside, opening_opened begins.inside] at leads
      simpa [Outline.itemsKinds] using reads.leadsOn leads

theorem leadsOn_fields : ∀ (fields : List (String × Outline)) (place : Place) (column : Nat)
    (rest : List Char), fields ≠ [] → Outline.fieldsLegible fields = true →
    place.Begins (Outline.fieldLines place.mark.column fields) column rest →
    place.LeadsOn (opening place.stack place.mark.column .blockMappingStart
        ++ Outline.fieldsKinds fields)
      (opened place.stack place.mark.column) column rest
  | [], place, column, rest, filled, _, _ => absurd rfl filled
  | [(key, outline)], place, column, rest, _, legible, begins => by
      simp only [Outline.fieldsLegible, Bool.and_true, Bool.and_eq_true] at legible
      have leads := leadsOn_field outline key place column rest legible.1 legible.2 begins
      simpa [Outline.fieldsKinds] using leads
  | (key, outline) :: next :: fields, place, column, rest, _, legible, begins => by
      rw [Outline.fieldsLegible, Bool.and_eq_true, Bool.and_eq_true] at legible
      have first := leadsOn_field outline key place _ _ legible.1.1 legible.1.2
        (begins.first (beginsToken_fieldLines _ legible.2 _))
      obtain ⟨line, reads⟩ := first.reads (Int.le_of_eq (headD_opened begins.inside))
      have inner := begins.following (Outline.fieldLines place.mark.column (next :: fields)) line
      have leads := leadsOn_fields (next :: fields) _ column rest (by simp) legible.2 inner
      rw [opened_opened begins.inside, opening_opened begins.inside] at leads
      simpa [Outline.fieldsKinds] using reads.leadsOn leads

end

end PoolOperator.Yaml
