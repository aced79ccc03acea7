import PoolOperator.Proofs.Yaml.Escapes
import PoolOperator.Proofs.Yaml.Literal
import PoolOperator.Proofs.Yaml.Scanning

/-!
# The tokens of a written document

Each piece that the writer puts out is cut into the tokens that it was meant
to be: a scalar in any style (`Place.Holds.written`), a key with its colon
(`Reads.key`), a hyphen (`Reads.hyphen`), an empty collection
(`Place.Holds.brackets`).
-/

namespace PoolOperator.Yaml

/-! ## Blanks between tokens -/

theorem Scanner.skipBlanks_begins {flow keyAllowed : Bool} {rest : List Char} {mark : Mark}
    (begins : beginsToken rest = true) :
    Scanner.skipBlanks flow false keyAllowed rest mark = (⟨rest, mark⟩, keyAllowed) := by
  cases rest with
  | nil => rfl
  | cons char rest =>
      simp only [beginsToken, Bool.not_eq_true', Bool.or_eq_false_iff, isGap,
        decide_eq_false_iff_not] at begins
      obtain ⟨⟨⟨⟨noSpace, noTab⟩, noBreak⟩, noComment⟩, noMark⟩ := begins
      rw [Scanner.skipBlanks, if_neg (by simp [noBreak]), if_neg (by simp [noSpace, noTab, noMark]),
        if_neg noComment]

theorem Scanner.skipBlanks_spaces {keyAllowed : Bool} {rest : List Char} :
    ∀ (count : Nat) (mark : Mark),
      Scanner.skipBlanks false false keyAllowed (spaces count ++ rest) mark =
        Scanner.skipBlanks false false keyAllowed rest (mark.right count)
  | 0, _ => rfl
  | count + 1, mark => by
      rw [spaces_succ, List.cons_append, Scanner.skipBlanks, if_neg (by decide), if_pos (by simp),
        Scanner.skipBlanks_spaces count (mark.right 1), Mark.right_right, Nat.add_comm 1]

theorem Scanner.skipBlanks_sameLine {keyAllowed : Bool} {rest : List Char} {mark : Mark}
    (begins : beginsToken rest = true) :
    Scanner.skipBlanks false false keyAllowed (' ' :: rest) mark =
      (⟨rest, mark.right 1⟩, keyAllowed) := by
  rw [show ' ' :: rest = spaces 1 ++ rest from rfl, Scanner.skipBlanks_spaces,
    Scanner.skipBlanks_begins begins]

theorem Scanner.skipBlanks_nextLine {keyAllowed : Bool} {rest : List Char} {mark : Mark}
    {column : Nat} (begins : beginsToken rest = true) :
    Scanner.skipBlanks false false keyAllowed ('\n' :: (spaces column ++ rest)) mark =
      (⟨rest, ⟨mark.line + 1, column⟩⟩, true) := by
  rw [Scanner.skipBlanks, if_pos isBreak_newline, Mark.past_newline, Scanner.skipBlanks_spaces,
    Scanner.skipBlanks_begins begins]
  simp [Mark.right]

/-! ## Keys that may begin at a scalar -/

/-- The key that may begin at a place. -/
def Place.key (place : Place) (queue : List Token) (taken : Nat) : Option KeyPlace :=
  if place.keyAllowed then
    some ⟨decide (place.stack.headD (-1) = place.mark.column), taken + queue.length, place.mark⟩
  else none

theorem Place.saveKey_scanner (place : Place) (queue : List Token) (taken : Nat) :
    (place.scanner none queue taken).saveKey =
      .ok (place.scanner (place.key queue taken) queue taken) := by
  obtain ⟨rest, mark, stack, keyAllowed⟩ := place
  cases keyAllowed with
  | true => rfl
  | false => rfl

/-- No key has to begin inside of the innermost collection. -/
theorem Place.key_optional {place : Place} {queue : List Token} {taken line : Nat}
    (inside : place.stack.headD (-1) < place.mark.column) (later : place.mark.line < line) :
    ∀ key ∈ place.key queue taken, key.required = false ∧ key.mark.line < line := by
  intro key member
  unfold Place.key at member
  split at member
  next =>
    cases member
    exact ⟨decide_eq_false (Int.ne_of_lt inside), later⟩
  next => cases member

/-! ## Scalars -/

/-- A mark that is there three times is not completed by what follows a text. -/
theorem thrice_of_append {mark : Char} {chars tail rest : List Char}
    (same : chars ++ tail = mark :: mark :: mark :: rest) (filled : chars ≠ [])
    (apart : ∀ char ∈ tail.head?, char ≠ mark) :
    ∃ others : List Char, chars = mark :: mark :: mark :: others := by
  rcases chars with _ | ⟨one, _ | ⟨two, _ | ⟨three, others⟩⟩⟩
  · exact absurd rfl filled
  · cases same
    exact absurd rfl (apart mark rfl)
  · cases same
    exact absurd rfl (apart mark rfl)
  · cases same
    exact ⟨others, rfl⟩

/-- A text that does not look like a document marker is none, also if the line
goes on behind it. -/
theorem documentMarkAhead_append {chars tail : List Char}
    (noMarker : startsLikeMarker chars = false)
    (apart : ∀ char ∈ tail.head?, char ≠ '-' ∧ char ≠ '.') (filled : chars ≠ []) :
    documentMarkAhead (chars ++ tail) = false := by
  cases ahead : documentMarkAhead (chars ++ tail) with
  | false => rfl
  | true =>
      unfold documentMarkAhead at ahead
      split at ahead
      next rest same =>
        obtain ⟨others, rfl⟩ := thrice_of_append same filled fun char member =>
          (apart char member).1
        exact absurd noMarker (by simp [startsLikeMarker])
      next rest same =>
        obtain ⟨others, rfl⟩ := thrice_of_append same filled fun char member =>
          (apart char member).2
        exact absurd noMarker (by simp [startsLikeMarker])
      next => cases ahead

/-- What may be written plain is taken as a plain scalar. -/
theorem Scanner.takeToken_plain {place : Place} {chars tail : List Char}
    (key : Option KeyPlace) (queue : List Token) (taken : Nat) (allowed : allowsPlain chars = true)
    (filled : chars ≠ []) (rest : place.rest = chars ++ tail)
    (apart : ∀ char ∈ tail.head?, char ≠ '-' ∧ char ≠ '.') :
    (place.scanner key queue taken).takeToken = (place.scanner key queue taken).takePlain := by
  have line := plainLine_of_allowsPlain allowed
  simp only [allowsPlain, Bool.and_eq_true, Bool.not_eq_true', decide_eq_true_eq] at allowed
  obtain ⟨⟨⟨⟨⟨⟨_, _⟩, noSpace⟩, _⟩, noMarker⟩, noIndicator⟩, _⟩ := allowed
  have noMark := documentMarkAhead_append noMarker apart filled
  cases chars with
  | nil => exact absurd rfl filled
  | cons char chars =>
      obtain ⟨printable, noBreak⟩ := line.inLine char List.mem_cons_self
      have noGap : isGap char = false := by
        rw [isGap_of_isPrintable printable]
        simpa using noSpace
      -- The blank behind a hyphen, question mark or colon would be part of the scalar.
      have goesOn : ∀ special ∈ ['-', '?', ':'],
          (decide (char = special) && blankAhead (chars ++ tail)) = false := by
        intro special member
        by_cases same : char = special
        · subst same
          have apart : blankAhead chars = false := by
            simp only [startsLikeIndicator, Bool.or_eq_false_iff, Bool.and_eq_false_iff,
              decide_eq_false_iff_not] at noIndicator
            refine noIndicator.2.resolve_left (not_not_intro ?_)
            simp only [List.mem_cons, List.not_mem_nil, or_false] at member ⊢
            rcases member with same | same | same
            · exact .inr (.inr same)
            · exact .inl same
            · exact .inr (.inl same)
          cases chars with
          | nil => cases apart
          | cons other chars => simpa [blankAhead] using apart
        · simp [same]
      have starts : startsPlain char = true ∨ char = '-' ∨ char = '?' ∨ char = ':' := by
        simp only [startsLikeIndicator, List.mem_cons, List.not_mem_nil, or_false,
          Bool.or_eq_false_iff, decide_eq_false_iff_not, not_or] at noIndicator
        simp only [startsPlain, noGap, noBreak, List.mem_cons, List.not_mem_nil, or_false]
        by_cases hyphen : char = '-'
        · exact .inr (.inl hyphen)
        by_cases question : char = '?'
        · exact .inr (.inr (.inl question))
        by_cases colon : char = ':'
        · exact .inr (.inr (.inr colon))
        simp [noIndicator, hyphen, question, colon]
      simp only [startsLikeIndicator, List.mem_cons, List.not_mem_nil, or_false,
        Bool.or_eq_false_iff, decide_eq_false_iff_not, not_or] at noIndicator
      have hyphen := goesOn '-' (by decide)
      have question := goesOn '?' (by decide)
      have colon := goesOn ':' (by decide)
      simp only [takeToken, Place.scanner, rest, List.cons_append]
      rw [List.cons_append] at noMark
      simp only [noMark, noIndicator, hyphen, question, colon, Nat.lt_irrefl, gt_iff_lt,
        decide_false, Bool.and_false, Bool.false_or, Bool.false_and, Bool.not_false, Bool.true_and,
        Bool.false_eq_true, if_false]
      exact if_pos (by simpa [or_assoc] using starts)

/-- The lines of a scalar begin at a place inside of the innermost collection,
and the next token is outside of them. -/
structure Place.Holds (place : Place) (lines : List Char) (parent column : Nat) (rest : List Char) :
    Prop where
  /-- The text goes on with the next token, at its column. -/
  text : place.rest = lines ++ (spaces column ++ rest)
  /-- The innermost collection is at a column. -/
  innermost : place.stack.headD (-1) = parent
  /-- The scalar begins further to the right. -/
  inside : parent < place.mark.column
  /-- The next token does not. -/
  near : column ≤ parent
  /-- There is a next token, or the text ends. -/
  begins : beginsToken rest = true

/-- A plain scalar on a line of its own. -/
theorem Place.Holds.plain {place : Place} {chars rest : List Char} {parent column : Nat}
    (holds : place.Holds (chars ++ ['\n']) parent column rest) (allowed : allowsPlain chars = true)
    (filled : chars ≠ []) :
    place.LeadsOn [.scalar .plain (String.ofList chars)] place.stack column rest := by
  have written : place.rest = chars ++ '\n' :: (spaces column ++ rest) := by
    rw [holds.text, List.append_assoc]
    rfl
  have inside := holds.inside
  have near := holds.near
  have far : (parent : Int) + 1 ≤ place.mark.column + 1 := by omega
  have outside : (column : Int) < parent + 1 := by omega
  have read := readPlain_value place.mark allowed far outside holds.begins
  refine ⟨place.mark.line + 1, Reads.step
    { place with rest := rest, mark := ⟨place.mark.line + 1, column⟩, keyAllowed := true }
    [⟨.scalar .plain (String.ofList chars), place.mark⟩] ?_
    (Scanner.skipBlanks_begins holds.begins) ?_⟩
  · intro queue taken
    refine ⟨place.key queue taken, ?_,
      Place.key_optional (by rw [holds.innermost]; omega) (Nat.lt_succ_self _)⟩
    rw [Scanner.takeToken_plain none queue taken allowed filled written (by simp),
      Scanner.takePlain, Place.saveKey_scanner]
    simp only [bind, Except.bind, Place.scanner, holds.innermost, written, Nat.lt_irrefl, gt_iff_lt,
      decide_false, read]
    rfl
  · rw [written]
    simp only [List.length_append, List.length_cons]
    omega

theorem Place.Holds.singleQuoted {place : Place} {chars rest : List Char} {parent column : Nat}
    (holds : place.Holds ('\'' :: quotedLines (parent + 2) false chars ++ ['\'', '\n']) parent
      column rest)
    (allowed : allowsQuotes chars = true) (noFeed : '\n' ∉ chars) :
    place.LeadsOn [.scalar .singleQuoted (String.ofList chars)] place.stack column rest := by
  have written : place.rest =
      '\'' :: (quotedLines (parent + 2) false chars ++ '\'' :: '\n' ::
        (spaces column ++ rest)) := by
    rw [holds.text]
    simp
  have inside := holds.inside
  obtain ⟨after, later, read⟩ := readSingleQuoted_value place.mark (place.mark.right 1)
    ('\n' :: (spaces column ++ rest)) (Nat.succ_pos (parent + 1)) (by simp) (by simp) allowed noFeed
  refine ⟨after.line + 1, Reads.step
    { place with rest := '\n' :: (spaces column ++ rest), mark := after, keyAllowed := false }
    [⟨.scalar .singleQuoted (String.ofList chars), place.mark⟩] ?_
    (Scanner.skipBlanks_nextLine holds.begins) ?_⟩
  · intro queue taken
    refine ⟨place.key queue taken, ?_,
      Place.key_optional (by rw [holds.innermost]; omega) (Nat.lt_succ_of_le later)⟩
    have takes : (place.scanner none queue taken).takeToken =
        (place.scanner none queue taken).takeQuoted .singleQuoted := by
      simp [Scanner.takeToken, Place.scanner, written, documentMarkAhead]
    rw [takes, Scanner.takeQuoted, Place.saveKey_scanner]
    simp only [bind, Except.bind, Place.scanner, written, Cursor.skip, List.drop_one,
      List.tail_cons, if_true, read]
    rfl
  · rw [written]
    simp only [List.length_append, List.length_cons]
    omega

theorem Place.Holds.doubleQuoted {place : Place} {chars rest : List Char} {parent column : Nat}
    (holds : place.Holds ('\x22' :: chars.flatMap escapeChar ++ ['\x22', '\n']) parent
      column rest) :
    place.LeadsOn [.scalar .doubleQuoted (String.ofList chars)] place.stack column rest := by
  have written : place.rest =
      '\x22' :: (chars.flatMap escapeChar ++ '\x22' :: '\n' :: (spaces column ++ rest)) := by
    rw [holds.text]
    simp
  have inside := holds.inside
  obtain ⟨after, line, read⟩ := readDoubleQuoted_value place.mark (place.mark.right 1)
    ('\n' :: (spaces column ++ rest)) chars (by simp)
  have later : place.mark.line ≤ after.line := Nat.le_of_eq line.symm
  refine ⟨after.line + 1, Reads.step
    { place with rest := '\n' :: (spaces column ++ rest), mark := after, keyAllowed := false }
    [⟨.scalar .doubleQuoted (String.ofList chars), place.mark⟩] ?_
    (Scanner.skipBlanks_nextLine holds.begins) ?_⟩
  · intro queue taken
    refine ⟨place.key queue taken, ?_,
      Place.key_optional (by rw [holds.innermost]; omega) (Nat.lt_succ_of_le later)⟩
    have takes : (place.scanner none queue taken).takeToken =
        (place.scanner none queue taken).takeQuoted .doubleQuoted := by
      simp [Scanner.takeToken, Place.scanner, written, documentMarkAhead]
    rw [takes, Scanner.takeQuoted, Place.saveKey_scanner]
    simp only [bind, Except.bind, Place.scanner, written, Cursor.skip, List.drop_one,
      List.tail_cons, reduceCtorEq, if_false, read]
    rfl
  · rw [written]
    simp only [List.length_append, List.length_cons]
    omega

theorem Place.Holds.literal {place : Place} {chars rest : List Char} {parent column : Nat}
    (holds : place.Holds (literalHeader chars
      ++ '\n' :: (literalLines (parent + 2) true chars ++ addedBreak chars)) parent column rest)
    (allowed : allowsBlock chars = true) :
    place.LeadsOn [.scalar .literal (String.ofList chars)] place.stack column rest := by
  have headed := literalHeader_eq chars
  obtain ⟨line, later, read⟩ := readBlock_value place.mark (place.mark.right 1)
    (Int.natCast_nonneg parent) allowed headed
    (Int.ofNat_le.mpr holds.near) holds.begins
  have written : place.rest = '|' :: (indentationMark chars ++ endMark chars
      ++ '\n' :: (literalLines (parent + 2) true chars
        ++ (addedBreak chars ++ (spaces column ++ rest)))) := by
    rw [holds.text, headed]
    simp
  refine ⟨line, Reads.step
    { place with rest := rest, mark := ⟨line, column⟩, keyAllowed := true }
    [⟨.scalar .literal (String.ofList chars), place.mark⟩] ?_
    (Scanner.skipBlanks_begins holds.begins) ?_⟩
  · intro queue taken
    refine ⟨none, ?_, no_old_key⟩
    have takes : (place.scanner none queue taken).takeToken =
        (place.scanner none queue taken).takeBlockScalar .literal := by
      simp [Scanner.takeToken, Place.scanner, written, documentMarkAhead]
    rw [takes]
    simp only [Scanner.takeBlockScalar, Scanner.dropKey, bind, Except.bind, Place.scanner, written,
      holds.innermost, Cursor.skip, List.drop_one, List.tail_cons, reduceCtorEq, decide_false]
    rw [Int.toNat_natCast] at read
    rw [read]
    rfl
  · rw [written]
    simp only [List.length_append, List.length_cons]
    omega

/-! ## Written texts -/

theorem scalarLine_literal {indent : Nat} {chars header : List Char} (filled : chars ≠ []) :
    scalarLine (header ++ '\n' :: literalLines indent true chars) =
      header ++ '\n' :: (literalLines indent true chars ++ addedBreak chars) := by
  have last : (header ++ '\n' :: literalLines indent true chars).getLast? = chars.getLast? := by
    rw [List.getLast?_append, List.getLast?_cons, getLast?_literalLines indent chars true filled]
    cases chars with
    | nil => exact absurd rfl filled
    | cons char chars => rfl
  unfold scalarLine addedBreak
  rw [last]
  split
  next => simp
  next => simp

theorem scalarLine_inLine {scalar : List Char} {last : Char} (ends : scalar.getLast? = some last)
    (inLine : isBreak last = false) : scalarLine scalar = scalar ++ ['\n'] := by
  simp [scalarLine, ends, inLine]

namespace Style

/-- A text as a scalar in a style, whose lines are indented to a column. -/
def written (style : Style) (indent : Nat) (text : String) : List Char :=
  let chars := text.toList
  match style with
  | .plain => chars
  | .singleQuoted => '\'' :: quotedLines indent false chars ++ ['\'']
  | .literal => literalHeader chars ++ '\n' :: literalLines indent true chars
  | _ => '\x22' :: chars.flatMap escapeChar ++ ['\x22']

/-- Is a text read back if it is written in a style? -/
def carries (text : String) : Style → Bool
  | .plain => !text.toList.isEmpty && allowsPlain text.toList
  | .singleQuoted => !decide ('\n' ∈ text.toList) && allowsQuotes text.toList
  | .doubleQuoted => true
  | .literal => allowsBlock text.toList
  | .folded => false

theorem carries_plain_iff {text : String} :
    carries text .plain = true ↔ text.toList ≠ [] ∧ allowsPlain text.toList = true := by
  simp [carries]

theorem carries_singleQuoted_iff {text : String} :
    carries text .singleQuoted = true ↔ '\n' ∉ text.toList ∧ allowsQuotes text.toList = true := by
  simp [carries]

end Style

theorem writeText_eq (isKey : Bool) (indent : Nat) (text : String) :
    writeText isKey indent text = (styleFor isKey text).written indent text := by
  unfold writeText
  cases styleFor isKey text <;> rfl

theorem toList_ne_nil_of_meaning {text : String} (meaning : Meaning.of text = .text) :
    text.toList ≠ [] := by
  intro empty
  rw [String.toList_eq_nil_iff] at empty
  subst empty
  cases meaning

/-- The style that a text is written in carries it. -/
theorem styleFor_carries (isKey : Bool) (text : String) :
    (styleFor isKey text).carries text = true := by
  unfold styleFor
  -- Quotes are single only if that is allowed.
  have quotes (noFeed : '\n' ∉ text.toList) :
      (if allowsQuotes text.toList = true then Style.singleQuoted else .doubleQuoted).carries text =
      true := by
    split
    next allowed => exact Style.carries_singleQuoted_iff.mpr ⟨noFeed, allowed⟩
    next => rfl
  dsimp only
  split
  next => rfl
  next =>
    split
    next =>
      split
      next allowed => exact allowed
      next => rfl
    next noFeed =>
      split
      next => exact quotes noFeed
      next meaning =>
        split
        next allowed =>
          simp only [ne_eq, Bool.or_eq_true, decide_eq_true_eq, not_or,
            Decidable.not_not] at meaning
          exact Style.carries_plain_iff.mpr ⟨toList_ne_nil_of_meaning meaning.1, allowed⟩
        next => exact quotes noFeed

/-- A text is read back from a style that carries it. -/
theorem Place.Holds.written {place : Place} {style : Style} {text : String} {rest : List Char}
    {parent column : Nat}
    (holds : place.Holds (scalarLine (style.written (parent + 2) text)) parent column rest)
    (carries : style.carries text = true) :
    place.LeadsOn [.scalar style text] place.stack column rest := by
  have back : String.ofList text.toList = text := String.ofList_toList
  cases style with
  | plain =>
      obtain ⟨filled, allowed⟩ := Style.carries_plain_iff.mp carries
      have ends := List.getLast?_eq_some_getLast filled
      have inLine := ((plainLine_of_allowsPlain allowed).inLine _ (List.getLast_mem filled)).2
      simp only [Style.written, scalarLine_inLine ends inLine] at holds
      rw [← back]
      exact holds.plain allowed filled
  | singleQuoted =>
      obtain ⟨noFeed, allowed⟩ := Style.carries_singleQuoted_iff.mp carries
      simp only [Style.written] at holds
      rw [scalarLine_inLine List.getLast?_concat (by decide), List.append_assoc] at holds
      rw [← back]
      exact holds.singleQuoted allowed noFeed
  | doubleQuoted =>
      simp only [Style.written] at holds
      rw [scalarLine_inLine List.getLast?_concat (by decide), List.append_assoc] at holds
      rw [← back]
      exact holds.doubleQuoted
  | literal =>
      have allowed : allowsBlock text.toList = true := carries
      have filled : text.toList ≠ [] := by
        simp only [allowsBlock, Bool.and_eq_true, Bool.not_eq_true',
          List.isEmpty_eq_false_iff] at allowed
        exact allowed.1.2
      simp only [Style.written, scalarLine_literal filled] at holds
      rw [← back]
      exact holds.literal allowed
  | folded => cases carries

end PoolOperator.Yaml
