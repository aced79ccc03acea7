import PoolOperator.Proofs.Yaml.Tokens

/-!
# The tokens between scalars

The writer lays a value out by indentation: a hyphen before each item, a key
and a colon before each member.  These are cut into tokens here
(`Reads.hyphen`, `Reads.key`), and so are the brackets of empty collections
(`Place.Holds.brackets`).  A block collection begins with its first item or
member (`opening`, `opened`).
-/

namespace PoolOperator.Yaml

/-! ## Collections that begin -/

/-- The open collections once a token of a collection stands at a column. -/
def opened (stack : List Int) (column : Nat) : List Int :=
  if stack.headD (-1) < column then column :: stack else stack

/-- The token for the beginning of a collection, if it begins at a column. -/
def opening (stack : List Int) (column : Nat) (kind : TokenKind) : List TokenKind :=
  if stack.headD (-1) < column then [kind] else []

theorem headD_opened {stack : List Int} {column : Nat} (inside : stack.headD (-1) ≤ column) :
    (opened stack column).headD (-1) = column := by
  unfold opened
  split
  next => rfl
  next notFurther => exact Int.le_antisymm inside (Int.not_lt.mp notFurther)

theorem opened_ne_nil {stack : List Int} {column : Nat} (filled : stack ≠ []) :
    opened stack column ≠ [] := by
  unfold opened
  split
  next => simp
  next => exact filled

/-- No other collection begins at the column. -/
theorem opened_opened {stack : List Int} {column : Nat} (inside : stack.headD (-1) ≤ column) :
    opened (opened stack column) column = opened stack column := by
  rw [opened, if_neg (by rw [headD_opened inside]; exact Int.lt_irrefl _)]

theorem opening_opened {stack : List Int} {column : Nat} {kind : TokenKind}
    (inside : stack.headD (-1) ≤ column) : opening (opened stack column) column kind = [] := by
  rw [opening, if_neg (by rw [headD_opened inside]; exact Int.lt_irrefl _)]

theorem Place.closed_inside {place : Place} {column : Nat}
    (inside : place.stack.headD (-1) ≤ column) : place.closed column = 0 := by
  unfold Place.closed
  cases stack : place.stack with
  | nil => rfl
  | cons indent indents =>
      rw [stack] at inside
      rw [List.takeWhile_cons_of_neg (by simpa using inside)]
      rfl

theorem Place.next_inside {place : Place} {rest : List Char} {mark : Mark} {keyAllowed : Bool}
    (inside : place.stack.headD (-1) ≤ mark.column) :
    place.next rest mark keyAllowed = ⟨rest, mark, place.stack, keyAllowed⟩ := by
  unfold Place.next
  cases stack : place.stack with
  | nil => rfl
  | cons indent indents =>
      rw [stack] at inside
      rw [List.dropWhile_cons_of_neg (by simpa using inside)]

/-- The token that opens a collection goes to the end of the queue. -/
theorem Place.openBlock_scanner (place : Place) (kind : TokenKind) (filled : place.stack ≠ [])
    (queue : List Token) (taken : Nat) :
    (place.scanner none queue taken).openBlock none ⟨kind, place.mark⟩ =
      { place with stack := opened place.stack place.mark.column }.scanner none
          (queue ++ (opening place.stack place.mark.column kind).map (Token.mk · place.mark))
          taken := by
  obtain ⟨rest, mark, stack, keyAllowed⟩ := place
  cases stack with
  | nil => exact absurd rfl filled
  | cons indent indents =>
      by_cases further : indent < mark.column
      · have notInside : ¬ indent ≥ mark.column := Int.not_le.mpr further
        simp [Scanner.openBlock, Place.scanner, opened, opening, Scanner.insert, further, notInside]
      · have inside : indent ≥ mark.column := Int.not_lt.mp further
        simp [Scanner.openBlock, Place.scanner, opened, opening, further, inside]

/-! ## Hyphens -/

/-- A hyphen before an item, on the line of the item. -/
theorem Reads.hyphen {place : Place} {rest : List Char} (text : place.rest = '-' :: ' ' :: rest)
    (allowed : place.keyAllowed = true) (filled : place.stack ≠ [])
    (inside : place.stack.headD (-1) ≤ place.mark.column) (begins : beginsToken rest = true) :
    Reads place (opening place.stack place.mark.column .blockSequenceStart ++ [.blockEntry])
      ⟨rest, place.mark.right 2, opened place.stack place.mark.column, true⟩ := by
  have further : (opened place.stack place.mark.column).headD (-1) ≤
    (place.mark.right 2).column := by
    rw [headD_opened inside, Mark.right_column]
    omega
  have skips : Scanner.skipBlanks false false true (' ' :: rest) (place.mark.right 1) =
      (⟨rest, place.mark.right 2⟩, true) := by
    rw [Scanner.skipBlanks_sameLine begins, Mark.right_right]
  have step : Reads place _ _ := Reads.step
    ⟨' ' :: rest, place.mark.right 1, opened place.stack place.mark.column, true⟩
    ((opening place.stack place.mark.column .blockSequenceStart).map (Token.mk · place.mark)
      ++ [⟨.blockEntry, place.mark⟩]) ?_ skips ?_
  · rw [Place.closed_inside further, Place.next_inside further] at step
    simpa [Function.comp_def] using step
  · intro queue taken
    refine ⟨none, ?_, no_old_key⟩
    have takes : (place.scanner none queue taken).takeToken =
        (place.scanner none queue taken).takeBlockEntry := by
      simp [Scanner.takeToken, Place.scanner, text, documentMarkAhead, blankAhead]
    rw [takes, Scanner.takeBlockEntry, if_neg (by simp [Place.scanner, allowed])]
    have opens := place.openBlock_scanner .blockSequenceStart filled queue taken
    rw [show (place.scanner none queue taken).cursor.mark = place.mark from rfl, opens]
    simp [Scanner.dropKey, bind, Except.bind, pure, Except.pure, Place.scanner, Scanner.take,
      Scanner.push, Cursor.skip, text]
  · rw [text]
    simp only [List.length_cons]
    omega

/-! ## Keys -/

/-- A key is kept as long as it may end on its line. -/
theorem Place.dropStaleKeys_fresh {place : Place} {key : KeyPlace}
    (sameLine : key.mark.line = place.mark.line)
    (short : place.mark.column ≤ key.mark.column + 1024) (queue : List Token) (taken : Nat) :
    (place.scanner (some key) queue taken).dropStaleKeys =
      .ok (place.scanner (some key) queue taken) := by
  have fresh : (place.scanner (some key) queue taken).isStale key = false := by
    simp [Scanner.isStale, Place.scanner, sameLine, short]
  have keys : (place.scanner (some key) queue taken).keys = [some key] := rfl
  have given : [some key].reduceOption = [key] := rfl
  simp only [Scanner.dropStaleKeys, keys, given, List.find?_cons, fresh, Bool.and_false,
    List.find?_nil, List.map_cons, List.map_nil]
  simp [fresh, Option.filter]
  rfl

/-- Nothing happens on the way to a colon right behind a key. -/
theorem Place.settle_fresh (place : Place) (key : KeyPlace) (begins : beginsToken place.rest = true)
    (inside : place.stack.headD (-1) ≤ place.mark.column)
    (sameLine : key.mark.line = place.mark.line)
    (short : place.mark.column ≤ key.mark.column + 1024) (queue : List Token) (taken : Nat) :
    (place.scanner (some key) queue taken).settle = .ok (place.scanner (some key) queue taken) := by
  have stays : (place.scanner (some key) queue taken).toToken =
      place.scanner (some key) queue taken := by
    simp only [Scanner.toToken, Place.scanner, Scanner.skipBlanks_begins begins]
  rw [Scanner.settle, stays, Place.dropStaleKeys_fresh sameLine short]
  simp only [bind, Except.bind, pure, Except.pure, Scanner.closeBlocks]
  rw [if_pos (by simpa [Place.scanner] using inside)]

/-- The token that turns a scalar into the first key of a collection goes before it. -/
theorem Place.takeValue_scanner (place : Place) (key : KeyPlace) (scalar : Token)
    {tail : List Char} {taken : Nat} (text : place.rest = ':' :: tail) (filled : place.stack ≠ [])
    (number : key.number = taken) :
    (place.scanner (some key) [scalar] taken).takeValue =
      .ok (Place.scanner ⟨tail, place.mark.right 1, opened place.stack key.mark.column, false⟩ none
        ((opening place.stack key.mark.column .blockMappingStart).map (Token.mk · key.mark)
          ++ [⟨.key, key.mark⟩, scalar, ⟨.value, place.mark⟩]) taken) := by
  obtain ⟨rest, mark, stack, keyAllowed⟩ := place
  subst number text
  cases stack with
  | nil => exact absurd rfl filled
  | cons indent indents =>
      by_cases further : indent < key.mark.column
      · have notInside : ¬ indent ≥ key.mark.column := Int.not_le.mpr further
        simp [Scanner.takeValue, Scanner.openBlock, Place.scanner, opened, opening, Scanner.insert,
          Scanner.take, Scanner.push, Cursor.skip, further, notInside]
      · have inside : indent ≥ key.mark.column := Int.not_lt.mp further
        simp [Scanner.takeValue, Scanner.openBlock, Place.scanner, opened, opening, Scanner.insert,
          Scanner.take, Scanner.push, Cursor.skip, further, inside]

/-- A key and its colon, up to the next token. -/
theorem Reads.key {place : Place} {key tail rest : List Char} {mark : Mark} {keyAllowed : Bool}
    (text : place.rest = key ++ ':' :: tail) (allowed : place.keyAllowed = true)
    (filled : place.stack ≠ []) (inside : place.stack.headD (-1) ≤ place.mark.column)
    (plain : allowsPlain key = true) (notEmpty : key ≠ []) (short : key.length ≤ 1024)
    (blank : blankAhead tail = true)
    (skips : Scanner.skipBlanks false false false tail ((place.mark.right key.length).right 1) =
      (⟨rest, mark⟩, keyAllowed))
    (shorter : rest.length ≤ tail.length) (further : place.mark.column ≤ mark.column) :
    Reads place (opening place.stack place.mark.column .blockMappingStart
        ++ [.key, .scalar .plain (String.ofList key), .value])
      ⟨rest, mark, opened place.stack place.mark.column, keyAllowed⟩ := by
  intro scanner queue taken settled
  have saved : place.key queue taken = some ⟨decide (place.stack.headD (-1) = place.mark.column),
      taken + queue.length, place.mark⟩ := if_pos allowed
  -- First the scalar is taken, and held back because it may be a key.
  have far : place.stack.headD (-1) + 1 ≤ place.mark.column + 1 := by omega
  have read := readPlain_key place.mark plain far blank
  have takesScalar : (place.scanner none queue taken).takeToken =
      .ok (Place.scanner ⟨':' :: tail, place.mark.right key.length, place.stack, false⟩
        (place.key queue taken) (queue ++ [⟨.scalar .plain (String.ofList key), place.mark⟩])
        taken) := by
    rw [Scanner.takeToken_plain none queue taken plain notEmpty text (by simp), Scanner.takePlain,
      Place.saveKey_scanner]
    simp only [bind, Except.bind, Place.scanner, text, Nat.lt_irrefl, gt_iff_lt, decide_false, read]
    rfl
  rw [saved] at takesScalar
  have scalarRuns := Scanner.Runs.single settled.alive settled.settles takesScalar
    (Place.dropStaleKeys_fresh rfl (by simpa using short) _ _)
    (Scanner.handOut_held queue [⟨.scalar .plain (String.ofList key), place.mark⟩] _ rfl rfl)
  -- Then the colon is taken, and nothing is held back any more.
  have filledKey : 0 < key.length := List.length_pos_iff.mpr notEmpty
  have colon : beginsToken (':' :: tail) = true := rfl
  have takesColon (place : Place) (key : Option KeyPlace) (queue : List Token) (taken : Nat)
      (text : place.rest = ':' :: tail) : (place.scanner key queue taken).takeToken =
        (place.scanner key queue taken).takeValue := by
    simp [Scanner.takeToken, Place.scanner, text, documentMarkAhead, blank]
  have settlesColon := Place.settle_fresh
    ⟨':' :: tail, place.mark.right key.length, place.stack, false⟩
    ⟨decide (place.stack.headD (-1) = place.mark.column), taken + queue.length, place.mark⟩
    colon (by simp only [Mark.right_column]; omega) rfl (by simpa using short)
    [⟨.scalar .plain (String.ofList key), place.mark⟩] (taken + queue.length)
  have takesValue := Place.takeValue_scanner
    ⟨':' :: tail, place.mark.right key.length, place.stack, false⟩
    ⟨decide (place.stack.headD (-1) = place.mark.column), taken + queue.length, place.mark⟩
    ⟨.scalar .plain (String.ofList key), place.mark⟩ rfl filled rfl
  rw [← takesColon _ _ _ _ rfl] at takesValue
  have headAfter : (opened place.stack place.mark.column).headD (-1) ≤ mark.column := by
    rw [headD_opened inside]
    omega
  obtain ⟨out, final, queue', taken', colonRuns, finalSettled, yields⟩ :=
    Scanner.step_settlesAt rfl settlesColon takesValue no_old_key skips
  rw [Place.next_inside headAfter] at finalSettled
  rw [Place.closed_inside headAfter, List.replicate_zero, List.append_nil] at yields
  refine ⟨1 + 1, queue ++ out, final, queue', taken', scalarRuns.trans colonRuns,
    finalSettled, ?_, ?_⟩
  · rw [List.append_assoc, yields]
    simp [Function.comp_def]
  · rw [text]
    simp only [List.length_append, List.length_cons]
    omega

/-! ## Empty collections -/

/-- The brackets of a collection and their tokens. -/
inductive Brackets : Char → Char → TokenKind → TokenKind → Prop where
  /-- The brackets of a sequence. -/
  | square : Brackets '[' ']' .flowSequenceStart .flowSequenceEnd
  /-- The braces of a mapping. -/
  | curly : Brackets '\x7b' '\x7d' .flowMappingStart .flowMappingEnd

/-- The scanner between the brackets of an empty collection. -/
def Place.between (place : Place) (key : Option KeyPlace) (tail : List Char) (queue : List Token)
    (taken : Nat) : Scanner :=
  { place.scanner key queue taken with
    cursor := ⟨tail, place.mark.right 1⟩
    keyAllowed := true
    flow := 1
    keys := [none, key] }

theorem Brackets.takeToken_open {opens closes : Char} {first last : TokenKind}
    (brackets : Brackets opens closes first last) {place : Place} {tail : List Char}
    (text : place.rest = opens :: tail) (queue : List Token) (taken : Nat) :
    (place.scanner none queue taken).takeToken =
      .ok (place.between (place.key queue taken) tail (queue ++ [⟨first, place.mark⟩]) taken) := by
  have takes : (place.scanner none queue taken).takeToken =
      (place.scanner none queue taken).openFlow first := by
    cases brackets with
    | square => simp [Scanner.takeToken, Place.scanner, text, documentMarkAhead]
    | curly => simp [Scanner.takeToken, Place.scanner, text, documentMarkAhead]
  rw [takes, Scanner.openFlow, Place.saveKey_scanner]
  simp [bind, Except.bind, pure, Except.pure, Place.scanner, Place.between, Scanner.take,
    Scanner.push, Cursor.skip, text]

theorem Place.settle_between {place : Place} {key : Option KeyPlace} {tail : List Char}
    (begins : beginsToken tail = true) (same : ∀ saved ∈ key, saved.mark = place.mark)
    (queue : List Token) (taken : Nat) :
    (place.between key tail queue taken).dropStaleKeys = .ok (place.between key tail queue taken)
      ∧ (place.between key tail queue taken).settle = .ok (place.between key tail queue taken) := by
  have stays : (place.between key tail queue taken).toToken =
      place.between key tail queue taken := by
    simp only [Scanner.toToken, Place.between, Scanner.skipBlanks_begins begins]
  have drops : (place.between key tail queue taken).dropStaleKeys =
      .ok (place.between key tail queue taken) := by
    cases key with
    | none => rfl
    | some key =>
        have fresh : (place.between (some key) tail queue taken).isStale key = false := by
          simp only [Scanner.isStale, Place.between, same key rfl, Mark.right_line,
            Mark.right_column, Nat.lt_irrefl, decide_false, Bool.false_or, decide_eq_false_iff_not]
          omega
        have keys : (place.between (some key) tail queue taken).keys = [none, some key] := rfl
        have given : [none, some key].reduceOption = [key] := rfl
        simp only [Scanner.dropStaleKeys, keys, given, List.find?_cons, fresh, Bool.and_false,
          List.find?_nil, List.map_cons, List.map_nil]
        simp [fresh, Option.filter]
        rfl
  refine ⟨drops, ?_⟩
  rw [Scanner.settle, stays, drops]
  rfl

theorem Brackets.takeToken_close {opens closes : Char} {first last : TokenKind}
    (brackets : Brackets opens closes first last) (place : Place) (tail : List Char)
    (key : Option KeyPlace) (queue : List Token) (taken : Nat) :
    (place.between key (closes :: tail) queue taken).takeToken =
      .ok (Place.scanner ⟨tail, place.mark.right 2, place.stack, false⟩ key
        (queue ++ [⟨last, place.mark.right 1⟩]) taken) := by
  have takes : (place.between key (closes :: tail) queue taken).takeToken =
      (place.between key (closes :: tail) queue taken).closeFlow last := by
    cases brackets with
    | square => simp [Scanner.takeToken, Place.between, documentMarkAhead]
    | curly => simp [Scanner.takeToken, Place.between, documentMarkAhead]
  rw [takes]
  simp [Scanner.closeFlow, Scanner.dropKey, bind, Except.bind, pure, Except.pure, Place.scanner,
    Place.between, Scanner.take, Scanner.push, Cursor.skip, Mark.right_right]

/-- An empty collection, with its line. -/
theorem Place.Holds.brackets {place : Place} {opens closes : Char} {first last : TokenKind}
    {rest : List Char} {parent column : Nat} (brackets : Brackets opens closes first last)
    (holds : place.Holds [opens, closes, '\n'] parent column rest) :
    place.LeadsOn [first, last] place.stack column rest := by
  refine ⟨place.mark.line + 1, ?_⟩
  intro scanner queue taken settled
  have inside := holds.inside
  have optional : ∀ key ∈ place.key queue taken,
      key.required = false ∧ key.mark.line < place.mark.line + 1 :=
    Place.key_optional (by rw [holds.innermost]; omega) (Nat.lt_succ_self _)
  have same : ∀ key ∈ place.key queue taken, key.mark = place.mark := by
    intro key member
    unfold Place.key at member
    split at member
    next => cases member; rfl
    next => cases member
  have closesBegins : beginsToken (closes :: '\n' :: (spaces column ++ rest)) = true := by
    cases brackets with
    | square => rfl
    | curly => rfl
  have takesOpen := brackets.takeToken_open holds.text queue taken
  obtain ⟨out, left, split, hands⟩ := Scanner.handOut_eq (queue ++ [⟨first, place.mark⟩])
    (place.between (place.key queue taken) (closes :: '\n' :: (spaces column ++ rest))
      (queue ++ [⟨first, place.mark⟩]) taken)
  have openRuns := Scanner.Runs.single settled.alive settled.settles takesOpen
    (Place.settle_between closesBegins same _ _).1 hands
  have takesClose := brackets.takeToken_close place ('\n' :: (spaces column ++ rest))
    (place.key queue taken) left (taken + out.length)
  obtain ⟨out', final, queue', taken', closeRuns, finalSettled, yields⟩ :=
    Scanner.step_settlesAt rfl (Place.settle_between closesBegins same left (taken + out.length)).2
      takesClose optional (Scanner.skipBlanks_nextLine holds.begins)
  refine ⟨1 + 1, out ++ out', final, queue', taken', openRuns.trans closeRuns, finalSettled, ?_, ?_⟩
  · rw [List.append_assoc, yields, List.append_assoc, ← List.append_assoc, split]
    simp
    rfl
  · rw [holds.text]
    simp only [List.length_append, List.length_cons]
    omega

end PoolOperator.Yaml
