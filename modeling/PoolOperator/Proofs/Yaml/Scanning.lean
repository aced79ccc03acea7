import PoolOperator.Proofs.Yaml.Characters
import PoolOperator.Yaml.Token.Stream

/-!
# Cutting a text into tokens, step by step

A step of the scanner goes on to the next token, closes the block collections
that end before it, takes it, and hands out the tokens that are known to be
final.  A *place* is what matters of a scanner that has just gone on to a token
in block collections: where it is, which collections are open, and whether a
key may begin there.  The queue of tokens is left out.

`Reads` says that scanning from a place leads to another one and yields tokens
of some kinds, whatever was in the queue.  It composes (`Reads.trans`), and one
token is enough for it (`Reads.step`).
-/

namespace PoolOperator.Yaml

/-- A scanner that has gone on to a token, in block collections only. -/
structure Place where
  /-- The text that is left. -/
  rest : List Char
  /-- Where it begins. -/
  mark : Mark
  /-- The columns of the open block collections, inside out, and `-1` for the
  outside. -/
  stack : List Int
  /-- May a key begin here? -/
  keyAllowed : Bool

/-- The scanner at a place, with a key that may have begun before, the tokens
that are held back and the number of tokens that were handed out. -/
def Place.scanner (place : Place) (key : Option KeyPlace) (queue : List Token) (taken : Nat) :
    Scanner where
  cursor := ⟨place.rest, place.mark⟩
  indent := place.stack.headD (-1)
  indents := place.stack.tail
  keyAllowed := place.keyAllowed
  keys := [key]
  queue := queue
  taken := taken

/-- The place where the next token is, once the blanks are skipped and the
collections that end there are closed. -/
def Place.next (place : Place) (rest : List Char) (mark : Mark) (keyAllowed : Bool) : Place :=
  ⟨rest, mark, place.stack.dropWhile (· > mark.column), keyAllowed⟩

/-- The number of collections that end before a column. -/
def Place.closed (place : Place) (column : Nat) : Nat :=
  (place.stack.takeWhile (· > (column : Int))).length

namespace Scanner

/-- Goes on to the next token and closes the collections that end before it. -/
def settle (scanner : Scanner) : Except Error Scanner := do
  let scanner ← scanner.toToken.dropStaleKeys
  return scanner.closeBlocks scanner.cursor.mark.column

/-- Without a barrier, a step is not held up by what was read. -/
theorem advance_eq_settle (scanner : Scanner) :
    scanner.advance none = scanner.settle >>= takeToken := by
  simp only [advance, settle, Barrier.lookAhead, bind, Except.bind, pure, Except.pure]
  cases scanner.toToken.dropStaleKeys with
  | error error => rfl
  | ok scanner =>
      dsimp only
      cases (scanner.closeBlocks scanner.cursor.mark.column).takeToken with
      | error error => rfl
      | ok scanner => rfl

/-- Some steps from one scanner to another in a text without a barrier, and the
tokens that they hand out. -/
def Runs (steps : Nat) (scanner : Scanner) (out : List Token) (after : Scanner) : Prop :=
  ∀ fuel : Nat,
    run none (steps + fuel) scanner = (out ++ (run none fuel after).1, (run none fuel after).2)

theorem Runs.trans {steps more : Nat} {first second third : Scanner} {out further : List Token}
    (runs : Runs steps first out second) (goesOn : Runs more second further third) :
    Runs (steps + more) first (out ++ further) third := by
  intro fuel
  rw [Nat.add_assoc, runs, goesOn, List.append_assoc]

theorem Runs.single {scanner settled taken fresh after : Scanner} {out : List Token}
    (alive : scanner.ended = false) (settles : scanner.settle = .ok settled)
    (takes : settled.takeToken = .ok taken) (drops : taken.dropStaleKeys = .ok fresh)
    (hands : fresh.handOut fresh.queue = (out, after)) : Runs 1 scanner out after := by
  intro fuel
  rw [Nat.add_comm, run, if_neg (by simp [alive]), advance_eq_settle, settles]
  simp only [bind, Except.bind, takes, drops, hands]

/-! ## Handing out -/

theorem handOut_eq : ∀ (queue : List Token) (scanner : Scanner),
    ∃ out left : List Token, out ++ left = queue ∧
      scanner.handOut queue =
        (out, { scanner with queue := left, taken := scanner.taken + out.length })
  | [], scanner => ⟨[], [], rfl, rfl⟩
  | token :: queue, scanner => by
      by_cases held : scanner.isHeld = true
      · exact ⟨[], token :: queue, rfl, by rw [handOut, if_pos held]; rfl⟩
      · obtain ⟨out, left, split, hands⟩ :=
          handOut_eq queue { scanner with taken := scanner.taken + 1 }
        refine ⟨token :: out, left, by rw [← split]; rfl, ?_⟩
        rw [handOut, if_neg held, hands]
        simp [Nat.add_comm 1, Nat.add_assoc]

/-- Handing out stops at the token that may begin a key. -/
theorem handOut_held {key : KeyPlace} : ∀ (front back : List Token) (scanner : Scanner),
    scanner.keys = [some key] → key.number = scanner.taken + front.length →
      scanner.handOut (front ++ back) =
        (front, { scanner with queue := back, taken := scanner.taken + front.length })
  | [], back, scanner, keys, number => by
      have held : scanner.isHeld = true := by simpa [isHeld, keys] using number
      cases back with
      | nil => rfl
      | cons token back => rw [List.nil_append, handOut, if_pos held]; rfl
  | token :: front, back, scanner, keys, number => by
      have free : ¬ scanner.isHeld = true := by
        simp only [List.length_cons] at number
        simp [isHeld, keys, number]
      have rest := handOut_held front back { scanner with taken := scanner.taken + 1 } keys
        (by simp only [List.length_cons] at number; simp only; omega)
      rw [List.cons_append, handOut, if_neg free, rest]
      simp [Nat.add_comm 1, Nat.add_assoc]

end Scanner

/-! ## Going on to the next token -/

/-- A key that is not needed does not stop the scanner. -/
theorem Place.dropStaleKeys_scanner (place : Place) {key : Option KeyPlace}
    (optional : ∀ place ∈ key, place.required = false) (queue : List Token) (taken : Nat) :
    (place.scanner key queue taken).dropStaleKeys =
      .ok (place.scanner (key.filter fun key => !(place.scanner none queue taken).isStale key)
        queue taken) := by
  cases key with
  | none => rfl
  | some key =>
      have notNeeded : key.required = false := optional key rfl
      have keys : (place.scanner (some key) queue taken).keys.reduceOption = [key] := rfl
      simp only [Scanner.dropStaleKeys, keys, List.find?_cons, notNeeded, Bool.false_and,
        List.find?_nil]
      rfl

theorem Place.closeBlocks_scanner (place : Place) (queue : List Token) (taken : Nat) :
    (place.scanner none queue taken).closeBlocks place.mark.column =
      (place.next place.rest place.mark place.keyAllowed).scanner none
        (queue ++ List.replicate (place.closed place.mark.column) ⟨.blockEnd, place.mark⟩)
          taken := by
  obtain ⟨rest, mark, stack, keyAllowed⟩ := place
  cases stack with
  | nil => simp [Scanner.closeBlocks, Place.scanner, Place.next, Place.closed]
  | cons indent indents =>
      by_cases inside : indent ≤ mark.column
      · simp [Scanner.closeBlocks, Place.scanner, Place.next, Place.closed, inside]
      · have further : indent > (mark.column : Int) := Int.lt_of_not_ge inside
        have drop : (indent :: indents).dropWhile (· > (mark.column : Int)) =
            indents.dropWhile (· > (mark.column : Int)) := by
          simp [further]
        have count : ((indent :: indents).takeWhile (· > (mark.column : Int))).length =
            (indents.takeWhile (· > (mark.column : Int))).length + 1 := by
          simp [further]
        simp only [Scanner.closeBlocks, Place.scanner, Place.next, Place.closed, List.headD_cons,
          List.tail_cons, Nat.lt_irrefl, gt_iff_lt, decide_false, Bool.false_or, inside,
          drop, count]
        cases indents.dropWhile (· > (mark.column : Int)) with
        | nil => rfl
        | cons outer outers => rfl

theorem no_old_key {line : Nat} :
    ∀ place ∈ (none : Option KeyPlace), place.required = false ∧ place.mark.line < line :=
  fun place member => absurd member (Option.not_mem_none place)

/-- Going on to the next token from some place.  `rest` and `mark` are where it
begins. -/
theorem Place.settle_scanner {place : Place} {key : Option KeyPlace} {rest : List Char}
    {mark : Mark} {keyAllowed : Bool}
    (skips : Scanner.skipBlanks false false place.keyAllowed place.rest place.mark =
      (⟨rest, mark⟩, keyAllowed))
    (old : ∀ place ∈ key, place.required = false ∧ place.mark.line < mark.line)
    (queue : List Token) (taken : Nat) :
    (place.scanner key queue taken).settle =
      .ok ((place.next rest mark keyAllowed).scanner none
        (queue ++ List.replicate (place.closed mark.column) ⟨.blockEnd, mark⟩) taken) := by
  have moved : (place.scanner key queue taken).toToken =
      (Place.mk rest mark place.stack keyAllowed).scanner key queue taken := by
    simp only [Scanner.toToken, Place.scanner, Nat.lt_irrefl, gt_iff_lt, decide_false, skips]
  have stale : (key.filter fun key =>
      !((Place.mk rest mark place.stack keyAllowed).scanner none queue taken).isStale key) =
        none := by
    cases key with
    | none => rfl
    | some key =>
        have before : key.mark.line < mark.line := (old key rfl).2
        simp only [Option.filter_eq_none_iff, Scanner.isStale, Place.scanner]
        intro _ same
        cases same
        simp [before]
  unfold Scanner.settle
  rw [moved, Place.dropStaleKeys_scanner _ (fun place member => (old place member).1), stale]
  simp only [bind, Except.bind, pure, Except.pure]
  exact congrArg Except.ok (Place.closeBlocks_scanner ⟨rest, mark, place.stack, keyAllowed⟩
    queue taken)

/-! ## From place to place -/

/-- The scanner goes on to a place, with some tokens held back. -/
structure Scanner.SettlesAt (scanner : Scanner) (place : Place) (queue : List Token) (taken : Nat) :
    Prop where
  /-- The text has not ended before. -/
  alive : scanner.ended = false
  /-- The place is where the scanner goes on to. -/
  settles : scanner.settle = .ok (place.scanner none queue taken)

/-- A step that takes a token in block collections and goes on to the next one. -/
theorem Scanner.step_settlesAt {scanner settled : Scanner} {after : Place} {key : Option KeyPlace}
    {queue : List Token} {taken : Nat} {rest : List Char} {mark : Mark} {keyAllowed : Bool}
    (alive : scanner.ended = false) (settles : scanner.settle = .ok settled)
    (takes : settled.takeToken = .ok (after.scanner key queue taken))
    (old : ∀ place ∈ key, place.required = false ∧ place.mark.line < mark.line)
    (skips : Scanner.skipBlanks false false after.keyAllowed after.rest after.mark =
      (⟨rest, mark⟩, keyAllowed)) :
    ∃ (out : List Token) (final : Scanner) (queue' : List Token) (taken' : Nat),
      scanner.Runs 1 out final ∧ final.SettlesAt (after.next rest mark keyAllowed) queue' taken'
        ∧ out ++ queue' = queue ++ List.replicate (after.closed mark.column) ⟨.blockEnd, mark⟩ := by
  have drops :=
    Place.dropStaleKeys_scanner after (fun place member => (old place member).1) queue taken
  obtain ⟨out, left, split, hands⟩ := Scanner.handOut_eq queue
    (after.scanner (key.filter fun key => !(after.scanner none queue taken).isStale key)
      queue taken)
  have runs := Scanner.Runs.single alive settles takes drops hands
  refine ⟨out, _, _, _, runs, ⟨rfl, Place.settle_scanner skips ?_ left (taken + out.length)⟩, ?_⟩
  · intro place member
    exact old place (Option.mem_filter_iff.mp member).1
  · rw [← List.append_assoc, split]

/-- Scanning from one place leads to another and yields tokens of some kinds.
At least one character is read in each step. -/
def Reads (place : Place) (kinds : List TokenKind) (after : Place) : Prop :=
  ∀ (scanner : Scanner) (queue : List Token) (taken : Nat), scanner.SettlesAt place queue taken →
    ∃ (steps : Nat) (out : List Token) (final : Scanner) (queue' : List Token) (taken' : Nat),
      scanner.Runs steps out final ∧ final.SettlesAt after queue' taken'
        ∧ (out ++ queue').map Token.kind = queue.map Token.kind ++ kinds
        ∧ steps + after.rest.length ≤ place.rest.length

theorem Reads.trans {first second third : Place} {kinds more : List TokenKind}
    (reads : Reads first kinds second) (goesOn : Reads second more third) :
    Reads first (kinds ++ more) third := by
  intro scanner queue taken settled
  obtain ⟨steps, out, middle, queue', taken', runs, middleSettled, yields, bound⟩ :=
    reads scanner queue taken settled
  obtain ⟨steps', out', final, queue'', taken'', runs', finalSettled, yields', bound'⟩ :=
    goesOn middle queue' taken' middleSettled
  refine ⟨steps + steps', out ++ out', final, queue'', taken'', runs.trans runs', finalSettled, ?_,
    by omega⟩
  rw [List.append_assoc, List.map_append, yields', ← List.append_assoc, ← List.map_append, yields,
    List.append_assoc]

/-- One token, with the collections that end before the next one. -/
theorem Reads.step {place : Place} (after : Place) (new : List Token) {rest : List Char}
    {mark : Mark} {keyAllowed : Bool}
    (takes : ∀ (queue : List Token) (taken : Nat), ∃ key : Option KeyPlace,
      (place.scanner none queue taken).takeToken = .ok (after.scanner key (queue ++ new) taken)
        ∧ ∀ place ∈ key, place.required = false ∧ place.mark.line < mark.line)
    (skips : Scanner.skipBlanks false false after.keyAllowed after.rest after.mark =
      (⟨rest, mark⟩, keyAllowed))
    (shorter : rest.length < place.rest.length) :
    Reads place (new.map Token.kind ++ List.replicate (after.closed mark.column) .blockEnd)
      (after.next rest mark keyAllowed) := by
  intro scanner queue taken settled
  obtain ⟨key, takes, old⟩ := takes queue taken
  obtain ⟨out, final, queue', taken', runs, finalSettled, yields⟩ :=
    Scanner.step_settlesAt settled.alive settled.settles takes old skips
  refine ⟨1, out, final, queue', taken', runs, finalSettled, ?_, ?_⟩
  · rw [yields]
    simp
  · simp only [Place.next]
    omega

/-- Scanning from a place yields tokens of some kinds in some open collections,
then those for the collections that end before a column, and goes on there. -/
def Place.LeadsOn (place : Place) (kinds : List TokenKind) (stack : List Int) (column : Nat)
    (rest : List Char) : Prop :=
  ∃ line : Nat,
    Reads place
      (kinds ++ List.replicate (stack.takeWhile (· > (column : Int))).length .blockEnd)
      ⟨rest, ⟨line, column⟩, stack.dropWhile (· > (column : Int)), true⟩

theorem Reads.leadsOn {place middle : Place} {kinds more : List TokenKind} {stack : List Int}
    {column : Nat} {rest : List Char} (reads : Reads place kinds middle)
    (leads : middle.LeadsOn more stack column rest) :
    place.LeadsOn (kinds ++ more) stack column rest := by
  obtain ⟨line, goesOn⟩ := leads
  refine ⟨line, ?_⟩
  rw [List.append_assoc]
  exact reads.trans goesOn

/-- The innermost collection ends before a token that is further to the left. -/
theorem Place.LeadsOn.close {place : Place} {kinds : List TokenKind} {indent : Int}
    {stack : List Int} {column : Nat} {rest : List Char}
    (leads : place.LeadsOn kinds (indent :: stack) column rest) (left : (column : Int) < indent) :
    place.LeadsOn (kinds ++ [.blockEnd]) stack column rest := by
  obtain ⟨line, reads⟩ := leads
  refine ⟨line, ?_⟩
  rw [List.takeWhile_cons_of_pos (by simpa using left),
    List.dropWhile_cons_of_pos (by simpa using left), List.length_cons,
    List.replicate_succ] at reads
  rw [List.append_assoc]
  exact reads

/-- No collection ends before a token that is as far to the right. -/
theorem Place.LeadsOn.reads {place : Place} {kinds : List TokenKind} {stack : List Int}
    {column : Nat} {rest : List Char} (leads : place.LeadsOn kinds stack column rest)
    (inside : stack.headD (-1) ≤ column) :
    ∃ line : Nat, Reads place kinds ⟨rest, ⟨line, column⟩, stack, true⟩ := by
  obtain ⟨line, reads⟩ := leads
  refine ⟨line, ?_⟩
  cases stack with
  | nil => simpa using reads
  | cons indent indents =>
      rw [List.takeWhile_cons_of_neg (by simpa using inside),
        List.dropWhile_cons_of_neg (by simpa using inside), List.length_nil, List.replicate_zero,
        List.append_nil] at reads
      exact reads

end PoolOperator.Yaml
