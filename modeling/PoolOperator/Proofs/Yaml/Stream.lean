import Mathlib.Data.List.TakeDrop
import Mathlib.Data.List.TakeWhile
import PoolOperator.Proofs.Yaml.Printable

/-!
# The tokens of a whole stream

A text with some documents is cut into the tokens of their members, each
between the beginning and the end of a mapping (`tokens_stream`).  Nothing else
is in the stream but the markers between the documents and its end, and there is
no error.
-/

namespace PoolOperator.Yaml

/-! ## The end of a text -/

/-- From a place to the end of the text, tokens of some kinds are yielded, and
no error. -/
def Place.Ends (place : Place) (kinds : List TokenKind) : Prop :=
  ∀ (scanner : Scanner) (queue : List Token) (taken fuel : Nat),
    scanner.SettlesAt place queue taken → place.rest.length + 2 ≤ fuel →
    ∃ out : List Token, scanner.run none fuel = (out, none)
      ∧ out.map Token.kind = queue.map Token.kind ++ kinds

theorem Reads.ends {place middle : Place} {kinds more : List TokenKind}
    (reads : Reads place kinds middle) (ends : middle.Ends more) : place.Ends (kinds ++ more) := by
  intro scanner queue taken fuel settled enough
  obtain ⟨steps, out, final, queue', taken', runs, finalSettled, yields, bound⟩ :=
    reads scanner queue taken settled
  obtain ⟨others, ended, kinds⟩ := ends final queue' taken' (fuel - steps) finalSettled (by omega)
  have split : fuel = steps + (fuel - steps) := by omega
  refine ⟨out ++ others, ?_, ?_⟩
  · rw [split, runs, ended]
  · rw [List.map_append, kinds, ← List.append_assoc, ← List.map_append, yields, List.append_assoc]

/-- At the end of a text, the outermost collection ends, and the stream. -/
theorem ends_nil (line : Nat) :
    Place.Ends ⟨[], ⟨line, 0⟩, [0, -1], true⟩ [.blockEnd, .streamEnd] := by
  intro scanner queue taken fuel settled enough
  obtain ⟨fuel, rfl⟩ : ∃ less : Nat, fuel = less + 2 := ⟨fuel - 2, by omega⟩
  let ended : Scanner :=
    { Place.scanner ⟨[], ⟨line, 0⟩, [-1], true⟩ none
        (queue ++ [⟨.blockEnd, ⟨line, 0⟩⟩, ⟨.streamEnd, ⟨line, 0⟩⟩]) taken with
      keyAllowed := false
      ended := true }
  have takes : (Place.scanner ⟨[], ⟨line, 0⟩, [0, -1], true⟩ none queue taken).takeToken =
      .ok ended := by
    simp [Scanner.takeToken, Scanner.takeEnd, Scanner.closeBlocks, Scanner.dropKey, Scanner.push,
      Place.scanner, ended, bind, Except.bind, pure, Except.pure]
  obtain ⟨out, left, split, hands⟩ := Scanner.handOut_eq ended.queue ended
  have runs := Scanner.Runs.single settled.alive settled.settles takes rfl hands
  refine ⟨out ++ left, ?_, ?_⟩
  · rw [Nat.add_comm fuel 2, Nat.add_assoc 1 1 fuel, runs, Nat.add_comm 1 fuel,
      Scanner.run, if_pos rfl]
  · rw [split]
    simp [ended, Place.scanner]

/-! ## Documents -/

/-- Three hyphens end a document and begin the next one. -/
theorem Reads.marker {rest : List Char} (begins : beginsToken rest = true) (line : Nat) :
    Reads ⟨'-' :: '-' :: '-' :: '\n' :: rest, ⟨line, 0⟩, [0, -1], true⟩ [.blockEnd, .documentStart]
      ⟨rest, ⟨line + 1, 0⟩, [-1], true⟩ := by
  have skips : Scanner.skipBlanks false false false ('\n' :: (spaces 0 ++ rest)) ⟨line, 3⟩ = _ :=
    Scanner.skipBlanks_nextLine begins
  refine Reads.step ⟨'\n' :: rest, ⟨line, 3⟩, [-1], false⟩
    [⟨.blockEnd, ⟨line, 0⟩⟩, ⟨.documentStart, ⟨line, 0⟩⟩] ?_ skips ?_
  · intro queue taken
    refine ⟨none, ?_, no_old_key⟩
    simp [Scanner.takeToken, Place.scanner, documentMarkAhead, blankAhead, Scanner.takeDocumentMark,
      Scanner.closeBlocks, Scanner.dropKey, Scanner.take, Scanner.push, Cursor.skip,
      Mark.right, bind,
      Except.bind, pure, Except.pure]
  · simp only [List.length_cons]
    omega

theorem beginsToken_document {fields : List (String × Outline)}
    (legible : Outline.isDocument fields = true) (tail : List Char) :
    beginsToken (Outline.fieldLines 0 fields ++ tail) = true := by
  rw [Outline.isDocument, Bool.and_eq_true] at legible
  cases fields with
  | nil => cases legible.1
  | cons field fields => exact beginsToken_fieldLines 0 legible.2 tail

/-- The members of a document, from the beginning of a line on. -/
theorem reads_document {fields : List (String × Outline)} {rest : List Char}
    (legible : Outline.isDocument fields = true) (begins : beginsToken rest = true) (line : Nat) :
    ∃ after : Nat, Reads ⟨Outline.fieldLines 0 fields ++ rest, ⟨line, 0⟩, [-1], true⟩
      (.blockMappingStart :: Outline.fieldsKinds fields) ⟨rest, ⟨after, 0⟩, [0, -1], true⟩ := by
  rw [Outline.isDocument, Bool.and_eq_true, Bool.not_eq_true', List.isEmpty_eq_false_iff] at legible
  have begins : Place.Begins ⟨Outline.fieldLines 0 fields ++ rest, ⟨line, 0⟩, [-1], true⟩
      (Outline.fieldLines 0 fields) 0 rest :=
    ⟨rfl, rfl, by simp, by simp, Nat.le_refl 0, begins⟩
  exact (leadsOn_fields fields _ 0 rest legible.1 legible.2 begins).reads (by simp [opened])

theorem beginsToken_laterLines (documents : List (List (String × Outline))) :
    beginsToken (Outline.laterLines documents) = true := by
  cases documents with
  | nil => rfl
  | cons fields documents => rfl

/-- The documents after the first one, at the end of its members. -/
theorem ends_later : ∀ (documents : List (List (String × Outline))) (line : Nat),
    (∀ fields ∈ documents, Outline.isDocument fields = true) →
    Place.Ends ⟨Outline.laterLines documents, ⟨line, 0⟩, [0, -1], true⟩
      (.blockEnd :: Outline.laterKinds documents)
  | [], line, _ => ends_nil line
  | fields :: documents, line, legible => by
      rw [List.forall_mem_cons] at legible
      have marker :=
        Reads.marker (beginsToken_document legible.1 (Outline.laterLines documents)) line
      obtain ⟨after, reads⟩ :=
        reads_document legible.1 (beginsToken_laterLines documents) (line + 1)
      have ends := (marker.trans reads).ends (ends_later documents after legible.2)
      simpa [Outline.laterLines, Outline.laterKinds] using ends

/-! ## The beginning of a text -/

theorem barredFrom?_eq_none {text : List Char} (allowed : ∀ char ∈ text, isAllowed char = true)
    (begins room place : Nat) : barredFrom? begins room place text = none := by
  induction text generalizing begins room place with
  | nil => rfl
  | cons char rest induction =>
      rw [List.forall_mem_cons] at allowed
      simp only [barredFrom?, allowed.1, if_true]
      exact induction allowed.2 _ _ _

theorem Barrier.of?_eq_none {text : List Char} (printable : text.all isPrintable = true) :
    Barrier.of? text = none := by
  rw [List.all_eq_true] at printable
  rw [Barrier.of?, barredFrom?_eq_none fun char member =>
    isAllowed_of_isPrintable (printable char member)]
  rfl

theorem all_isPrintable_document {fields : List (String × Outline)}
    (legible : Outline.isDocument fields = true) :
    (Outline.fieldLines 0 fields).all isPrintable = true := by
  rw [Outline.isDocument, Bool.and_eq_true] at legible
  exact all_isPrintable_fieldLines fields 0 legible.2

theorem all_isPrintable_laterLines : ∀ documents : List (List (String × Outline)),
    (∀ fields ∈ documents, Outline.isDocument fields = true) →
    (Outline.laterLines documents).all isPrintable = true
  | [], _ => rfl
  | fields :: documents, legible => by
      rw [List.forall_mem_cons] at legible
      have first := all_isPrintable_document legible.1
      have others := all_isPrintable_laterLines documents legible.2
      simp only [Outline.laterLines, List.all_cons, List.all_append, first, others]
      decide

/-- The tokens of a text that some documents are written in. -/
theorem tokens_stream {text : String} {fields : List (String × Outline)}
    {documents : List (List (String × Outline))}
    (written : text.toList = Outline.fieldLines 0 fields ++ Outline.laterLines documents)
    (first : Outline.isDocument fields = true)
    (later : ∀ fields ∈ documents, Outline.isDocument fields = true) :
    ∃ out : List Token, tokens text = (out, none)
      ∧ out.map Token.kind =
        .blockMappingStart ::
        (Outline.fieldsKinds fields ++ .blockEnd :: Outline.laterKinds documents) := by
  have printable : text.toList.all isPrintable = true := by
    rw [written, List.all_append, all_isPrintable_document first,
      all_isPrintable_laterLines documents later, Bool.and_self]
  obtain ⟨line, reads⟩ := reads_document first (beginsToken_laterLines documents) 0
  have settled :
      Scanner.SettlesAt { cursor := ⟨text.toList, .start⟩ }
        ⟨text.toList, .start, [-1], true⟩ [] 0 := by
    have starts : beginsToken text.toList = true := by
      rw [written]
      exact beginsToken_document first _
    have settles : (Place.scanner ⟨text.toList, .start, [-1], true⟩ none [] 0).settle = _ :=
      Place.settle_scanner (Scanner.skipBlanks_begins starts) no_old_key [] 0
    exact ⟨rfl, settles⟩
  have ends := reads.ends (ends_later documents line later)
  rw [← written] at ends
  obtain ⟨out, ended, kinds⟩ := ends _ [] 0 (text.toList.length + 2) settled (Nat.le_refl _)
  refine ⟨out, ?_, kinds⟩
  rw [tokens, Barrier.of?_eq_none printable]
  simp only [unifyBreaks_eq_self _ (List.all_eq_true.mp printable)]
  exact ended

end PoolOperator.Yaml
