import Mathlib.Data.List.TakeWhile
import PoolOperator.Proofs.Template

/-!
# Where a template is filled

A placeholder occurs in a template wherever a part of it has the form of one
(`Occurrence`), whatever braces are around it.  No two occurrences overlap
(`Occurrence.apart`), because there are no braces inside of a placeholder, and the scan
from left to right meets all of them (`exists_cut`).  So a template is filled exactly at
its occurrences, and it cannot be filled if one of them has no value
(`fill_occurrences`).
-/

namespace PoolOperator.Template

/-! ## Occurrences -/

/-- An occurrence of a placeholder in a template. -/
structure Occurrence (template : List Char) where
  /-- What is before it. -/
  before : List Char
  /-- Its key. -/
  key : List Char
  /-- Its characters. -/
  part : List Char
  /-- What is after it. -/
  after : List Char
  /-- It has the form of a placeholder. -/
  isPlaceholder : IsPlaceholder key part
  /-- Together this is the template. -/
  split : template = before ++ (part ++ after)

/-- Where an occurrence begins. -/
def Occurrence.start {template : List Char} (occurrence : Occurrence template) : Nat :=
  occurrence.before.length

/-- Where an occurrence ends. -/
def Occurrence.stop {template : List Char} (occurrence : Occurrence template) : Nat :=
  occurrence.before.length + occurrence.part.length

theorem ne_brace_of_isWord {char : Char} (word : Text.isWord char = true) : char ≠ '\x7b' := by
  rintro rfl
  revert word
  decide

theorem ne_brace_of_isBlank {char : Char} (blank : Text.isBlank char = true) : char ≠ '\x7b' := by
  rintro rfl
  revert blank
  decide

/-- After its first two characters a placeholder has no opening brace. -/
theorem IsPlaceholder.inner {key part : List Char} (isPlaceholder : IsPlaceholder key part) :
    ∃ inner : List Char, part = '\x7b' :: '\x7b' :: inner ∧ inner ≠ [] ∧ '\x7b' ∉ inner := by
  obtain ⟨leading, trailing, leads, trails, rfl⟩ := isPlaceholder.form
  refine ⟨_, rfl, by simp, ?_⟩
  simp only [List.mem_append, List.mem_cons, List.not_mem_nil, or_false, not_or]
  exact ⟨fun member => ne_brace_of_isBlank (leads _ member) rfl, by decide,
    fun member => ne_brace_of_isWord (isPlaceholder.word _ member) rfl,
    fun member => ne_brace_of_isBlank (trails _ member) rfl, by decide, by decide⟩

theorem IsPlaceholder.length_pos {key part : List Char} (isPlaceholder : IsPlaceholder key part) :
    0 < part.length := by
  obtain ⟨inner, rfl, -, -⟩ := isPlaceholder.inner
  exact Nat.succ_pos _

/-- No placeholder begins inside of another one. -/
theorem IsPlaceholder.no_start_inside {key key' part part' skipped left rest rest' : List Char}
    (outer : IsPlaceholder key part) (other : IsPlaceholder key' part')
    (split : part = skipped ++ left) (begun : skipped ≠ []) (unfinished : left ≠ []) :
    left ++ rest ≠ part' ++ rest' := by
  obtain ⟨inner, rfl, filled, noBrace⟩ := outer.inner
  obtain ⟨inner', rfl, -, -⟩ := other.inner
  intro same
  match skipped, left with
  | [], _ => exact begun rfl
  | _, [] => exact unfinished rfl
  | [_], _ :: left =>
      -- The second brace of the other one would be the first character after the braces.
      obtain ⟨-, -, rfl⟩ : _ ∧ _ ∧ inner = left := by simpa using split
      obtain ⟨-, second⟩ : _ ∧ inner ++ rest = '\x7b' :: (inner' ++ rest') := by simpa using same
      cases inner with
      | nil => exact filled rfl
      | cons first inner =>
          obtain ⟨rfl, -⟩ := List.cons.inj second
          exact noBrace List.mem_cons_self
  | _ :: _ :: skipped, first :: left =>
      obtain ⟨-, -, rfl⟩ : _ ∧ _ ∧ inner = skipped ++ first :: left := by simpa using split
      obtain ⟨rfl, -⟩ := List.cons.inj same
      exact noBrace (List.mem_append_right _ List.mem_cons_self)

namespace Occurrence

variable {template : List Char}

/-- An occurrence is known by where it begins. -/
theorem eq_of_before {one other : Occurrence template} (before : one.before = other.before) :
    one = other := by
  obtain ⟨before, key, part, after, isPlaceholder, split⟩ := one
  obtain ⟨before', key', part', after', isPlaceholder', split'⟩ := other
  cases before
  have same : part ++ after = part' ++ after' := List.append_cancel_left (split.symm.trans split')
  have found := placeholder?_append isPlaceholder after
  rw [same, placeholder?_append isPlaceholder' after'] at found
  cases found
  cases List.append_cancel_right same
  rfl

/-- What begins after an occurrence begins after its end. -/
theorem stop_le_of_start_lt {one other : Occurrence template} (later : one.start < other.start) :
    one.stop ≤ other.start := by
  have same : one.before ++ (one.part ++ one.after) = other.before ++ (other.part ++ other.after) :=
    one.split.symm.trans other.split
  obtain ⟨skipped, isBefore, rest⟩ | ⟨excess, isBefore, -⟩ := List.append_eq_append_iff.mp same
  · have begun : skipped ≠ [] := by
      rintro rfl
      rw [start, start, isBefore, List.append_nil] at later
      exact Nat.lt_irrefl _ later
    obtain ⟨more, rfl, -⟩ | ⟨left, isPart, isRest⟩ := List.append_eq_append_iff.mp rest
    · rw [stop, start, isBefore, List.length_append, List.length_append]
      omega
    · by_cases unfinished : left = []
      · rw [unfinished, List.append_nil] at isPart
        rw [stop, start, isBefore, isPart, List.length_append]
      · exact absurd isRest.symm (one.isPlaceholder.no_start_inside other.isPlaceholder isPart
          begun unfinished)
  · rw [start, start, isBefore, List.length_append] at later
    omega

/-- No two occurrences overlap. -/
theorem apart (one other : Occurrence template) :
    one = other ∨ one.stop ≤ other.start ∨ other.stop ≤ one.start := by
  rcases Nat.lt_trichotomy one.start other.start with earlier | same | later
  · exact .inr (.inl (stop_le_of_start_lt earlier))
  · refine .inl (eq_of_before ?_)
    exact (List.append_inj (one.split.symm.trans other.split) same).1
  · exact .inr (.inr (stop_le_of_start_lt later))

end Occurrence

/-! ## Cuts -/

/-- A part of a template, with its characters. -/
inductive Cut where
  /-- A character that stands for itself. -/
  | plain (char : Char)
  /-- A placeholder of a key. -/
  | placeholder (key part : List Char)

namespace Cut

/-- The characters of a part. -/
def text : Cut → List Char
  | .plain char => [char]
  | .placeholder _ part => part

/-- What the scan makes of a part. -/
def piece : Cut → Piece
  | .plain char => .plain char
  | .placeholder key _ => .placeholder (String.ofList key)

/-- The characters in the place of a part: itself, or the value of its key. -/
def filled (values : TemplateValues) : Cut → List Char
  | .plain char => [char]
  | .placeholder key _ => ((values.find? (String.ofList key)).getD "").toList

end Cut

/-- A template is cut into its occurrences and the characters between them. -/
structure IsCut (template : List Char) (cuts : List Cut) : Prop where
  /-- Nothing is lost. -/
  text : template = cuts.flatMap Cut.text
  /-- What is cut out has the form of a placeholder. -/
  sound : ∀ key part : List Char, .placeholder key part ∈ cuts → IsPlaceholder key part
  /-- Every occurrence is cut out. -/
  complete : ∀ occurrence : Occurrence template, ∃ earlier later : List Cut,
    cuts = earlier ++ .placeholder occurrence.key occurrence.part :: later
      ∧ occurrence.before = earlier.flatMap Cut.text

/-- The front of a list that is dropped. -/
theorem exists_dropped {α : Type} (drops : α → Bool) (items : List α) :
    ∃ front : List α, (∀ item ∈ front, drops item = true)
      ∧ items = front ++ items.dropWhile drops :=
  ⟨items.takeWhile drops, fun _ member => List.mem_takeWhile_imp member,
    List.takeWhile_append_dropWhile.symm⟩

/-- What is found has the form of a placeholder. -/
theorem placeholder?_eq_some {chars key rest : List Char}
    (found : placeholder? chars = some (key, rest)) :
    ∃ part : List Char, IsPlaceholder key part ∧ chars = part ++ rest := by
  unfold placeholder? at found
  split at found
  next chars =>
    obtain ⟨leading, leads, start⟩ := exists_dropped Text.isBlank chars
    split at found
    next after point =>
      obtain ⟨trailing, trails, middle⟩ := exists_dropped Text.isBlank (after.dropWhile Text.isWord)
      have word : after.takeWhile Text.isWord ++ after.dropWhile Text.isWord = after :=
        List.takeWhile_append_dropWhile
      split at found
      next left closing =>
        dsimp only at found
        split at found
        next => cases found
        next filled =>
          obtain ⟨rfl, rfl⟩ := Prod.mk.inj (Option.some.inj found)
          refine ⟨_, ⟨by simpa using filled, fun char member => List.mem_takeWhile_imp member,
            leading, trailing, leads, trails, rfl⟩, ?_⟩
          rw [point] at start
          rw [closing] at middle
          simp only [List.cons_append, List.append_assoc, List.nil_append]
          rw [← middle, word, start]
      next => cases found
    next => cases found
  next => cases found

namespace IsCut

theorem nil : IsCut [] [] where
  text := rfl
  sound _ _ member := absurd member List.not_mem_nil
  complete occurrence := by
    obtain ⟨inner, isPart, -, -⟩ := occurrence.isPlaceholder.inner
    have split := occurrence.split
    rw [isPart] at split
    simp at split

/-- A character at which no placeholder begins. -/
theorem plain {char : Char} {rest : List Char} {cuts : List Cut}
    (none : placeholder? (char :: rest) = none) (isCut : IsCut rest cuts) :
    IsCut (char :: rest) (.plain char :: cuts) where
  text := by rw [isCut.text]; rfl
  sound key part member := isCut.sound key part (by simpa using member)
  complete := by
    rintro ⟨before, key, part, after, isPlaceholder, split⟩
    cases before with
    | nil =>
        rw [List.nil_append] at split
        rw [split, placeholder?_append isPlaceholder after] at none
        cases none
    | cons first before =>
        rw [List.cons_append] at split
        obtain ⟨rfl, others⟩ := List.cons.inj split
        obtain ⟨earlier, later, whole, place⟩ :=
          isCut.complete ⟨before, key, part, after, isPlaceholder, others⟩
        exact ⟨.plain char :: earlier, later, congrArg (_ :: ·) whole, congrArg (_ :: ·) place⟩

/-- A placeholder, whatever follows. -/
theorem placeholder {key part rest : List Char} {cuts : List Cut}
    (isPlaceholder : IsPlaceholder key part) (isCut : IsCut rest cuts) :
    IsCut (part ++ rest) (.placeholder key part :: cuts) where
  text := by rw [isCut.text]; rfl
  sound key' part' member := by
    rcases List.mem_cons.mp member with same | later
    · cases same
      exact isPlaceholder
    · exact isCut.sound key' part' later
  complete occurrence := by
    let first : Occurrence (part ++ rest) := ⟨[], key, part, rest, isPlaceholder, rfl⟩
    rcases Nat.eq_zero_or_pos occurrence.start with start | later
    · have same : occurrence = first :=
        Occurrence.eq_of_before (List.eq_nil_of_length_eq_zero start)
      rw [same]
      exact ⟨[], cuts, rfl, rfl⟩
    · -- It does not overlap the first one, so that it is an occurrence in the rest.
      have apart : first.stop ≤ occurrence.start := Occurrence.stop_le_of_start_lt later
      have stop : part.length ≤ occurrence.before.length := by
        simpa [first, Occurrence.stop, Occurrence.start] using apart
      obtain ⟨before, isBefore⟩ : part <+: occurrence.before :=
        List.prefix_of_prefix_length_le ⟨rest, rfl⟩ ⟨_, occurrence.split.symm⟩ stop
      have isRest : rest = before ++ (occurrence.part ++ occurrence.after) := by
        have split := occurrence.split
        rw [← isBefore, List.append_assoc] at split
        exact List.append_cancel_left split
      obtain ⟨earlier, later, whole, place⟩ := isCut.complete
        ⟨before, occurrence.key, occurrence.part, occurrence.after,
          occurrence.isPlaceholder, isRest⟩
      exact ⟨.placeholder key part :: earlier, later, congrArg (_ :: ·) whole,
        isBefore.symm.trans (congrArg (part ++ ·) place)⟩

end IsCut

/-- The scan cuts a template into all its occurrences. -/
theorem exists_cut : ∀ template : List Char,
    ∃ cuts : List Cut, IsCut template cuts ∧ pieces 0 template = cuts.map Cut.piece
  | [] => ⟨[], .nil, rfl⟩
  | char :: rest => by
      cases found : placeholder? (char :: rest) with
      | none =>
          obtain ⟨cuts, isCut, scanned⟩ := exists_cut rest
          exact ⟨.plain char :: cuts, .plain found isCut,
            (pieces_plain found).trans (congrArg (_ :: ·) scanned)⟩
      | some result =>
          obtain ⟨key, after⟩ := result
          obtain ⟨part, isPlaceholder, split⟩ := placeholder?_eq_some found
          have shorter : after.length ≤ rest.length := by
            refine Nat.le_of_lt_add_one ?_
            rw [← List.length_cons, split, List.length_append]
            exact Nat.lt_add_of_pos_left isPlaceholder.length_pos
          obtain ⟨cuts, isCut, scanned⟩ := exists_cut after
          refine ⟨.placeholder key part :: cuts, split ▸ .placeholder isPlaceholder isCut, ?_⟩
          rw [split, pieces_placeholder isPlaceholder, scanned]
          rfl
termination_by template => template.length

/-! ## Filling -/

section

variable {template : List Char} {cuts : List Cut} {values : TemplateValues}

/-- The occurrence at a part that was cut out. -/
def IsCut.occurrence (isCut : IsCut template cuts) {earlier later : List Cut} {key part : List Char}
    (whole : cuts = earlier ++ .placeholder key part :: later) : Occurrence template where
  before := earlier.flatMap Cut.text
  key := key
  part := part
  after := later.flatMap Cut.text
  isPlaceholder := isCut.sound key part (whole ▸ List.mem_append_right _ List.mem_cons_self)
  split := by rw [isCut.text, whole, List.flatMap_append, List.flatMap_cons, Cut.text]

/-- Has the key of an occurrence a value? -/
def Occurrence.IsSupplied (occurrence : Occurrence template) (values : TemplateValues) : Prop :=
  (values.find? (String.ofList occurrence.key)).isSome = true

theorem Cut.text_piece_of_supplied {cut : Cut}
    (supplied : ∀ key part : List Char, cut = .placeholder key part →
      (values.find? (String.ofList key)).isSome = true) :
    cut.piece.text values = .ok (cut.filled values) := by
  cases cut with
  | plain char => rfl
  | placeholder key part =>
      obtain ⟨value, there⟩ := Option.isSome_iff_exists.mp (supplied key part rfl)
      rw [piece, Piece.text, filled, there]
      rfl

theorem Cut.text_piece_eq_error_iff {cut : Cut} {missing : String} :
    cut.piece.text values = .error missing ↔ ∃ key part : List Char, cut = .placeholder key part
      ∧ String.ofList key = missing ∧ values.find? (String.ofList key) = none := by
  cases cut with
  | plain char => simp [piece, Piece.text]
  | placeholder key part =>
      rw [piece, Piece.text]
      cases there : values.find? (String.ofList key) with
      | none => simp [there]
      | some value => simp [there]

theorem isSome_of_text {key part text : List Char}
    (isText : (Cut.placeholder key part).piece.text values = .ok text) :
    (values.find? (String.ofList key)).isSome = true := by
  by_contra noValue
  rw [Option.not_isSome_iff_eq_none] at noValue
  rw [Cut.text_piece_eq_error_iff.mpr ⟨key, part, rfl, rfl, noValue⟩] at isText
  cases isText

/-- A template whose occurrences have values is filled at them. -/
theorem mapM_of_supplied (isCut : IsCut template cuts)
    (supplied : ∀ occurrence : Occurrence template, occurrence.IsSupplied values) :
    (cuts.map Cut.piece).mapM (Piece.text values) = .ok (cuts.map (Cut.filled values)) := by
  rw [Except.mapM_eq_ok_iff, List.forall₂_map_left_iff, List.forall₂_map_right_iff,
    List.forall₂_same]
  intro cut member
  refine Cut.text_piece_of_supplied ?_
  rintro key part rfl
  obtain ⟨earlier, later, whole⟩ := List.append_of_mem member
  exact supplied (isCut.occurrence whole)

/-- What is cut out at an earlier place is one of the parts before a later one. -/
theorem mem_of_place_lt {earlier earlier' later later' : List Cut} {cut cut' : Cut}
    (same : earlier ++ cut :: later = earlier' ++ cut' :: later')
    (before : (earlier.flatMap Cut.text).length < (earlier'.flatMap Cut.text).length) :
    cut ∈ earlier' := by
  obtain ⟨between, rfl, rest⟩ | ⟨between, rfl, -⟩ := List.append_eq_append_iff.mp same
  · cases between with
    | nil =>
        rw [List.append_nil] at before
        exact absurd before (Nat.lt_irrefl _)
    | cons first between =>
        obtain ⟨rfl, -⟩ := List.cons.inj rest
        exact List.mem_append_right _ List.mem_cons_self
  · rw [List.flatMap_append, List.length_append] at before
    omega

/-- The first occurrence without a value stops the filling. -/
theorem mapM_eq_error_iff_missing (isCut : IsCut template cuts) {missing : String} :
    (cuts.map Cut.piece).mapM (Piece.text values) = .error missing ↔
      ∃ occurrence : Occurrence template, String.ofList occurrence.key = missing
        ∧ ¬ occurrence.IsSupplied values
        ∧ ∀ other : Occurrence template, other.start < occurrence.start →
        other.IsSupplied values := by
  rw [Except.mapM_eq_error_iff]
  constructor
  · rintro ⟨before, failing, later, split, given, failed⟩
    obtain ⟨earlier, others, whole, rfl, split'⟩ := List.map_eq_append_iff.mp split
    obtain ⟨cut, rest, rfl, rfl, rfl⟩ := List.map_eq_cons_iff.mp split'
    obtain ⟨key, part, rfl, isKey, unsupplied⟩ := Cut.text_piece_eq_error_iff.mp failed
    have missing : ¬ (isCut.occurrence whole).IsSupplied values := by
      simp [Occurrence.IsSupplied, IsCut.occurrence, unsupplied]
    refine ⟨isCut.occurrence whole, isKey, missing, ?_⟩
    intro other before
    obtain ⟨earlier', later', whole', place⟩ := isCut.complete other
    rw [Occurrence.start, Occurrence.start, place] at before
    have member := mem_of_place_lt (whole'.symm.trans whole) before
    obtain ⟨text, isText⟩ := given _ (List.mem_map_of_mem member)
    exact isSome_of_text isText
  · rintro ⟨occurrence, rfl, unsupplied, supplied⟩
    obtain ⟨earlier, later, whole, place⟩ := isCut.complete occurrence
    refine ⟨earlier.map Cut.piece, _, later.map Cut.piece, by rw [whole, List.map_append]; rfl, ?_,
      Cut.text_piece_eq_error_iff.mpr
        ⟨_, _, rfl, rfl, by simpa [Occurrence.IsSupplied] using unsupplied⟩⟩
    rw [List.forall_mem_map]
    intro cut member
    refine ⟨cut.filled values, Cut.text_piece_of_supplied ?_⟩
    rintro key part rfl
    obtain ⟨first, between, rfl⟩ := List.append_of_mem member
    rw [List.append_assoc, List.cons_append] at whole
    refine supplied (isCut.occurrence whole) ?_
    have filled : 0 < part.length := (isCut.occurrence whole).isPlaceholder.length_pos
    have start : (isCut.occurrence whole).start = (first.flatMap Cut.text).length := rfl
    rw [start, Occurrence.start, place, List.flatMap_append, List.flatMap_cons, Cut.text,
      List.length_append, List.length_append]
    omega

/-- No two occurrences of placeholders in a template overlap.  Filling fails exactly if one of
them has no value, and then with the key of the first such one.  Otherwise the template is cut
into its occurrences and the characters between them, and the text has the values in the place
of the occurrences, and all other characters as they are. -/
theorem fill_occurrences (template : String) (values : TemplateValues) :
    (∀ one other : Occurrence template.toList, one = other ∨ one.stop ≤ other.start
      ∨ other.stop ≤ one.start)
      ∧ ((∃ missing : String, fill template values = .error missing) ↔
        ∃ occurrence : Occurrence template.toList, ¬ occurrence.IsSupplied values)
      ∧ (∀ missing : String, fill template values = .error missing ↔
        ∃ occurrence : Occurrence template.toList, String.ofList occurrence.key = missing
          ∧ ¬ occurrence.IsSupplied values
          ∧ ∀ other : Occurrence template.toList, other.start < occurrence.start →
          other.IsSupplied values)
      ∧ ∃ cuts : List Cut, IsCut template.toList cuts
        ∧ ((∀ occurrence : Occurrence template.toList, occurrence.IsSupplied values) →
          fill template values = .ok (String.ofList (cuts.flatMap (Cut.filled values)))) := by
  obtain ⟨cuts, isCut, scanned⟩ := exists_cut template.toList
  have failed (missing : String) : fill template values = .error missing ↔
      (cuts.map Cut.piece).mapM (Piece.text values) = .error missing := by
    rw [fill, scanned, Except.bind_eq_error_iff]
    simp [pure, Except.pure]
  have given (supplied : ∀ occurrence : Occurrence template.toList, occurrence.IsSupplied values) :
      fill template values = .ok (String.ofList (cuts.flatMap (Cut.filled values))) := by
    rw [fill, scanned, mapM_of_supplied isCut supplied]
    exact congrArg (fun text => Except.ok (String.ofList text)) List.flatMap_def.symm
  refine ⟨Occurrence.apart, ⟨?_, ?_⟩, fun missing =>
    (failed missing).trans (mapM_eq_error_iff_missing isCut), cuts, isCut, given⟩
  · rintro ⟨missing, stopped⟩
    obtain ⟨occurrence, -, unsupplied, -⟩ :=
      (mapM_eq_error_iff_missing isCut).mp ((failed missing).mp stopped)
    exact ⟨occurrence, unsupplied⟩
  · rintro ⟨occurrence, unsupplied⟩
    obtain ⟨earlier, later, whole, -⟩ := isCut.complete occurrence
    cases scan : (cuts.map Cut.piece).mapM (Piece.text values) with
    | error missing => exact ⟨missing, (failed missing).mpr scan⟩
    | ok texts =>
        have member : Cut.placeholder occurrence.key occurrence.part ∈ cuts :=
          whole ▸ List.mem_append_right _ List.mem_cons_self
        obtain ⟨text, -, isText⟩ := Except.exists_of_mapM_eq_ok scan _ (List.mem_map_of_mem member)
        exact absurd (isSome_of_text isText) unsupplied

end

end PoolOperator.Template
