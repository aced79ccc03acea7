import PoolOperator.Proofs.Except
import PoolOperator.Template

/-!
# Filling templates

Characters other than braces stand for themselves (`fills_self`), and a
placeholder gives way to its value (`fills_placeholder`), whatever follows.  So
a template may be filled part by part (`Fills.append`).  A placeholder has a
certain form (`IsPlaceholder`) and is found wherever a text begins with that
(`placeholder?_append`).
-/

namespace PoolOperator

/-! ## Classes of characters -/

/-- The code points of the blanks. -/
def Text.blankCodes : List Nat :=
  [0x9, 0xA, 0xB, 0xC, 0xD, 0x20, 0x85, 0xA0, 0x1680, 0x2000, 0x2001, 0x2002, 0x2003,
    0x2004, 0x2005, 0x2006, 0x2007, 0x2008, 0x2009, 0x200A, 0x2028, 0x2029, 0x202F, 0x205F, 0x3000]

theorem Text.mem_blankCodes {char : Char} (blank : Text.isBlank char = true) :
    char.toNat ∈ Text.blankCodes := by
  simp only [Text.isBlank, Bool.or_eq_true, Bool.and_eq_true, decide_eq_true_eq] at blank
  simp only [Text.blankCodes, List.mem_cons, List.not_mem_nil, or_false]
  omega

/-- No blank is part of a word. -/
theorem Text.isWord_of_isBlank {char : Char} (blank : Text.isBlank char = true) :
    Text.isWord char = false := by
  -- The table as a list is looked up faster than as an array.
  have none : ∀ code ∈ Text.blankCodes, (if code < 0x80 then Text.isAsciiWord (Char.ofNat code)
      else Text.wordRanges.toList.any fun range => range.1 ≤ code && code ≤ range.2) = false := by
    decide +kernel
  have listed := none char.toNat (Text.mem_blankCodes blank)
  rwa [Array.any_toList, Char.ofNat_toNat] at listed

namespace Template

/-! ## Parts of a template -/

/-- The characters that those of a template give way to. -/
def fillChars (values : TemplateValues) (template : List Char) : Except String (List Char) :=
  ((pieces 0 template).mapM (Piece.text values)).map List.flatten

/-- Part of a template gives way to a text, whatever follows. -/
def Fills (values : TemplateValues) (part text : List Char) : Prop :=
  ∀ rest : List Char, fillChars values (part ++ rest) = (fillChars values rest).map (text ++ ·)

section

variable {values : TemplateValues}

theorem Fills.nil : Fills values [] [] := by
  intro rest
  cases filled : fillChars values rest with
  | error key => rw [List.nil_append, filled]; rfl
  | ok text => rw [List.nil_append, filled]; rfl

theorem Fills.append {part other text more : List Char} (fills : Fills values part text)
    (goesOn : Fills values other more) : Fills values (part ++ other) (text ++ more) := by
  intro rest
  rw [List.append_assoc, fills, goesOn]
  cases fillChars values rest with
  | error key => rfl
  | ok filled => simp [Except.map]

/-- The first part of a template, and what it gives way to. -/
theorem fillChars_cons {template rest : List Char} {piece : Piece} {text : List Char}
    (split : pieces 0 template = piece :: pieces 0 rest) (given : piece.text values = .ok text) :
    fillChars values template = (fillChars values rest).map (text ++ ·) := by
  rw [fillChars, fillChars, split, List.mapM_cons, given]
  cases (pieces 0 rest).mapM (Piece.text values) with
  | error key => rfl
  | ok texts => rfl

/-! ## Characters -/

theorem pieces_plain {char : Char} {rest : List Char} (none : placeholder? (char :: rest) = none) :
    pieces 0 (char :: rest) = .plain char :: pieces 0 rest := by
  rw [pieces]
  simp only [none]

theorem placeholder?_of_char {char : Char} (noBrace : char ≠ '\x7b') (rest : List Char) :
    placeholder? (char :: rest) = none := by
  unfold placeholder?
  split
  next same => exact absurd (List.cons.inj same).1 noBrace
  next => rfl

theorem fills_char {char : Char} (noBrace : char ≠ '\x7b') : Fills values [char] [char] :=
  fun rest => fillChars_cons (pieces_plain (placeholder?_of_char noBrace rest)) rfl

/-- A text without braces stands for itself. -/
theorem fills_self : ∀ {chars : List Char}, '\x7b' ∉ chars → Fills values chars chars
  | [], _ => .nil
  | char :: chars, noBrace => by
      rw [List.mem_cons, not_or] at noBrace
      exact (fills_char (Ne.symm noBrace.1)).append (fills_self noBrace.2)

/-! ## Placeholders -/

/-- Has a text the form of a placeholder of a key? -/
structure IsPlaceholder (key part : List Char) : Prop where
  filled : key ≠ []
  word : ∀ char ∈ key, Text.isWord char = true
  form : ∃ leading trailing : List Char, (∀ char ∈ leading, Text.isBlank char = true)
    ∧ (∀ char ∈ trailing, Text.isBlank char = true)
    ∧ part = '\x7b' :: '\x7b' :: (leading ++ '.' :: (key ++ (trailing ++ ['\x7d', '\x7d'])))

theorem takeWhile_append_stop {α : Type} {keeps : α → Bool} {items : List α} {stop : α}
    (rest : List α) (kept : ∀ item ∈ items, keeps item = true) (stops : keeps stop = false) :
    (items ++ stop :: rest).takeWhile keeps = items := by
  rw [List.takeWhile_append_of_pos kept, List.takeWhile_cons_of_neg (Bool.eq_false_iff.mp stops),
    List.append_nil]

theorem dropWhile_append_stop {α : Type} {keeps : α → Bool} {items : List α} {stop : α}
    (rest : List α) (kept : ∀ item ∈ items, keeps item = true) (stops : keeps stop = false) :
    (items ++ stop :: rest).dropWhile keeps = stop :: rest := by
  rw [List.dropWhile_append_of_pos kept, List.dropWhile_cons_of_neg (Bool.eq_false_iff.mp stops)]

/-- A placeholder is found as a whole, whatever follows. -/
theorem placeholder?_append {key part : List Char} (isPlaceholder : IsPlaceholder key part)
    (rest : List Char) : placeholder? (part ++ rest) = some (key, rest) := by
  obtain ⟨leading, trailing, leads, trails, rfl⟩ := isPlaceholder.form
  have point : (leading ++ '.' :: (key ++ (trailing ++ '\x7d' :: '\x7d' :: rest))).dropWhile
    Text.isBlank =
      '.' :: (key ++ (trailing ++ '\x7d' :: '\x7d' :: rest)) :=
        dropWhile_append_stop _ leads (by decide)
  -- Neither a blank nor a closing brace goes on with the key.
  obtain ⟨stop, left, ends, stops⟩ : ∃ (stop : Char) (left : List Char),
      trailing ++ '\x7d' :: '\x7d' :: rest = stop :: left ∧ Text.isWord stop = false := by
    cases trailing with
    | nil => exact ⟨'\x7d', '\x7d' :: rest, rfl, by decide⟩
    | cons first trailing =>
        exact ⟨first, _, rfl, Text.isWord_of_isBlank (trails first List.mem_cons_self)⟩
  have takes : (key ++ (trailing ++ '\x7d' :: '\x7d' :: rest)).takeWhile Text.isWord = key := by
    rw [ends]
    exact takeWhile_append_stop left isPlaceholder.word stops
  have drops : ((key ++ (trailing ++ '\x7d' :: '\x7d' :: rest)).dropWhile Text.isWord).dropWhile
    Text.isBlank =
      '\x7d' :: '\x7d' :: rest := by
    rw [ends, dropWhile_append_stop left isPlaceholder.word stops, ← ends]
    exact dropWhile_append_stop _ trails (by decide)
  simp [placeholder?, point, takes, drops, isPlaceholder.filled]

theorem pieces_skipped : ∀ (skipped rest : List Char),
    pieces skipped.length (skipped ++ rest) = pieces 0 rest
  | [], _ => rfl
  | _ :: skipped, rest => pieces_skipped skipped rest

theorem pieces_placeholder {key part : List Char} (isPlaceholder : IsPlaceholder key part)
    (rest : List Char) :
    pieces 0 (part ++ rest) = .placeholder (String.ofList key) :: pieces 0 rest := by
  have found := placeholder?_append isPlaceholder rest
  obtain ⟨leading, trailing, -, -, rfl⟩ := isPlaceholder.form
  -- What is skipped once the placeholder is found at its first brace.
  let skipped : List Char := '\x7b' :: (leading ++ '.' :: (key ++ (trailing ++ ['\x7d', '\x7d'])))
  have length : (skipped ++ rest).length - rest.length = skipped.length := by
    rw [List.length_append, Nat.add_sub_cancel]
  change placeholder? ('\x7b' :: (skipped ++ rest)) = some (key, rest) at found
  change pieces 0 ('\x7b' :: (skipped ++ rest)) = _
  rw [pieces]
  simp only [found, length, pieces_skipped]

/-- The placeholder of a key, without blanks in it. -/
def placeholder (key : String) : String := "\x7b\x7b." ++ key ++ "\x7d\x7d"

theorem isPlaceholder_placeholder {key : String} (word : key.toList.all Text.isWord = true)
    (filled : key.toList ≠ []) : IsPlaceholder key.toList (placeholder key).toList where
  filled := filled
  word := List.all_eq_true.mp word
  form := ⟨[], [], nofun, nofun, by simp [placeholder]⟩

/-- A placeholder gives way to its value. -/
theorem fills_placeholder {key value : String} (word : key.toList.all Text.isWord = true)
    (filled : key.toList ≠ []) (there : values.find? key = some value) :
    Fills values (placeholder key).toList value.toList := by
  intro rest
  have split := pieces_placeholder (isPlaceholder_placeholder word filled) rest
  rw [String.ofList_toList] at split
  exact fillChars_cons split (by rw [Piece.text, there])

/-! ## Texts -/

theorem placeholder_injective {key other : String} (same : placeholder key = placeholder other) :
    key = other := by
  have chars := congrArg String.toList same
  simp only [placeholder, String.toList_append, List.append_assoc] at chars
  exact String.toList_injective (List.append_cancel_right (List.append_cancel_left chars))

/-- What a text in a template stands for: the value of the placeholder that it
is, and else itself. -/
def fillText : TemplateValues → String → String
  | [], text => text
  | (key, value) :: values, text => if text = placeholder key then value else fillText values text

theorem fillText_self {text : String} (noBrace : '\x7b' ∉ text.toList) (values : TemplateValues) :
    fillText values text = text := by
  induction values with
  | nil => rfl
  | cons field values induction =>
      have other : text ≠ placeholder field.1 := by
        rintro rfl
        exact noBrace (by simp [placeholder])
      rw [fillText, if_neg other, induction]

theorem fillText_placeholder {key value : String} :
    ∀ {values : TemplateValues}, values.find? key = some value →
      fillText values (placeholder key) = value
  | [], there => by cases there
  | (name, first) :: values, there => by
      by_cases same : name = key
      · rw [Fields.find?, if_pos same, Option.some.injEq] at there
        rw [fillText, if_pos (by rw [same]), there]
      · rw [Fields.find?, if_neg same] at there
        rw [fillText, if_neg fun equal => same (placeholder_injective equal).symm,
          fillText_placeholder there]

/-- A template whose characters give way to a text is filled to that text. -/
theorem fill_eq {template : String} {text : List Char} (fills : Fills values template.toList text) :
    fill template values = .ok (String.ofList text) := by
  have filled := fills []
  rw [List.append_nil] at filled
  have all : fillChars values template.toList = .ok text := by
    rw [filled]
    simp [fillChars, pieces, pure, Except.pure, Except.map]
  obtain ⟨texts, given, joined⟩ := Except.map_eq_ok_iff.mp all
  rw [fill, given, ← joined]
  rfl

end

end Template

end PoolOperator
