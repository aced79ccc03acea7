import PoolOperator.Proofs.Yaml.Tokens

/-!
# Words

Names and addresses are made of few characters (`isWordChar`).  They may be
written plain, whatever they stand for (`carries_plain_of_word`).  What begins
with a letter stands for no number (`meaning_of_letter`).
-/

namespace PoolOperator.Yaml

/-! ## Writing -/

/-- A letter or digit of ASCII, or a character that separates them in names. -/
def isWordChar (char : Char) : Bool := char.isAlphanum || char ∈ ['-', '.', '_', '/', ':']

theorem isAlpha_iff {char : Char} :
    char.isAlpha = true ↔
      (65 ≤ char.toNat ∧ char.toNat ≤ 90) ∨ (97 ≤ char.toNat ∧ char.toNat ≤ 122) := by
  change (decide (65 ≤ char.toNat ∧ char.toNat ≤ 90)
    || (decide (97 ≤ char.toNat) && decide (char.toNat ≤ 122))) = true ↔ _
  simp

/-- All these characters are between the hyphen and the small letters. -/
theorem toNat_of_word {char : Char} (word : isWordChar char = true) :
    45 ≤ char.toNat ∧ char.toNat ≤ 122 := by
  simp only [isWordChar, Char.isAlphanum, Bool.or_eq_true, isAlpha_iff, Char.isDigit_iff_toNat,
    decide_eq_true_eq, List.mem_cons, List.not_mem_nil, or_false] at word
  rcases word with (letter | ⟨least, greatest⟩) | rfl | rfl | rfl | rfl | rfl
  · omega
  · change 48 ≤ char.toNat at least
    change char.toNat ≤ 57 at greatest
    omega
  all_goals decide

theorem isPrintable_of_word {char : Char} (word : isWordChar char = true) :
    isPrintable char = true := by
  obtain ⟨least, greatest⟩ := toNat_of_word word
  simp only [isPrintable, Bool.or_eq_true, Bool.and_eq_true, decide_eq_true_eq]
  omega

theorem ne_of_word {char other : Char} (word : isWordChar char = true)
    (apart : isWordChar other = false) :
    char ≠ other := by
  rintro rfl
  rw [word] at apart
  cases apart

theorem isBreak_of_word {char : Char} (word : isWordChar char = true) : isBreak char = false := by
  simp [isBreak, ne_of_word word (by decide : isWordChar '\n' = false),
    ne_of_word word (by decide : isWordChar '\u2028' = false),
    ne_of_word word (by decide : isWordChar '\u2029' = false)]

theorem isGap_of_word {char : Char} (word : isWordChar char = true) : isGap char = false := by
  rw [isGap_of_isPrintable (isPrintable_of_word word)]
  exact decide_eq_false (ne_of_word word (by decide))

theorem anyNeighbours_eq_false {condition : Char → Char → Bool} : ∀ {chars : List Char},
    (∀ one ∈ chars, ∀ other ∈ chars, condition one other = false) →
    anyNeighbours condition chars = false
  | [], _ => rfl
  | [_], _ => rfl
  | one :: other :: rest, never => by
      rw [anyNeighbours, never one List.mem_cons_self other
        (List.mem_cons_of_mem _ List.mem_cons_self), Bool.false_or]
      exact anyNeighbours_eq_false fun one member other later =>
        never one (List.mem_cons_of_mem _ member) other (List.mem_cons_of_mem _ later)

/-- A text that begins with a letter or a digit and does not end with a colon
may be written plain if it is made of such characters. -/
theorem carries_plain_of_word {text : String} {first : Char} {rest : List Char}
    (chars : text.toList = first :: rest) (starts : first.isAlphanum = true)
    (words : ∀ char ∈ text.toList, isWordChar char = true)
    (ends : text.toList.getLast? ≠ some ':') :
    Style.plain.carries text = true := by
  rw [Style.carries_plain_iff]
  refine ⟨by simp [chars], ?_⟩
  have printable : text.toList.all isPrintable = true :=
    List.all_eq_true.mpr fun char member => isPrintable_of_word (words char member)
  have noBreaks : text.toList.any isBreak = false :=
    List.any_eq_false.mpr fun char member => by simp [isBreak_of_word (words char member)]
  have noSpace {char : Char} (member : char ∈ text.toList) : char ≠ ' ' :=
    ne_of_word (words char member) (by decide)
  have clean : isClean text.toList = true := by
    rw [isClean, printable, anyNeighbours_eq_false
      fun one member other _ => by simp [noSpace member]]
    rfl
  have noHead : text.toList.head? ≠ some ' ' := fun same => noSpace (List.mem_of_head? same) rfl
  have noLast : text.toList.getLast? ≠ some ' ' := fun same =>
    noSpace (List.mem_of_getLast? same) rfl
  have apart {other : Char} (no : other.isAlphanum = false) : first ≠ other := by
    rintro rfl
    rw [starts] at no
    cases no
  have noMarker : startsLikeMarker text.toList = false := by
    rw [chars]
    unfold startsLikeMarker
    split
    next same => exact absurd (List.cons.inj same).1 (apart (by decide))
    next same => exact absurd (List.cons.inj same).1 (apart (by decide))
    next => rfl
  have noIndicator : startsLikeIndicator text.toList = false := by
    have none : ['#', ',', '[', ']', '\x7b', '\x7d', '&', '*', '!', '|', '>', '\'', '\x22', '%',
        '@', '\x60', '?', ':', '-'].all (fun other => !other.isAlphanum) = true := by decide
    simp only [List.all_cons, Bool.and_eq_true, Bool.not_eq_true'] at none
    simp [chars, startsLikeIndicator, apart, none]
  have noEnd : endsEarly text.toList = false := by
    rw [endsEarly, decide_eq_false ends, Bool.or_false]
    refine anyNeighbours_eq_false fun one member other later => ?_
    simp [isGap_of_word (words other later), noSpace member]
  simp [allowsPlain, clean, noBreaks, noHead, noLast, noMarker, noIndicator, noEnd]

/-! ## Meaning -/

theorem ne_of_letter {char other : Char} (letter : char.isAlpha = true)
    (apart : other.isAlpha = false) :
    char ≠ other := by
  rintro rfl
  rw [letter] at apart
  cases apart

theorem isDigit_of_letter {char : Char} (letter : char.isAlpha = true) : char.isDigit = false := by
  rw [Bool.eq_false_iff]
  intro digit
  obtain ⟨-, greatest⟩ := Char.isDigit_iff_toNat.mp digit
  change char.toNat ≤ 57 at greatest
  rw [isAlpha_iff] at letter
  omega

/-- A letter is no decimal digit, so that there is no number. -/
theorem natOfDigits?_letter {first : Char} (letter : first.isAlpha = true) (rest : List Char) :
    natOfDigits? 10 (first :: rest) = none := by
  let step (sum : Option Nat) (digit : Char) : Option Nat := do
    let digit ← Value.hexDigit? digit
    if digit < 10 then return (← sum) * 10 + digit else none
  have given : Value.hexDigit? first = none
      ∨ ∃ digit : Nat, Value.hexDigit? first = some digit ∧ ¬ digit < 10 := by
    rw [Value.hexDigit?, isDigit_of_letter letter]
    split
    next digit => cases digit
    next =>
      split
      next => exact .inr ⟨_, rfl, by omega⟩
      next =>
        split
        next => exact .inr ⟨_, rfl, by omega⟩
        next => exact .inl rfl
  have failed : step (some 0) first = none := by
    rcases given with none | ⟨digit, some, large⟩
    · simp [step, none]
    · simp [step, some, large]
  have stays : ∀ digits : List Char, digits.foldl step none = none := by
    intro digits
    induction digits with
    | nil => rfl
    | cons digit digits induction =>
        have again : step none digit = none := by
          cases given : Value.hexDigit? digit <;> simp [step, given]
        rw [List.foldl_cons, again, induction]
  have folded : natOfDigits? 10 (first :: rest) = rest.foldl step (step (some 0) first) := rfl
  rw [folded, failed, stays]

theorem intText?_letter {text : String} {first : Char} {rest : List Char}
    (chars : text.toList = first :: rest) (letter : first.isAlpha = true) :
    intText? text = none := by
  have noMinus : first ≠ '-' := ne_of_letter letter (by decide)
  have noPlus : first ≠ '+' := ne_of_letter letter (by decide)
  have noZero : first ≠ '0' := ne_of_letter letter (by decide)
  have noBase : natOfBase? (first :: rest) = none := by
    unfold natOfBase?
    split
    case h_4 => rfl
    all_goals next same => exact absurd (List.cons.inj same).1 noZero
  simp [intText?, chars, noMinus, noPlus, noBase, natOfDigits?_letter letter]

theorem floatText?_letter {text : String} {first : Char} {rest : List Char}
    (chars : text.toList = first :: rest) (letter : first.isAlpha = true) :
    floatText? text = none := by
  have noMinus : first ≠ '-' := ne_of_letter letter (by decide)
  have noPlus : first ≠ '+' := ne_of_letter letter (by decide)
  have noPoint : first ≠ '.' := ne_of_letter letter (by decide)
  have noDigit : first.isDigit = false := isDigit_of_letter letter
  have noDecimal : decimalText? (first :: rest) = none := by
    simp [decimalText?, Value.splitDigits, noMinus, noPoint, noDigit]
  have noName :
      ∀ name ∈ [".inf", ".Inf", ".INF", "+.inf", "+.Inf", "+.INF", "-.inf", "-.Inf", "-.INF",
        ".nan", ".NaN", ".NAN"], text ≠ name := by
    have heads :
        ∀ name ∈ [".inf", ".Inf", ".INF", "+.inf", "+.Inf", "+.INF", "-.inf", "-.Inf", "-.INF",
          ".nan", ".NaN", ".NAN"], name.toList.head?.any Char.isAlpha = false := by decide
    rintro name member rfl
    have head := heads text member
    rw [chars, List.head?_cons, Option.any_some, letter] at head
    cases head
  simp only [List.forall_mem_cons] at noName
  simp [floatText?, chars, noName, noPlus, noDecimal]

/-- What begins with a letter stands for itself, unless it is one of the names
of null and the truth values. -/
theorem meaning_of_letter {text : String} {first : Char} {rest : List Char}
    (chars : text.toList = first :: rest) (letter : first.isAlpha = true)
    (noNull : isNullText text = false) (noBool : boolText? text = none) :
    Meaning.of text = .text := by
  have filled : text ≠ "" := by
    rintro rfl
    cases chars
  simp [Meaning.of, filled, noNull, noBool, intText?_letter chars letter,
    floatText?_letter chars letter]

end PoolOperator.Yaml
