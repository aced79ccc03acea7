/-!
# The order of bytes

Texts are compared character by character.  In UTF-8 this is the order of the bytes
(`bytes_le_bytes`), because the bytes of a greater character are greater from the first
one on that is different (`utf8EncodeChar_append_lt`).
-/

namespace PoolOperator.Text

/-- The bytes of a text in UTF-8. -/
def bytes (text : String) : List UInt8 := text.toUTF8.data.toList

theorem bytes_eq (text : String) : bytes text = text.toList.flatMap String.utf8EncodeChar := by
  rw [bytes, String.toUTF8_eq_toByteArray, ← String.utf8Encode_toList, List.utf8Encode,
    List.data_toByteArray]

theorem ofNat_lt_ofNat {one other : Nat} (less : one < other) (byte : other < 256) :
    UInt8.ofNat one < UInt8.ofNat other := by
  rw [UInt8.lt_iff_toNat_lt, UInt8.toNat_ofNat_of_lt' (Nat.lt_trans less byte),
    UInt8.toNat_ofNat_of_lt' byte]
  exact less

/-- What comes first decides, if it is different. -/
theorem cons_lt_cons {one other : Nat} {rest rest' : List UInt8} (byte : other < 256)
    (less : one < other ∨ one = other ∧ rest < rest') :
    UInt8.ofNat one :: rest < UInt8.ofNat other :: rest' := by
  rw [List.cons_lt_cons_iff]
  rcases less with first | ⟨rfl, others⟩
  · exact .inl (ofNat_lt_ofNat first byte)
  · exact .inr ⟨rfl, others⟩

/-- The bytes of a smaller character come first, whatever follows. -/
theorem utf8EncodeChar_append_lt {one other : Char} (less : one < other) (rest rest' : List UInt8) :
    String.utf8EncodeChar one ++ rest < String.utf8EncodeChar other ++ rest' := by
  have codes : one.val.toNat < other.val.toNat := less
  have greatest : other.val.toNat < 0x110000 :=
    other.valid.elim (Nat.lt_trans · (by decide)) And.right
  simp only [String.utf8EncodeChar]
  generalize one.val.toNat = code at codes
  generalize other.val.toNat = code' at codes greatest
  -- Of two sequences of different lengths, the first byte of the longer one is greater.
  split
  next =>
    repeat' split
    all_goals exact cons_lt_cons (by omega) (.inl (by omega))
  next =>
    split
    next =>
      rw [if_neg (by omega : ¬ code' ≤ 127)]
      split
      next =>
        refine cons_lt_cons (by omega) ?_
        by_cases first : code / 64 = code' / 64
        · exact .inr ⟨by omega, cons_lt_cons (by omega) (.inl (by omega))⟩
        · exact .inl (by omega)
      next => split <;> exact cons_lt_cons (by omega) (.inl (by omega))
    next =>
      split
      next =>
        rw [if_neg (by omega : ¬ code' ≤ 127), if_neg (by omega : ¬ code' ≤ 2047)]
        split
        next =>
          refine cons_lt_cons (by omega) ?_
          by_cases first : code / 4096 = code' / 4096
          · refine .inr ⟨by omega, cons_lt_cons (by omega) ?_⟩
            by_cases second : code / 64 = code' / 64
            · exact .inr ⟨by omega, cons_lt_cons (by omega) (.inl (by omega))⟩
            · exact .inl (by omega)
          · exact .inl (by omega)
        next => exact cons_lt_cons (by omega) (.inl (by omega))
      next =>
        rw [if_neg (by omega : ¬ code' ≤ 127), if_neg (by omega : ¬ code' ≤ 2047),
          if_neg (by omega : ¬ code' ≤ 65535)]
        refine cons_lt_cons (by omega) ?_
        by_cases first : code / 262144 = code' / 262144
        · refine .inr ⟨by omega, cons_lt_cons (by omega) ?_⟩
          by_cases second : code / 4096 = code' / 4096
          · refine .inr ⟨by omega, cons_lt_cons (by omega) ?_⟩
            by_cases third : code / 64 = code' / 64
            · exact .inr ⟨by omega, cons_lt_cons (by omega) (.inl (by omega))⟩
            · exact .inl (by omega)
          · exact .inl (by omega)
        · exact .inl (by omega)

theorem append_lt_append {front rest rest' : List UInt8} (less : rest < rest') :
    front ++ rest < front ++ rest' := by
  induction front with
  | nil => exact less
  | cons byte front induction => exact List.cons_lt_cons_iff.mpr (.inr ⟨rfl, induction⟩)

theorem flatMap_utf8EncodeChar_lt : ∀ {one other : List Char}, one < other →
    one.flatMap String.utf8EncodeChar < other.flatMap String.utf8EncodeChar
  | one, [], less => absurd less (List.not_lt_nil one)
  | [], char :: other, _ => by
      have filled : String.utf8EncodeChar char ≠ [] := List.ne_nil_of_length_pos (by
        rw [String.length_utf8EncodeChar]
        exact char.utf8Size_pos)
      obtain ⟨byte, bytes, isBytes⟩ := List.exists_cons_of_ne_nil filled
      rw [List.flatMap_cons, isBytes]
      exact List.nil_lt_cons _ _
  | char :: one, char' :: other, less => by
      rw [List.flatMap_cons, List.flatMap_cons]
      rcases List.cons_lt_cons_iff.mp less with first | ⟨rfl, others⟩
      · exact utf8EncodeChar_append_lt first _ _
      · exact append_lt_append (flatMap_utf8EncodeChar_lt others)

/-- The order of texts is the order of their bytes. -/
theorem bytes_le_bytes {one other : String} (atMost : one ≤ other) : bytes one ≤ bytes other := by
  rw [bytes_eq, bytes_eq]
  by_cases same : one = other
  · rw [same]
    exact List.le_refl _
  · have less : one < other := Std.lt_of_le_of_ne atMost same
    exact List.le_of_lt (flatMap_utf8EncodeChar_lt less)

end PoolOperator.Text
