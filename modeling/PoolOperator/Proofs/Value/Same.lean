import Mathlib.Data.Option.Basic
import PoolOperator.Proofs.Fields
import PoolOperator.Value

/-!
# Sameness of values

Objects that are the same have the same members (`sameOption_find?`).  If the
members of both are in order, that is all there is to it
(`sameFields_of_find?`).  Storing members and bringing them into order respect
sameness (`sameFields_put`, `sameFields_ofList`).
-/

namespace PoolOperator

namespace Value

/-- Are two optional values both absent, or both there and the same? -/
abbrev SameOption : Option Value → Option Value → Prop :=
  Option.Rel fun one other => one.same other = true

theorem sameOption_refl (value? : Option Value) : SameOption value? value? := by
  cases value? with
  | none => exact .none
  | some value => exact .some (same_refl value)

/-- An absent value is read as null. -/
theorem SameOption.getD_null {one other : Option Value} (alike : SameOption one other) :
    (one.getD .null).same (other.getD .null) = true := by
  cases alike with
  | none => rfl
  | some same => exact same

theorem sameFields_cons {key : String} {one other : Value} {ones others : Fields Value} :
    sameFields ((key, one) :: ones) ((key, other) :: others) = true ↔
      one.same other = true ∧ sameFields ones others = true := by
  simp [sameFields]

/-! ## Looking up -/

/-- Members that are the same are the same under every key. -/
theorem sameOption_find? : ∀ {ones others : Fields Value}, sameFields ones others = true →
    ∀ key : String, SameOption (ones.find? key) (others.find? key)
  | [], [], _, _ => .none
  | [], _ :: _, same, _ => nomatch same
  | _ :: _, [], same, _ => nomatch same
  | (name, one) :: ones, (name', other) :: others, same, key => by
      simp only [sameFields, Bool.and_eq_true, decide_eq_true_eq] at same
      obtain ⟨⟨rfl, first⟩, rest⟩ := same
      by_cases here : name = key
      · rw [Fields.find?, Fields.find?, if_pos here, if_pos here]
        exact .some first
      · rw [Fields.find?, Fields.find?, if_neg here, if_neg here]
        exact sameOption_find? rest key

/-- Objects that are the same have the same members. -/
theorem find?_of_sameFields {ones others : Fields Value} {key : String} {other : Value}
    (same : sameFields ones others = true) (found : others.find? key = some other) :
    ∃ one : Value, ones.find? key = some one ∧ one.same other = true := by
  have alike := sameOption_find? same key
  rw [found] at alike
  cases there : ones.find? key with
  | none =>
      rw [there] at alike
      cases alike
  | some one =>
      rw [there] at alike
      cases alike with
      | some same => exact ⟨one, rfl, same⟩

/-- Fields that are in order are the same if they are so under every key. -/
theorem sameFields_of_find? : ∀ {ones others : Fields Value}, ones.Sorted → others.Sorted →
    (∀ key : String, SameOption (ones.find? key) (others.find? key)) → sameFields ones others = true
  | [], [], _, _, _ => rfl
  | [], (name, other) :: others, _, _, alike => by
      have first := alike name
      rw [Fields.find?, Fields.find?, if_pos rfl] at first
      cases first
  | (name, one) :: ones, [], _, _, alike => by
      have first := alike name
      rw [Fields.find?, Fields.find?, if_pos rfl] at first
      cases first
  | (name, one) :: ones, (name', other) :: others, sorted, sorted', alike => by
      -- The lesser of the two first keys would be missing on the other side.
      have notBefore : ¬ name < name' := by
        refine Fields.not_lt_of_find? sorted' fun missing => ?_
        have here := alike name
        rw [missing, Fields.find?, if_pos rfl] at here
        cases here
      have notAfter : ¬ name' < name := by
        refine Fields.not_lt_of_find? sorted fun missing => ?_
        have here := alike name'
        rw [missing, Fields.find?, if_pos rfl] at here
        cases here
      obtain rfl : name = name' := String.le_antisymm notAfter notBefore
      have first : one.same other = true := by
        have here := alike name
        rw [Fields.find?, Fields.find?, if_pos rfl, if_pos rfl] at here
        cases here with
        | some same => exact same
      obtain ⟨least, restSorted⟩ := List.pairwise_cons.mp sorted
      obtain ⟨least', restSorted'⟩ := List.pairwise_cons.mp sorted'
      have rest : sameFields ones others = true := by
        refine sameFields_of_find? restSorted restSorted' fun key => ?_
        by_cases here : name = key
        · subst here
          rw [Fields.find?_eq_none_of_lt least, Fields.find?_eq_none_of_lt least']
          exact .none
        · have there := alike key
          rwa [Fields.find?, Fields.find?, if_neg here, if_neg here] at there
      simp [sameFields, first, rest]

/-- An object with a text as its only member is the same as no other value. -/
theorem eq_of_same_single {value : Value} {key text : String}
    (same : value.same (.obj [(key, .str text)]) = true) : value = .obj [(key, .str text)] := by
  match value with
  | .obj [(name, .str other)] =>
      simp only [Value.same, sameFields, Bool.and_true, Bool.and_eq_true, decide_eq_true_eq] at same
      rw [same.1, same.2]
  | .obj [] => cases same
  | .obj ((name, .null) :: _) => simp [Value.same, sameFields] at same
  | .obj ((name, .bool _) :: _) => simp [Value.same, sameFields] at same
  | .obj ((name, .int _) :: _) => simp [Value.same, sameFields] at same
  | .obj ((name, .float _) :: _) => simp [Value.same, sameFields] at same
  | .obj ((name, .arr _) :: _) => simp [Value.same, sameFields] at same
  | .obj ((name, .obj _) :: _) => simp [Value.same, sameFields] at same
  | .obj ((name, .str _) :: _ :: _) => simp [Value.same, sameFields] at same

/-! ## Storing -/

/-- Storing the same under a key keeps members the same. -/
theorem sameFields_put : ∀ {ones others : Fields Value} (key : String) {one other : Value},
    sameFields ones others = true → one.same other = true →
    sameFields (ones.put key one) (others.put key other) = true
  | [], [], _, _, _, _, same => by simpa [Fields.put, sameFields] using same
  | [], _ :: _, _, _, _, alike, _ => nomatch alike
  | _ :: _, [], _, _, _, alike, _ => nomatch alike
  | (name, first) :: ones, (name', first') :: others, key, one, other, alike, same => by
      simp only [sameFields, Bool.and_eq_true, decide_eq_true_eq] at alike
      obtain ⟨⟨rfl, firsts⟩, rest⟩ := alike
      simp only [Fields.put]
      split
      next => simp [sameFields, same, rest]
      next =>
        split
        next => simp [sameFields, same, firsts, rest]
        next => simp [sameFields, firsts, sameFields_put key rest same]

theorem sameFields_overlay : ∀ {above above' base base' : Fields Value},
    sameFields base base' = true → sameFields above above' = true →
    sameFields (base.overlay above) (base'.overlay above') = true
  | [], [], _, _, alike, _ => alike
  | [], _ :: _, _, _, _, same => nomatch same
  | _ :: _, [], _, _, _, same => nomatch same
  | (name, first) :: above, (name', first') :: above', base, base', alike, same => by
      simp only [sameFields, Bool.and_eq_true, decide_eq_true_eq] at same
      obtain ⟨⟨rfl, firsts⟩, rest⟩ := same
      have laid := sameFields_overlay (sameFields_put name alike firsts) rest
      exact laid

/-- The ordered forms of members that are the same are the same. -/
theorem sameFields_ofList {ones others : List (String × Value)}
    (same : sameFields ones others = true) :
    sameFields (Fields.ofList ones) (Fields.ofList others) = true :=
  sameFields_overlay (sameFields_refl []) same

theorem sameFields_append : ∀ {front front' back back' : Fields Value},
    sameFields front front' = true → sameFields back back' = true →
    sameFields (front ++ back) (front' ++ back') = true
  | [], [], _, _, _, same => same
  | [], _ :: _, _, _, alike, _ => nomatch alike
  | _ :: _, [], _, _, alike, _ => nomatch alike
  | (_, _) :: _, (_, _) :: _, _, _, alike, same => by
      simp only [sameFields, Bool.and_eq_true, List.cons_append] at alike ⊢
      exact ⟨alike.1, sameFields_append alike.2 same⟩

end Value

end PoolOperator
