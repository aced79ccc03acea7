import PoolOperator.Object
import PoolOperator.Proofs.Except
import PoolOperator.Proofs.Value.Ordered

/-!
# Well-formed objects

Every object that was read is well-formed (`wellFormed_of_ofValue`): its members
and its entries are in order, and its body has no member that stands for the
type or the metadata.  Merging and storing keep it so.  What is proved of objects
that are well-formed is thus proved of all objects as they are read.
-/

namespace PoolOperator

/-- Are the members in order, and is none of them a part of the object that is
kept elsewhere? -/
structure Object.WellFormed (object : Object) : Prop where
  body : object.body.Ordered
  annotations : (object.metadata.annotations.getD []).Sorted
  labels : (object.metadata.labels.getD []).Sorted
  noMetadata : ∀ field ∈ object.body.fields, field.1 ≠ "metadata"
  noType : object.type? ≠ none → ∀ field ∈ object.body.fields, field.1 ≠ "apiVersion"
    ∧ field.1 ≠ "kind"

/-- An object with a type and a name, and with nothing else. -/
def Object.bare (apiVersion kind name : String) : Object where
  type? := some ⟨apiVersion, kind⟩
  metadata := { Metadata.empty with name := some name }
  body := .obj []

/-! ## Reading -/

namespace Reading

variable {α β : Type}

theorem mem_of_mapM {read : α → Except ReadError β} {places : List α} {results : List β}
    (done : places.mapM read = .ok results) :
    ∀ result ∈ results, ∃ place ∈ places, read place = .ok result := by
  induction places generalizing results with
  | nil =>
      cases done
      exact fun result there => absurd there List.not_mem_nil
  | cons place places induction =>
      rw [List.mapM_cons] at done
      obtain ⟨first, one, done⟩ := Except.bind_eq_ok_iff.mp done
      obtain ⟨rest, more, done⟩ := Except.bind_eq_ok_iff.mp done
      cases done
      intro result there
      rcases List.mem_cons.mp there with rfl | later
      · exact ⟨place, List.mem_cons_self, one⟩
      · obtain ⟨other, member, same⟩ := induction more result later
        exact ⟨other, List.mem_cons_of_mem _ member, same⟩

/-- A member that is there was read somewhere. -/
theorem read_of_member? {members : List (String × Value)} {read : Value → Except ReadError α}
    {name : String} {result : α} (done : member? members read name = .ok (some result)) :
    ∃ place : Value, read place = .ok result := by
  obtain ⟨values, each, last⟩ := Except.bind_eq_ok_iff.mp done
  have there : some result ∈ values := by
    have joined := Except.ok.inj last
    cases final : values.getLast? with
    | none =>
        rw [final] at joined
        cases joined
    | some value =>
        rw [final] at joined
        cases joined
        exact List.mem_of_getLast? final
  obtain ⟨place, -, given⟩ := mem_of_mapM each _ there
  obtain ⟨value?, -, given⟩ := Except.bind_eq_ok_iff.mp given
  cases value? with
  | none => cases given
  | some value =>
      obtain ⟨found, same, given⟩ := Except.bind_eq_ok_iff.mp given
      cases given
      exact ⟨value, same⟩

theorem sorted_of_textMap {place : Value} {fields : Fields String}
    (done : textMap place = .ok fields) : fields.Sorted := by
  obtain ⟨members, -, done⟩ := Except.bind_eq_ok_iff.mp done
  obtain ⟨pairs, -, done⟩ := Except.bind_eq_ok_iff.mp done
  cases done
  exact Fields.sorted_ofList pairs

/-- Entries that were read are in order. -/
theorem sorted_of_member? {members : List (String × Value)} {name : String}
    {fields? : Option (Fields String)} (done : member? members textMap name = .ok fields?) :
    (fields?.getD []).Sorted := by
  cases fields? with
  | none => exact List.Pairwise.nil
  | some fields =>
      obtain ⟨place, read⟩ := read_of_member? done
      exact sorted_of_textMap read

end Reading

/-- Annotations and labels that were read are in order. -/
theorem sorted_of_readMetadata {place : Value} {metadata : Metadata}
    (done : Metadata.read place = .ok metadata) :
    (metadata.annotations.getD []).Sorted ∧ (metadata.labels.getD []).Sorted := by
  simp only [Metadata.read, Except.bind_eq_ok_iff] at done
  obtain ⟨members, -, annotations, readAnnotations, _, -, _, -, _, -, _, -, _, -, _, -, labels,
    readLabels, _, -, _, -, _, -, _, -, _, -, _, -, _, -, same⟩ := done
  cases same
  exact ⟨Reading.sorted_of_member? readAnnotations, Reading.sorted_of_member? readLabels⟩

namespace Object

theorem keys_canonicalFields (fields : List (String × Value)) :
    (Value.canonicalFields fields).map Prod.fst = fields.map Prod.fst := by
  induction fields with
  | nil => rfl
  | cons field rest induction => rw [Value.canonicalFields, List.map_cons, List.map_cons, induction]

/-- What is left once the type was taken out was there before, and nothing of
the type is left if there is one. -/
theorem takeType_spec (apiVersion kind : Option String) (members : List (String × Value)) :
    (∀ field ∈ (takeType apiVersion kind members).2, field ∈ members)
      ∧ ((takeType apiVersion kind members).1 ≠ none →
          ∀ field ∈ (takeType apiVersion kind members).2, field.1 ≠ "apiVersion"
            ∧ field.1 ≠ "kind") := by
  fun_induction takeType apiVersion kind members with
  | case1 => simp
  | case2 kind rest text induction =>
      exact ⟨fun field there => List.mem_cons_of_mem _ (induction.1 field there), induction.2⟩
  | case3 => exact ⟨fun field there => List.mem_cons_of_mem _ there, fun known => absurd rfl known⟩
  | case4 apiVersion rest notVersion text induction =>
      exact ⟨fun field there => List.mem_cons_of_mem _ (induction.1 field there), induction.2⟩
  | case5 => exact ⟨fun field there => List.mem_cons_of_mem _ there, fun known => absurd rfl known⟩
  | case6 apiVersion kind key value rest notVersion notKind type? others taken induction =>
      rw [taken] at induction
      constructor
      · intro field there
        rcases List.mem_cons.mp there with rfl | later
        · exact List.mem_cons_self
        · exact List.mem_cons_of_mem _ (induction.1 field later)
      · intro known field there
        rcases List.mem_cons.mp there with rfl | later
        · exact ⟨notVersion, notKind⟩
        · exact induction.2 known field later

theorem exists_key_of_mem_canonical {members : List (String × Value)} {field : String × Value}
    (there : field ∈ Fields.ofList (Value.canonicalFields members)) :
    ∃ given ∈ members, given.1 = field.1 := by
  have key : field.1 ∈ members.map Prod.fst :=
    keys_canonicalFields members ▸ List.mem_map_of_mem (Fields.mem_ofList there)
  exact List.mem_map.mp key

/-- Every object that was read is well-formed. -/
theorem wellFormed_of_ofValue {value : Value} {object : Object}
    (read : ofValue value = .ok object) :
    object.WellFormed := by
  cases value with
  | obj members =>
      simp only [ofValue] at read
      obtain ⟨metadata, each, read⟩ := Except.bind_eq_ok_iff.mp read
      split at read
      · cases read
      · generalize taken : takeType none none
          (members.filter fun member => !decide (member.1 = "metadata")) = result at read
        obtain ⟨type?, others⟩ := result
        obtain ⟨kept, known⟩ := taken ▸ takeType_spec none none
          (members.filter fun member => !decide (member.1 = "metadata"))
        cases read
        have entries : ((metadata.head?.getD .empty).annotations.getD []).Sorted
            ∧ ((metadata.head?.getD .empty).labels.getD []).Sorted := by
          cases metadata with
          | nil => exact ⟨List.Pairwise.nil, List.Pairwise.nil⟩
          | cons first rest =>
              obtain ⟨member, -, read⟩ := Reading.mem_of_mapM each first List.mem_cons_self
              exact sorted_of_readMetadata read
        refine ⟨Value.ordered_ofList (Value.orderedFields_canonical others), entries.1,
          entries.2, ?_, ?_⟩
        · intro field there
          obtain ⟨given, member, same⟩ := exists_key_of_mem_canonical there
          have notMetadata := (List.mem_filter.mp (kept given member)).2
          rw [← same]
          simpa using notMetadata
        · intro typed field there
          obtain ⟨given, member, same⟩ := exists_key_of_mem_canonical there
          rw [← same]
          exact known typed given member
  | _ => cases read

end Object

end PoolOperator
