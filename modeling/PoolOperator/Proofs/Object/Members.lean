import PoolOperator.Object
import PoolOperator.Proofs.Except
import PoolOperator.Proofs.Value.Ordered
import PoolOperator.Proofs.Value.Shape

/-!
# Reading objects from their members

An object whose members are in order is read part by part: its type, its
metadata, and everything else as it is (`ofValue_members`).  Metadata with a
name, labels and a namespace can be read if the labels are texts and the
namespace is a text or null (`readMetadata_eq`).
-/

namespace PoolOperator

/-! ## Metadata -/

section

variable {α : Type} {members : List (String × Value)}

/-- A member that is not there. -/
theorem member?_eq_none (read : Value → Except ReadError α) {name : String}
    (absent : name ∉ members.map Prod.fst) : Reading.member? members read name = .ok none := by
  have none : members.filter (fun member => decide (member.1 = name)) = [] := by
    rw [List.filter_eq_nil_iff]
    rintro member there same
    exact absent (of_decide_eq_true same ▸ List.mem_map_of_mem there)
  rw [Reading.member?, none]
  rfl

/-- A member that is there once. -/
theorem member?_eq (read : Value → Except ReadError α) {name : String} {value : Value}
    (only : members.filter (fun member => decide (member.1 = name)) = [(name, value)]) :
    Reading.member? members read name = if value.isNull then .ok none
    else (read value).map some := by
  rw [Reading.member?, only]
  cases null : value.isNull with
  | true => simp [Source.nullable, null, bind, Except.bind, pure, Except.pure]
  | false =>
      cases given : read value <;>
        simp [Source.nullable, null, given, bind, Except.bind, pure, Except.pure, Except.map]

end

/-- A map can be read whose values are texts. -/
theorem exists_textMap {fields : Fields Value} (texts : ∀ field ∈ fields, field.2.isText = true) :
    ∃ marks : Fields String, (Reading.textMap (Value.obj fields) : Except ReadError
      (Fields String)) = .ok marks := by
  have each : ∃ pairs : List (String × String),
      (fields.mapM fun (key, value) => do return (key, ← Reading.text value) :
        Except ReadError (List (String × String))) = .ok pairs := by
    induction fields with
    | nil => exact ⟨[], rfl⟩
    | cons field fields induction =>
        obtain ⟨key, value⟩ := field
        rw [List.forall_mem_cons] at texts
        obtain ⟨pairs, given⟩ := induction texts.2
        cases value with
        | str text =>
            refine ⟨(key, text) :: pairs, ?_⟩
            rw [List.mapM_cons, given]
            rfl
        | _ => cases texts.1
  obtain ⟨pairs, given⟩ := each
  refine ⟨Fields.ofList pairs, ?_⟩
  have members :
      (Source.members "a map" (Value.obj fields) : Except ReadError (List (String × Value))) =
      .ok fields := rfl
  rw [Reading.textMap, members]
  simp only [bind, Except.bind] at given ⊢
  rw [given]
  rfl

/-- A text, or nothing if there is null. -/
def Value.textOrNull (value : Value) : Except ReadError (Option String) :=
  if value.isNull then .ok none else (Reading.text value).map some

theorem Value.textOrNull_eq_some_iff {value : Value} {text : String} :
    value.textOrNull = .ok (some text) ↔ value = .str text := by
  cases value <;> simp [textOrNull, Reading.text, Source.text, isNull, mismatch, Except.map]

/-- Metadata with labels, a name and perhaps a namespace. -/
def Metadata.marked (labels : Fields String) (name : String) (namespaceName : Option String) :
    Metadata :=
  { Metadata.empty with labels := some labels, name := some name, namespaceName }

theorem readMetadata_eq {labels : Value} {marks : Fields String} (name : String) (space : Value)
    (textual : (Reading.textMap labels : Except ReadError (Fields String)) = .ok marks)
    (notNull : labels.isNull = false) :
    (Metadata.read (Value.obj [("labels", labels), ("name", .str name), ("namespace", space)]) :
        Except ReadError Metadata) =
      space.textOrNull.map (Metadata.marked marks name) := by
  generalize same : [("labels", labels), ("name", Value.str name), ("namespace", space)] = members
  have absent {α : Type} (read : Value → Except ReadError α) {key : String}
      (other : key ∉ ["labels", "name", "namespace"]) : Reading.member? members read key =
      .ok none :=
    member?_eq_none read (same ▸ other)
  have isLabels : Reading.member? members Reading.textMap "labels" = .ok (some marks) := by
    have only : members.filter (fun member => decide (member.1 = "labels")) =
      [("labels", labels)] := same ▸ rfl
    rw [member?_eq Reading.textMap only, notNull, textual]
    rfl
  have isName : Reading.member? members Reading.text "name" = .ok (some name) := by
    have only : members.filter (fun member => decide (member.1 = "name")) = [("name", .str name)] :=
      same ▸ rfl
    rw [member?_eq Reading.text only]
    rfl
  have isSpace : Reading.member? members Reading.text "namespace" = space.textOrNull := by
    have only : members.filter (fun member => decide (member.1 = "namespace")) =
      [("namespace", space)] :=
      same ▸ rfl
    rw [member?_eq Reading.text only]
    rfl
  have given :
      (Source.members "ObjectMeta" (Value.obj members) : Except ReadError (List (String × Value))) =
      .ok members := rfl
  cases spaced : space.textOrNull with
  | error error =>
      simp [Metadata.read, given, absent, isLabels, isName, isSpace, spaced, bind,
        Except.bind, Except.map]
  | ok namespaceName =>
      simp [Metadata.read, Metadata.marked, Metadata.empty, given, absent, isLabels, isName,
        isSpace, spaced, bind, Except.bind, pure, Except.pure, Except.map]

namespace Object

/-! ## Types -/

/-- Nothing of a type is left to be found. -/
theorem takeType_others {apiVersion kind : String} : ∀ {members : List (String × Value)},
    (∀ member ∈ members, member.1 ≠ "apiVersion" ∧ member.1 ≠ "kind") →
    takeType (some apiVersion) (some kind) members = (some ⟨apiVersion, kind⟩, members)
  | [], _ => rfl
  | (key, value) :: members, others => by
      rw [List.forall_mem_cons] at others
      rw [takeType.eq_def]
      simp only [others.1.1, others.1.2, if_false, takeType_others others.2]

/-- An object whose members are in order is read part by part. -/
theorem ofValue_members {apiVersion kind : String} {metadata : Value} {body : List (String × Value)}
    (others : ∀ member ∈ body, member.1 ≠ "apiVersion" ∧ member.1 ≠ "kind" ∧ member.1 ≠ "metadata")
    (ordered : (Value.obj body).Ordered) :
    ofValue (.obj (("apiVersion", .str apiVersion) :: ("kind", .str kind) ::
      ("metadata", metadata) :: body)) =
      (Metadata.read metadata).map fun metadata =>
        ⟨some ⟨apiVersion, kind⟩, metadata, .obj body⟩ := by
  have isBody : body.filter (fun member => !decide (member.1 = "metadata")) = body :=
    List.filter_eq_self.mpr fun member there => by simp [(others member there).2.2]
  have noMetadata : body.filter (fun member => decide (member.1 = "metadata")) = [] :=
    List.filter_eq_nil_iff.mpr fun member there => by simp [(others member there).2.2]
  have taken : takeType none none (("apiVersion", .str apiVersion) :: ("kind", .str kind) :: body) =
      (some ⟨apiVersion, kind⟩, body) :=
    takeType_others fun member there => ⟨(others member there).1, (others member there).2.1⟩
  obtain ⟨sorted, -⟩ := Value.ordered_obj.mp ordered
  have same : Fields.ofList (Value.canonicalFields body) = body := by
    rw [Value.canonicalFields_of_ordered ordered.2, Fields.ofList_of_sorted sorted]
  simp only [ofValue]
  cases read : (Metadata.read metadata : Except ReadError Metadata) with
  | error error => simp [noMetadata, read, bind, Except.bind, Except.map]
  | ok metadata =>
      simp [isBody, noMetadata, read, taken, same, bind, Except.bind, pure, Except.pure, Except.map]

end Object

end PoolOperator
