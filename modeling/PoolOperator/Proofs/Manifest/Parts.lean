import PoolOperator.Manifest
import PoolOperator.Proofs.Manifest.Outline
import PoolOperator.Proofs.Object.Members

/-!
# The objects of the parts of a manifest

A part of a manifest is read as an object in whatever namespace the text in the
place of its namespace stands for (`objectOf_part`).  If the text stands for
nothing, the part is refused (`refused_part`).  With a text that stands for
itself, all parts are read (`objectsFrom_parts`), and the workloads among them
run the images in the place of theirs (`images_of_built`).
-/

namespace PoolOperator

/-- The images of the containers in the pods of an object. -/
def Object.images (object : Object) : List Value :=
  match object.body.under ["spec", "template", "spec", "containers"] with
  | .arr containers => containers.map fun container => container.under ["image"]
  | _ => []

namespace Manifest

open Yaml (Outline)

/-! ## Texts -/

section

variable {values : TemplateValues}

theorem value_plain {text : String} (noBrace : '\x7b' ∉ text.toList)
    (meaning : Yaml.Meaning.of text = .text) :
    ((plain text).fill values).value = .ok (.str text) := by
  rw [plain, Outline.fill, Template.fillText_self noBrace, Outline.value,
    Yaml.scalarValue_none, if_pos rfl, Yaml.plainValue_eq_str_iff]
  exact ⟨meaning, rfl⟩

theorem value_placeholder {key text : String} (given : values.find? key = some text) :
    ((plain (Template.placeholder key)).fill values).value = Yaml.plainValue text := by
  rw [plain, Outline.fill, Template.fillText_placeholder given, Outline.value,
    Yaml.scalarValue_none, if_pos rfl]

theorem value_plains {fields : List (String × String)}
    (texts : ∀ text ∈ fields.map Prod.snd, '\x7b' ∉ text.toList ∧ Yaml.Meaning.of text = .text) :
    ((plains fields).fill values).value =
      .ok (.obj (Fields.ofList (fields.map fun field => (field.1, .str field.2)))) := by
  have members : Outline.memberValues
    (Outline.fillFields values (fields.map fun field => (field.1, plain field.2))) =
      .ok (fields.map fun field => (field.1, .str field.2)) := by
    induction fields with
    | nil => rfl
    | cons field fields induction =>
        rw [List.map_cons, List.forall_mem_cons] at texts
        rw [List.map_cons, Outline.fillFields, Outline.memberValues,
          value_plain texts.1.1 texts.1.2, induction texts.2]
        rfl
  rw [plains, Outline.fill, Outline.value, members]
  rfl

end

/-! ## Bodies -/

/-- The members that are kept in the body, with values in the place of the
placeholders. -/
def Part.body (part : Part) (values : TemplateValues) : Except ReadError (List (String × Value)) :=
  Outline.memberValues (Outline.fillFields values part.others)

section

variable {part : Part} {values : TemplateValues} {body : List (String × Value)}

/-- The body of a part is its specification, if there is one. -/
theorem body_of_part (isBody : part.body values = .ok body) :
    (part.spec? = none ∧ body = [])
      ∨ ∃ (spec : List (String × Outline)) (value : Value), part.spec? = some spec
        ∧ ((Outline.mapping spec).fill values).value = .ok value ∧ body = [("spec", value)] := by
  rw [Part.body, Part.others] at isBody
  cases given : part.spec? with
  | none =>
      rw [given] at isBody
      cases isBody
      exact .inl ⟨rfl, rfl⟩
  | some spec =>
      rw [given] at isBody
      obtain ⟨value, isValue, isBody⟩ := Except.bind_eq_ok_iff.mp isBody
      cases isBody
      exact .inr ⟨spec, value, rfl, isValue, rfl⟩

theorem others_of_part (isBody : part.body values = .ok body) :
    ∀ member ∈ body, member.1 ≠ "apiVersion" ∧ member.1 ≠ "kind" ∧ member.1 ≠ "metadata" := by
  rcases body_of_part isBody with ⟨-, rfl⟩ | ⟨_, _, -, -, rfl⟩ <;> simp

theorem ordered_of_part (isBody : part.body values = .ok body) : (Value.obj body).Ordered := by
  rcases body_of_part isBody with ⟨-, rfl⟩ | ⟨_, value, -, isValue, rfl⟩
  · simp [Value.ordered_obj, Fields.Sorted]
  · simpa [Value.ordered_obj, Fields.Sorted] using Yaml.ordered_value _ isValue

/-! ## Parts -/

/-- The labels of a part. -/
def Part.labelsValue (part : Part) : Value :=
  .obj (Fields.ofList (part.labels.map fun field => (field.1, .str field.2)))

/-- The metadata of a part that is in what its namespace stands for. -/
def Part.metadataIn (part : Part) (meant : Value) : Value :=
  .obj [("labels", part.labelsValue), ("name", .str part.name), ("namespace", meant)]

theorem exists_marks (part : Part) :
    ∃ marks : Fields String, (Reading.textMap part.labelsValue : Except ReadError (Fields String)) =
      .ok marks := by
  apply exists_textMap
  intro field member
  obtain ⟨label, -, rfl⟩ := List.mem_map.mp (Fields.mem_ofList member)
  rfl

variable {space : String}

theorem value_metadata (sound : part.Sound) (given : values.find? "NameSpace" = some space) :
    (part.metadata.fill values).value = (Yaml.plainValue space).map part.metadataIn := by
  have texts := sound.texts
  simp only [List.forall_mem_cons] at texts
  obtain ⟨-, -, name, labels⟩ := texts
  simp only [Part.metadata, Outline.fill, Outline.fillFields, Outline.value, Outline.memberValues,
    value_plain name.1 name.2, value_plains labels, value_placeholder given]
  cases Yaml.plainValue space with
  | error error => rfl
  | ok meant =>
      -- The labels are written last, and come first.
      have order : "labels" < "name" ∧ ¬ "namespace" < "name" := by decide
      simp only [bind, Except.bind, pure, Except.pure, Except.map, Fields.ofList, List.foldl_cons,
        List.foldl_nil, Fields.put, order, String.reduceEq, if_true, if_false]
      rfl

/-- A part is in whatever its namespace stands for. -/
theorem value_part (sound : part.Sound) (given : values.find? "NameSpace" = some space)
    (isBody : part.body values = .ok body) :
    ((Outline.mapping part.fields).fill values).value = (Yaml.plainValue space).map fun meant =>
      .obj (("apiVersion", .str part.apiVersion) :: ("kind", .str part.kind)
        :: ("metadata", part.metadataIn meant) :: body) := by
  have texts := sound.texts
  simp only [List.forall_mem_cons] at texts
  obtain ⟨apiVersion, kind, -, -⟩ := texts
  have others : Outline.memberValues (Outline.fillFields values part.others) = .ok body := isBody
  simp only [Part.fields, Outline.fill, Outline.fillFields, Outline.value, Outline.memberValues,
    value_plain apiVersion.1 apiVersion.2, value_plain kind.1 kind.2,
    value_metadata sound given, others]
  cases Yaml.plainValue space with
  | error error => rfl
  | ok meant =>
      -- The members are written in their order.
      have order : ¬ "kind" < "apiVersion" ∧ ¬ "metadata" < "apiVersion" ∧ ¬ "metadata" < "kind"
          ∧ ¬ "spec" < "apiVersion" ∧ ¬ "spec" < "kind" ∧ ¬ "spec" < "metadata" := by decide
      rcases body_of_part isBody with ⟨-, rfl⟩ | ⟨_, _, -, -, rfl⟩ <;>
        simp only [bind, Except.bind, pure, Except.pure, Except.map, Fields.ofList, List.foldl_cons,
          List.foldl_nil, Fields.put, order, String.reduceEq, if_false]

/-! ## Objects -/

theorem ofValue_part (isBody : part.body values = .ok body) {marks : Fields String}
    (textual : (Reading.textMap part.labelsValue : Except ReadError (Fields String)) = .ok marks)
    (meant : Value) :
    Object.ofValue (.obj (("apiVersion", .str part.apiVersion) :: ("kind", .str part.kind)
        :: ("metadata", part.metadataIn meant) :: body)) =
      meant.textOrNull.map fun namespaceName =>
        ⟨some ⟨part.apiVersion, part.kind⟩, .marked marks part.name namespaceName, .obj body⟩ := by
  rw [Object.ofValue_members (others_of_part isBody) (ordered_of_part isBody), Part.metadataIn,
    readMetadata_eq part.name meant textual rfl]
  cases meant.textOrNull <;> rfl

/-- A type is written out, since nothing stands for null. -/
theorem Part.Sound.filled (sound : part.Sound) : ¬ (part.apiVersion = "" ∨ part.kind = "") := by
  have texts := sound.texts
  simp only [List.forall_mem_cons] at texts
  rintro (empty | empty)
  · rw [empty] at texts
    cases texts.1.2
  · rw [empty] at texts
    cases texts.2.1.2

variable {root : Yaml.Node}

/-- The document of a part is read as an object that is in the namespace that
the text in its place stands for. -/
theorem objectOf_part (sound : part.Sound)
    (said : ((Outline.mapping part.fields).fill values).Says root)
    (given : values.find? "NameSpace" = some space) (isBody : part.body values = .ok body)
    {meant : Value} (means : Yaml.plainValue space = .ok meant) (file : String) (index : Nat) :
    ∃ labels : Fields String, objectOf file index ⟨some root⟩ =
      (meant.textOrNull.mapError fun error =>
        RenderError.invalidObject file index error.message).map
        fun namespaceName =>
          some ⟨some ⟨part.apiVersion, part.kind⟩, .marked labels part.name namespaceName,
            .obj body⟩ := by
  have isPart := value_part sound given isBody
  rw [means] at isPart
  have isValue := Yaml.value_of_says said (sound.fill_low values) isPart
  obtain ⟨labels, textual⟩ := exists_marks part
  refine ⟨labels, ?_⟩
  rw [objectOf, isValue]
  simp only [Except.mapError, bind, Except.bind, ofValue_part isBody textual, Value.isNull]
  cases meant.textOrNull with
  | error error => rfl
  | ok namespaceName => simp [Except.map, sound.filled, pure, Except.pure]

/-- The document of a part is refused if its namespace stands for nothing. -/
theorem refused_part (sound : part.Sound)
    (said : ((Outline.mapping part.fields).fill values).Says root)
    (given : values.find? "NameSpace" = some space) (isBody : part.body values = .ok body)
    {error : ReadError} (means : Yaml.plainValue space = .error error) :
    ∃ error : Yaml.Error, (⟨some root⟩ : Yaml.Document).value = .error error := by
  have isPart := value_part sound given isBody
  rw [means] at isPart
  exact Yaml.refused_of_says said (sound.fill_low values) isPart

end

/-! ## Streams -/

/-- An object is what a part stands for, in a namespace. -/
structure Part.Built (part : Part) (values : TemplateValues) (space : String)
    (object : Object) : Prop where
  /-- The type. -/
  type : object.type? = some ⟨part.apiVersion, part.kind⟩
  /-- The name. -/
  name : object.metadata.name = some part.name
  /-- The namespace. -/
  namespaceName : object.metadata.namespaceName = some space
  /-- The body. -/
  body : ∃ members : List (String × Value), part.body values = .ok members
    ∧ object.body = .obj members

section

variable {values : TemplateValues} {space : String}

/-- The documents of some parts are read as their objects, if the name of the
namespace stands for itself. -/
theorem objectsFrom_parts (given : values.find? "NameSpace" = some space)
    (means : Yaml.plainValue space = .ok (.str space)) (file : String) {parts : List Part}
    {roots : List Yaml.Node}
    (said : List.Forall₂ (fun part root => ((Outline.mapping part.fields).fill values).Says root)
      parts roots)
    (sound : ∀ part ∈ parts,
      part.Sound ∧ ∃ body : List (String × Value), part.body values = .ok body)
    (index : Nat) :
    ∃ objects : List Object, objectsFrom file index (roots.map fun root => ⟨some root⟩) =
      .ok objects
      ∧ List.Forall₂ (fun part object => Part.Built part values space object) parts objects := by
  induction said generalizing index with
  | nil => exact ⟨[], rfl, .nil⟩
  | @cons part root parts roots first _ induction =>
      rw [List.forall_mem_cons] at sound
      obtain ⟨⟨isSound, body, isBody⟩, later⟩ := sound
      obtain ⟨objects, read, built⟩ := induction later (index + 1)
      obtain ⟨labels, isObject⟩ := objectOf_part isSound first given isBody means file index
      refine ⟨⟨some ⟨part.apiVersion, part.kind⟩, .marked labels part.name (some space), .obj body⟩
        :: objects, ?_, .cons ⟨rfl, rfl, rfl, body, isBody, rfl⟩ built⟩
      have text : (Value.str space).textOrNull = .ok (some space) := rfl
      rw [List.map_cons, objectsFrom, isObject, read, text]
      rfl

/-! ## Images -/

variable {part : Part} {object : Object}

/-- The container of a workload runs its image. -/
theorem images_of_built (built : part.Built values space object) {spec : List (String × Outline)}
    {container : Outline} {key image : String} (hasSpec : part.spec? = some spec)
    (containers : (Outline.mapping spec).at? ["template", "spec", "containers"] =
      some (.sequence [container]))
    (placed : container.at? ["image"] = some (plain (Template.placeholder key)))
    (given : values.find? key = some image) (meaning : Yaml.Meaning.of image = .text) :
    object.images = [.str image] := by
  obtain ⟨members, given', holds⟩ := built.body
  rcases body_of_part given' with ⟨none, -⟩ | ⟨spec', value, some, isValue, isBody⟩
  · rw [hasSpec] at none
    cases none
  · rw [hasSpec] at some
    cases some
    have areContainers := Yaml.value_at _ isValue (Yaml.at?_fill values _ containers)
    obtain ⟨items, areItems, areContainers⟩ := Except.bind_eq_ok_iff.mp areContainers
    obtain ⟨item, isItem, areItems⟩ := Except.bind_eq_ok_iff.mp areItems
    cases areItems
    have isImage := Yaml.value_at _ isItem (Yaml.at?_fill values _ placed)
    rw [value_placeholder given, Yaml.plainValue_eq_str_iff.mpr ⟨meaning, rfl⟩] at isImage
    have there : object.body.under ["spec", "template", "spec", "containers"] =
        value.under ["template", "spec", "containers"] := by
      rw [holds, isBody]
      rfl
    rw [Object.images, there, ← Except.ok.inj areContainers]
    simp [← Except.ok.inj isImage]

theorem images_of_account (built : part.Built values space object) (noSpec : part.spec? = none) :
    object.images = [] := by
  obtain ⟨members, given, holds⟩ := built.body
  rcases body_of_part given with ⟨-, isBody⟩ | ⟨spec, _, some, -, -⟩
  · rw [Object.images, holds, isBody]
    rfl
  · rw [noSpec] at some
    cases some

end

end Manifest

end PoolOperator
