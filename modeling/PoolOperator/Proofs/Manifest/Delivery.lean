import PoolOperator.Proofs.Manifest.Parts

/-!
# What the shipped manifest delivers

The namespace and the images are pasted into the manifest as text, without
quotes.  An image stays what it is, but a namespace is read as a plain scalar:
the objects that are installed are in the configured namespace exactly if its
name stands for itself (`shipped_delivers_iff`).  A name that begins with a
letter does, unless it is `null`, `true` or `false`
(`meaning_of_isNamespaceName`).  The names of numbers do not, although they are
valid names of namespaces too.
-/

namespace PoolOperator

/-! ## Names -/

/-- Is this a valid name of a namespace?  It has 1 to 63 small letters, digits
and hyphens, and no hyphen at either end. -/
def isNamespaceName (name : String) : Bool :=
  let chars := name.toList
  1 ≤ chars.length && chars.length ≤ 63
    && chars.all (fun char => char.isLower || char.isDigit || char = '-')
    && chars.head? ≠ some '-' && chars.getLast? ≠ some '-'

/-- May a character stand in the parts of the name of an image? -/
def isImageChar (char : Char) : Bool := char.isAlphanum || char ∈ ['.', '-', '_', '/']

/-- Is this the name of an image with a tag?  The path begins with a letter. -/
def IsTaggedImage (image : String) : Prop :=
  ∃ path tag : String, image = path ++ ":" ++ tag
    ∧ (path.toList.head?.any Char.isAlpha = true) ∧ path.toList.all isImageChar = true
    ∧ tag ≠ "" ∧ tag.toList.all isImageChar = true

namespace Manifest

/-! ## Delivery -/

open Yaml (Outline)

/-- Do some objects install MetalLB as it is configured? -/
structure Delivers (config : Config) (objects : List Object) : Prop where
  /-- There are an account and a workload for the controller and the speaker. -/
  identities : objects.map (fun object => (object.type?, object.metadata.name)) = [
    (some ⟨"v1", "ServiceAccount"⟩, some "controller"),
    (some ⟨"v1", "ServiceAccount"⟩, some "speaker"),
    (some ⟨"apps/v1", "Deployment"⟩, some "controller"),
    (some ⟨"apps/v1", "DaemonSet"⟩, some "speaker")]
  /-- All of them are in the namespace. -/
  namespaces : ∀ object ∈ objects, object.metadata.namespaceName = some config.namespaceName
  /-- The workloads run the images. -/
  images : objects.map Object.images =
    [[], [], [.str config.controllerImage], [.str config.speakerImage]]

/-! ## Writing names -/

theorem isWordChar_of_isImageChar {char : Char} (isImage : isImageChar char = true) :
    Yaml.isWordChar char = true := by
  simp only [isImageChar, Yaml.isWordChar, List.mem_cons, List.not_mem_nil, or_false,
    Bool.or_eq_true, decide_eq_true_eq] at isImage ⊢
  tauto

theorem ne_colon_of_isImageChar {char : Char} (isImage : isImageChar char = true) : char ≠ ':' := by
  rintro rfl
  cases isImage

/-- The name of a namespace may be written plain, whatever it stands for. -/
theorem carries_of_isNamespaceName {name : String} (valid : isNamespaceName name = true) :
    Yaml.Style.plain.carries name = true := by
  simp only [isNamespaceName, Bool.and_eq_true, decide_eq_true_eq, List.all_eq_true,
    Bool.or_eq_true] at valid
  obtain ⟨⟨⟨⟨filled, -⟩, chars⟩, noHead⟩, -⟩ := valid
  have alphanum {char : Char} (member : char ∈ name.toList)
    (noHyphen : char ≠ '-') : char.isAlphanum = true := by
    rcases chars char member with (lower | digit) | hyphen
    · have letter : char.isAlpha = true := Bool.or_eq_true_iff.mpr (.inr lower)
      simp [Char.isAlphanum, letter]
    · simp [Char.isAlphanum, digit]
    · exact absurd hyphen noHyphen
  have words : ∀ char ∈ name.toList, Yaml.isWordChar char = true := by
    intro char member
    by_cases hyphen : char = '-'
    · subst hyphen
      decide
    · simp [Yaml.isWordChar, alphanum member hyphen]
  have noColon : name.toList.getLast? ≠ some ':' := by
    intro last
    have colon := alphanum (List.mem_of_getLast? last) (by decide)
    cases colon
  cases split : name.toList with
  | nil =>
      rw [split] at filled
      cases filled
  | cons first rest =>
      have starts : first.isAlphanum = true := by
        refine alphanum (by simp [split]) ?_
        rintro rfl
        exact noHead (by simp [split])
      exact Yaml.carries_plain_of_word split starts words noColon

/-- A valid name that begins with a letter stands for itself, unless it is one
of three names. -/
theorem meaning_of_isNamespaceName {name : String} {first : Char} {rest : List Char}
    (valid : isNamespaceName name = true) (chars : name.toList = first :: rest)
    (letter : first.isAlpha = true) (apart : name ∉ ["null", "true", "false"]) :
    Yaml.Meaning.of name = .text := by
  -- The other names of null and the truth values are not valid.
  have others : ∀ other ∈ ["Null", "NULL", "~", "True", "TRUE", "False", "FALSE"],
      name ≠ other := by
    have none : ∀ other ∈ ["Null", "NULL", "~", "True", "TRUE", "False", "FALSE"],
        isNamespaceName other = false := by decide
    rintro other member rfl
    rw [none _ member] at valid
    cases valid
  simp only [List.mem_cons, not_or] at others apart
  exact Yaml.meaning_of_letter chars letter (by simp [Yaml.isNullText, others, apart])
    (by simp [Yaml.boolText?, others, apart])

/-- The name of an image may be written plain, and stands for itself. -/
theorem carries_of_isTaggedImage {image : String} (tagged : IsTaggedImage image) :
    Yaml.Style.plain.carries image = true ∧ Yaml.Meaning.of image = .text := by
  obtain ⟨path, tag, rfl, starts, isPath, filled, isTag⟩ := tagged
  rw [List.all_eq_true] at isPath isTag
  have chars : (path ++ ":" ++ tag).toList = path.toList ++ ':' :: tag.toList := by simp
  have words : ∀ char ∈ (path ++ ":" ++ tag).toList, Yaml.isWordChar char = true := by
    intro char member
    rw [chars, List.mem_append, List.mem_cons] at member
    rcases member with inPath | rfl | inTag
    · exact isWordChar_of_isImageChar (isPath char inPath)
    · decide
    · exact isWordChar_of_isImageChar (isTag char inTag)
  have ends : (path ++ ":" ++ tag).toList.getLast? ≠ some ':' := by
    have filledTag : tag.toList ≠ [] := by simpa using filled
    rw [chars, List.getLast?_append_cons, List.getLast?_cons_of_ne_nil filledTag]
    intro last
    exact ne_colon_of_isImageChar (isTag ':' (List.mem_of_getLast? last)) rfl
  -- None of the names of null and the truth values has a colon.
  have apart :
      ∀ name ∈ ["null", "Null", "NULL", "~", "true", "True", "TRUE", "false", "False", "FALSE"],
        path ++ ":" ++ tag ≠ name := by
    have none :
        ∀ name ∈ ["null", "Null", "NULL", "~", "true", "True", "TRUE", "false", "False", "FALSE"],
          ':' ∉ name.toList := by decide
    rintro name member rfl
    exact none _ member (by simp)
  simp only [List.forall_mem_cons] at apart
  cases split : path.toList with
  | nil =>
      rw [split] at starts
      cases starts
  | cons first rest =>
      have letter : first.isAlpha = true := by simpa [split] using starts
      rw [split, List.cons_append] at chars
      refine ⟨Yaml.carries_plain_of_word chars (by simp [Char.isAlphanum, letter]) words ends,
        Yaml.meaning_of_letter chars letter ?_ ?_⟩
      · simp [Yaml.isNullText, apart]
      · simp [Yaml.boolText?, apart]

/-! ## The values of a configuration -/

section

variable {config : Config}

theorem find?_templateValues (config : Config) :
    config.templateValues.find? "ControllerImage" = some config.controllerImage
      ∧ config.templateValues.find? "SpeakerImage" = some config.speakerImage
      ∧ config.templateValues.find? "NameSpace" = some config.namespaceName := by
  refine ⟨?_, ?_, ?_⟩ <;> rw [Config.templateValues, Fields.find?_ofList] <;> simp [Fields.find?]

/-- What holds of the images and of the namespace holds of the values. -/
theorem find?_keys (P : String → Prop) (controller : P config.controllerImage)
    (speaker : P config.speakerImage) (space : P config.namespaceName) :
    ∀ key ∈ keys, ∃ text : String, config.templateValues.find? key = some text ∧ P text := by
  obtain ⟨isController, isSpeaker, isSpace⟩ := find?_templateValues config
  intro key known
  simp only [keys, List.mem_cons, List.not_mem_nil, or_false] at known
  rcases known with rfl | rfl | rfl
  · exact ⟨_, isController, controller⟩
  · exact ⟨_, isSpeaker, speaker⟩
  · exact ⟨_, isSpace, space⟩

theorem supplies (valid : isNamespaceName config.namespaceName = true)
    (controller : IsTaggedImage config.controllerImage)
    (speaker : IsTaggedImage config.speakerImage) :
    Yaml.Supplies config.templateValues keys := by
  have words : ∀ key ∈ keys, key.toList.all Text.isWord = true ∧ key.toList ≠ [] := by decide
  have carried :=
    find?_keys (Yaml.Style.plain.carries · = true) (carries_of_isTaggedImage controller).1
    (carries_of_isTaggedImage speaker).1 (carries_of_isNamespaceName valid)
  intro key known
  exact ⟨(words key known).1, (words key known).2, carried key known⟩

theorem readable (controller : Yaml.Meaning.of config.controllerImage = .text)
    (speaker : Yaml.Meaning.of config.speakerImage = .text)
    (space : Yaml.Meaning.of config.namespaceName = .text) :
    Yaml.Readable config.templateValues keys := by
  intro key known
  obtain ⟨text, there, meaning⟩ :=
    find?_keys (Yaml.Meaning.of · = .text) controller speaker space key known
  exact ⟨text, .str text, there, Yaml.plainValue_eq_str_iff.mpr ⟨meaning, rfl⟩⟩

/-! ## Rendering -/

/-- The shipped manifest is rendered to documents that say its parts, with the
values in the place of the placeholders. -/
theorem shipped_filled (supplied : Yaml.Supplies config.templateValues keys) :
    ∃ (text : String) (roots : List Yaml.Node),
      Template.fill shipped config.templateValues = .ok text
      ∧ Yaml.documents text = (roots.map fun root => ⟨some root⟩, none)
      ∧ List.Forall₂
      (fun part root => ((Outline.mapping part.fields).fill config.templateValues).Says root)
        parts roots := by
  have written : shipped.toList = Outline.fieldLines 0 (account "controller").fields
      ++ Outline.laterLines (laterParts.map Part.fields) := by
    rw [shipped_eq, String.toList_ofList]
  have templates : ∀ document ∈ parts.map Part.fields,
    (Outline.mapping document).isTemplate keys = true :=
    List.forall_mem_map.mpr fun part member => (sound_of_mem member).template
  obtain ⟨text, roots, filled, read, said⟩ := Yaml.fill_stream supplied written templates
  rw [← List.map_cons, List.forall₂_map_left_iff] at said
  exact ⟨text, roots, filled, read, said⟩

/-- The objects of the shipped manifest for a configuration. -/
def shippedObjects (config : Config) (file : String) : Except RenderError (List Object) := do
  let text ← (Template.fill shipped config.templateValues).mapError .missingValue
  objects file text

/-- The bytes of a text are read as the text. -/
theorem textOf_toUTF8 (text : String) : textOf (.ok text.toUTF8.data.toList) = .ok text := by
  have valid : text.toByteArray.IsValidUTF8 := text.isValidUTF8
  simp [textOf, String.fromUTF8?, String.fromUTF8, valid, bind, Except.bind, pure, Except.pure]

/-- A file with the bytes of a text holds the objects of the text. -/
theorem fileObjects_toUTF8 (values : TemplateValues) (file text : String) :
    fileObjects values file (.ok text.toUTF8.data.toList) =
      ((Template.fill text values).mapError .missingValue).bind (objects file) := by
  rw [fileObjects, textOf_toUTF8]
  rfl

/-- These are the objects of a file with the bytes of the manifest. -/
theorem fileObjects_shipped (config : Config) (file : String) :
    fileObjects config.templateValues file (.ok shipped.toUTF8.data.toList) =
      shippedObjects config file :=
  fileObjects_toUTF8 config.templateValues file shipped

theorem shippedObjects_eq {text : String} {roots : List Yaml.Node}
    (filled : Template.fill shipped config.templateValues = .ok text)
    (read : Yaml.documents text = (roots.map fun root => ⟨some root⟩, none)) (file : String) :
    shippedObjects config file = objectsFrom file 0 (roots.map fun root => ⟨some root⟩) := by
  have whole : objects file text = objectsFrom file 0 (roots.map fun root => ⟨some root⟩) := by
    rw [objects, read]
    exact bind_pure (objectsFrom file 0 (roots.map fun root => ⟨some root⟩))
  rw [shippedObjects, filled, ← whole]
  rfl

/-- With a name that stands for itself, all objects are there. -/
theorem delivers_of_meaning (supplied : Yaml.Supplies config.templateValues keys)
    (controller : Yaml.Meaning.of config.controllerImage = .text)
    (speaker : Yaml.Meaning.of config.speakerImage = .text)
    (space : Yaml.Meaning.of config.namespaceName = .text) (file : String) :
    ∃ objects : List Object, shippedObjects config file = .ok objects
      ∧ Delivers config objects := by
  obtain ⟨isController, isSpeaker, isSpace⟩ := find?_templateValues config
  obtain ⟨text, roots, filled, read, said⟩ := shipped_filled supplied
  have sound : ∀ part ∈ parts, part.Sound ∧
      ∃ body : List (String × Value), part.body config.templateValues = .ok body :=
    fun part member => ⟨sound_of_mem member,
      Yaml.exists_memberValues_fill (readable controller speaker space) part.others
        (sound_of_mem member).others⟩
  obtain ⟨objects, given, built⟩ := objectsFrom_parts isSpace
    (Yaml.plainValue_eq_str_iff.mpr ⟨space, rfl⟩) file said sound 0
  refine ⟨objects, (shippedObjects_eq filled read file).trans given, ?_⟩
  rcases built with _ | ⟨first, _ | ⟨second, _ | ⟨third, _ | ⟨fourth, _ | _⟩⟩⟩⟩
  exact {
    identities := by
      simp only [List.map_cons, List.map_nil, first.type, first.name, second.type,
        second.name, third.type, third.name, fourth.type, fourth.name]
      rfl
    namespaces := by
      simp only [List.forall_mem_cons]
      exact ⟨first.namespaceName, second.namespaceName, third.namespaceName,
        fourth.namespaceName, by simp⟩
    images := by
      simp only [List.map_cons, List.map_nil, images_of_account first rfl,
        images_of_account second rfl, images_of_built third rfl rfl rfl isController controller,
        images_of_built fourth rfl rfl rfl isSpeaker speaker] }

/-- If all objects are there, the name stands for itself. -/
theorem meaning_of_delivers (supplied : Yaml.Supplies config.templateValues keys) {file : String}
    {objects : List Object} (given : shippedObjects config file = .ok objects)
    (delivers : Delivers config objects) : Yaml.Meaning.of config.namespaceName = .text := by
  obtain ⟨-, -, isSpace⟩ := find?_templateValues config
  obtain ⟨text, roots, filled, read, said⟩ := shipped_filled supplied
  rw [shippedObjects_eq filled read] at given
  -- The first document decides it.
  obtain ⟨root, roots, saysFirst, -, rfl⟩ := List.forall₂_cons_left_iff.mp said
  obtain ⟨object?, first, given⟩ := Except.bind_eq_ok_iff.mp given
  obtain ⟨others, -, given⟩ := Except.bind_eq_ok_iff.mp given
  have sound : (account "controller").Sound := sound_of_mem List.mem_cons_self
  have isBody : (account "controller").body config.templateValues = .ok [] := rfl
  cases means : Yaml.plainValue config.namespaceName with
  | error error =>
      obtain ⟨error, refused⟩ := refused_part sound saysFirst isSpace isBody means
      rw [objectOf, refused] at first
      cases first
  | ok meant =>
      obtain ⟨labels, isObject⟩ := objectOf_part sound saysFirst isSpace isBody means file 0
      rw [isObject, Except.map_eq_ok_iff] at first
      obtain ⟨namespaceName, textual, rfl⟩ := first
      rw [Except.mapError_eq_ok_iff] at textual
      cases given
      have inside : namespaceName = some config.namespaceName :=
        delivers.namespaces _ List.mem_cons_self
      rw [inside, Value.textOrNull_eq_some_iff] at textual
      rw [textual] at means
      exact (Yaml.plainValue_eq_str_iff.mp means).1

/-- The shipped manifest delivers its objects to a namespace with a valid name
exactly if the name stands for itself where it is pasted. -/
theorem shipped_delivers_iff (config : Config) (file : String)
    (valid : isNamespaceName config.namespaceName = true)
    (controller : IsTaggedImage config.controllerImage)
    (speaker : IsTaggedImage config.speakerImage) :
    (∃ objects : List Object, shippedObjects config file = .ok objects ∧ Delivers config objects)
      ↔ Yaml.Meaning.of config.namespaceName = .text := by
  have supplied := supplies valid controller speaker
  constructor
  · rintro ⟨objects, given, delivers⟩
    exact meaning_of_delivers supplied given delivers
  · intro space
    exact delivers_of_meaning supplied (carries_of_isTaggedImage controller).2
      (carries_of_isTaggedImage speaker).2 space file

end

/-- The images of the standard settings have tags. -/
theorem isTaggedImage_standard :
    IsTaggedImage Config.standard.controllerImage ∧ IsTaggedImage Config.standard.speakerImage :=
  ⟨⟨"quay.io/metallb/controller", "main", by decide⟩,
    ⟨"quay.io/metallb/speaker", "main", by decide⟩⟩

/-- All objects are delivered with the standard settings. -/
theorem shipped_delivers_standard :
    ∃ objects : List Object, shippedObjects Config.standard "metallb.yaml" = .ok objects
      ∧ Delivers Config.standard objects :=
  (shipped_delivers_iff Config.standard "metallb.yaml" (by decide) isTaggedImage_standard.1
    isTaggedImage_standard.2).mpr (by decide +kernel)

/-- The standard settings, but for a namespace whose name has only digits. -/
def numberedConfig : Config := { Config.standard with namespaceName := "123" }

/-- A name that has only digits is valid, but nothing is delivered to it. -/
theorem not_delivers_number :
    isNamespaceName numberedConfig.namespaceName = true
      ∧ IsTaggedImage numberedConfig.controllerImage ∧ IsTaggedImage numberedConfig.speakerImage
      ∧ ¬ ∃ objects : List Object, shippedObjects numberedConfig "metallb.yaml" = .ok objects
        ∧ Delivers numberedConfig objects := by
  have valid : isNamespaceName numberedConfig.namespaceName = true := by decide
  refine ⟨valid, isTaggedImage_standard.1, isTaggedImage_standard.2, ?_⟩
  rintro ⟨objects, given, delivers⟩
  have supplied : Yaml.Supplies numberedConfig.templateValues keys :=
    supplies valid isTaggedImage_standard.1 isTaggedImage_standard.2
  have number : Yaml.Meaning.of numberedConfig.namespaceName ≠ .text := by decide +kernel
  exact number (meaning_of_delivers supplied given delivers)

end Manifest

end PoolOperator
