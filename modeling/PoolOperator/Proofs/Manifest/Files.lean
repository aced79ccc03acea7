import Mathlib
import PoolOperator.Metallb.Install
import PoolOperator.Proofs.Manifest.Documents
import PoolOperator.Proofs.Manifest.Paths
import PoolOperator.Proofs.Template
import PoolOperator.Proofs.Text.Bytes
import PoolOperator.Surroundings

/-!
# The files of manifests

Of the entries of a folder, the manifests are the regular files, in it or behind its links,
whose names end as names of manifests do (`taken_filesOf`).  They are rendered in the order
of their names, byte by byte.  The first file that cannot be read, filled or parsed decides
the error, and in that file the first document that is refused, whatever comes after it
(`Decided`).  Then nothing is installed (`render_folder`).
-/

namespace PoolOperator.Manifest

/-! ## Names -/

/-- Does a name end in `.yaml` or `.yml`, with something before that? -/
def HasEnding (name : String) : Prop :=
  ∃ stem : String, stem ≠ "" ∧ (name = stem ++ ".yaml" ∨ name = stem ++ ".yml")

/-- A name with a point is split at the last one. -/
theorem span_point {ending : List Char} (noPoint : '.' ∉ ending) (stem : List Char) :
    (stem ++ '.' :: ending).reverse.span (· ≠ '.') = (ending.reverse, '.' :: stem.reverse) := by
  have turned : (stem ++ '.' :: ending).reverse = ending.reverse ++ '.' :: stem.reverse := by simp
  have kept : ∀ char ∈ ending.reverse, decide (char ≠ '.') = true := by
    intro char member
    exact decide_eq_true fun same => noPoint (same ▸ List.mem_reverse.mp member)
  rw [turned, List.span_eq_takeWhile_dropWhile, Template.takeWhile_append_stop _ kept (by decide),
    Template.dropWhile_append_stop _ kept (by decide)]

theorem isManifestName_iff {name : String} : isManifestName name = true ↔ HasEnding name := by
  constructor
  · intro isName
    rw [isManifestName, List.span_eq_takeWhile_dropWhile] at isName
    simp only [Bool.and_eq_true, Bool.or_eq_true, decide_eq_true_eq] at isName
    obtain ⟨long, ending⟩ := isName
    -- What is dropped begins with the last point, and ends with the rest of the name.
    have whole := List.takeWhile_append_dropWhile (p := (· ≠ '.')) (l := name.toList.reverse)
    have point := List.head?_dropWhile_not (· ≠ '.') name.toList.reverse
    generalize name.toList.reverse.dropWhile (· ≠ '.') = rest at long whole point
    generalize name.toList.reverse.takeWhile (· ≠ '.') = after at ending whole
    match rest, long with
    | first :: last :: front, _ =>
        obtain rfl : first = '.' := by simpa using point
        have chars : name.toList = (front.reverse ++ [last]) ++ '.' :: after.reverse := by
          rw [← List.reverse_inj, ← whole]
          simp
        refine ⟨String.ofList (front.reverse ++ [last]), by simp, ?_⟩
        rcases ending with isYaml | isYml
        · exact .inl (String.toList_injective (by rw [chars, isYaml]; simp))
        · exact .inr (String.toList_injective (by rw [chars, isYml]; simp))
  · rintro ⟨stem, filled, rfl | rfl⟩
    · have chars : (stem ++ ".yaml").toList = stem.toList ++ '.' :: ['y', 'a', 'm', 'l'] := by simp
      rw [isManifestName, chars, span_point (by decide)]
      simp [List.length_pos_iff, filled]
    · have chars : (stem ++ ".yml").toList = stem.toList ++ '.' :: ['y', 'm', 'l'] := by simp
      rw [isManifestName, chars, span_point (by decide)]
      simp [List.length_pos_iff, filled]

/-! ## Entries -/

/-- The files that are taken from the folder at a path. -/
structure Taken (system : FileSystem) (path : String) (entries : Folder)
    (files : List (String × FileContent)) : Prop where
  /-- They are regular files, perhaps behind links, with the names of manifests. -/
  sound : ∀ (name : String) (content : FileContent), (name, content) ∈ files →
    name ∈ entries.map Prod.fst ∧ HasEnding name
      ∧ system.lookUp (joinPath path name) = .ok (.file content)
  /-- All such files are taken, whether they can be read or not. -/
  complete : ∀ (name : String) (content : FileContent), name ∈ entries.map Prod.fst →
    HasEnding name → system.lookUp (joinPath path name) = .ok (.file content) →
    (name, content) ∈ files
  /-- A regular file that lies in the folder itself is taken. -/
  regular : entries.WellNamed → ∀ (name : String) (content : FileContent),
    (name, .file content) ∈ entries → HasEnding name → (name, content) ∈ files
  /-- A link to a regular file is taken for that file, unless there are too many links on the
  way. -/
  linked : entries.WellNamed → ∀ (name target : String) (content : FileContent),
    (name, .link target) ∈ entries → HasEnding name →
    system.lookUp (FileSystem.linkedPath path target) = .ok (.file content) →
    system.lookUp (joinPath path name) = .error .tooManyLinks ∨ (name, content) ∈ files
  /-- Nothing else is taken. -/
  nothingElse : entries.WellNamed → ∀ (name : String) (content : FileContent),
    (name, content) ∈ files → (name, .file content) ∈ entries
      ∨ ∃ target : String, (name, .link target) ∈ entries
        ∧ system.lookUp (FileSystem.linkedPath path target) = .ok (.file content)
  /-- None is taken twice. -/
  once : (entries.map Prod.fst).Nodup → (files.map Prod.fst).Nodup
  /-- They are in the order of the bytes of their names. -/
  ordered : files.Pairwise fun one other => Text.bytes one.1 ≤ Text.bytes other.1

/-- The manifest behind an entry. -/
def manifestAt (system : FileSystem) (path name : String) : Option (String × FileContent) :=
  if isManifestName name then
    match system.lookUp (joinPath path name) with
    | .ok (.file content) => some (name, content)
    | _ => none
  else none

theorem filesOf_eq (system : FileSystem) (path : String) (entries : Folder) :
    filesOf system path entries =
      ((entries.map Prod.fst).filterMap (manifestAt system path)).mergeSort
        fun one other => one.1 ≤ other.1 := by
  rw [filesOf, List.filterMap_map]
  rfl

theorem manifestAt_eq_some_iff {system : FileSystem} {path name : String}
    {file : String × FileContent} :
    manifestAt system path name = some file ↔
      HasEnding name ∧ file.1 = name
        ∧ system.lookUp (joinPath path name) = .ok (.file file.2) := by
  obtain ⟨name', content⟩ := file
  rw [manifestAt, ← isManifestName_iff]
  by_cases isName : isManifestName name = true
  · rw [if_pos isName]
    split
    next content' located => simp [isName, located, eq_comm]
    next other => simpa [isName] using fun same located => other content located
  · simp [isName]

theorem mem_filesOf_iff {system : FileSystem} {path : String} {entries : Folder}
    {file : String × FileContent} :
    file ∈ filesOf system path entries ↔
      file.1 ∈ entries.map Prod.fst ∧ HasEnding file.1
        ∧ system.lookUp (joinPath path file.1) = .ok (.file file.2) := by
  rw [filesOf_eq, List.mem_mergeSort, List.mem_filterMap]
  simp only [manifestAt_eq_some_iff]
  constructor
  · rintro ⟨name, member, ending, rfl, located⟩
    exact ⟨member, ending, located⟩
  · rintro ⟨member, ending, located⟩
    exact ⟨file.1, member, ending, rfl, located⟩

/-- The file that was found under the name of an entry is that entry, or the link leads to it. -/
theorem file_or_link {system : FileSystem} {path : String} {entries : Folder}
    (directory : system.lookUp path = .ok (.folder entries)) (wellNamed : entries.WellNamed)
    {name : String} {content : FileContent} (named : name ∈ entries.map Prod.fst)
    (located : system.lookUp (joinPath path name) = .ok (.file content)) :
    (name, .file content) ∈ entries ∨ ∃ target : String, (name, .link target) ∈ entries
      ∧ system.lookUp (FileSystem.linkedPath path target) = .ok (.file content) := by
  obtain ⟨⟨_, entry⟩, member, rfl⟩ := List.mem_map.mp named
  by_cases isLink : ∃ target, entry = .link target
  · obtain ⟨target, rfl⟩ := isLink
    rcases FileSystem.lookUp_link directory wellNamed member with tooMany | same
    · cases located.symm.trans tooMany
    · exact .inr ⟨target, member, same.symm.trans located⟩
  · have found := FileSystem.lookUp_entry directory wellNamed member
      fun target same => isLink ⟨target, same⟩
    cases located.symm.trans found
    exact .inl member

theorem taken_filesOf {system : FileSystem} {path : String} {entries : Folder}
    (directory : system.lookUp path = .ok (.folder entries)) :
    Taken system path entries (filesOf system path entries) where
  sound := fun name content member => mem_filesOf_iff.mp member
  complete := fun name content member ending located =>
    mem_filesOf_iff.mpr ⟨member, ending, located⟩
  regular := fun wellNamed name content member ending => mem_filesOf_iff.mpr
    ⟨List.mem_map_of_mem member, ending, FileSystem.lookUp_entry directory wellNamed member nofun⟩
  linked := by
    intro wellNamed name target content member ending leads
    refine (FileSystem.lookUp_link directory wellNamed member).imp_right fun same => ?_
    exact mem_filesOf_iff.mpr ⟨List.mem_map_of_mem member, ending, same.trans leads⟩
  nothingElse := by
    intro wellNamed name content taken
    obtain ⟨member, -, located⟩ := mem_filesOf_iff.mp taken
    exact file_or_link directory wellNamed member located
  once := by
    intro different
    rw [filesOf_eq, ((List.mergeSort_perm _ _).map Prod.fst).nodup_iff, List.nodup_iff_pairwise_ne,
      List.pairwise_map, List.pairwise_filterMap]
    refine different.imp fun {one other} apart file found file' found' => ?_
    rw [(manifestAt_eq_some_iff.mp found).2.1, (manifestAt_eq_some_iff.mp found').2.1]
    exact apart
  ordered := by
    rw [filesOf_eq]
    have sorted := @List.pairwise_mergeSort _
      (fun one other : String × FileContent => decide (one.1 ≤ other.1))
      (fun one between other => by simpa using String.le_trans)
      (fun one other => by simpa using String.le_total one.1 other.1)
      ((entries.map Prod.fst).filterMap (manifestAt system path))
    exact sorted.imp fun atMost => Text.bytes_le_bytes (of_decide_eq_true atMost)

/-! ## Contents -/

/-- The text of a file once its keys are filled in. -/
def Fills (values : TemplateValues) (content : FileContent) (text : String) : Prop :=
  ∃ template : String, textOf content = .ok template ∧ Template.fill template values = .ok text

/-- The objects of a file: those of the documents of its text. -/
def Holds (values : TemplateValues) (content : FileContent) (objects : List Object) : Prop :=
  ∃ text : String, Fills values content text ∧ Reads (Yaml.stream text) objects

/-- Why a file is refused. -/
inductive FileFails (values : TemplateValues) (path : String) (content : FileContent) :
    RenderError → Prop
  /-- It cannot be read. -/
  | unreadable {error : FileError} (failed : textOf content = .error error) :
      FileFails values path content (.unreadable path error)
  /-- A key has no value. -/
  | unfilled {template key : String} (read : textOf content = .ok template)
      (failed : Template.fill template values = .error key) :
      FileFails values path content (.missingValue key)
  /-- A document is refused. -/
  | stopped {text : String} {error : RenderError} (filled : Fills values content text)
      (failed : Stops path 0 (Yaml.stream text) error) : FileFails values path content error

section

variable {values : TemplateValues} {path : String} {content : FileContent}

theorem fileObjects_eq_ok_iff {objects : List Object} :
    fileObjects values path content = .ok objects ↔ Holds values content objects := by
  rw [fileObjects, Except.bind_eq_ok_iff, Holds]
  simp only [Fills, Except.bind_eq_ok_iff, Except.mapError_eq_ok_iff, objects_eq_ok_iff]
  constructor
  · rintro ⟨template, read, text, filled, reads⟩
    exact ⟨text, ⟨template, read, filled⟩, reads⟩
  · rintro ⟨text, ⟨template, read, filled⟩, reads⟩
    exact ⟨template, read, text, filled, reads⟩

theorem fileObjects_eq_error_iff {error : RenderError} :
    fileObjects values path content = .error error ↔ FileFails values path content error := by
  rw [fileObjects, Except.bind_eq_error_iff, Except.mapError_eq_error_iff]
  constructor
  · rintro (⟨source, failed, rfl⟩ | ⟨template, read, failed⟩)
    · exact .unreadable failed
    · rw [Except.mapError_eq_ok_iff] at read
      rcases Except.bind_eq_error_iff.mp failed with unfilled | ⟨text, filled, refused⟩
      · obtain ⟨key, missing, rfl⟩ := Except.mapError_eq_error_iff.mp unfilled
        exact .unfilled read missing
      · exact .stopped ⟨template, read, Except.mapError_eq_ok_iff.mp filled⟩
          (objects_eq_error_iff.mp refused)
  · intro fails
    cases fails with
    | unreadable failed => exact .inl ⟨_, failed, rfl⟩
    | unfilled read failed =>
        refine .inr ⟨_, Except.mapError_eq_ok_iff.mpr read, Except.bind_eq_error_iff.mpr (.inl ?_)⟩
        exact Except.mapError_eq_error_iff.mpr ⟨_, failed, rfl⟩
    | stopped filled failed =>
        obtain ⟨template, read, filled⟩ := filled
        refine .inr ⟨_, Except.mapError_eq_ok_iff.mpr read, Except.bind_eq_error_iff.mpr (.inr ?_)⟩
        exact ⟨_, Except.mapError_eq_ok_iff.mpr filled, objects_eq_error_iff.mpr failed⟩

end

/-! ## Folders -/

/-- The objects of some files, one file after another. -/
def HoldEach (values : TemplateValues) (files : List (String × FileContent))
    (objects : List Object) : Prop :=
  ∃ parts : List (List Object),
    List.Forall₂ (fun file part => Holds values file.2 part) files parts ∧ objects = parts.flatten

/-- Can all of some files be read, filled and parsed? -/
def Hold (values : TemplateValues) (files : List (String × FileContent)) : Prop :=
  ∀ file ∈ files, ∃ part : List Object, Holds values file.2 part

/-- The first file that is refused, after others that are not. -/
def FirstFails (values : TemplateValues) (path : String) (files : List (String × FileContent))
    (error : RenderError) : Prop :=
  ∃ (before : List (String × FileContent)) (file : String × FileContent), before ++ [file] <+: files
    ∧ Hold values before ∧ FileFails values (joinPath path file.1) file.2 error

section

variable {values : TemplateValues} {system : FileSystem} {path : String} {entries : Folder}

theorem render_eq (directory : system.lookUp path = .ok (.folder entries)) :
    render values system path = ((filesOf system path entries).mapM fun file =>
      fileObjects values (joinPath path file.1) file.2).map List.flatten := by
  rw [render, entriesAt, directory]
  rfl

theorem render_eq_ok_iff (directory : system.lookUp path = .ok (.folder entries))
    {objects : List Object} :
    render values system path = .ok objects ↔
      HoldEach values (filesOf system path entries) objects := by
  rw [render_eq directory, Except.map_eq_ok_iff, HoldEach]
  simp only [Except.mapM_eq_ok_iff, fileObjects_eq_ok_iff, @eq_comm _ objects]

theorem render_eq_error_iff (directory : system.lookUp path = .ok (.folder entries))
    {error : RenderError} :
    render values system path = .error error ↔
      FirstFails values path (filesOf system path entries) error := by
  rw [render_eq directory, Except.map_eq_error_iff, Except.mapM_eq_error_iff, FirstFails]
  simp only [Hold, fileObjects_eq_ok_iff, fileObjects_eq_error_iff]
  constructor
  · rintro ⟨before, file, later, whole, given, failed⟩
    exact ⟨before, file, ⟨later, by rw [whole, List.append_assoc]; rfl⟩, given, failed⟩
  · rintro ⟨before, file, ⟨later, whole⟩, given, failed⟩
    exact ⟨before, file, later, by rw [← whole, List.append_assoc]; rfl, given, failed⟩

theorem isTyped_of_reads {items : List (Except Yaml.Error Value)} {objects : List Object}
    (reads : Reads items objects) : ∀ object ∈ objects, IsTyped object := by
  obtain ⟨found, each, rfl⟩ := reads
  induction each with
  | nil => exact fun object member => absurd member List.not_mem_nil
  | cons first others induction =>
      rw [List.flatMap_cons]
      refine List.forall_mem_append.mpr ⟨?_, induction⟩
      cases first with
      | empty => exact fun object member => absurd member List.not_mem_nil
      | object filled read typed => exact List.forall_mem_singleton.mpr typed

theorem isTyped_of_holdEach {files : List (String × FileContent)} {objects : List Object}
    (holdEach : HoldEach values files objects) : ∀ object ∈ objects, IsTyped object := by
  obtain ⟨parts, each, rfl⟩ := holdEach
  induction each with
  | nil => exact fun object member => absurd member List.not_mem_nil
  | cons first others induction =>
      obtain ⟨text, -, reads⟩ := first
      rw [List.flatten_cons]
      exact List.forall_mem_append.mpr ⟨isTyped_of_reads reads, induction⟩

end

/-! ## What decides an error -/

/-- Some files, and a further one that is refused, decide the error of every folder that
begins with them. -/
structure Decided (values : TemplateValues) (path : String) (before : List (String × FileContent))
    (file : String × FileContent) (error : RenderError) : Prop where
  /-- The files after them do not matter. -/
  files : ∀ (system : FileSystem) (entries : Folder), system.lookUp path = .ok (.folder entries) →
    before ++ [file] <+: filesOf system path entries → render values system path = .error error
  /-- Nor do the documents after the first one that is refused: the file may be any other one
  whose stream of documents begins like that. -/
  documents : ∀ text : String, Fills values file.2 text →
    ∃ (read : List (Except Yaml.Error Value)) (refused : Except Yaml.Error Value),
      read ++ [refused] <+: Yaml.stream text
        ∧ (∀ item ∈ read, ∃ found : Option Object, ReadsAs item found)
        ∧ Refuses (joinPath path file.1) read.length refused error
        ∧ ∀ (content : FileContent) (text' : String), Fills values content text' →
          read ++ [refused] <+: Yaml.stream text' →
          ∀ (system : FileSystem) (entries : Folder), system.lookUp path = .ok (.folder entries) →
            before ++ [(file.1, content)] <+: filesOf system path entries →
            render values system path = .error error

/-- A file that can be filled is refused for one of its documents. -/
theorem FileFails.stops {values : TemplateValues} {path : String} {content : FileContent}
    {error : RenderError} (fails : FileFails values path content error) {text : String}
    (filled : Fills values content text) : Stops path 0 (Yaml.stream text) error := by
  obtain ⟨template, read, fills⟩ := filled
  cases fails with
  | unreadable failed => cases read.symm.trans failed
  | unfilled read' failed =>
      cases read.symm.trans read'
      cases fills.symm.trans failed
  | stopped filled' failed =>
      obtain ⟨template', read', fills'⟩ := filled'
      cases read.symm.trans read'
      cases fills.symm.trans fills'
      exact failed

theorem decided_of_fails {values : TemplateValues} {path : String}
    {before : List (String × FileContent)} {file : String × FileContent} {error : RenderError}
    (given : Hold values before) (fails : FileFails values (joinPath path file.1) file.2 error) :
    Decided values path before file error where
  files := fun system entries directory isPrefix =>
    (render_eq_error_iff directory).mpr ⟨before, file, isPrefix, given, fails⟩
  documents := by
    intro text filled
    obtain ⟨read, refused, begins, readable, refuses⟩ := fails.stops filled
    rw [Nat.zero_add] at refuses
    refine ⟨read, refused, begins, readable, refuses, ?_⟩
    intro content text' filled' begins' system entries directory isPrefix
    have stops : Stops (joinPath path file.1) 0 (Yaml.stream text') error :=
      ⟨read, refused, begins', readable, by rwa [Nat.zero_add]⟩
    exact (render_eq_error_iff directory).mpr
      ⟨before, (file.1, content), isPrefix, given, .stopped filled' stops⟩

/-! ## Rendering a folder -/

/-- Nothing is asked of the surroundings if the manifests cannot be rendered. -/
theorem run_install_of_unrendered {σ : Type} (surroundings : Surroundings (StateM σ))
    (config : Config) (system : FileSystem) (owner : OwnerReference) (metrics : Metrics) (state : σ)
    {error : RenderError}
    (unrendered : render config.templateValues system config.manifestPath = .error error) :
    (surroundings.run (install config system owner).run metrics).run state =
      ((.error (.render error), metrics), state) := by
  rw [install, unrendered]
  rfl

/-- The manifests in a folder are its regular files with the names of manifests, behind
symbolic links or not, in the order of the bytes of their names.  They are rendered to the
objects of their documents, in order, all of which have a type.  The first file that is
refused decides the error, whatever comes after it, and in that file it is the first document
that is refused, whatever comes after that.  Then an installation leaves everything as it was.

The documents of a text are those that the reader yields for it (`Yaml.stream`), up to an
error that ends them. -/
theorem render_folder (values : TemplateValues) (system : FileSystem) (path : String)
    {entries : Folder} (directory : system.lookUp path = .ok (.folder entries)) :
    Taken system path entries (filesOf system path entries)
      ∧ (∀ objects : List Object, render values system path = .ok objects ↔
        HoldEach values (filesOf system path entries) objects)
      ∧ (∀ objects : List Object, render values system path = .ok objects →
        ∀ object ∈ objects, IsTyped object)
      ∧ (∀ error : RenderError, render values system path = .error error ↔
        FirstFails values path (filesOf system path entries) error)
      ∧ (∀ error : RenderError, render values system path = .error error →
        ∃ (before : List (String × FileContent)) (file : String × FileContent),
          before ++ [file] <+: filesOf system path entries ∧ Hold values before
            ∧ FileFails values (joinPath path file.1) file.2 error
            ∧ Decided values path before file error)
      ∧ ∀ (config : Config) (error : RenderError), config.templateValues = values →
        config.manifestPath = path → render values system path = .error error →
        ∀ (σ : Type) (surroundings : Surroundings (StateM σ)) (owner : OwnerReference)
          (metrics : Metrics) (state : σ),
          (surroundings.run (install config system owner).run metrics).run state =
            ((.error (.render error), metrics), state) := by
  refine ⟨taken_filesOf directory, fun objects => render_eq_ok_iff directory, ?_,
    fun error => render_eq_error_iff directory, ?_, ?_⟩
  · intro objects rendered
    exact isTyped_of_holdEach ((render_eq_ok_iff directory).mp rendered)
  · intro error failed
    obtain ⟨before, file, isPrefix, given, fails⟩ := (render_eq_error_iff directory).mp failed
    exact ⟨before, file, isPrefix, given, fails, decided_of_fails given fails⟩
  · rintro config error rfl rfl failed σ surroundings owner metrics state
    exact run_install_of_unrendered surroundings config system owner metrics state failed

/-- A folder with two manifests, both of them links that lead out of it. -/
def twoLinks : Folder :=
  [("notes", .file (.ok [])), ("b.yaml", .link "/kept/second"), ("a.yml", .link "../../first")]

/-- Of the manifests that the links lead to, the second one cannot be read. -/
def twoManifests (first : List UInt8) : FileSystem where
  root := [("first", .file (.ok first)), ("manifests", .folder twoLinks),
    ("kept", .folder [("second", .file (.error .denied))])]
  working := ["manifests"]

/-- The second link begins at the root, and the first one stays there. -/
theorem lookUp_twoManifests (first : List UInt8) :
    (twoManifests first).lookUp "." = .ok (.folder twoLinks)
      ∧ (twoManifests first).lookUp (joinPath "." "a.yml") = .ok (.file (.ok first))
      ∧ (twoManifests first).lookUp (joinPath "." "b.yaml") = .ok (.file (.error .denied)) := by
  have here : FileSystem.namesOf "." = ["."] := by cbv
  have one : joinPath "." "a.yml" = "./a.yml" := by cbv
  have oneNames : FileSystem.namesOf "./a.yml" = [".", "a.yml"] := by cbv
  have other : joinPath "." "b.yaml" = "./b.yaml" := by cbv
  have otherNames : FileSystem.namesOf "./b.yaml" = [".", "b.yaml"] := by cbv
  have oneLink : FileSystem.namesOf "../../first" = ["..", "..", "first"] := by cbv
  have otherLink : FileSystem.namesOf "/kept/second" = ["", "kept", "second"] := by cbv
  simp [FileSystem.lookUp, FileSystem.resolve, FileSystem.walk, FileSystem.origin,
    FileSystem.greatestLinks, Folder.entryAt?, Folder.find?, twoManifests, twoLinks, here, one,
    oneNames, other, otherNames, oneLink, otherLink, bind, Except.bind, pure, Except.pure]

theorem filesOf_twoManifests (first : List UInt8) :
    filesOf (twoManifests first) "." twoLinks =
      [("a.yml", .ok first), ("b.yaml", .error .denied)] := by
  obtain ⟨-, one, other⟩ := lookUp_twoManifests first
  have notes : manifestAt (twoManifests first) "." "notes" = none := by
    rw [manifestAt, show isManifestName "notes" = false by cbv]
    rfl
  have second : manifestAt (twoManifests first) "." "b.yaml" = some ("b.yaml", .error .denied) :=
    manifestAt_eq_some_iff.mpr ⟨⟨"b", by decide, .inl (by decide)⟩, rfl, other⟩
  have first : manifestAt (twoManifests first) "." "a.yml" = some ("a.yml", .ok first) :=
    manifestAt_eq_some_iff.mpr ⟨⟨"a", by decide, .inr (by decide)⟩, rfl, one⟩
  rw [filesOf_eq]
  simp only [twoLinks, List.map_cons, List.map_nil, List.filterMap_cons, List.filterMap_nil, notes,
    second, first]
  cbv

theorem render_folder_unfilled :
    (twoManifests "\x7b\x7b.Kind\x7d\x7d".toUTF8.data.toList).lookUp "." = .ok (.folder twoLinks)
      ∧ render [] (twoManifests "\x7b\x7b.Kind\x7d\x7d".toUTF8.data.toList) "." =
        .error (.missingValue "Kind") := by
  have read : textOf (.ok "\x7b\x7b.Kind\x7d\x7d".toUTF8.data.toList) =
      .ok "\x7b\x7b.Kind\x7d\x7d" := by rfl
  generalize "\x7b\x7b.Kind\x7d\x7d".toUTF8.data.toList = first at read
  obtain ⟨directory, -⟩ := lookUp_twoManifests first
  obtain ⟨-, -, -, error_iff, -⟩ := render_folder [] (twoManifests first) "." directory
  refine ⟨directory, (error_iff _).mpr
    ⟨[], ("a.yml", .ok first), ?_, nofun, .unfilled read (by rfl)⟩⟩
  exact ⟨[("b.yaml", .error .denied)], (filesOf_twoManifests first).symm⟩

end PoolOperator.Manifest
