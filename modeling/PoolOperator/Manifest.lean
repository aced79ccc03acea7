import PoolOperator.Folder
import PoolOperator.Object
import PoolOperator.Template
import PoolOperator.Yaml.Reading

/-!
# Manifests

A manifest is a text with cluster objects in YAML documents, as a template.
`Manifest.objects` reads the objects of one text, and `Manifest.render` those
of all manifests in a folder, in the order of the file names.  The first error
ends it.
-/

namespace PoolOperator

/-- Why a manifest cannot be rendered. -/
inductive RenderError where
  /-- A file or a folder cannot be read. -/
  | unreadable (path : String) (error : FileError)
  /-- A key in a template has no value. -/
  | missingValue (key : String)
  /-- A document is no YAML, or holds something that no object holds. -/
  | invalidYaml (file : String) (error : Yaml.Error)
  /-- A document is no object. -/
  | invalidObject (file : String) (index : Nat) (reason : String)
  deriving DecidableEq, Repr, Inhabited

namespace RenderError

/-- The text of a render error. -/
def message : RenderError → String
  | .unreadable path error => s!"failed to read {path}: {error.message}"
  | .missingValue key => "no value for template key " ++ key
  | .invalidYaml file error => s!"invalid YAML in {file}: {error.message}"
  | .invalidObject file index reason =>
      s!"document {index} in {file} is not a Kubernetes object: {reason}"

/-- The reason why an object without a type is refused. -/
def missingType : String := "missing apiVersion or kind"

end RenderError

namespace Manifest

/-! ## Documents -/

/-- The object of a document; none if the document is empty. -/
def objectOf (file : String) (index : Nat) (document : Yaml.Document) :
    Except RenderError (Option Object) := do
  let value ← document.value.mapError (.invalidYaml file)
  if value.isNull then return none
  let object ← (Object.ofValue value).mapError fun error => .invalidObject file index error.message
  match object.type? with
  | some type =>
      if type.apiVersion = "" ∨ type.kind = "" then
        throw (.invalidObject file index RenderError.missingType)
      else return some object
  | none => throw (.invalidObject file index RenderError.missingType)

/-- The objects of some documents, the first of which has a given number. -/
def objectsFrom (file : String) : Nat → List Yaml.Document → Except RenderError (List Object)
  | _, [] => .ok []
  | index, document :: documents => do
      let object? ← objectOf file index document
      return object?.toList ++ (← objectsFrom file (index + 1) documents)

/-- The objects of a text. -/
def objects (file text : String) : Except RenderError (List Object) := do
  let (documents, error?) := Yaml.documents text
  let objects ← objectsFrom file 0 documents
  match error? with
  | some error => throw (.invalidYaml file error)
  | none => return objects

/-! ## Files -/

/-- Is this the name of a manifest?  It has `yaml` or `yml` after its last
point, and something before that. -/
def isManifestName (name : String) : Bool :=
  let (ending, rest) := name.toList.reverse.span (· ≠ '.')
  rest.length > 1 && (ending.reverse = ['y', 'a', 'm', 'l'] || ending.reverse = ['y', 'm', 'l'])

/-- The text of a file. -/
def textOf (content : FileContent) : Except FileError String := do
  match String.fromUTF8? ⟨(← content).toArray⟩ with
  | some text => return text
  | none => throw .notText

/-- The objects of a file. -/
def fileObjects (values : TemplateValues) (path : String) (content : FileContent) :
    Except RenderError (List Object) := do
  let template ← (textOf content).mapError (.unreadable path)
  let text ← (Template.fill template values).mapError .missingValue
  objects path text

/-- The path of a file in a folder. -/
def joinPath (folder name : String) : String :=
  if folder.endsWith "/" then folder ++ name else folder ++ "/" ++ name

/-- The manifests in the folder at a path, in the order of their names. -/
def filesOf (system : FileSystem) (path : String) (entries : Folder) :
    List (String × FileContent) :=
  let files := entries.filterMap fun (name, _) =>
    if isManifestName name then
      match system.lookUp (joinPath path name) with
      | .ok (.file content) => some (name, content)
      | _ => none
    else none
  files.mergeSort fun one other => one.1 ≤ other.1

/-- The entries of the folder at a path. -/
def entriesAt (system : FileSystem) (path : String) : Except FileError Folder := do
  match ← system.lookUp path with
  | .folder entries => return entries
  | entry => throw entry.hindrance

/-- The objects of all manifests in the folder at a path. -/
def render (values : TemplateValues) (system : FileSystem) (path : String) :
    Except RenderError (List Object) := do
  let entries ← (entriesAt system path).mapError (.unreadable path)
  let found ← (filesOf system path entries).mapM fun (name, content) =>
    fileObjects values (joinPath path name) content
  return found.flatten

end Manifest

end PoolOperator
