/-!
# Files and folders

What is on a disk as a value.  `FileSystem.lookUp` follows a path to a file or a
folder, through symbolic links.  A link stands for a path from its own folder,
or from the root if it begins there, and `..` at the root stays there.  To read
a file that was found may fail on its own.
-/

namespace PoolOperator

/-- Why a file or a folder cannot be read. -/
inductive FileError where
  /-- There is nothing of that name. -/
  | notFound
  /-- Something on the way is not a folder. -/
  | notFolder
  /-- There are too many links on the way. -/
  | tooManyLinks
  /-- The file is not a text. -/
  | notText
  /-- It is not permitted. -/
  | denied
  /-- Any other reason, in words. -/
  | other (reason : String)
  deriving DecidableEq, Repr, Inhabited

/-- The text of a file error. -/
def FileError.message : FileError → String
  | .notFound => "No such file or directory (os error 2)"
  | .notFolder => "Not a directory (os error 20)"
  | .tooManyLinks => "Too many levels of symbolic links (os error 40)"
  | .notText => "stream did not contain valid UTF-8"
  | .denied => "Permission denied (os error 13)"
  | .other reason => reason

/-- What reading a file gives: its bytes, or why it cannot be read. -/
abbrev FileContent := Except FileError (List UInt8)

/-- What a folder may contain. -/
inductive FolderEntry where
  /-- A regular file. -/
  | file (content : FileContent)
  /-- A folder with its entries. -/
  | folder (entries : List (String × FolderEntry))
  /-- A folder that cannot be entered. -/
  | closed (error : FileError)
  /-- A symbolic link with the path that it stands for. -/
  | link (target : String)
  /-- A device, a pipe or a socket. -/
  | special

/-- The entries of a folder under their names. -/
abbrev Folder := List (String × FolderEntry)

/-- Why a path does not lead on through an entry that is no open folder. -/
def FolderEntry.hindrance : FolderEntry → FileError
  | .closed error => error
  | _ => .notFolder

namespace Folder

/-- The entry with a name. -/
def find? (folder : Folder) (name : String) : Option FolderEntry :=
  (List.find? (fun entry => entry.1 = name) folder).map Prod.snd

/-- The entry at a path without links. -/
def entryAt? (folder : Folder) : List String → Option FolderEntry
  | [] => some (.folder folder)
  | [name] => folder.find? name
  | name :: names =>
      match folder.find? name with
      | some (.folder entries) => entryAt? entries names
      | _ => none

/-- Puts an entry at a path, with the folders on the way. -/
def add (folder : Folder) (entry : FolderEntry) : List String → Folder
  | [] => folder
  | [name] => folder.filter (fun other => other.1 ≠ name) ++ [(name, entry)]
  | name :: names =>
      let inner := match folder.find? name with
        | some (.folder entries) => entries
        | _ => []
      folder.filter (fun other => other.1 ≠ name) ++ [(name, .folder (add inner entry names))]

end Folder

/-- A file system. -/
structure FileSystem where
  /-- What is at the root. -/
  root : Folder
  /-- The folder in which relative paths begin. -/
  working : List String := []

namespace FileSystem

/-- The names in a path. -/
def namesOf (path : String) : List String := (path.toList.splitOn '/').map String.ofList

/-- The folder in which a path begins that is met in some folder. -/
def origin (here : List String) (path : String) : List String :=
  if path.toList.head? = some '/' then [] else here

/-- How far a path leads without following a link. -/
inductive Stop where
  /-- To the end of the path, at an entry that is no link. -/
  | arrived (place : List String)
  /-- To a link, with the path that is left if it is followed. -/
  | linked (folder : List String) (left : List String)

/-- Follows a path from a folder up to its end or to the first link. -/
def walk (root : Folder) (here : List String) : List String → Except FileError Stop
  | [] => .ok (.arrived here)
  | name :: names =>
      if name = "" || name = "." then walk root here names
      else if name = ".." then walk root here.dropLast names
      else
        match root.entryAt? (here ++ [name]) with
        | none => .error .notFound
        | some (.folder _) => walk root (here ++ [name]) names
        | some (.link target) => .ok (.linked (origin here target) (namesOf target ++ names))
        | some entry =>
            if names.isEmpty then .ok (.arrived (here ++ [name])) else .error entry.hindrance

/-- The place that a path leads to from a folder, if that takes at most so many
walks, one of them to each link and one to the end. -/
def resolve (root : Folder) : Nat → List String → List String → Except FileError (List String)
  | 0, _, _ => .error .tooManyLinks
  | walks + 1, here, path => do
      match ← walk root here path with
      | .arrived place => return place
      | .linked here left => resolve root walks here left

/-- The greatest number of links in a path. -/
def greatestLinks : Nat := 40

/-- What is at a path.  The empty text is no path. -/
def lookUp (system : FileSystem) (path : String) : Except FileError FolderEntry := do
  if path = "" then throw .notFound
  let place ← resolve system.root (greatestLinks + 1) (origin system.working path) (namesOf path)
  match system.root.entryAt? place with
  | some entry => return entry
  | none => throw .notFound

end FileSystem

end PoolOperator
