import FormCheck.RuleBook.Files
import FormCheck.Text.Start

/-!
# Rule books in a folder

A `Folder` holds files and folders under paths, whose parts are set apart by slashes. A `RuleFolder`
is such a folder with a path of its own, in which the rules of forms are kept.

A `RuleFolder` is the directory of a `FileSource` as it stands on a disk.

* `RuleFolder.read_pathOf`: what stands in the folder is found under the path of the folder.
-/

namespace FormCheck

/-- What stands under a path. -/
inductive Folder.Entry where
  | text (content : String)
  /-- A file whose bytes are no text. -/
  | binary
  | folder
deriving DecidableEq, Inhabited

/-- Files and folders by their paths. -/
structure Folder where
  entries : Dict Folder.Entry := .empty
deriving Inhabited

namespace Folder

/-- The file with the given bytes. -/
def Entry.ofBytes (bytes : List UInt8) : Entry :=
  match String.fromUTF8? ⟨bytes.toArray⟩ with
  | some content => .text content
  | none => .binary

/-- Where a path leads. -/
inductive Spot where
  /-- A folder on the way does not exist. -/
  | nowhere
  /-- A name on the way can be none, or is that of a file. -/
  | blocked
  /-- A place in an existing folder, and what stands there. -/
  | place (path : String) (entry : Option Entry)

/-- Whether a file can have the given name. -/
def isName (name : String) : Bool := name.utf8ByteSize ≤ 255 && !name.toList.contains '\x00'

/-- Follows the parts of a path from a folder on, whose own path is given. -/
def follow (f : Folder) (above : String) : List String → Spot
  | [] => .blocked
  | name :: rest =>
    let path := above ++ name
    if !isName name then .blocked
    else if rest.isEmpty then .place path (f.entries.get? path)
    else
      match f.entries.get? path with
      | none => .nowhere
      | some .folder => f.follow (path ++ "/") rest
      | some _ => .blocked

/-- Where a path leads. No name at all contains a null character. -/
def locate (f : Folder) (path : String) : Spot :=
  if path.toList.contains '\x00' then .blocked
  else f.follow "" ((path.splitOn "/").filter fun part => part ≠ "" ∧ part ≠ ".")

/-- Writes a file; a folder cannot be overwritten. -/
def write? (f : Folder) (path : String) (file : Entry) : Option Folder :=
  match f.locate path with
  | .place _ (some .folder) => none
  | .place path _ => some ⟨f.entries.insert path file⟩
  | _ => none

/-- Makes a folder where nothing stands. -/
def makeFolder? (f : Folder) (path : String) : Option Folder :=
  match f.locate path with
  | .place path none => some ⟨f.entries.insert path .folder⟩
  | _ => none

/-- Removes a file. -/
def removeFile? (f : Folder) (path : String) : Option Folder :=
  match f.locate path with
  | .place path (some (.text _)) | .place path (some .binary) => some ⟨f.entries.erase path⟩
  | _ => none

/-- Reads the text of a file. -/
def read (f : Folder) (path : String) : RuleFiles.Reading :=
  match f.locate path with
  | .place _ none | .nowhere => .missing
  | .place _ (some (.text content)) => .text content
  | .place _ (some _) | .blocked => .unreadable

end Folder

/-- A folder of rules. -/
structure RuleFolder where
  /-- The path of the folder, with which reports on its files begin. -/
  path : String
  folder : Folder := {}
  /-- The file with the definitions of all forms. -/
  definitionsFile : String := "definitions.json"

namespace RuleFolder

/-- The path of a file as reports give it. -/
def pathOf (d : RuleFolder) (file : String) : String := RuleFiles.pathIn d.path file

/-- Where the rules are kept. -/
def files (d : RuleFolder) : RuleFiles where
  directory := d.path
  definitions := d.pathOf d.definitionsFile

/-- Reads a file by its path. Nothing stands outside of the folder. -/
def read (d : RuleFolder) (path : String) : RuleFiles.Reading :=
  match Text.after? (RuleFiles.start d.path) path with
  | some file => d.folder.read file
  | none => .missing

/-- The book of a form. -/
def fetch (d : RuleFolder) (form : String) : Except BookError RuleBook :=
  d.files.fetch Json.ofText? d.read form

/-- What stands in the folder is found under the path of the folder. -/
theorem read_pathOf (d : RuleFolder) (file : String) : d.read (d.pathOf file) = d.folder.read file := by
  have hafter : Text.after? (RuleFiles.start d.path) (d.pathOf file) = some file :=
    Text.after?_eq_some_iff.2 rfl
  rw [read, hafter]

end RuleFolder

end FormCheck
