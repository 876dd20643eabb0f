import FormCheck.RuleBook

/-!
# Rule books in files

`RuleFiles` says where the rules of forms are kept: those of each form in a file of one directory,
named after the form, and the definitions of all forms in one more file, which may be missing. What
stands in the files is given from outside, as a `RuleFiles.Reading` for each path, and so is the
reader of JSON texts.

`RuleFiles` stands for `FileSource`: `RuleFiles.formPath?` is `form_path`, and `RuleFiles.fetch` is
`fetch_rule_document`.

The name of a form cannot lead out of the directory: `RuleFiles.fileName?` refuses names with slashes
and pairs of points.
-/

namespace FormCheck

/-- What reading a file gives. -/
inductive RuleFiles.Reading where
  | missing
  | unreadable
  | text (content : String)
deriving DecidableEq

/-- What the paths of the files in a directory begin with. -/
def RuleFiles.start (directory : String) : String :=
  if directory = "" || directory.toList.getLast? = some '/' then directory else directory ++ "/"

/-- The path of a file in a directory. -/
def RuleFiles.pathIn (directory file : String) : String := start directory ++ file

/-- Where the rules of forms are kept. -/
structure RuleFiles where
  /-- The directory with a file for each form. -/
  directory : String
  /-- The path of the file with the definitions of all forms. -/
  definitions : String := RuleFiles.pathIn directory "definitions.json"

namespace RuleFiles

/-- Whether a name can be that of a form: it has to stay within the directory. -/
def isFormName (form : String) : Bool :=
  let cs := form.toList
  form ≠ "" && form ≠ "." && !cs.contains '/' && !cs.contains '\\' &&
    !(cs.zip cs.tail).contains ('.', '.')

/-- The name of the file with the rules of a form. -/
def fileName? (form : String) : Option String :=
  if isFormName form then some (form ++ ".json") else none

/-- The path of the file with the rules of a form. -/
def formPath? (s : RuleFiles) (form : String) : Option String :=
  (fileName? form).map (pathIn s.directory)

/-- The document in a file, if there is such a file. -/
def document (ofText? : String → Option Json) (path : String) :
    Reading → Except BookError (Option Json)
  | .missing => .ok none
  | .unreadable => .error (.unreadable path)
  | .text content => (RuleBook.parse ofText? path content).map some

/-- The book of a form. The file of the form is read before the definitions, so its faults count
first; without a file of definitions there are none. -/
def fetch (s : RuleFiles) (ofText? : String → Option Json) (read : String → Reading)
    (form : String) : Except BookError RuleBook :=
  match s.formPath? form with
  | none => .error (.unknownForm form)
  | some path => do
    let some rules ← document ofText? path (read path) | .error (.unknownForm form)
    let definitions ← document ofText? s.definitions (read s.definitions)
    RuleBook.ofJson rules (definitions.getD .null)

end RuleFiles

end FormCheck
