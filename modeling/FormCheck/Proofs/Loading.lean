import FormCheck.Proofs.Documents
import FormCheck.RuleBook.Files
import FormCheck.RuleBook.Shelf

/-!
# Loading forms from files and from memory

A form is loaded by its name: its book is fetched, from files or from a shelf, and made into a form.
Several faults can come together in files. The file of the form is decided first, whatever the
definitions are like; the definitions count once the rules have been read, and need not be there.

Loading is `load_form`, on a `FileSource` and on an `InMemorySource`.

* `RuleFiles.Supplies`: the two documents that the files give for a form.
* `RuleFiles.Loads`: what loading a form from files has to answer, case by case.
* `RuleFiles.Loads.sound`, `RuleFiles.loads_load`: loading answers what it has to, and has to answer
  something in every case.
* **`Policy.load_files`**: so the cases say what loading answers; and if the two documents spell a
  book, every shelf on which this book was put last for the form answers the same.

The theorems hold for every reader of JSON texts and for whatever stands under the paths.
-/

namespace FormCheck

namespace RuleFiles

/-! ## Documents in files -/

variable {ofText? : String → Option Json} {read : String → Reading} {s : RuleFiles}
  {form path : String}

/-- What was read is the text of a JSON value. -/
def Reading.Spells (ofText? : String → Option Json) (found : Reading) (v : Json) : Prop :=
  ∃ content, found = .text content ∧ ofText? content = some v

/-- What was read is a text, and not that of a JSON value. -/
def Reading.Misspelt (ofText? : String → Option Json) (found : Reading) : Prop :=
  ∃ content, found = .text content ∧ ofText? content = none

theorem document_of_spells {found : Reading} {v : Json} (h : found.Spells ofText? v) :
    document ofText? path found = .ok (some v) := by
  obtain ⟨content, rfl, hv⟩ := h
  simp only [document, RuleBook.parse, hv]
  rfl

theorem document_of_misspelt {found : Reading} (h : found.Misspelt ofText?) :
    document ofText? path found = .error (.notJson path) := by
  obtain ⟨content, rfl, hnone⟩ := h
  simp only [document, RuleBook.parse, hnone]
  rfl

theorem Reading.spells_or_misspelt (ofText? : String → Option Json) (content : String) :
    (∃ v, (Reading.text content).Spells ofText? v) ∨ (Reading.text content).Misspelt ofText? := by
  cases h : ofText? content with
  | some v => exact Or.inl ⟨v, content, rfl, h⟩
  | none => exact Or.inr ⟨content, rfl, h⟩

/-! ## Fetching by the document of rules -/

/-- Without a document of rules there is no form, whatever the definitions. -/
theorem fetch_of_missing (hpath : s.formPath? form = some path)
    (hrules : document ofText? path (read path) = .ok none) :
    s.fetch ofText? read form = .error (.unknownForm form) := by
  simp only [fetch, hpath, hrules]
  rfl

/-- A fault of the document of rules comes before all that the definitions are like. -/
theorem fetch_of_fault {e : BookError} (hpath : s.formPath? form = some path)
    (hrules : document ofText? path (read path) = .error e) :
    s.fetch ofText? read form = .error e := by
  simp only [fetch, hpath, hrules]
  rfl

/-- With a document of rules the definitions decide. -/
theorem fetch_of_rules {rules : Json} (hpath : s.formPath? form = some path)
    (hrules : document ofText? path (read path) = .ok (some rules)) :
    s.fetch ofText? read form =
      (document ofText? s.definitions (read s.definitions)).bind fun definitions =>
        RuleBook.ofJson rules (definitions.getD .null) := by
  simp only [fetch, hpath, hrules]
  rfl

/-! ## The cases of loading -/

/-- **The two documents that the files give for a form.** -/
inductive Supplies (ofText? : String → Option Json) (s : RuleFiles) (read : String → Reading)
    (form : String) : Json → Json → Prop
  /-- Without a file of definitions there is the document `null`. -/
  | rulesAlone {path : String} {rules : Json} (hpath : s.formPath? form = some path)
      (hrules : (read path).Spells ofText? rules) (hmissing : read s.definitions = .missing) :
      Supplies ofText? s read form rules .null
  | both {path : String} {rules definitions : Json} (hpath : s.formPath? form = some path)
      (hrules : (read path).Spells ofText? rules)
      (hdefinitions : (read s.definitions).Spells ofText? definitions) :
      Supplies ofText? s read form rules definitions

/-- **What loading a form from files has to answer.** No case but the last three says anything about
the definitions. -/
inductive Loads (p : Policy) (ofText? : String → Option Json) (s : RuleFiles)
    (read : String → Reading) (form : String) : Except BookError Form → Prop
  /-- The name is none that a form can have. -/
  | refused (hpath : s.formPath? form = none) :
      Loads p ofText? s read form (.error (.unknownForm form))
  | missing {path : String} (hpath : s.formPath? form = some path)
      (hmissing : read path = .missing) : Loads p ofText? s read form (.error (.unknownForm form))
  | unreadable {path : String} (hpath : s.formPath? form = some path)
      (hunreadable : read path = .unreadable) :
      Loads p ofText? s read form (.error (.unreadable path))
  | notJson {path : String} (hpath : s.formPath? form = some path)
      (hmisspelt : (read path).Misspelt ofText?) :
      Loads p ofText? s read form (.error (.notJson path))
  | definitionsUnreadable {path : String} {rules : Json} (hpath : s.formPath? form = some path)
      (hrules : (read path).Spells ofText? rules) (hunreadable : read s.definitions = .unreadable) :
      Loads p ofText? s read form (.error (.unreadable s.definitions))
  | definitionsNotJson {path : String} {rules : Json} (hpath : s.formPath? form = some path)
      (hrules : (read path).Spells ofText? rules)
      (hmisspelt : (read s.definitions).Misspelt ofText?) :
      Loads p ofText? s read form (.error (.notJson s.definitions))
  /-- There are two documents. They are compiled, and what is wrong with them is answered. -/
  | compiled {rules definitions : Json} (h : Supplies ofText? s read form rules definitions) :
      Loads p ofText? s read form (p.formOfJson rules definitions)

/-- The two documents are made into the book. -/
theorem Supplies.fetch_eq {rules definitions : Json}
    (h : Supplies ofText? s read form rules definitions) :
    s.fetch ofText? read form = RuleBook.ofJson rules definitions := by
  cases h with
  | rulesAlone hpath hrules hmissing =>
    rw [fetch_of_rules hpath (document_of_spells hrules), hmissing]
    rfl
  | both hpath hrules hdefinitions =>
    rw [fetch_of_rules hpath (document_of_spells hrules), document_of_spells hdefinitions]
    rfl

variable {p : Policy}

theorem Loads.sound {answer : Except BookError Form} (h : Loads p ofText? s read form answer) :
    p.load (s.fetch ofText? read) form = answer := by
  unfold Policy.load
  cases h with
  | refused hpath =>
    rw [fetch, hpath]
    rfl
  | missing hpath hmissing =>
    rw [fetch_of_missing hpath (by rw [hmissing]; rfl)]
    rfl
  | unreadable hpath hunreadable =>
    rw [fetch_of_fault hpath (by rw [hunreadable]; rfl)]
    rfl
  | notJson hpath hmisspelt =>
    rw [fetch_of_fault hpath (document_of_misspelt hmisspelt)]
    rfl
  | definitionsUnreadable hpath hrules hunreadable =>
    rw [fetch_of_rules hpath (document_of_spells hrules), hunreadable]
    rfl
  | definitionsNotJson hpath hrules hmisspelt =>
    rw [fetch_of_rules hpath (document_of_spells hrules), document_of_misspelt hmisspelt]
    rfl
  | compiled hsupplies =>
    rw [hsupplies.fetch_eq]
    rfl

/-- Some case applies to whatever stands under the paths. -/
theorem exists_loads (p : Policy) (ofText? : String → Option Json) (s : RuleFiles)
    (read : String → Reading) (form : String) : ∃ answer, Loads p ofText? s read form answer := by
  cases hpath : s.formPath? form with
  | none => exact ⟨_, .refused hpath⟩
  | some path =>
    cases hform : read path with
    | missing => exact ⟨_, .missing hpath hform⟩
    | unreadable => exact ⟨_, .unreadable hpath hform⟩
    | text content =>
      rcases Reading.spells_or_misspelt ofText? content with ⟨rules, hrules⟩ | hmisspelt
      · rw [← hform] at hrules
        cases hdefinitions : read s.definitions with
        | missing => exact ⟨_, .compiled (.rulesAlone hpath hrules hdefinitions)⟩
        | unreadable => exact ⟨_, .definitionsUnreadable hpath hrules hdefinitions⟩
        | text content' =>
          rcases Reading.spells_or_misspelt ofText? content' with ⟨definitions, hspells⟩ | hmisspelt
          · exact ⟨_, .compiled (.both hpath hrules (hdefinitions ▸ hspells))⟩
          · exact ⟨_, .definitionsNotJson hpath hrules (hdefinitions ▸ hmisspelt)⟩
      · exact ⟨_, .notJson hpath (hform ▸ hmisspelt)⟩

theorem loads_load (p : Policy) (ofText? : String → Option Json) (s : RuleFiles)
    (read : String → Reading) (form : String) :
    Loads p ofText? s read form (p.load (s.fetch ofText? read) form) := by
  obtain ⟨answer, h⟩ := exists_loads p ofText? s read form
  rw [h.sound]
  exact h

end RuleFiles

/-- **Files and shelves agree.** Loading a form from files answers what `RuleFiles.Loads` says. If the
two documents that the files give spell a book, then the same is answered by every shelf on which
books have been put, this one last for the form. -/
theorem Policy.load_files (p : Policy) (ofText? : String → Option Json) (s : RuleFiles)
    (read : String → RuleFiles.Reading) (form : String) :
    (∀ answer, p.load (s.fetch ofText? read) form = answer ↔
      s.Loads p ofText? read form answer) ∧
    ∀ rules definitions b, s.Supplies ofText? read form rules definitions →
      RuleBook.ofJson rules definitions = .ok b →
      ∀ (shelf : Shelf) (writes : List (String × RuleBook)), Shelf.latest? form writes = some b →
        p.load (s.fetch ofText? read) form = p.load (shelf.withBooks writes).fetch form := by
  constructor
  · intro answer
    constructor
    · rintro rfl
      exact RuleFiles.loads_load p ofText? s read form
    · exact RuleFiles.Loads.sound
  · intro rules definitions b hsupplies hbook shelf writes hlatest
    have hfiles : s.fetch ofText? read form = .ok b := hsupplies.fetch_eq.trans hbook
    have hshelf : (shelf.withBooks writes).fetch form = .ok b := by
      rw [Shelf.fetch_withBooks, hlatest]
    rw [Policy.load, Policy.load, hfiles, hshelf]

namespace Sample

/-- The text of the rules of a form with one field. -/
def memoText : String := "\x7b\"memo\": \x7b\"type\": \"string\"\x7d\x7d"

/-- What the text holds. -/
def memoRules : Json := .object [("memo", .object [("type", .text "string")])]

theorem ofText?_memoText : Json.ofText? memoText = some memoRules := by
  have hname : Json.readName? "\"memo\": \x7b\"type\": \"string\"\x7d\x7d".toList =
      some ⟨"memo", "\x7b\"type\": \"string\"\x7d\x7d".toList, by decide⟩ := rfl
  have htype : Json.readName? "\"type\": \"string\"\x7d\x7d".toList =
      some ⟨"type", "\"string\"\x7d\x7d".toList, by decide⟩ := rfl
  have hkind : Json.readValue 125 ('"' :: "string\"\x7d\x7d".toList) =
      some ⟨.text "string", ['\x7d', '\x7d'], by decide⟩ := by
    rw [Json.readValue]
    rfl
  have hrule : Json.readValue 126 ('\x7b' :: "\"type\": \"string\"\x7d\x7d".toList) =
      some ⟨.object [("type", .text "string")], ['\x7d'], by decide⟩ := by
    rw [Json.readValue]
    exact Json.readMembers_last (by decide) htype hkind rfl (by decide)
  have hrules : Json.readValue 127
      ('\x7b' :: "\"memo\": \x7b\"type\": \"string\"\x7d\x7d".toList) =
      some ⟨memoRules, [], by decide⟩ := by
    rw [Json.readValue]
    exact Json.readMembers_last (by decide) hname hrule rfl (by decide)
  exact @Json.ofText?_eq_some memoText _ _ rfl hrules rfl

/-- Files with the rules of the form, and one whose text is not JSON. There are no definitions. -/
def readRules : String → RuleFiles.Reading
  | "rules/memo.json" => .text memoText
  | "rules/broken.json" => .text "\x7b"
  | _ => .missing

/-- Rules in a directory. -/
def rulesDirectory : RuleFiles := { directory := "rules" }

/-- The same with definitions that are not JSON. -/
def brokenDirectory : RuleFiles := { directory := "rules", definitions := "rules/broken.json" }

end Sample

open Sample in
/-- The form with one field is the same from its file and from a shelf. It is not loaded with
definitions that are not JSON, and then a form without a file is unknown all the same. -/
theorem load_files_memo :
    policy.load (rulesDirectory.fetch Json.ofText? readRules) "memo" =
        policy.load (Shelf.empty.withBooks
          [("memo", {}), ("memo", { fields := .ofList [("memo", .ofKind .text)] })]).fetch "memo" ∧
      policy.load (brokenDirectory.fetch Json.ofText? readRules) "memo" =
        .error (.notJson "rules/broken.json") ∧
      policy.load (brokenDirectory.fetch Json.ofText? readRules) "note" =
        .error (.unknownForm "note") := by
  have hmemo : (readRules "rules/memo.json").Spells Json.ofText? memoRules :=
    ⟨memoText, rfl, ofText?_memoText⟩
  have hbroken : (readRules "rules/broken.json").Misspelt Json.ofText? :=
    ⟨"\x7b", rfl, by cbv⟩
  exact ⟨(Policy.load_files policy Json.ofText? rulesDirectory readRules "memo").2 memoRules .null _
      (.rulesAlone rfl hmemo rfl) rfl Shelf.empty _ rfl,
    ((Policy.load_files policy Json.ofText? brokenDirectory readRules "memo").1 _).2
      (.definitionsNotJson rfl hmemo hbroken),
    ((Policy.load_files policy Json.ofText? brokenDirectory readRules "note").1 _).2
      (.missing rfl rfl)⟩

end FormCheck
