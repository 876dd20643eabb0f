import FormCheck.Json.Reader
import FormCheck.Requirement

/-!
# Rule books

A `RuleBook` holds the rules of one form: those of its fields and the definitions that they may
refer to. A rule of the wrong shape is set aside with the reason, so that it does not cost the
others.

`RuleBook` stands for `RuleDocument`: `RuleBook.ofJson` is `from_json`, `RuleBook.ofText` is
`from_json_str`, `RuleBook.require` is `resolve_field`, and `RuleBook.withField` and
`RuleBook.withDefinition` are `with_field` and `with_definition`. `BookError` stands for
`ConfigurationError`.
-/

namespace FormCheck

/-- Why no rule book could be read. -/
inductive BookError where
  /-- There are no rules for the form. -/
  | unknownForm (form : String)
  /-- The rules are stored in a way that cannot be read. -/
  | unreadable (path : String)
  /-- A text is not JSON. -/
  | notJson (origin : String)
  /-- A document is not built as a rule book has to be. -/
  | malformed (reason : String)
deriving DecidableEq

/-- The wording of an error, where it has one of its own. -/
def BookError.message : BookError → String
  | unknownForm form => "Unknown form: " ++ form
  | unreadable path => "Failed to read rule file " ++ path
  | notJson origin => "Failed to parse " ++ origin
  | malformed reason => "Malformed rule document: " ++ reason

/-- The rules of one form and the definitions that they may refer to. -/
structure RuleBook where
  fields : Dict Rule := .empty
  definitions : Dict Rule := .empty
  /-- The fields whose rules have a wrong shape, with the reasons. -/
  malformedFields : Dict String := .empty
  /-- The definitions that have a wrong shape, with the reasons. -/
  malformedDefinitions : Dict String := .empty
deriving DecidableEq, Inhabited

namespace RuleBook

/-- The book with the rule of one field added or replaced. -/
def withField (b : RuleBook) (name : String) (rule : Rule) : RuleBook :=
  { b with fields := b.fields.insert name rule }

/-- The book with one definition added or replaced. -/
def withDefinition (b : RuleBook) (name : String) (rule : Rule) : RuleBook :=
  { b with definitions := b.definitions.insert name rule }

/-- The members that are rules. -/
def wellFormed (members : Dict Json) : Dict Rule :=
  members.filterMap fun _ v => (Rule.ofJson v).toOption

/-- The members that are no rules, with the reasons. -/
def illFormed (members : Dict Json) : Dict String :=
  members.filterMap fun _ v =>
    match Rule.ofJson v with
    | .ok _ => none
    | .error e => some e.message

/-- The definitions that a document of definitions holds. A document of `null`, and one without
definitions, holds none. -/
def definitionMembers (v : Json) : Except BookError (Dict Json) :=
  match v with
  | .null => .ok .empty
  | v =>
    match v.members? with
    | none => .error (.malformed ("definitions document must be an object, found " ++ v.sort))
    | some document =>
      match document.get? "definitions" with
      | none | some .null => .ok .empty
      | some inner =>
        match inner.members? with
        | some members => .ok members
        | none => .error (.malformed ("'definitions' must be an object, found " ++ inner.sort))

/-- The book that a document of rules and a document of definitions spell. -/
def ofJson (rules definitions : Json) : Except BookError RuleBook :=
  match rules.members? with
  | none => .error (.malformed ("rule document must be an object, found " ++ rules.sort))
  | some fields =>
    match definitionMembers definitions with
    | .error e => .error e
    | .ok members =>
      .ok {
        fields := wellFormed fields
        definitions := wellFormed members
        malformedFields := illFormed fields
        malformedDefinitions := illFormed members }

/-- Reads a JSON text that is known by the name of its origin, with the given reader of JSON. -/
def parse (ofText? : String → Option Json) (origin text : String) : Except BookError Json :=
  match ofText? text with
  | some v => .ok v
  | none => .error (.notJson origin)

/-- The book that two texts spell; there may be no text of definitions. -/
def ofText (rules : String) (definitions : Option String) : Except BookError RuleBook :=
  match parse Json.ofText? "rule document" rules with
  | .error e => .error e
  | .ok rules =>
    match definitions with
    | none => ofJson rules .null
    | some text =>
      match parse Json.ofText? "definitions document" text with
      | .error e => .error e
      | .ok definitions => ofJson rules definitions

/-- What the book asks of a field whose rule is given. A definition that was set aside is told from
one that is missing. -/
def require (b : RuleBook) (field : String) (rule : Rule) : Except Unresolved Requirement :=
  match Requirement.ofRule field rule b.definitions with
  | .error (.missingDefinition field reference) =>
    match (Requirement.definitionName? reference).bind b.malformedDefinitions.get? with
    | some reason => .error (.malformedDefinition field reference reason)
    | none => .error (.missingDefinition field reference)
  | answer => answer

end RuleBook

end FormCheck
