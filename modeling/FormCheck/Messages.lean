import FormCheck.Failure
import FormCheck.Template

/-!
# Messages of a rule

A rule may keep message templates of its own, each under a key that begins with `errorMessage`.
`Messages.render` fills the template that a rule keeps for a failure. Only the token of the
violated constraint and `field` have values there; all other slots stay as they are.

`Messages` stands for `MessageTemplates`, and `Messages.render` for its `render`.
`Messages.ofMembers` is how it is deserialized; `Messages.unknownKeys` is `unknown_keys`.
-/

namespace FormCheck

/-- The templates that a rule keeps, by their keys. -/
abbrev Messages := Dict String

namespace Messages

/-- What every key of a template begins with. -/
def keyStart : String := "errorMessage"

/-- Whether a key may name a template. -/
def isKey (key : String) : Bool := keyStart.toList.isPrefixOf key.toList

/-- The members of an object that are templates: a fitting key and a text. -/
def ofMembers (members : Dict Json) : Messages :=
  members.filterMap fun key v =>
    if isKey key then
      match v with
      | .text template => some template
      | _ => none
    else none

/-- Keeps a template for a constraint. -/
def withTemplate (m : Messages) (c : Constraint) (template : String) : Messages :=
  m.insert c.messageKey template

/-- The template for a constraint. -/
def template? (m : Messages) (c : Constraint) : Option String := m.get? c.messageKey

/-- The keys that belong to no constraint. -/
def unknownKeys (m : Messages) : List String :=
  m.keys.filter fun key => (Constraint.ofMessageKey? key).isNone

/-- The values that a template for the failure may use: those of the constraint's own token, then
the name of the field. -/
def slotValues (f : Failure) (field : String) : List (String × String) :=
  f.params.filter (fun p => f.constraint.tokens.contains p.1) ++ [("field", field)]

/-- The message of the rule's own template for a failure, if it keeps one. -/
def render (m : Messages) (f : Failure) (field : String) : Option String :=
  (m.template? f.constraint).map fun template => Template.render template (slotValues f field)

end Messages

end FormCheck
