import FormCheck.Proofs.SinglePass

/-!
# What reaches a message

A failure may carry any number of named values, under names that are repeated, that belong to other
constraints, or that are `field` itself. Its message can show two things only: the name of the field,
and the first value under the token of the violated constraint.

The message is the one that the `render` of `MessageTemplates` makes.

* `Messages.SlotText` says what stands in a message in the place of a slot, one case for each way.
* `Messages.render_eq`: a message is a function of the template for the constraint, of the name of
  the field and of the first value under the constraint's own token.
* `Template.renders_at_slot`: a filled template, told around one of its slots.
* **`Messages.render_only_tokens`**: two failures of one constraint that agree on that value have the
  same message, whatever else they carry and whatever templates are kept for other constraints; and
  every slot of the template is filled by the three cases.
-/

namespace FormCheck

/-! ## The value of a token -/

namespace Constraint

variable {c : Constraint} {field token : String} {literal : Option String}

theorem field_not_mem_tokens (c : Constraint) : "field" ∉ c.tokens :=
  fun h => c.code_ne_field (mem_tokens h).symm

theorem tokenValue?_field : c.tokenValue? field literal "field" = some field := if_pos rfl

theorem tokenValue?_of_mem (h : token ∈ c.tokens) : c.tokenValue? field literal token = literal := by
  have hne : token ≠ "field" := by
    rintro rfl
    exact c.field_not_mem_tokens h
  rw [tokenValue?, if_neg hne, if_pos h]

theorem tokenValue?_of_not_mem (hne : token ≠ "field") (h : token ∉ c.tokens) :
    c.tokenValue? field literal token = none := by
  rw [tokenValue?, if_neg hne, if_neg h]

/-- The literal of a constraint without a token of its own is never asked for. -/
theorem tokenValue?_congr {literal' : Option String}
    (h : ∀ token ∈ c.tokens, literal = literal') :
    c.tokenValue? field literal = c.tokenValue? field literal' := by
  funext token
  by_cases hown : token ∈ c.tokens
  · rw [tokenValue?_of_mem hown, tokenValue?_of_mem hown, h token hown]
  · by_cases hfield : token = "field"
    · subst hfield
      rw [tokenValue?_field, tokenValue?_field]
    · rw [tokenValue?_of_not_mem hfield hown, tokenValue?_of_not_mem hfield hown]

end Constraint

/-! ## A template around one slot -/

namespace Template

variable {value? : String → Option String}

/-- **A filled template around a slot** is what is in front of the slot, filled, then the value of
the slot or the slot itself, then what follows it, filled. -/
theorem renders_at_slot {before name after message : String} (closed : Closed before.toList)
    (ends : '\x7d' ∉ name.toList)
    (h : Renders value? (before ++ "\x7b" ++ name ++ "\x7d" ++ after) message) :
    ∃ start rest, message = start ++ (value? name).getD ("\x7b" ++ name ++ "\x7d") ++ rest ∧
      Renders value? before start ∧ Renders value? after rest := by
  have hfilled := Filled.eq_fill h
  refine ⟨String.ofList (fill value? before.toList), String.ofList (fill value? after.toList), ?_, ?_,
    ?_⟩
  · have hsplit : (before ++ "\x7b" ++ name ++ "\x7d" ++ after).toList =
        before.toList ++ ('\x7b' :: name.toList ++ '\x7d' :: after.toList) := by simp
    have hslot : (Piece.slot name.toList).fill value? =
        ((value? name).getD ("\x7b" ++ name ++ "\x7d")).toList := by
      rw [Piece.fill, String.ofList_toList]
      cases value? name with
      | none => exact (toList_slotText name).symm
      | some value => rfl
    apply String.toList_injective
    rw [hfilled, hsplit, fill_append _ _ closed.endsInside, fill_slot ends, hslot]
    simp
  · rw [Renders, String.toList_ofList]
    exact filled_fill before.toList
  · rw [Renders, String.toList_ofList]
    exact filled_fill after.toList

end Template

/-! ## Messages -/

namespace Messages

/-- **What stands in the place of a slot** in the message of a failure. -/
inductive SlotText (f : Failure) (field : String) : String → String → Prop
  /-- The slot `field` gives way to the name of the field. -/
  | field : SlotText f field "field" field
  /-- The constraint's own token gives way to the first value that the failure carries under it. -/
  | own {token value : String} (own : token ∈ f.constraint.tokens)
      (has : f.param? token = some value) : SlotText f field token value
  /-- Any other slot is kept, and so is the own token if the failure carries nothing under it. -/
  | kept {token : String} (other : token ≠ "field")
      (lacks : token ∈ f.constraint.tokens → f.param? token = none) :
      SlotText f field token ("\x7b" ++ token ++ "\x7d")

variable {f f' : Failure} {field : String}

theorem SlotText.eq_slot {token slot : String} (h : SlotText f field token slot)
    (other : token ≠ "field") (foreign : token ∉ f.constraint.tokens) :
    slot = "\x7b" ++ token ++ "\x7d" := by
  cases h with
  | field => exact absurd rfl other
  | own own _ => exact absurd own foreign
  | kept _ _ => rfl

theorem slotText_tokenValue? (f : Failure) (field token : String) :
    SlotText f field token
      ((f.constraint.tokenValue? field (f.param? f.constraint.code) token).getD
        ("\x7b" ++ token ++ "\x7d")) := by
  by_cases hfield : token = "field"
  · subst hfield
    rw [Constraint.tokenValue?_field]
    exact .field
  · by_cases hown : token ∈ f.constraint.tokens
    · rw [Constraint.tokenValue?_of_mem hown, ← Constraint.mem_tokens hown]
      cases hparam : f.param? token with
      | none => exact .kept hfield fun _ => hparam
      | some value => exact .own hown hparam
    · rw [Constraint.tokenValue?_of_not_mem hfield hown]
      exact .kept hfield fun h => absurd h hown

/-- **A message is made of three things**: the template for the constraint, the name of the field,
and the first value under the constraint's own token. -/
theorem render_eq (m : Messages) (f : Failure) (field : String) :
    m.render f field = (m.template? f.constraint).map fun template =>
      String.ofList (Template.fill
        (f.constraint.tokenValue? field (f.param? f.constraint.code)) template.toList) := by
  unfold render Template.render
  rw [find?_slotValues_eq_tokenValue?]

/-- Failures that agree on their own tokens give the same values to all tokens. -/
theorem tokenValue?_eq_of_agree (hconstraint : f.constraint = f'.constraint)
    (hparam : ∀ token ∈ f.constraint.tokens, f.param? token = f'.param? token) :
    f.constraint.tokenValue? field (f.param? f.constraint.code) =
      f'.constraint.tokenValue? field (f'.param? f'.constraint.code) := by
  rw [← hconstraint]
  refine Constraint.tokenValue?_congr fun token hown => ?_
  have hcode : token = f.constraint.code := Constraint.mem_tokens hown
  exact hcode ▸ hparam token hown

/-- **Only the tokens of the violated constraint reach a message.** Take two failures of one
constraint that agree on the first value, if any, under the constraint's own token, and two sets of
messages that agree on the template for the constraint. Then both failures are worded alike, whatever
other values they carry and whatever other templates are kept. Without a template for the constraint
there is no message. With one, every slot of the template becomes the name of the field, the first
value under the own token, or stays as it is, between the filled parts before and after it. -/
theorem render_only_tokens {m m' : Messages} {f f' : Failure} (field : String)
    (hconstraint : f.constraint = f'.constraint)
    (hparam : ∀ token ∈ f.constraint.tokens, f.param? token = f'.param? token)
    (htemplate : m.template? f.constraint = m'.template? f.constraint) :
    m.render f field = m'.render f' field ∧
    (m.template? f.constraint = none → m.render f field = none) ∧
    ∀ template, m.template? f.constraint = some template →
      ∃ message, m.render f field = some message ∧
        Template.Renders (f.constraint.tokenValue? field (f.param? f.constraint.code))
          template message ∧
        ∀ before name after, template = before ++ "\x7b" ++ name ++ "\x7d" ++ after →
          Template.Closed before.toList → '\x7d' ∉ name.toList →
          ∃ start slot rest, message = start ++ slot ++ rest ∧ SlotText f field name slot ∧
            Template.Renders (f.constraint.tokenValue? field (f.param? f.constraint.code))
              before start ∧
            Template.Renders (f.constraint.tokenValue? field (f.param? f.constraint.code))
              after rest := by
  refine ⟨?_, fun hnone => ?_, fun template hsome => ?_⟩
  · rw [render_eq, render_eq, tokenValue?_eq_of_agree hconstraint hparam, htemplate, hconstraint]
  · rw [render_eq, hnone, Option.map_none]
  · have hrenders : Template.Renders
        (f.constraint.tokenValue? field (f.param? f.constraint.code)) template
        (String.ofList (Template.fill
          (f.constraint.tokenValue? field (f.param? f.constraint.code)) template.toList)) := by
      rw [Template.Renders, String.toList_ofList]
      exact Template.filled_fill template.toList
    refine ⟨_, by rw [render_eq, hsome, Option.map_some], hrenders, ?_⟩
    intro before name after hsplit closed ends
    rw [hsplit] at hrenders ⊢
    obtain ⟨start, rest, hmessage, hbefore, hafter⟩ :=
      Template.renders_at_slot closed ends hrenders
    exact ⟨start, _, rest, hmessage, slotText_tokenValue? f field name, hbefore, hafter⟩

end Messages

namespace Sample

/-- Words for a text that is too long, with the token of another constraint. -/
def tagTemplate : String := "\x7bfield\x7d: \x7bmaxLength\x7d at most, \x7bminLength\x7d at least"

def tagMessages : Messages := .ofList [("errorMessageMaxLength", tagTemplate)]

/-- The same words among others. -/
def tagMessages' : Messages :=
  .ofList [("errorMessageMinLength", "\x7bmaxLength\x7d"), ("errorMessageMaxLength", tagTemplate)]

/-- A failure that carries more than its literal: a value for another constraint, one under the name
of the field, and a second one under its own token. -/
def crowded : Failure :=
  (((Failure.maxLength 5).withParam "minLength" "2").withParam "field" "other").withParam
    "maxLength" "9"

end Sample

open Sample in
/-- Nothing of what a crowded failure carries shows in its message. -/
theorem render_only_tokens_crowded :
    crowded.constraint = (Failure.maxLength 5).constraint ∧
    (∀ token ∈ crowded.constraint.tokens, crowded.param? token = (Failure.maxLength 5).param? token) ∧
    tagMessages.template? crowded.constraint = tagMessages'.template? crowded.constraint ∧
    tagMessages.render crowded "tag" = tagMessages'.render (Failure.maxLength 5) "tag" ∧
    tagMessages.template? crowded.constraint = some tagTemplate ∧
    tagTemplate = "\x7bfield\x7d: \x7bmaxLength\x7d at most, " ++ "\x7b" ++ "minLength" ++ "\x7d" ++
      " at least" ∧
    ∃ start rest, tagMessages.render crowded "tag" =
      some (start ++ "\x7bminLength\x7d" ++ rest) ∧ start = "tag: 5 at most, " := by
  have hconstraint : crowded.constraint = (Failure.maxLength 5).constraint := rfl
  have hparam : ∀ token ∈ crowded.constraint.tokens,
      crowded.param? token = (Failure.maxLength 5).param? token := by decide +kernel
  have htemplate : tagMessages.template? crowded.constraint =
      tagMessages'.template? crowded.constraint := by decide +kernel
  have hsome : tagMessages.template? crowded.constraint = some tagTemplate := by decide +kernel
  have hsplit : tagTemplate = "\x7bfield\x7d: \x7bmaxLength\x7d at most, " ++ "\x7b" ++ "minLength" ++
      "\x7d" ++ " at least" := by decide +kernel
  have hclosed : Template.Closed "\x7bfield\x7d: \x7bmaxLength\x7d at most, ".toList :=
    Template.closed_of_endsInside _ (by decide +kernel)
  obtain ⟨hsame, -, hslots⟩ :=
    Messages.render_only_tokens "tag" hconstraint hparam htemplate
  obtain ⟨message, hmessage, -, hslot⟩ := hslots tagTemplate hsome
  obtain ⟨start, slot, rest, rfl, htext, hstart, -⟩ :=
    hslot _ "minLength" " at least" hsplit hclosed (by decide)
  have hkept : slot = "\x7bminLength\x7d" := htext.eq_slot (by decide) (by decide)
  have hbefore : start = "tag: 5 at most, " := by
    have hfill : start.toList = "tag: 5 at most, ".toList :=
      (Template.Filled.eq_fill hstart).trans (by decide +kernel)
    exact String.toList_injective hfill
  exact ⟨hconstraint, hparam, htemplate, hsame, hsome, hsplit, start, rest, hkept ▸ hmessage, hbefore⟩

end FormCheck
