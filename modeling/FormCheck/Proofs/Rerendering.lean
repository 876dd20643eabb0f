import FormCheck.Proofs.Documents
import FormCheck.Proofs.Provenance

/-!
# Failures worded afterwards

A failure keeps the literals of which its message is made. So its message may be made again later,
from other templates, without the value that was rejected and without another look at the rule.

The message is made again by the `render` of `MessageTemplates`.

* `Requirement.withMessages`: what is asked, with other templates.
* `Policy.judge_withMessages`: templates play no part before a failure is worded.
* `Policy.map_fst_params`: the values of a failure are named by the tokens of its constraint.
* `Messages.render_congr`: a template is filled from the constraint and the values of a failure,
  whatever its message and its field are.
* **`Policy.verdict_withMessages`**: the failure of one checker, worded by the templates of another,
  has the message of the other checker.
-/

namespace FormCheck

/-- The requirement with other messages. -/
def Requirement.withMessages (r : Requirement) (m : Messages) : Requirement :=
  { r with messages := m }

/-- The message of a template only depends on the constraint and the values of the failure. -/
theorem Messages.render_congr (m : Messages) {f f' : Failure}
    (hconstraint : f.constraint = f'.constraint) (hparams : f.params = f'.params)
    (field : String) : m.render f field = m.render f' field := by
  unfold render slotValues
  rw [hconstraint, hparams]

namespace Checker

/-- Wording a failure loses nothing: it may be worded again. -/
theorem render_finish (c : Checker) (m : Messages) (field : String) (f : Failure) :
    m.render (c.finish f) field = m.render f field :=
  m.render_congr (c.constraint_finish f) (c.params_finish f) field

theorem message_finish {c : Checker} {message : String} {f : Failure}
    (h : c.messages.render f c.field = some message) : (c.finish f).message = message := by
  unfold finish
  rw [h]
  rfl

end Checker

namespace Policy

variable {p : Policy} {r : Requirement} {field : String} {v : Json}

theorem judge_withMessages (p : Policy) (r : Requirement) (m : Messages) (field : String)
    (v : Json) :
    (p.checker field (r.withMessages m)).judge v = (p.checker field r).judge v := rfl

/-- **A failure names its values by the tokens of the constraint**, all of them and no others. -/
theorem map_fst_params {c : Constraint} {f : Failure} (h : p.failureOf? r field c = some f) :
    f.params.map Prod.fst = c.tokens := by
  cases c with
  | required =>
    cases h
    rfl
  | kind =>
    cases h
    rfl
  | customRule =>
    obtain ⟨name, -, h⟩ := Option.bind_eq_some_iff.1 h
    obtain ⟨rule, -, rfl⟩ := Option.map_eq_some_iff.1 h
    rfl
  | _ =>
    obtain ⟨literal, -, rfl⟩ := Option.map_eq_some_iff.1 h
    rfl

theorem literal?_of_mem_params {c : Constraint} {f : Failure}
    (h : p.failureOf? r field c = some f) :
    ∀ e ∈ f.params, r.literal? c = some e.2 := by
  intro e he
  rw [params_of_failureOf? h, Option.mem_toList, Option.map_eq_some_iff] at he
  obtain ⟨text, htext, rfl⟩ := he
  exact htext

/-- **Failures may be worded afterwards.** Two checkers that differ in their messages accept the
same values. What is rejected is rejected by both for the same constraint. The values of the failure
are named by the tokens of the constraint and are its literals, and a template of the other checker,
filled with them, gives the message of the other checker. -/
theorem verdict_withMessages (p : Policy) (r : Requirement) (field : String) (v : Json)
    (m₁ m₂ : Messages) :
    ((p.checker field (r.withMessages m₁)).verdict v = .accepted ↔
      (p.checker field (r.withMessages m₂)).verdict v = .accepted) ∧
    ∀ f₁, (p.checker field (r.withMessages m₁)).verdict v = .rejected f₁ →
      f₁.params.map Prod.fst = f₁.constraint.tokens ∧
      (∀ e ∈ f₁.params, r.literal? f₁.constraint = some e.2) ∧
      ∃ f₂, (p.checker field (r.withMessages m₂)).verdict v = .rejected f₂ ∧
        f₂.constraint = f₁.constraint ∧ f₂.params = f₁.params ∧
        ∀ template, m₂.template? f₁.constraint = some template →
          m₂.render f₁ field = some f₂.message := by
  unfold Checker.verdict
  rw [judge_withMessages, judge_withMessages]
  cases hjudge : (p.checker field r).judge v with
  | accepted => exact ⟨Iff.rfl, fun f₁ h => by cases h⟩
  | rejected d =>
    refine ⟨⟨fun h => (by cases h), fun h => (by cases h)⟩, fun f₁ h => ?_⟩
    obtain rfl : (p.checker field (r.withMessages m₁)).finish d = f₁ := Verdict.rejected.inj h
    have hd : p.failureOf? r field d.constraint = some d := (violated?_of_judge hjudge).2
    simp only [Checker.constraint_finish, Checker.params_finish, Checker.render_finish]
    refine ⟨map_fst_params hd, literal?_of_mem_params hd, _, rfl, Checker.constraint_finish _ _,
      Checker.params_finish _ _, fun template htemplate => ?_⟩
    have hrender : m₂.render d field =
        some (Template.render template (Messages.slotValues d field)) := by
      rw [Messages.render, htemplate, Option.map_some]
    have hmessage : ((p.checker field (r.withMessages m₂)).finish d).message =
        Template.render template (Messages.slotValues d field) := Checker.message_finish hrender
    rw [hmessage, hrender]

end Policy

namespace Sample

/-- A short text. -/
def label : Requirement where
  kind := .text
  maxLength := some 3

/-- Other words for a text that is too long. The last slot has no value there. -/
def labelTemplate : String :=
  "\x7bfield\x7d: \x7bmaxLength\x7d at most, \x7bminLength\x7d at least"

def labelMessages : Messages := .ofList [("errorMessageMaxLength", labelTemplate)]

/-- What is said of a text that is too long when there are no other words. -/
def labelTooLong : Failure where
  constraint := .maxLength
  message := "Must be at most 3 characters"
  field := some "tag"
  params := [("maxLength", "3")]

end Sample

open Sample in
/-- The failure of a long text, worded afterwards. -/
theorem verdict_withMessages_label :
    (policy.checker "tag" (label.withMessages .empty)).verdict (.text "label") =
      .rejected labelTooLong ∧
    labelMessages.template? .maxLength = some labelTemplate ∧
    labelTooLong.params.map Prod.fst = ["maxLength"] ∧
    label.literal? .maxLength = some "3" ∧
    ∃ f, (policy.checker "tag" (label.withMessages labelMessages)).verdict (.text "label") =
        .rejected f ∧
      labelMessages.render labelTooLong "tag" = some f.message ∧
      f.message = "tag: 3 at most, \x7bminLength\x7d at least" := by
  have hverdict : (policy.checker "tag" (label.withMessages .empty)).verdict (.text "label") =
      .rejected labelTooLong := by decide +kernel
  have htemplate : labelMessages.template? .maxLength = some labelTemplate := by decide +kernel
  obtain ⟨-, hrejected⟩ :=
    Policy.verdict_withMessages policy label "tag" (.text "label") .empty labelMessages
  obtain ⟨htokens, hliterals, f, hf, -, -, hrender⟩ := hrejected labelTooLong hverdict
  have hmessage := hrender _ htemplate
  refine ⟨hverdict, htemplate, htokens, hliterals _ List.mem_cons_self, f, hf, hmessage, ?_⟩
  have hworded : labelMessages.render labelTooLong "tag" =
      some "tag: 3 at most, \x7bminLength\x7d at least" := by decide +kernel
  exact Option.some.inj (hmessage.symm.trans hworded)

end FormCheck
