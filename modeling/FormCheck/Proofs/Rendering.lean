import FormCheck.Messages

/-!
# What a filled template looks like

The filling of a template is defined by cutting the template into pieces with a state machine. Here
it is said which text comes out, by rules on the template itself (`Template.Filled`): what is outside
of slots is kept, a slot whose name has a value gives way to it, any other slot is kept, and so is an
opening brace that is never closed.

The filling is what the function `render` makes of a template.

* **`Template.filled_iff`**: the rules give each template one text, which is the one that filling
  makes of it.
* `Messages.find?_slotValues_eq_tokenValue?`: the slots that have a value in the message of a failure
  are `field` and the token of the violated constraint (`Constraint.tokenValue?`), and no others.
-/

namespace FormCheck

namespace Template

/-- **A template and its filled form**, given the values of names. -/
inductive Filled (value? : String → Option String) : List Char → List Char → Prop
  | nil : Filled value? [] []
  /-- A character that opens no slot is kept. -/
  | plain {c : Char} {rest text : List Char} (outside : c ≠ '\x7b')
      (filled : Filled value? rest text) : Filled value? (c :: rest) (c :: text)
  /-- A slot whose name has a value gives way to the value. -/
  | valued {name rest text : List Char} {value : String} (closed : '\x7d' ∉ name)
      (has : value? (String.ofList name) = some value) (filled : Filled value? rest text) :
      Filled value? ('\x7b' :: name ++ '\x7d' :: rest) (value.toList ++ text)
  /-- Any other slot is kept. -/
  | unvalued {name rest text : List Char} (closed : '\x7d' ∉ name)
      (lacks : value? (String.ofList name) = none) (filled : Filled value? rest text) :
      Filled value? ('\x7b' :: name ++ '\x7d' :: rest) ('\x7b' :: name ++ '\x7d' :: text)
  /-- An opening brace that is never closed is kept, with all that follows. -/
  | unclosed {rest : List Char} (never : '\x7d' ∉ rest) :
      Filled value? ('\x7b' :: rest) ('\x7b' :: rest)

/-- The text is what the template becomes, given the values of names. -/
def Renders (value? : String → Option String) (template text : String) : Prop :=
  Filled value? template.toList text.toList

/-! ## Cutting, one piece at a time -/

/-- Inside a slot, everything up to the next closing brace belongs to its name. -/
theorem cut_closed {name : List Char} (rest : List Char) (closed : '\x7d' ∉ name)
    (seen : List Char) :
    cut (some seen) (name ++ '\x7d' :: rest) = .slot (seen.reverse ++ name) :: cut none rest := by
  induction name generalizing seen with
  | nil => simp [cut]
  | cons c name ih =>
    simp only [List.mem_cons, not_or] at closed
    rw [List.cons_append, cut, if_neg (Ne.symm closed.1), ih closed.2]
    simp

theorem cut_unclosed {rest : List Char} (never : '\x7d' ∉ rest) (seen : List Char) :
    cut (some seen) rest = ('\x7b' :: (seen.reverse ++ rest)).map .plain := by
  induction rest generalizing seen with
  | nil => simp [cut]
  | cons c rest ih =>
    simp only [List.mem_cons, not_or] at never
    rw [cut, if_neg (Ne.symm never.1), ih never.2]
    simp

variable {value? : String → Option String}

theorem flatMap_fill_plain (cs : List Char) :
    (cs.map Piece.plain).flatMap (·.fill value?) = cs := by
  induction cs with
  | nil => rfl
  | cons c rest ih =>
    rw [List.map_cons, List.flatMap_cons, ih]
    rfl

theorem fill_cons {c : Char} (outside : c ≠ '\x7b') (rest : List Char) :
    fill value? (c :: rest) = c :: fill value? rest := by
  simp [fill, pieces, cut, outside, Piece.fill]

theorem fill_slot {name : List Char} (closed : '\x7d' ∉ name) (rest : List Char) :
    fill value? ('\x7b' :: name ++ '\x7d' :: rest) =
      (Piece.slot name).fill value? ++ fill value? rest := by
  simp [fill, pieces, cut, cut_closed rest closed]

theorem fill_unclosed {rest : List Char} (never : '\x7d' ∉ rest) :
    fill value? ('\x7b' :: rest) = '\x7b' :: rest := by
  rw [fill, pieces, cut, if_pos rfl, cut_unclosed never, flatMap_fill_plain]
  rfl

/-! ## The rules and the filling -/

theorem Filled.eq_fill {template text : List Char} (h : Filled value? template text) :
    text = fill value? template := by
  induction h with
  | nil => rfl
  | plain outside _ ih => rw [fill_cons outside, ih]
  | valued closed has _ ih => rw [fill_slot closed, Piece.fill, has, ih]
  | unvalued closed lacks _ ih =>
    rw [fill_slot closed, Piece.fill, lacks, ih]
    simp [Piece.text]
  | unclosed never => rw [fill_unclosed never]

theorem filled_fill (template : List Char) : Filled value? template (fill value? template) := by
  -- The rest after a slot is not the tail of the template, so the induction is on the length.
  induction hn : template.length using Nat.strongRecOn generalizing template with
  | ind n ih =>
    match template with
    | [] => exact .nil
    | c :: rest =>
      have shorter : rest.length < n := by
        rw [← hn]
        exact Nat.lt_succ_self _
      by_cases outside : c ≠ '\x7b'
      · rw [fill_cons outside]
        exact .plain outside (ih _ shorter rest rfl)
      rw [ne_eq, Classical.not_not] at outside
      subst outside
      by_cases ends : '\x7d' ∈ rest
      · obtain ⟨name, rest', hrest, closed⟩ := List.eq_append_cons_of_mem ends
        subst hrest
        have shorter' : rest'.length < n := by
          rw [List.length_append, List.length_cons] at shorter
          omega
        have filled := ih _ shorter' rest' rfl
        rw [← List.cons_append, fill_slot closed]
        cases hv : value? (String.ofList name) with
        | none =>
          have hkept : (Piece.slot name).fill value? ++ fill value? rest' =
              '\x7b' :: name ++ '\x7d' :: fill value? rest' := by
            simp [Piece.fill, hv, Piece.text]
          rw [hkept]
          exact .unvalued closed hv filled
        | some value =>
          rw [Piece.fill, hv]
          exact .valued closed hv filled
      · rw [fill_unclosed ends]
        exact .unclosed ends

/-- **The rules describe the filling**: they give each template one text. -/
theorem filled_iff {template text : List Char} :
    Filled value? template text ↔ text = fill value? template := by
  refine ⟨Filled.eq_fill, ?_⟩
  rintro rfl
  exact filled_fill template

theorem renders_render (template : String) (values : List (String × String)) :
    Renders (fun name => Entries.find? name values) template (render template values) := by
  rw [Renders, render, String.toList_ofList]
  exact filled_fill template.toList

end Template

/-! ## The tokens of a message -/

namespace Constraint

theorem code_ne_field (c : Constraint) : c.code ≠ "field" := by
  cases c <;> decide

theorem mem_tokens {c : Constraint} {token : String} (h : token ∈ c.tokens) : token = c.code := by
  unfold tokens at h
  split at h
  · cases h
  · exact List.mem_singleton.1 h

/-- **What the tokens of a message stand for**: `field` for the name of the field, and the
constraint's own token, if it has one, for the literal by which the rule states the constraint. -/
def tokenValue? (c : Constraint) (field : String) (literal : Option String) (token : String) :
    Option String :=
  if token = "field" then some field
  else if token ∈ c.tokens then literal
  else none

end Constraint

namespace Messages

/-- **The slots of a template that have a value** are the tokens of the constraint. Whatever else a
failure carries has none, and of several values under the constraint's own token the first counts. -/
theorem find?_slotValues_eq_tokenValue? (f : Failure) (field : String) :
    (fun token => Entries.find? token (slotValues f field)) =
      f.constraint.tokenValue? field (f.param? f.constraint.code) := by
  funext token
  unfold slotValues Constraint.tokenValue?
  rw [Entries.find?_append, Entries.find?_filter]
  by_cases hfield : token = "field"
  · subst hfield
    have hnot : "field" ∉ f.constraint.tokens :=
      fun h => f.constraint.code_ne_field (Constraint.mem_tokens h).symm
    simp [hnot, Entries.find?]
  · by_cases hown : token ∈ f.constraint.tokens
    · rw [← Constraint.mem_tokens hown]
      simp [hown, hfield, Ne.symm hfield, Entries.find?, Failure.param?]
    · simp [hown, hfield, Ne.symm hfield, Entries.find?]

/-- For a failure that carries its literal and nothing else, the own token stands for the literal. -/
theorem find?_slotValues {f : Failure} {literal : Option String}
    (hparams : f.params = (literal.map fun text => (f.constraint.code, text)).toList)
    (field : String) :
    (fun token => Entries.find? token (slotValues f field)) =
      f.constraint.tokenValue? field literal := by
  have hliteral : f.param? f.constraint.code = literal := by
    rw [Failure.param?, hparams]
    cases literal <;> simp [Entries.find?]
  rw [find?_slotValues_eq_tokenValue?, hliteral]

end Messages

end FormCheck
