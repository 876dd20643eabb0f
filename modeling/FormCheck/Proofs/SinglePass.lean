import FormCheck.Proofs.Rendering

/-!
# Templates are filled in a single pass

A template is read once, from the left to the right, and what is put into a slot is not read again.
The filling is defined by a state machine over characters; here it is told slot by slot.

`Template.Scan` is the loop of the function `render`, with what it has written and what it still has
to read.

* `Template.Closed` are the templates in which every slot that opens is closed again, and
  `Template.Token` says which names stand in the slots of a template. Both are said by the first
  opening brace and the first closing brace after it. `Template.closed_of_endsInside` and
  `Template.Closed.endsInside` tie the former to the state machine.
* `Template.fill_eq_self`: a template is left as it is if the values of its tokens are the tokens.
* `Template.Scan` is a scan in progress, and `Template.Scan.turn?` is one turn of it: it copies the
  text up to the first opening brace and fills the slot. `Template.Scan.fill_of_turn?` says what a
  turn preserves, `Template.Scan.count_of_turn?` that it comes closer to the end, and
  `Template.Scan.exists_ends` what a whole scan gives.
* **`Template.render_single_pass`**: templates are filled part by part, a value stands in the result
  as it is, templates without values are not touched, and every scan comes to its end.
-/

namespace FormCheck

namespace Template

/-! ## Closed templates and tokens -/

/-- **A closed template**: read from the left, every opening brace outside of a slot opens one,
which ends at the next closing brace. -/
inductive Closed : List Char → Prop
  | nil : Closed []
  | plain {c : Char} {rest : List Char} (outside : c ≠ '\x7b') (closed : Closed rest) :
      Closed (c :: rest)
  | slot {name rest : List Char} (ends : '\x7d' ∉ name) (closed : Closed rest) :
      Closed ('\x7b' :: name ++ '\x7d' :: rest)

/-- **A token of a template**: what stands in one of its slots. -/
def Token (template name : List Char) : Prop :=
  ∃ before rest, Closed before ∧ '\x7d' ∉ name ∧
    template = before ++ '\x7b' :: name ++ '\x7d' :: rest

/-- **Along a template**: it is empty, or begins with a character outside of slots, or with a slot,
or with a brace that is never closed. -/
theorem scan_induction {motive : List Char → Prop} (nil : motive [])
    (plain : ∀ c rest, c ≠ '\x7b' → motive rest → motive (c :: rest))
    (slot : ∀ name rest, '\x7d' ∉ name → motive rest → motive ('\x7b' :: name ++ '\x7d' :: rest))
    (unclosed : ∀ rest, '\x7d' ∉ rest → motive ('\x7b' :: rest)) (template : List Char) :
    motive template := by
  have hfilled := @filled_fill (fun _ => none) template
  generalize fill (fun _ => none) template = text at hfilled
  induction hfilled with
  | nil => exact nil
  | plain outside _ ih => exact plain _ _ outside ih
  | valued _ has => cases has
  | unvalued ends _ _ ih => exact slot _ _ ends ih
  | unclosed never => exact unclosed _ never

theorem endsInside_slot {name : List Char} (rest : List Char) (ends : '\x7d' ∉ name)
    (seen : List Char) :
    endsInside (some seen) (name ++ '\x7d' :: rest) = endsInside none rest := by
  induction name generalizing seen with
  | nil => simp [endsInside]
  | cons c name ih =>
    simp only [List.mem_cons, not_or] at ends
    rw [List.cons_append, endsInside, if_neg (Ne.symm ends.1), ih ends.2]

theorem endsInside_unclosed {rest : List Char} (never : '\x7d' ∉ rest) (seen : List Char) :
    endsInside (some seen) rest = true := by
  induction rest generalizing seen with
  | nil => rfl
  | cons c rest ih =>
    simp only [List.mem_cons, not_or] at never
    rw [endsInside, if_neg (Ne.symm never.1), ih never.2]

theorem Closed.endsInside {template : List Char} (h : Closed template) :
    endsInside none template = false := by
  induction h with
  | nil => rfl
  | plain outside _ ih => rw [Template.endsInside, if_neg outside, ih]
  | slot ends _ ih =>
    rw [List.cons_append, Template.endsInside, if_pos rfl, endsInside_slot _ ends, ih]

theorem closed_of_endsInside (template : List Char) :
    endsInside none template = false → Closed template := by
  induction template using scan_induction with
  | nil => exact fun _ => .nil
  | plain c rest outside ih =>
    intro h
    rw [endsInside, if_neg outside] at h
    exact .plain outside (ih h)
  | slot name rest ends ih =>
    intro h
    rw [List.cons_append, endsInside, if_pos rfl, endsInside_slot rest ends] at h
    exact .slot ends (ih h)
  | unclosed rest never =>
    intro h
    rw [endsInside, if_pos rfl, endsInside_unclosed never] at h
    cases h

/-! ## Templates that are left as they are -/

theorem Token.cons {rest name : List Char} {c : Char} (outside : c ≠ '\x7b')
    (h : Token rest name) : Token (c :: rest) name := by
  obtain ⟨before, after, closed, ends, rfl⟩ := h
  exact ⟨c :: before, after, .plain outside closed, ends, by simp⟩

theorem Token.slot {rest name own : List Char} (ends : '\x7d' ∉ own) (h : Token rest name) :
    Token ('\x7b' :: own ++ '\x7d' :: rest) name := by
  obtain ⟨before, after, closed, ends', rfl⟩ := h
  exact ⟨'\x7b' :: own ++ '\x7d' :: before, after, .slot ends closed, ends', by simp⟩

variable {value? : String → Option String}

/-- **A template is left as it is** if each of its tokens has no value, or the token in braces. -/
theorem fill_eq_self (template : List Char)
    (h : ∀ name, Token template name → ∀ value, value? (String.ofList name) = some value →
      value.toList = '\x7b' :: name ++ ['\x7d']) : fill value? template = template := by
  induction template using scan_induction with
  | nil => rfl
  | plain c rest outside ih =>
    rw [fill_cons outside, ih fun name hname => h name (hname.cons outside)]
  | slot name rest ends ih =>
    have hown : Token ('\x7b' :: name ++ '\x7d' :: rest) name := ⟨[], rest, .nil, ends, rfl⟩
    have hslot : (Piece.slot name).fill value? = '\x7b' :: name ++ ['\x7d'] := by
      cases hvalue : value? (String.ofList name) with
      | none =>
        rw [Piece.fill, hvalue]
        rfl
      | some value =>
        rw [Piece.fill, hvalue]
        exact h name hown value hvalue
    rw [fill_slot ends, hslot, ih fun other hother => h other (hother.slot ends)]
    simp
  | unclosed rest never => exact fill_unclosed never

/-! ## One slot alone -/

theorem toList_slotText (name : String) :
    ("\x7b" ++ name ++ "\x7d").toList = '\x7b' :: name.toList ++ ['\x7d'] := by simp

theorem render_slot {name : String} (ends : '\x7d' ∉ name.toList)
    (values : List (String × String)) :
    render ("\x7b" ++ name ++ "\x7d") values =
      (Entries.find? name values).getD ("\x7b" ++ name ++ "\x7d") := by
  rw [render, toList_slotText, fill_slot ends, Piece.fill, String.ofList_toList]
  cases Entries.find? name values with
  | none =>
    apply String.toList_injective
    simp [Piece.text, fill, pieces, cut]
  | some value => simp [fill, pieces, cut]

/-! ## Turn by turn -/

/-- The parts of a text before and after the first occurrence of a character. -/
def cutAt? (mark : Char) : List Char → Option (List Char × List Char)
  | [] => none
  | c :: rest =>
    if c = mark then some ([], rest)
    else (cutAt? mark rest).map fun (before, after) => (c :: before, after)

theorem cutAt?_eq_none_iff {mark : Char} {cs : List Char} : cutAt? mark cs = none ↔ mark ∉ cs := by
  induction cs with
  | nil => simp [cutAt?]
  | cons c rest ih =>
    by_cases hc : c = mark
    · simp [cutAt?, hc]
    · simp [cutAt?, hc, ih, Ne.symm hc]

theorem of_cutAt?_eq_some {mark : Char} {cs before after : List Char}
    (h : cutAt? mark cs = some (before, after)) : cs = before ++ mark :: after ∧ mark ∉ before := by
  induction cs generalizing before with
  | nil => cases h
  | cons c rest ih =>
    unfold cutAt? at h
    split at h
    case isTrue hc =>
      cases h
      exact ⟨by rw [hc, List.nil_append], List.not_mem_nil⟩
    case isFalse hc =>
      obtain ⟨⟨before', after'⟩, hrest, heq⟩ := Option.map_eq_some_iff.1 h
      cases heq
      obtain ⟨rfl, hnot⟩ := ih hrest
      refine ⟨rfl, ?_⟩
      rw [List.mem_cons, not_or]
      exact ⟨Ne.symm hc, hnot⟩

/-- **A scan in progress**: what is written so far, and what is still to be read. -/
structure Scan where
  written : List Char
  rest : List Char

namespace Scan

/-- The beginning of a scan. -/
def start (template : List Char) : Scan := ⟨[], template⟩

/-- **One turn of a scan.** The text before the first opening brace is written as it is, and after
it the slot that ends at the next closing brace, filled. Without such a slot no turn is left. -/
def turn? (value? : String → Option String) (s : Scan) : Option Scan :=
  match cutAt? '\x7b' s.rest with
  | none => none
  | some (before, after) =>
    match cutAt? '\x7d' after with
    | none => none
    | some (name, rest) =>
      some ⟨s.written ++ before ++ (Piece.slot name).fill value?, rest⟩

/-- **A scan that comes to its end** after so many turns. What is not read by then is written as it
is. -/
inductive Ends (value? : String → Option String) : Nat → Scan → List Char → Prop
  | done {s : Scan} (last : s.turn? value? = none) : Ends value? 0 s (s.written ++ s.rest)
  | turn {turns : Nat} {s s' : Scan} {text : List Char} (next : s.turn? value? = some s')
      (ends : Ends value? turns s' text) : Ends value? (turns + 1) s text

variable {s s' : Scan}

theorem fill_plain_append {before : List Char} (outside : '\x7b' ∉ before) (rest : List Char) :
    fill value? (before ++ rest) = before ++ fill value? rest := by
  induction before with
  | nil => rfl
  | cons c before ih =>
    simp only [List.mem_cons, not_or] at outside
    rw [List.cons_append, fill_cons (Ne.symm outside.1), ih outside.2, List.cons_append]

/-- A turn has a slot to fill, the first one of what is still to be read. -/
theorem of_turn?_eq_some (h : s.turn? value? = some s') :
    ∃ before name, s.rest = before ++ '\x7b' :: name ++ '\x7d' :: s'.rest ∧ '\x7b' ∉ before ∧
      '\x7d' ∉ name ∧ s'.written = s.written ++ before ++ (Piece.slot name).fill value? := by
  unfold turn? at h
  split at h
  · cases h
  rename_i before after hopen
  split at h
  · cases h
  rename_i name rest hclose
  cases h
  obtain ⟨hrest, outside⟩ := of_cutAt?_eq_some hopen
  obtain ⟨rfl, ends⟩ := of_cutAt?_eq_some hclose
  exact ⟨before, name, by simp [hrest], outside, ends, rfl⟩

/-- **What a turn preserves**: what is written, together with what is still to be filled. -/
theorem fill_of_turn? (h : s.turn? value? = some s') :
    s'.written ++ fill value? s'.rest = s.written ++ fill value? s.rest := by
  obtain ⟨before, name, hrest, outside, ends, hwritten⟩ := of_turn?_eq_some h
  have hsplit : s.rest = before ++ ('\x7b' :: name ++ '\x7d' :: s'.rest) := by simp [hrest]
  rw [hsplit, hwritten, fill_plain_append outside, fill_slot ends]
  simp

/-- **A turn comes closer to the end**: a closing brace is used up. -/
theorem count_of_turn? (h : s.turn? value? = some s') :
    s'.rest.count '\x7d' < s.rest.count '\x7d' := by
  obtain ⟨before, name, hrest, -, -, -⟩ := of_turn?_eq_some h
  rw [hrest, List.count_append, List.count_cons_self]
  omega

/-- Where there is no turn left, there is nothing left to fill. -/
theorem fill_of_no_turn (h : s.turn? value? = none) : fill value? s.rest = s.rest := by
  unfold turn? at h
  split at h
  case h_1 hopen =>
    have hplain := @fill_plain_append value? _ (cutAt?_eq_none_iff.1 hopen) []
    rw [List.append_nil] at hplain
    exact hplain.trans (List.append_nil _)
  case h_2 before after hopen =>
    split at h
    case h_1 hclose =>
      obtain ⟨hrest, outside⟩ := of_cutAt?_eq_some hopen
      rw [hrest, fill_plain_append outside, fill_unclosed (cutAt?_eq_none_iff.1 hclose)]
    case h_2 => cases h

/-- **Every scan comes to its end**, with no more turns than there are closing braces, and then has
written what filling makes of the rest. -/
theorem exists_ends (s : Scan) :
    ∃ turns ≤ s.rest.count '\x7d', Ends value? turns s (s.written ++ fill value? s.rest) := by
  induction hn : s.rest.count '\x7d' using Nat.strongRecOn generalizing s with
  | ind n ih =>
    cases hturn : s.turn? value? with
    | none =>
      rw [fill_of_no_turn hturn]
      exact ⟨0, Nat.zero_le _, .done hturn⟩
    | some s' =>
      have hless : s'.rest.count '\x7d' < n := hn ▸ count_of_turn? hturn
      obtain ⟨turns, hle, hends⟩ := ih _ hless s' rfl
      rw [fill_of_turn? hturn] at hends
      exact ⟨turns + 1, Nat.lt_of_le_of_lt hle hless, .turn hturn hends⟩

end Scan

/-! ## The laws of filling -/

/-- **A template is filled in a single pass.** What follows a closed template is filled apart from
it. A slot alone becomes the first value of its name, as it is, or stays. A template is left as it
is if every value is its own token, and if its tokens have no values. And the scan of a template
comes to its end, turn by turn. -/
theorem render_single_pass (values : List (String × String)) :
    (∀ t₁ t₂ : String, Closed t₁.toList →
      render (t₁ ++ t₂) values = render t₁ values ++ render t₂ values) ∧
    (∀ name : String, '\x7d' ∉ name.toList →
      (∀ before value after, values = before ++ (name, value) :: after →
        name ∉ before.map Prod.fst → render ("\x7b" ++ name ++ "\x7d") values = value) ∧
      (name ∉ values.map Prod.fst →
        render ("\x7b" ++ name ++ "\x7d") values = "\x7b" ++ name ++ "\x7d")) ∧
    (∀ t : String, (∀ e ∈ values, e.2 = "\x7b" ++ e.1 ++ "\x7d") → render t values = t) ∧
    (∀ t : String, (∀ name, Token t.toList name → String.ofList name ∉ values.map Prod.fst) →
      render t values = t) ∧
    ∀ t : String, ∃ turns ≤ t.toList.count '\x7d',
      Scan.Ends (fun name => Entries.find? name values) turns (.start t.toList)
        (render t values).toList := by
  refine ⟨fun t₁ t₂ closed => ?_, fun name ends => ⟨?_, fun absent => ?_⟩, fun t own => ?_,
    fun t absent => ?_, fun t => ?_⟩
  · rw [render, String.toList_append, fill_append _ _ closed.endsInside, String.ofList_append]
    rfl
  · rintro before value after rfl first
    rw [render_slot ends, Entries.find?_of_first first, Option.getD_some]
  · rw [render_slot ends, Entries.find?_eq_none_iff.2 absent, Option.getD_none]
  · have hfill : fill (fun name => Entries.find? name values) t.toList = t.toList := by
      refine fill_eq_self _ fun name _ value hvalue => ?_
      have hown : value = "\x7b" ++ String.ofList name ++ "\x7d" :=
        own _ (Entries.mem_of_find? hvalue)
      rw [hown, toList_slotText, String.toList_ofList]
    rw [render, hfill, String.ofList_toList]
  · have hfill : fill (fun name => Entries.find? name values) t.toList = t.toList := by
      refine fill_eq_self _ fun name htoken value hvalue => ?_
      have hnone := Entries.find?_eq_none_iff.2 (absent name htoken)
      cases hnone.symm.trans hvalue
    rw [render, hfill, String.ofList_toList]
  · obtain ⟨turns, hle, hends⟩ :=
      @Scan.exists_ends (fun name => Entries.find? name values) (.start t.toList)
    refine ⟨turns, hle, ?_⟩
    rw [render, String.toList_ofList]
    exact hends

end Template

namespace Sample

/-- Two values, of which one looks like a slot for the other. -/
def looped : List (String × String) := [("a", "\x7bb\x7d"), ("b", "x")]

end Sample

open Sample in
/-- The value that looks like a slot is not filled again, stray braces stay, and so does a slot that
is never closed. -/
theorem render_single_pass_looped :
    Template.Closed "\x7ba\x7d \x7d ".toList ∧
    Template.render ("\x7ba\x7d \x7d " ++ "\x7ba") looped = "\x7bb\x7d \x7d \x7ba" ∧
    '\x7d' ∉ "a".toList ∧ "a" ∉ ([] : List (String × String)).map Prod.fst ∧
    Template.render ("\x7b" ++ "a" ++ "\x7d") looped = "\x7bb\x7d" ∧
    "c" ∉ looped.map Prod.fst ∧
    Template.render ("\x7b" ++ "c" ++ "\x7d") looped = "\x7bc\x7d" ∧
    (∀ e ∈ [("k", "\x7bk\x7d")], e.2 = "\x7b" ++ e.1 ++ "\x7d") ∧
    Template.render "\x7bk\x7d \x7b\x7bk\x7d" [("k", "\x7bk\x7d")] = "\x7bk\x7d \x7b\x7bk\x7d" ∧
    (∀ name, Template.Token "\x7ba \x7bb".toList name →
      String.ofList name ∉ looped.map Prod.fst) ∧
    Template.render "\x7ba \x7bb" looped = "\x7ba \x7bb" := by
  obtain ⟨happend, hslot, -, habsent, -⟩ := Template.render_single_pass looped
  obtain ⟨-, -, hown, -, -⟩ := Template.render_single_pass [("k", "\x7bk\x7d")]
  have hclosed : Template.Closed "\x7ba\x7d \x7d ".toList :=
    Template.closed_of_endsInside _ (by decide)
  have hkey : ∀ e ∈ [("k", "\x7bk\x7d")], e.2 = "\x7b" ++ e.1 ++ "\x7d" := by decide
  -- without a closing brace there is no slot
  have htokens : ∀ name, Template.Token "\x7ba \x7bb".toList name →
      String.ofList name ∉ looped.map Prod.fst := by
    rintro name ⟨before, rest, -, -, h⟩
    have hbrace : '\x7d' ∈ "\x7ba \x7bb".toList := by simp [h]
    exact absurd hbrace (by decide)
  exact ⟨hclosed, (happend _ _ hclosed).trans (by decide +kernel), by decide, by decide,
    (hslot "a" (by decide)).1 [] "\x7bb\x7d" [("b", "x")] rfl (by decide), by decide,
    (hslot "c" (by decide)).2 (by decide), hkey, hown _ hkey, htokens, habsent _ htokens⟩

end FormCheck
