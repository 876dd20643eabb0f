import FormCheck.Dict

/-!
# Message templates

A template is a text with slots: a slot is an opening brace, a name, and the next closing brace.
Filling a template puts the value of each named slot in its place. A slot whose name has no value
stands for itself, and so does an opening brace that is never closed.

`Template.render` is the function `render`; `Template.fill` is its loop, on characters.

* `pieces_text`: the pieces of a template spell the template.
* `fill_append`: a template that does not end inside an open slot is filled apart from what
  follows it.
* `fill_none`: a template whose slots have no values is left as it is.
-/

namespace FormCheck

/-- One piece of a template. -/
inductive Piece where
  /-- A character that stands for itself. -/
  | plain (c : Char)
  /-- A slot with its name. -/
  | slot (name : List Char)
deriving DecidableEq

namespace Piece

/-- The characters of a piece in its template. -/
def text : Piece → List Char
  | plain c => [c]
  | slot name => '\x7b' :: name ++ ['\x7d']

/-- What a piece becomes when slots are filled: a slot without a value stays as it is. -/
def fill (value? : String → Option String) : Piece → List Char
  | plain c => [c]
  | slot name =>
    match value? (String.ofList name) with
    | some value => value.toList
    | none => (slot name).text

end Piece

namespace Template

/-- Cuts a template into pieces. `inside` is the name of an open slot so far, last character
first. -/
def cut : Option (List Char) → List Char → List Piece
  | none, [] => []
  | none, c :: rest => if c = '\x7b' then cut (some []) rest else .plain c :: cut none rest
  | some name, [] => ('\x7b' :: name.reverse).map .plain
  | some name, c :: rest =>
    if c = '\x7d' then .slot name.reverse :: cut none rest else cut (some (c :: name)) rest

/-- The pieces of a template. -/
def pieces (template : List Char) : List Piece := cut none template

/-- The template with its slots filled. -/
def fill (value? : String → Option String) (template : List Char) : List Char :=
  (pieces template).flatMap (·.fill value?)

/-- Whether a template, read from the given state on, ends inside an open slot. -/
def endsInside : Option (List Char) → List Char → Bool
  | inside, [] => inside.isSome
  | none, c :: rest => endsInside (if c = '\x7b' then some [] else none) rest
  | some name, c :: rest => endsInside (if c = '\x7d' then none else some (c :: name)) rest

/-- What an open slot has contributed to the template so far. -/
def opened : Option (List Char) → List Char
  | none => []
  | some name => '\x7b' :: name.reverse

theorem cut_text (inside : Option (List Char)) (cs : List Char) :
    (cut inside cs).flatMap Piece.text = opened inside ++ cs := by
  have plain_text : ∀ l : List Char, (l.map Piece.plain).flatMap Piece.text = l := by
    intro l
    induction l with
    | nil => rfl
    | cons c rest ih => simp [Piece.text, ih]
  fun_induction cut inside cs with
  | case1 => rfl
  | case2 rest ih => simp [ih, opened]
  | case3 c rest _ ih => simp [Piece.text, ih, opened]
  | case4 name => rw [plain_text]; simp [opened]
  | case5 name rest ih => simp [Piece.text, ih, opened]
  | case6 name c rest _ ih => simp [ih, opened]

/-- The pieces of a template spell the template. -/
theorem pieces_text (template : List Char) : (pieces template).flatMap Piece.text = template := by
  simp [pieces, cut_text, opened]

theorem cut_append {inside : Option (List Char)} {as : List Char} (bs : List Char)
    (h : endsInside inside as = false) : cut inside (as ++ bs) = cut inside as ++ cut none bs := by
  induction as generalizing inside with
  | nil => cases inside <;> simp_all [endsInside, cut]
  | cons c rest ih =>
    cases inside with
    | none =>
      by_cases hc : c = '\x7b'
      · simp only [endsInside, hc, if_true] at h
        simp [cut, hc, ih h]
      · simp only [endsInside, hc, if_false] at h
        simp [cut, hc, ih h]
    | some name =>
      by_cases hc : c = '\x7d'
      · simp only [endsInside, hc, if_true] at h
        simp [cut, hc, ih h]
      · simp only [endsInside, hc, if_false] at h
        simp [cut, hc, ih h]

/-- A template that does not end inside an open slot is filled apart from what follows it. -/
theorem fill_append {as : List Char} (bs : List Char) (value? : String → Option String)
    (h : endsInside none as = false) : fill value? (as ++ bs) = fill value? as ++ fill value? bs := by
  simp [fill, pieces, cut_append bs h]

/-- A template whose slots have no values is left as it is. -/
theorem fill_none (template : List Char) : fill (fun _ => none) template = template := by
  have : Piece.fill (fun _ => none) = Piece.text := by
    funext p
    cases p <;> rfl
  rw [fill, this, pieces_text]

/-- Fills a template from a list of named values, of which the first with a name counts. -/
def render (template : String) (values : List (String × String)) : String :=
  String.ofList (fill (fun name => Entries.find? name values) template.toList)

end Template

end FormCheck
