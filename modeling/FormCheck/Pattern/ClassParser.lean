import FormCheck.Pattern.Lexeme

/-!
# Classes in brackets

A class in brackets lists characters, ranges, named classes and further classes in brackets, and
may combine what stands left and right of `&&`, `--` and `~~`. The parser keeps the classes that are
still open; each step takes at least one character.
-/

namespace FormCheck.Pattern

open Unicode

/-- A class whose closing bracket has not been reached. -/
structure OpenClass where
  negated : Bool
  /-- What stands left of the last operation, if there is one. -/
  pending : Option (SetOp × ClassTree) := none
  /-- The items since then, last one first. -/
  items : List ClassTree

namespace OpenClass

/-- The class with one more item. -/
def push (c : OpenClass) (item : ClassTree) : OpenClass := { c with items := item :: c.items }

/-- Everything read so far as one set. -/
def content (c : OpenClass) : ClassTree :=
  let right := ClassTree.ofItems c.items.reverse
  match c.pending with
  | some (o, left) => .op o left right
  | none => right

/-- The class after an operation sign. -/
def operate (c : OpenClass) (o : SetOp) : OpenClass :=
  { c with pending := some (o, c.content), items := [] }

/-- The class as an item. -/
def close (c : OpenClass) : ClassTree := .bracketed c.negated c.content

end OpenClass

/-- The classes of ASCII characters by name. -/
def asciiClasses : List (String × CharSet) :=
  let digit := CharSet.range 0x30 0x39
  let upper := CharSet.range 0x41 0x5A
  let lower := CharSet.range 0x61 0x7A
  let alpha := CharSet.union upper lower
  [ ("alnum", .union digit alpha),
    ("alpha", alpha),
    ("ascii", .range 0 0x7F),
    ("blank", .union (.single '\t') (.single ' ')),
    ("cntrl", .union (.range 0 0x1F) (.range 0x7F 0x7F)),
    ("digit", digit),
    ("graph", .range 0x21 0x7E),
    ("lower", lower),
    ("print", .range 0x20 0x7E),
    ("punct", .unions [.range 0x21 0x2F, .range 0x3A 0x40, .range 0x5B 0x60, .range 0x7B 0x7E]),
    ("space", .union (.range 0x09 0x0D) (.single ' ')),
    ("upper", upper),
    ("word", .unions [digit, alpha, .single '_']),
    ("xdigit", .unions [digit, .range 0x41 0x46, .range 0x61 0x66]) ]

/-- A named class of ASCII characters, from behind its opening bracket on. -/
def readAsciiClass? : Lexer ClassTree
  | ':' :: rest =>
    let (negated, rest) := match rest with
      | '^' :: rest => (true, rest)
      | rest => (false, rest)
    let name := rest.takeWhile (· != ':')
    match rest.dropWhile (· != ':') with
    | ':' :: ']' :: rest =>
      (asciiClasses.find? fun row => row.1.toList = name).map fun row =>
        (.ascii row.2 negated, rest)
    | _ => none
  | _ => none

/-- Opens a class from behind its bracket on. Hyphens at its beginning stand for themselves, and so
does a closing bracket there. -/
def openClass (verbose : Bool) (cs : List Char) : OpenClass × List Char :=
  let cs := skip verbose cs
  let (negated, cs) := match cs with
    | '^' :: rest => (true, skip verbose rest)
    | cs => (false, cs)
  let (hyphens, cs) := hyphensAt cs
  match hyphens, cs with
  | [], ']' :: rest => (⟨negated, none, [.literal ⟨']', false⟩]⟩, skip verbose rest)
  | hyphens, cs => (⟨negated, none, hyphens⟩, cs)
where
  /-- The hyphens at the head of a text. -/
  hyphensAt (cs : List Char) : List ClassTree × List Char :=
    match cs with
    | '-' :: rest =>
      have := skip_length verbose rest
      let (more, cs) := hyphensAt (skip verbose rest)
      (.literal ⟨'-', false⟩ :: more, cs)
    | cs => ([], cs)
  termination_by cs.length

/-- The character after the first one, past blanks and the sign of a comment where they do not
count. -/
def peekVerbose (verbose : Bool) : List Char → Option Char
  | [] => none
  | _ :: rest =>
    if verbose then
      match rest.dropWhile isBlank with
      | '#' :: rest => (rest.dropWhile isBlank).head?
      | cs => cs.head?
    else rest.head?

/-- One character or escape of a class. -/
def readClassAtom? (verbose : Bool) : Lexer Tree
  | [] => none
  | '\\' :: rest => readEscape? verbose rest
  | c :: rest => some (.literal ⟨c, false⟩, rest)

/-- An expression as an item of a class: only characters and named classes can be one. -/
def classItem? : Tree → Option ClassTree
  | .literal l => some (.literal l)
  | .named c => some (.named c)
  | _ => none

/-- A range, or a single item of a class. A hyphen before a closing bracket or another hyphen makes
no range. -/
def readRange? (verbose : Bool) : Lexer ClassTree := fun cs => do
  let (first, rest) ← readClassAtom? verbose cs
  match skip verbose rest with
  | [] => none
  | '-' :: rest =>
    let next := peekVerbose verbose ('-' :: rest)
    if next = some ']' ∨ next = some '-' then (classItem? first).map fun item => (item, '-' :: rest)
    else
      let (last, rest) ← readClassAtom? verbose (skip verbose rest)
      match first, last with
      | .literal a, .literal b => if a.char ≤ b.char then some (.range a b, rest) else none
      | _, _ => none
  | rest => (classItem? first).map fun item => (item, rest)

/-- What a step of the parser leads to: a finished class, or classes that are still open, the
innermost one first. -/
inductive ClassStep where
  | done (negated : Bool) (inner : ClassTree)
  | more (top : OpenClass) (below : List OpenClass)

/-- Takes the next part of a class. -/
def classStep? (verbose : Bool) (top : OpenClass) (below : List OpenClass) : Lexer ClassStep :=
  fun cs =>
    match skip verbose cs with
    | [] => none
    | '[' :: rest =>
      match readAsciiClass? rest with
      | some (item, rest) => some (.more (top.push item) below, rest)
      | none =>
        let (inner, rest) := openClass verbose rest
        some (.more inner (top :: below), rest)
    | ']' :: rest =>
      match below with
      | [] => some (.done top.negated top.content, rest)
      | outer :: below => some (.more (outer.push top.close) below, rest)
    | '&' :: '&' :: rest => some (.more (top.operate .inter) below, rest)
    | '-' :: '-' :: rest => some (.more (top.operate .diff) below, rest)
    | '~' :: '~' :: rest => some (.more (top.operate .symmDiff) below, rest)
    | cs => (readRange? verbose cs).map fun (item, rest) => (.more (top.push item) below, rest)

/-- Takes parts of classes until the outermost one is closed. Every part takes characters. -/
def classParts? (verbose : Bool) (top : OpenClass) (below : List OpenClass) (cs : List Char) :
    Option (Tree × List Char) :=
  match classStep? verbose top below cs with
  | none => none
  | some (.done negated inner, rest) => some (.bracketed negated inner, rest)
  | some (.more top below, rest) =>
    if rest.length < cs.length then classParts? verbose top below rest else none
termination_by cs.length

/-- A class from behind its opening bracket on. -/
def readClass? (verbose : Bool) : Lexer Tree := fun cs =>
  let (top, rest) := openClass verbose cs
  classParts? verbose top [] rest

end FormCheck.Pattern
