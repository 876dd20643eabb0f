import FormCheck.Pattern.ClassParser

/-!
# Parsing patterns

`Tree.ofText?` reads a pattern. A pattern that is not well-formed has no tree, nor has one whose
parts are nested more than 250 deep.

The parser keeps the groups that are still open; each step takes at least one character.
-/

namespace FormCheck.Pattern

/-- The part of a pattern that follows one opening parenthesis, as far as it was read. -/
structure OpenGroup where
  /-- The flags that the group sets. -/
  changes : FlagChanges := []
  /-- Finished branches, last one first. -/
  branches : List Tree := []
  /-- The items of the branch being read, last one first. -/
  items : List Tree := []
  /-- Whether blanks do not count here. -/
  verbose : Bool := false

namespace OpenGroup

/-- The group with one more item. -/
def push (g : OpenGroup) (t : Tree) : OpenGroup := { g with items := t :: g.items }

/-- The group at the beginning of a new branch. -/
def branch (g : OpenGroup) : OpenGroup :=
  { g with branches := Tree.ofItems g.items.reverse :: g.branches, items := [] }

/-- Everything read so far as one expression. -/
def content (g : OpenGroup) : Tree := Tree.ofBranches g.branch.branches.reverse

/-- Whether blanks count after a change of flags. -/
def verboseAfter (changes : FlagChanges) (verbose : Bool) : Bool :=
  match changes.find? (·.1 = .verbose) with
  | some change => change.2
  | none => verbose

/-- The group with its last item repeated. Flags cannot be repeated, nor can nothing at all. -/
def repeatLast? (g : OpenGroup) (min : Nat) (max : Option Nat) : Option OpenGroup :=
  match g.items with
  | [] | .empty :: _ | .flags _ :: _ => none
  | t :: rest => some { g with items := .repetition t min max :: rest }

end OpenGroup

/-- What was read of a pattern. -/
structure State where
  /-- The innermost open group; the whole pattern counts as one. -/
  top : OpenGroup := {}
  /-- The groups around it, innermost first. -/
  below : List OpenGroup := []
  /-- The names given to groups. -/
  names : List String := []

namespace State

/-- The state with one more item in the innermost group. -/
def push (s : State) (t : Tree) : State := { s with top := s.top.push t }

/-- The state inside a new group. -/
def enter (s : State) (changes : FlagChanges) : State :=
  { s with
    top := { changes, verbose := OpenGroup.verboseAfter changes s.top.verbose }
    below := s.top :: s.below }

end State

/-- A question mark after a repetition changes which match is found and not whether there is
one. -/
def skipLazy : List Char → List Char
  | '?' :: rest => rest
  | cs => cs

/-- Whether what follows a parenthesis would look around. -/
def looksAround (cs : List Char) : Bool :=
  ["?=", "?!", "?<=", "?<!"].any fun mark => mark.toList.isPrefixOf cs

/-- What follows the mark of a named group, if there is one. -/
def afterNameMark? : List Char → Option (List Char)
  | '?' :: 'P' :: '<' :: rest | '?' :: '<' :: rest => some rest
  | _ => none

/-- Reads what an opening parenthesis begins: a change of flags, or the head of a group. -/
def openGroup? (s : State) (cs : List Char) : Option (State × List Char) :=
  let cs := skip s.top.verbose cs
  if looksAround cs then none
  else
    match afterNameMark? cs with
    | some rest => do
      let (name, rest) ← readGroupName? [] rest
      if s.names.contains name then none
      else some ({ s.enter [] with names := name :: s.names }, rest)
    | none =>
      match cs with
      | '?' :: rest => do
        let ((changes, last), rest) ← readFlags? [] false false rest
        if last = ':' then some (s.enter changes, rest)
        else if changes.isEmpty then none
        else
          let s := s.push (.flags changes)
          some ({ s with top.verbose := OpenGroup.verboseAfter changes s.top.verbose }, rest)
      | cs => some (s.enter [], cs)

/-- Takes the next part of a pattern, whose first character is given. -/
def step? (s : State) (c : Char) (rest : List Char) : Option (State × List Char) :=
  let verbose := s.top.verbose
  let repeated (min : Nat) (max : Option Nat) (rest : List Char) : Option (State × List Char) :=
    (s.top.repeatLast? min max).map fun top => ({ s with top }, skipLazy rest)
  match c with
  | '(' => openGroup? s rest
  | ')' =>
    match s.below with
    | [] => none
    | outer :: below =>
      some ({ s with top := outer.push (.group s.top.changes s.top.content), below }, rest)
  | '|' => some ({ s with top := s.top.branch }, rest)
  | '[' => (readClass? verbose rest).map fun (t, rest) => (s.push t, rest)
  | '?' => repeated 0 (some 1) rest
  | '*' => repeated 0 none rest
  | '+' => repeated 1 none rest
  | '\x7b' => do
    let ((min, max), rest) ← readBounds? verbose rest
    repeated min max (skip verbose rest)
  | '\\' => (readEscape? verbose rest).map fun (t, rest) => (s.push t, rest)
  | '.' => some (s.push .dot, rest)
  | '^' => some (s.push (.anchor .lineStart), rest)
  | '$' => some (s.push (.anchor .lineEnd), rest)
  | c => some (s.push (.literal ⟨c, false⟩), rest)

/-- Takes part after part up to the end of the pattern. Every part takes characters. -/
def parts? (s : State) (cs : List Char) : Option State :=
  match skip s.top.verbose cs with
  | [] => some s
  | c :: rest =>
    match step? s c rest with
    | none => none
    | some (s, rest) => if rest.length < cs.length then parts? s rest else none
termination_by cs.length

/-- How deep the parts of a pattern may be nested. -/
def depthLimit : Nat := 250

/-- The tree of a pattern. -/
def Tree.ofText? (source : String) : Option Tree := do
  let s ← parts? {} source.toList
  let t := s.top.content
  if s.below.isEmpty && t.depth ≤ depthLimit then some t else none

end FormCheck.Pattern
