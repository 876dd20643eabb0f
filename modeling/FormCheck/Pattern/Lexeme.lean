import FormCheck.Double.Numeral
import FormCheck.Json.Reader
import FormCheck.Pattern.Syntax
import FormCheck.Text.Blank
import FormCheck.Unicode.Property

/-!
# The small parts of patterns

Readers of escapes, flags, names and counts. Each takes the characters from its own first one on and
gives back what follows; none of them succeeds on a text that is not written as it has to be.
-/

namespace FormCheck.Pattern

open Unicode

/-- A reader of one small part of a pattern. -/
abbrev Lexer (α : Type) := List Char → Option (α × List Char)

/-- What follows blanks and comments; a comment runs up to the end of its line. -/
def skipVerbose (cs : List Char) : List Char :=
  go false cs
where
  /-- Skips on, inside a comment or not. -/
  go : Bool → List Char → List Char
    | _, [] => []
    | true, c :: rest => go (c != '\n') rest
    | false, c :: rest =>
      if isBlank c then go false rest else if c = '#' then go true rest else c :: rest

/-- What follows blanks and comments where they do not count. -/
def skip (verbose : Bool) (cs : List Char) : List Char := if verbose then skipVerbose cs else cs

theorem skipVerbose_go_length (inside : Bool) (cs : List Char) :
    (skipVerbose.go inside cs).length ≤ cs.length := by
  induction cs generalizing inside with
  | nil => cases inside <;> simp [skipVerbose.go]
  | cons c rest ih =>
    cases inside with
    | true =>
      simp only [skipVerbose.go, List.length_cons]
      exact Nat.le_succ_of_le (ih _)
    | false =>
      simp only [skipVerbose.go]
      split
      · exact Nat.le_succ_of_le (ih _)
      · split
        · exact Nat.le_succ_of_le (ih _)
        · exact Nat.le_refl _

theorem skip_length (verbose : Bool) (cs : List Char) : (skip verbose cs).length ≤ cs.length := by
  unfold skip
  split
  · exact skipVerbose_go_length false cs
  · exact Nat.le_refl _

/-! ## Escapes -/

/-- The characters with a meaning of their own, which a backslash takes away. -/
def metaCharacters : List Char := "\\.+*?()|[]\x7b\x7d^$#&-~".toList

/-- Whether a backslash may stand before a character that has no meaning of its own anyway. -/
def isEscapable (c : Char) : Bool :=
  metaCharacters.contains c || (c.toNat < 0x80 && !c.isAlphanum && c != '<' && c != '>')

/-- The character with a hexadecimal code; codes of surrogates and beyond the last character have
none. -/
def ofCode? (code : Nat) : Option Char :=
  if h : code.isValidChar then some (Char.ofNatAux code h) else none

/-- The value of hexadecimal digits; nothing if there is no digit or another character. -/
def hexValue? (ds : List Char) : Option Nat :=
  if ds.isEmpty then none
  else ds.foldlM (fun n c => (Json.hexDigit? c).map fun d => n * 16 + d) 0

/-- So many hexadecimal digits, with blanks between where they do not count. -/
def hexDigits? (verbose : Bool) : Nat → Lexer (List Char)
  | 0, cs => some ([], cs)
  | _ + 1, [] => none
  | n + 1, c :: rest =>
    (hexDigits? verbose n (skip verbose rest)).map fun (ds, cs) => (c :: ds, cs)

/-- The characters up to a closing brace, with blanks left out where they do not count. -/
def braced? (verbose : Bool) (cs : List Char) : Option (List Char × List Char) :=
  match h : skip verbose cs with
  | [] => none
  | '\x7d' :: rest => some ([], rest)
  | c :: rest =>
    have : rest.length < cs.length := by
      have := skip_length verbose cs
      rw [h, List.length_cons] at this
      omega
    (braced? verbose rest).map fun (inner, cs) => (c :: inner, cs)
termination_by cs.length

/-- A character given by its code: so many digits, or any number of them in braces. -/
def readCode? (verbose : Bool) (digits : Nat) : Lexer Literal := fun cs =>
  match skip verbose cs with
  | '\x7b' :: rest => do
    let (ds, rest) ← braced? verbose rest
    let c ← (hexValue? ds).bind ofCode?
    some (⟨c, false⟩, skip verbose rest)
  | cs => do
    let (ds, rest) ← hexDigits? verbose digits cs
    let c ← (hexValue? ds).bind ofCode?
    some (⟨c, digits = 2 && c.toNat < 0x100⟩, rest)

/-- The position and length of the first of the separators in a text. -/
def splitAt? (separator cs : List Char) : Option (List Char × List Char) :=
  (List.range cs.length).findSome? fun i =>
    if separator.isPrefixOf (cs.drop i) then some (cs.take i, cs.drop (i + separator.length))
    else none

/-- The class that a text between braces names: a name, or a property with its value. -/
def propertyClass (name : List Char) (negated : Bool) : NamedClass :=
  match splitAt? ['!', '='] name with
  | some (p, v) => .valued (String.ofList p) (String.ofList v) (!negated)
  | none =>
    match (splitAt? [':'] name).or (splitAt? ['='] name) with
    | some (p, v) => .valued (String.ofList p) (String.ofList v) negated
    | none => .property (String.ofList name) negated

/-- A class given by a property: one letter, or a name in braces. -/
def readProperty? (verbose negated : Bool) : Lexer NamedClass := fun cs =>
  match skip verbose cs with
  | [] => none
  | '\x7b' :: rest => (braced? verbose rest).map fun (name, rest) => (propertyClass name negated, rest)
  | '\\' :: _ => none
  | c :: rest => some (.property (String.ofList [c]) negated, skip verbose rest)

/-- The anchors that are given by a word in braces. -/
def anchorWords : List (String × Anchor) :=
  [("start", .wordStart), ("end", .wordEnd), ("start-half", .wordStartHalf),
    ("end-half", .wordEndHalf)]

/-- A letter or a hyphen. -/
def isAnchorChar (c : Char) : Bool := c.isAlpha || c == '-'

/-- The letters and hyphens at the head of a text, with blanks left out where they do not count. -/
def anchorWord (verbose : Bool) (cs : List Char) : List Char × List Char :=
  match cs with
  | [] => ([], [])
  | c :: rest =>
    if isAnchorChar c then
      have := skip_length verbose rest
      let (word, cs) := anchorWord verbose (skip verbose rest)
      (c :: word, cs)
    else ([], c :: rest)
termination_by cs.length

/-- The anchor at a word boundary: a brace after it may name another one, unless what follows the
brace can only be a count. -/
def readBoundary? (verbose : Bool) : Lexer Anchor := fun cs =>
  match cs with
  | '\x7b' :: rest =>
    match skip verbose rest with
    | [] => none
    | c :: tail =>
      if isAnchorChar c then
        match anchorWord verbose (c :: tail) with
        | (word, '\x7d' :: rest) =>
          (anchorWords.find? fun row => row.1.toList = word).map fun row => (row.2, rest)
        | _ => none
      else some (.wordBoundary, '\x7b' :: rest)
  | cs => some (.wordBoundary, cs)

/-- What a backslash and the characters after it stand for. -/
def readEscape? (verbose : Bool) : Lexer Tree
  | [] => none
  | c :: rest =>
    let literal (x : Char) : Option (Tree × List Char) := some (.literal ⟨x, false⟩, rest)
    let short (s : ShortClass) (negated : Bool) : Option (Tree × List Char) :=
      some (.named (.short s negated), rest)
    let anchor (a : Anchor) : Option (Tree × List Char) := some (.anchor a, rest)
    match c with
    | 'x' => (readCode? verbose 2 rest).map fun (l, cs) => (.literal l, cs)
    | 'u' => (readCode? verbose 4 rest).map fun (l, cs) => (.literal l, cs)
    | 'U' => (readCode? verbose 8 rest).map fun (l, cs) => (.literal l, cs)
    | 'p' => (readProperty? verbose false rest).map fun (p, cs) => (.named p, cs)
    | 'P' => (readProperty? verbose true rest).map fun (p, cs) => (.named p, cs)
    | 'd' => short .digit false
    | 'D' => short .digit true
    | 's' => short .space false
    | 'S' => short .space true
    | 'w' => short .word false
    | 'W' => short .word true
    | 'a' => literal '\x07'
    | 'f' => literal '\x0c'
    | 't' => literal '\t'
    | 'n' => literal '\n'
    | 'r' => literal '\r'
    | 'v' => literal '\x0b'
    | 'A' => anchor .textStart
    | 'z' => anchor .textEnd
    | 'b' => (readBoundary? verbose rest).map fun (a, cs) => (.anchor a, cs)
    | 'B' => anchor .notWordBoundary
    | '<' => anchor .wordStart
    | '>' => anchor .wordEnd
    | c => if isEscapable c then literal c else none

/-! ## Counts, flags and names -/

/-- A count: digits with blanks around them, below `2 ^ 32`. -/
def readCount? (verbose : Bool) (cs : List Char) : Option (Nat × List Char) :=
  let rec digits (cs : List Char) : List Char × List Char :=
    match cs with
    | [] => ([], [])
    | c :: rest =>
      if isDigit c then
        have := skip_length verbose rest
        let (ds, cs) := digits (skip verbose rest)
        (c :: ds, cs)
      else ([], c :: rest)
  termination_by cs.length
  let (ds, rest) := digits (cs.dropWhile isBlank)
  if ds.isEmpty || 0x100000000 ≤ digitsValue ds then none
  else some (digitsValue ds, skip verbose (rest.dropWhile isBlank))

/-- The bounds of a repetition from behind the opening brace to behind the closing one. -/
def readBounds? (verbose : Bool) : Lexer (Nat × Option Nat) := fun cs => do
  let (min, cs) ← readCount? verbose (skip verbose cs)
  match cs with
  | '\x7d' :: rest => some ((min, some min), rest)
  | ',' :: rest =>
    match skip verbose rest with
    | '\x7d' :: rest => some ((min, none), rest)
    | cs => do
      let (max, cs) ← readCount? verbose cs
      match cs with
      | '\x7d' :: rest => if min ≤ max then some ((min, some max), rest) else none
      | _ => none
  | _ => none

/-- The flag with the given letter. -/
def flagOf? : Char → Option Flag
  | 'i' => some .ignoreCase
  | 'm' => some .multiLine
  | 's' => some .dotAll
  | 'U' => some .swapGreed
  | 'u' => some .unicode
  | 'R' => some .crlf
  | 'x' => some .verbose
  | _ => none

/-- Flags up to a colon or a closing parenthesis, which is given back as well. Each flag stands once
at most; a hyphen stands once at most, and clears the flags behind it, of which there is one. -/
def readFlags? (seen : FlagChanges) (minus dangling : Bool) : Lexer (FlagChanges × Char)
  | [] => none
  | c :: rest =>
    if c = ':' ∨ c = ')' then if dangling then none else some ((seen.reverse, c), rest)
    else if c = '-' then if minus then none else readFlags? seen true true rest
    else
      match flagOf? c with
      | none => none
      | some flag =>
        if seen.any (·.1 = flag) then none else readFlags? ((flag, !minus) :: seen) minus false rest

/-- The name of a group up to behind its closing bracket: letters, digits, underscores, points and
brackets, of which only letters and underscores may come first. -/
def readGroupName? (seen : List Char) : Lexer String
  | [] => none
  | '>' :: rest => if seen.isEmpty then none else some (String.ofList seen.reverse, rest)
  | c :: rest =>
    let fits :=
      if seen.isEmpty then c == '_' || Property.alphabetic.contains c
      else "_.[]".toList.contains c || Property.alphanumeric.contains c
    if fits then readGroupName? (c :: seen) rest else none

end FormCheck.Pattern
