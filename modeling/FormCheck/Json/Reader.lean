import FormCheck.Json.Number

/-!
# Reading JSON texts

`Json.ofText?` reads a text that holds exactly one value in the strict grammar: no comments, no
trailing commas, no byte order mark, no lone surrogate, no control character inside a text, and at
most 127 values nested in one another.

`Json.ofText?` reads the documents of `from_json_str` and of a `FileSource`.

The readers work on the characters that are left. `Read n α` is what a reader found together with
the characters that it left, fewer than `n` of them; the readers of nested values end because of
that bound.
-/

namespace FormCheck.Json

/-- A value that was read, and what is left of the text, shorter than `n`. -/
structure Read (n : Nat) (α : Type) where
  value : α
  rest : List Char
  rest_lt : rest.length < n

/-! ## Blanks and texts -/

/-- The four characters that may stand between values. -/
def isSeparator (c : Char) : Bool := c == ' ' || c == '\n' || c == '\t' || c == '\r'

/-- The text from the first character on that does not merely separate. -/
def skipBlank (cs : List Char) : List Char := cs.dropWhile isSeparator

theorem length_skipBlank_le (cs : List Char) : (skipBlank cs).length ≤ cs.length :=
  (List.dropWhile_sublist _).length_le

/-- The value of a hexadecimal digit. -/
def hexDigit? (c : Char) : Option Nat :=
  if '0' ≤ c ∧ c ≤ '9' then some (c.toNat - 48)
  else if 'a' ≤ c ∧ c ≤ 'f' then some (c.toNat - 87)
  else if 'A' ≤ c ∧ c ≤ 'F' then some (c.toNat - 55)
  else none

/-- The value of four hexadecimal digits. -/
def hexWord? (a b c d : Char) : Option Nat := do
  return (((← hexDigit? a) * 16 + (← hexDigit? b)) * 16 + (← hexDigit? c)) * 16 + (← hexDigit? d)

/-- The character that a backslash and one other character stand for. -/
def escaped? : Char → Option Char
  | '"' => some '"'
  | '\\' => some '\\'
  | '/' => some '/'
  | 'b' => some '\x08'
  | 'f' => some '\x0c'
  | 'n' => some '\n'
  | 'r' => some '\r'
  | 't' => some '\t'
  | _ => none

/-- The first half of a surrogate pair. -/
def isLeading (n : Nat) : Bool := 0xD800 ≤ n && n < 0xDC00

/-- The second half of a surrogate pair. -/
def isTrailing (n : Nat) : Bool := 0xDC00 ≤ n && n < 0xE000

/-- The character that a surrogate pair stands for. -/
def paired (leading trailing : Nat) : Char :=
  Char.ofNat (0x10000 + (leading - 0xD800) * 0x400 + (trailing - 0xDC00))

/-- Reads a text from behind its opening quote on; `seen` holds the characters so far, last one
first. -/
def readText (seen : List Char) : List Char → Option (String × List Char)
  | [] => none
  | '"' :: rest => some (String.ofList seen.reverse, rest)
  | '\\' :: 'u' :: a :: b :: c :: d :: rest =>
    match hexWord? a b c d with
    | none => none
    | some n =>
      if isLeading n then
        match rest with
        | '\\' :: 'u' :: e :: f :: g :: h :: rest =>
          match hexWord? e f g h with
          | none => none
          | some m => if isTrailing m then readText (paired n m :: seen) rest else none
        | _ => none
      else if isTrailing n then none
      else readText (Char.ofNat n :: seen) rest
  | '\\' :: c :: rest =>
    match escaped? c with
    | none => none
    | some c => readText (c :: seen) rest
  | c :: rest => if c < ' ' then none else readText (c :: seen) rest

theorem readText_length {seen cs : List Char} {t : String} {rest : List Char}
    (h : readText seen cs = some (t, rest)) : rest.length < cs.length := by
  fun_induction readText seen cs <;> simp_all <;> omega

/-! ## Values -/

/-- What follows a word at the head of a text. -/
def afterWord? (word cs : List Char) : Option (List Char) :=
  if word.isPrefixOf cs then some (cs.drop word.length) else none

theorem afterWord?_length {word cs rest : List Char} (hw : word ≠ [])
    (h : afterWord? word cs = some rest) : rest.length < cs.length := by
  unfold afterWord? at h
  split at h
  · rename_i hp
    simp only [Option.some.injEq] at h
    subst h
    have := List.IsPrefix.length_le (List.isPrefixOf_iff_prefix.1 hp)
    have := List.length_pos_iff.2 hw
    rw [List.length_drop]
    omega
  · simp at h

/-- A word with a fixed meaning. -/
def readWord? (cs : List Char) (word : String) (v : Json) (hw : word.toList ≠ []) :
    Option (Read cs.length Json) :=
  match h : afterWord? word.toList cs with
  | none => none
  | some rest => some ⟨v, rest, afterWord?_length hw h⟩

/-- A number. -/
def readNumber? (cs : List Char) : Option (Read cs.length Json) :=
  match scanNumber? cs with
  | none => none
  | some (parts, rest) =>
    if h : rest.length < cs.length then parts.value?.map fun v => ⟨v, rest, h⟩ else none

/-- The name at the head of a member; its colon and the separators around that are read as well. -/
def readName? (cs : List Char) : Option (Read cs.length String) :=
  match cs with
  | '"' :: rest =>
    match h : readText [] rest with
    | none => none
    | some (name, afterName) =>
      match hc : skipBlank afterName with
      | ':' :: afterColon =>
        some ⟨name, skipBlank afterColon, by
          have := readText_length h
          have := length_skipBlank_le afterColon
          have hb := length_skipBlank_le afterName
          rw [hc] at hb
          simp only [List.length_cons] at hb ⊢
          omega⟩
      | _ => none
  | _ => none

mutual

/-- Reads the value at the head of a text, with at most `depth` values nested in one another. -/
def readValue (depth : Nat) (cs : List Char) : Option (Read cs.length Json) :=
  match hcs : cs with
  | [] => none
  | '"' :: rest =>
    match h : readText [] rest with
    | none => none
    | some (t, rest') =>
      some ⟨.text t, rest', by have := readText_length h; simp only [List.length_cons]; omega⟩
  | '[' :: rest =>
    match depth with
    | 0 => none
    | depth + 1 =>
      have hb := length_skipBlank_le rest
      match hr : skipBlank rest with
      | ']' :: rest' =>
        some ⟨.array [], rest', by rw [hr] at hb; simp only [List.length_cons] at hb ⊢; omega⟩
      | rest' =>
        readItems (rest.length + 1) depth [] rest' (by rw [hr] at hb; omega)
  | '\x7b' :: rest =>
    match depth with
    | 0 => none
    | depth + 1 =>
      have hb := length_skipBlank_le rest
      match hr : skipBlank rest with
      | '\x7d' :: rest' =>
        some ⟨.object [], rest', by rw [hr] at hb; simp only [List.length_cons] at hb ⊢; omega⟩
      | rest' =>
        readMembers (rest.length + 1) depth [] rest' (by rw [hr] at hb; omega)
  | 'n' :: rest => readWord? ('n' :: rest) "null" .null (by decide)
  | 't' :: rest => readWord? ('t' :: rest) "true" (.bool true) (by decide)
  | 'f' :: rest => readWord? ('f' :: rest) "false" (.bool false) (by decide)
  | c :: rest => readNumber? (c :: rest)
termination_by (cs.length, 0)

/-- Reads the items of an array from one item on; `seen` holds those before it, last one first. -/
def readItems (n depth : Nat) (seen : List Json) (cs : List Char) (hn : cs.length < n) :
    Option (Read n Json) :=
  match readValue depth cs with
  | none => none
  | some r =>
    have hb := length_skipBlank_le r.rest
    have hr := r.rest_lt
    match hs : skipBlank r.rest with
    | ']' :: rest =>
      some ⟨.array (r.value :: seen).reverse, rest, by
        rw [hs] at hb; simp only [List.length_cons] at hb; omega⟩
    | ',' :: rest =>
      have hb' := length_skipBlank_le rest
      have : (skipBlank rest).length < cs.length := by
        rw [hs] at hb; simp only [List.length_cons] at hb; omega
      readItems n depth (r.value :: seen) (skipBlank rest) (by omega)
    | _ => none
termination_by (cs.length, 1)

/-- Reads the members of an object from one member on; `seen` holds those before it, last one
first. -/
def readMembers (n depth : Nat) (seen : List (String × Json)) (cs : List Char)
    (hn : cs.length < n) : Option (Read n Json) :=
  match readName? cs with
  | none => none
  | some name =>
    have hname := name.rest_lt
    match readValue depth name.rest with
    | none => none
    | some r =>
      have hr := r.rest_lt
      have hb := length_skipBlank_le r.rest
      match hs : skipBlank r.rest with
      | '\x7d' :: rest =>
        some ⟨.object ((name.value, r.value) :: seen).reverse, rest, by
          rw [hs] at hb; simp only [List.length_cons] at hb; omega⟩
      | ',' :: rest =>
        have hb' := length_skipBlank_le rest
        have : (skipBlank rest).length < cs.length := by
          rw [hs] at hb; simp only [List.length_cons] at hb; omega
        readMembers n depth ((name.value, r.value) :: seen) (skipBlank rest) (by omega)
      | _ => none
termination_by (cs.length, 1)

end

/-- How many values may be nested in one another. -/
def depthLimit : Nat := 127

/-- The value that a text holds, if it holds exactly one. -/
def ofText? (text : String) : Option Json :=
  match readValue depthLimit (skipBlank text.toList) with
  | none => none
  | some r => if (skipBlank r.rest).isEmpty then some r.value else none

/-- A text holds the value that is read from it, if nothing but separators is left. -/
theorem ofText?_eq_some {text : String} {cs : List Char} {r : Read cs.length Json}
    (hcs : skipBlank text.toList = cs) (hvalue : readValue depthLimit cs = some r)
    (hrest : skipBlank r.rest = []) : ofText? text = some r.value := by
  subst hcs
  rw [ofText?, hvalue]
  simp only [hrest, List.isEmpty_nil, if_true]

/-- A member with the end of the object behind it is the last one. -/
theorem readMembers_last {n depth : Nat} {seen : List (String × Json)} {cs rest : List Char}
    {name : Read cs.length String} {r : Read name.rest.length Json} (hn : cs.length < n)
    (hname : readName? cs = some name) (hvalue : readValue depth name.rest = some r)
    (hrest : skipBlank r.rest = '\x7d' :: rest) (hlt : rest.length < n) :
    readMembers n depth seen cs hn =
      some ⟨.object ((name.value, r.value) :: seen).reverse, rest, hlt⟩ := by
  rw [readMembers, hname]
  simp only [hvalue]
  split
  · rename_i h
    rw [hrest] at h
    cases h
    rfl
  · rename_i h
    rw [hrest] at h
    cases h
  · rename_i h _
    exact (h _ hrest).elim

end FormCheck.Json
