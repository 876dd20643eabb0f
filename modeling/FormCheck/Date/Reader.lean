import FormCheck.Date.Clues
import FormCheck.Date.Layout
import FormCheck.Date.Text
import FormCheck.Double.Numeral

/-!
# Reading dates

`Date.read?` reads a text by a layout; all of the text has to be used up. Blanks before a number do
not count, numbers need not have all their digits, names may be in any case, and a number of four
digits at most stands for a year unless it has a sign.

`Date.parse?` is `parse_date`, with `Date.isIsoShaped` for `is_iso_shaped`; `Date.leading?` is
`parse_calendar_date`. `Date.read?` is the reader of layouts on which both rely.

`Date.parse?` is how a field reads a date: without the blanks at its ends, and in the standard
layout with every digit in its place.
-/

namespace FormCheck

open Text (trimmedLeft)

namespace Layout

/-- At least `min` and at most `max` digits at the head of a text: their value, their number, and
what follows them. -/
def digits? (min : Nat) (max : Option Nat) (cs : List Char) : Option (Nat × Nat × List Char) :=
  let run := cs.takeWhile isDigit
  let taken := match max with
    | some max => run.take max
    | none => run
  if taken.length < min then none
  else some (digitsValue taken, taken.length, cs.drop taken.length)

/-- The number of digits that a part has at most. -/
def NumberPart.width : NumberPart → Option Nat
  | year | isoYear => some 4
  | quarter | dayFromSunday | dayFromMonday => some 1
  | ordinal => some 3
  | nanosecond => some 9
  | timestamp => none
  | _ => some 2

/-- Whether a part may have a sign. -/
def NumberPart.signed : NumberPart → Bool
  | year | isoYear => true
  | _ => false

/-- Takes up the value of a part. -/
def NumberPart.note? (part : NumberPart) (n : Int) (clues : Clues) : Option Clues :=
  match part with
  | year => clues.add? .year n
  | century => clues.add? .century n
  | yearOfCentury => clues.add? .yearOfCentury n
  | isoYear => clues.add? .isoYear n
  | isoYearOfCentury => clues.add? .isoYearOfCentury n
  | quarter => clues.add? .quarter n
  | month => clues.add? .month n
  | day => clues.add? .day n
  | weekFromSunday => clues.add? .weekFromSunday n
  | weekFromMonday => clues.add? .weekFromMonday n
  | isoWeek => clues.add? .isoWeek n
  | dayFromSunday => if n < 7 then clues.add? .weekday ((n + 6) % 7) else none
  | dayFromMonday => clues.add? .weekday (n - 1)
  | ordinal => clues.add? .ordinal n
  | hour =>
    if n < 24 then (clues.add? .halfDay (n / 12)).bind fun clues => clues.add? .hourOfHalf (n % 12)
    else none
  | hourOfHalf => if 1 ≤ n ∧ n ≤ 12 then clues.add? .hourOfHalf (n % 12) else none
  | minute => clues.add? .minute n
  | second => clues.add? .second n
  | nanosecond => clues.add? .nanosecond n
  | timestamp => clues.add? .timestamp n

/-- Reads a number for a part. -/
def readNumber? (part : NumberPart) (clues : Clues) (cs : List Char) :
    Option (Clues × List Char) := do
  let cs := trimmedLeft cs
  let (minus, plus, rest) := match part.signed, cs with
    | true, '-' :: rest => (true, false, rest)
    | true, '+' :: rest => (false, true, rest)
    | _, cs => (false, false, cs)
  let (n, _, rest) ← digits? 1 (if minus || plus then none else part.width) rest
  let clues ← part.note? (if minus then -(n : Int) else n) clues
  some (clues, rest)

/-- What follows a word at the head of a text, in any case. -/
def afterWord? (word : String) (cs : List Char) : Option (List Char) :=
  let w := word.toList
  if (cs.take w.length).map Char.toLower = w then some (cs.drop w.length) else none

/-- The names of the months, cut after three letters. -/
def monthNames : List (String × String) :=
  [("jan", "uary"), ("feb", "ruary"), ("mar", "ch"), ("apr", "il"), ("may", ""), ("jun", "e"),
    ("jul", "y"), ("aug", "ust"), ("sep", "tember"), ("oct", "ober"), ("nov", "ember"),
    ("dec", "ember")]

/-- The names of the days of the week from Monday on, cut after three letters. -/
def weekdayNames : List (String × String) :=
  [("mon", "day"), ("tue", "sday"), ("wed", "nesday"), ("thu", "rsday"), ("fri", "day"),
    ("sat", "urday"), ("sun", "day")]

/-- The place in a list of the name at the head of a text, and what follows the name. A long name
may be cut after three letters. -/
def readName? (names : List (String × String)) (long : Bool) (cs : List Char) :
    Option (Nat × List Char) :=
  names.zipIdx.findSome? fun ((start, rest), i) =>
    (afterWord? start cs).map fun after =>
      (i, if long then (afterWord? rest after).getD after else after)

/-- Reads the half of the day. -/
def readHalfDay? (clues : Clues) (cs : List Char) : Option (Clues × List Char) :=
  match afterWord? "am" cs, afterWord? "pm" cs with
  | some rest, _ => (clues.add? .halfDay 0).map fun clues => (clues, rest)
  | none, some rest => (clues.add? .halfDay 1).map fun clues => (clues, rest)
  | none, none => none

/-- Reads a point and a fraction of a second; digits from the tenth on do not count. -/
def readFraction? (clues : Clues) : List Char → Option (Clues × List Char)
  | '.' :: rest => do
    let (n, count, rest) ← digits? 1 (some 9) rest
    let clues ← clues.add? .nanosecond (n * Nat.pow 10 (9 - count) : Nat)
    some (clues, rest.dropWhile isDigit)
  | cs => some (clues, cs)

/-- Reads an offset: a sign, two digits of hours, colons or blanks, and two digits of minutes. -/
def readOffset? (zulu hoursOnly : Bool) (clues : Clues) (cs : List Char) :
    Option (Clues × List Char) :=
  match zulu, cs with
  | true, 'Z' :: rest | true, 'z' :: rest => (clues.add? .offset 0).map fun clues => (clues, rest)
  | _, sign :: rest =>
    if sign = '+' ∨ sign = '-' ∨ sign = '\u2212' then
      match rest with
      | h₁ :: h₂ :: rest =>
        if isDigit h₁ && isDigit h₂ then
          let hours := digitsValue [h₁, h₂]
          let note (minutes : Nat) (rest : List Char) :=
            let seconds : Int := (hours * 3600 + minutes * 60 : Nat)
            (clues.add? .offset (if sign = '+' then seconds else -seconds)).map fun clues =>
              (clues, rest)
          match rest.dropWhile (fun c => c = ':' || isBlank c) with
          | m₁ :: m₂ :: rest =>
            if isDigit m₁ && isDigit m₂ && m₁ < '6' then note (digitsValue [m₁, m₂]) rest else none
          | [] => if hoursOnly then note 0 [] else none
          | _ => none
        else none
      | _ => none
    else none
  | _, [] => none

/-- Reads the given items one after the other. -/
def readAll? (read : Item → Clues → List Char → Option (Clues × List Char)) :
    List Item → Clues → List Char → Option (Clues × List Char)
  | [], clues, cs => some (clues, cs)
  | item :: items, clues, cs =>
    match read item clues cs with
    | none => none
    | some (clues, cs) => readAll? read items clues cs

/-- Reads any item but a whole timestamp. -/
def readSimple? (item : Item) (clues : Clues) (cs : List Char) : Option (Clues × List Char) :=
  match item with
  | .literal mark => if mark.isPrefixOf cs then some (clues, cs.drop mark.length) else none
  | .blanks => some (clues, trimmedLeft cs)
  | .number part => readNumber? part clues cs
  | .monthName long => do
    let (i, rest) ← readName? monthNames long cs
    let clues ← clues.add? .month (i + 1 : Nat)
    some (clues, rest)
  | .weekdayName long => do
    let (i, rest) ← readName? weekdayNames long cs
    let clues ← clues.add? .weekday i
    some (clues, rest)
  | .halfDay => readHalfDay? clues cs
  | .fraction => readFraction? clues cs
  | .fractionDigits count => do
    let (n, _, rest) ← digits? count (some count) cs
    let clues ← clues.add? .nanosecond (n * Nat.pow 10 (9 - count) : Nat)
    some (clues, rest)
  | .zoneName => some (clues, cs.dropWhile (!isBlank ·))
  | .offset lenient => readOffset? lenient lenient clues cs
  | .timestampText | .invalid => none

/-- The items of the date in a whole timestamp. -/
def timestampDate : List Item :=
  [.number .year, .blanks, mark '-', .number .month, .blanks, mark '-', .number .day]

/-- The items of the time in a whole timestamp. -/
def timestampTime : List Item :=
  [.number .hour, .blanks, mark ':', .number .minute, .blanks, mark ':', .number .second,
    .fraction, .blanks]

/-- Reads a whole timestamp. The offset may be the word UTC. -/
def readTimestamp? (clues : Clues) (cs : List Char) : Option (Clues × List Char) := do
  let (clues, cs) ← readAll? readSimple? timestampDate clues cs
  let rest ← match cs with
    | 't' :: rest | 'T' :: rest | ' ' :: rest => some rest
    | _ => none
  let (clues, cs) ← readAll? readSimple? timestampTime clues rest
  match afterWord? "utc" cs with
  | some rest => (clues.add? .offset 0).map fun clues => (clues, rest)
  | none => readOffset? true false clues cs

/-- Reads one item. -/
def readItem? (item : Item) (clues : Clues) (cs : List Char) : Option (Clues × List Char) :=
  if item = .timestampText then readTimestamp? clues cs else readSimple? item clues cs

end Layout

namespace Date

/-- The date that a text spells by a layout. -/
def read? (format text : List Char) : Option Date :=
  match Layout.readAll? Layout.readItem? (Layout.ofText format) .empty text with
  | some (clues, []) => clues.date?
  | _ => none

/-- Whether a text has ten characters, hyphens at the fifth and eighth place and digits at the
others. -/
def isIsoShaped : List Char → Bool
  | [y₁, y₂, y₃, y₄, '-', m₁, m₂, '-', d₁, d₂] =>
    [y₁, y₂, y₃, y₄, m₁, m₂, d₁, d₂].all isDigit
  | _ => false

/-- A text of this shape has ten characters, hyphens and digits. -/
theorem of_isIsoShaped {cs : List Char} (h : isIsoShaped cs = true) :
    cs.length = 10 ∧ ∀ c ∈ cs, c = '-' ∨ isDigit c = true := by
  unfold isIsoShaped at h
  split at h
  · refine ⟨rfl, fun c hc => ?_⟩
    by_cases hmark : c = '-'
    · exact .inl hmark
    · exact .inr (List.all_eq_true.1 h c (by simpa [hmark] using hc))
  · cases h

/-- The date that a field reads from a text in the given format. Blanks at the ends do not count;
in the standard format every digit has to be written. -/
def parse? (format text : String) : Option Date :=
  let cs := Text.trimmed text.toList
  if format = isoFormat ∧ isIsoShaped cs = false then none else read? format.toList cs

/-- What the standard format reads is a text of ten digits and marks, and nothing else but blanks
around it. -/
theorem parse?_isoFormat_eq_some_iff {s : String} {d : Date} :
    parse? isoFormat s = some d ↔
      isIsoShaped (Text.trimmed s.toList) = true ∧
        read? isoFormat.toList (Text.trimmed s.toList) = some d := by
  unfold parse?
  cases h : isIsoShaped (Text.trimmed s.toList) <;> simp [h]

theorem ne_empty_of_parse? {s : String} {d : Date} (h : parse? isoFormat s = some d) : s ≠ "" := by
  rintro rfl
  cases (parse?_isoFormat_eq_some_iff.1 h).1

/-- The longest head of a text that has so many bytes, and no more; none if a character stretches
over the end, or the text is shorter. -/
def takeBytes? : Nat → List Char → Option (List Char)
  | 0, _ => some []
  | _ + 1, [] => none
  | n + 1, c :: rest =>
    if c.utf8Size ≤ n + 1 then (takeBytes? (n + 1 - c.utf8Size) rest).map (c :: ·) else none
termination_by _ cs => cs.length

/-- The date with which a text begins: its first ten bytes without the blanks in front of them, in
the standard layout. What follows, a time perhaps, does not count. -/
def leading? (text : String) : Option Date :=
  (takeBytes? 10 (Text.trimmed text.toList)).bind (read? isoFormat.toList)

end Date

end FormCheck
