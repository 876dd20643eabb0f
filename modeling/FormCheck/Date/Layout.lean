import FormCheck.Text.Blank

/-!
# Layouts of dates

A layout tells how a date is written. It is spelled by a text in which `%` and a letter stand for a
part of a date or time, a run of blanks for any number of blanks, and everything else for itself.

`Layout.ofText` takes such a text apart. Letters that stand for several parts at once are written
out; what has no meaning becomes `Item.invalid`, which no text follows.
-/

namespace FormCheck

namespace Layout

/-- A part of a date or time that is written as a number. -/
inductive NumberPart where
  | year
  /-- All digits of the year but the last two. -/
  | century
  /-- The last two digits of the year. -/
  | yearOfCentury
  /-- The year to which a week belongs by its Thursday. -/
  | isoYear
  | isoYearOfCentury
  | quarter
  | month
  | day
  | weekFromSunday
  | weekFromMonday
  | isoWeek
  /-- The day of the week with Sunday as `0`. -/
  | dayFromSunday
  /-- The day of the week with Monday as `1`. -/
  | dayFromMonday
  | ordinal
  | hour
  | hourOfHalf
  | minute
  | second
  | nanosecond
  /-- Seconds since the first day of 1970. -/
  | timestamp
deriving DecidableEq

/-- One item of a layout. -/
inductive Item where
  /-- Characters that stand for themselves. -/
  | literal (cs : List Char)
  /-- Any number of blanks. -/
  | blanks
  | number (part : NumberPart)
  /-- The name of a month: three letters, and the rest of it if `long`. -/
  | monthName (long : Bool)
  /-- The name of a day of the week: three letters, and the rest of it if `long`. -/
  | weekdayName (long : Bool)
  /-- The half of the day, `am` or `pm`. -/
  | halfDay
  /-- A point and a fraction of a second, or nothing. -/
  | fraction
  /-- A fraction of a second with a fixed number of digits and no point. -/
  | fractionDigits (digits : Nat)
  /-- The name of a time zone: everything up to the next blank. -/
  | zoneName
  /-- An offset from universal time; `lenient` admits the letter Z, and hours without minutes. -/
  | offset (lenient : Bool)
  /-- A date, the letter T or a blank, a time, and an offset. -/
  | timestampText
  /-- An item without meaning. -/
  | invalid
deriving DecidableEq

open NumberPart Item

/-- A literal of one character. -/
def mark (c : Char) : Item := literal [c]

/-- Hours and minutes. -/
def hourMinute : List Item := [number hour, mark ':', number minute]

/-- Hours, minutes and seconds. -/
def timeOfDay : List Item := hourMinute ++ [mark ':', number second]

/-- Month, day and year of the century, with slashes. -/
def monthDayYear : List Item := [number month, mark '/', number day, mark '/', number yearOfCentury]

/-- The items for which a letter stands. -/
def letterItems : Char → List Item
  | 'A' => [weekdayName true]
  | 'B' => [monthName true]
  | 'C' => [number century]
  | 'D' | 'x' => monthDayYear
  | 'F' => [number year, mark '-', number month, mark '-', number day]
  | 'G' => [number isoYear]
  | 'H' | 'k' => [number hour]
  | 'I' | 'l' => [number hourOfHalf]
  | 'M' => [number minute]
  | 'P' | 'p' => [halfDay]
  | 'R' => hourMinute
  | 'S' => [number second]
  | 'T' | 'X' => timeOfDay
  | 'U' => [number weekFromSunday]
  | 'V' => [number isoWeek]
  | 'W' => [number weekFromMonday]
  | 'Y' => [number year]
  | 'Z' => [zoneName]
  | 'a' => [weekdayName false]
  | 'b' | 'h' => [monthName false]
  | 'c' =>
    [weekdayName false, blanks, monthName false, blanks, number day, blanks] ++ timeOfDay ++
      [blanks, number year]
  | 'd' | 'e' => [number day]
  | 'f' => [number nanosecond]
  | 'g' => [number isoYearOfCentury]
  | 'j' => [number ordinal]
  | 'm' => [number month]
  | 'n' | 't' => [blanks]
  | 'q' => [number quarter]
  | 'r' =>
    [number hourOfHalf, mark ':', number minute, mark ':', number second, blanks, halfDay]
  | 's' => [number timestamp]
  | 'u' => [number dayFromMonday]
  | 'v' => [number day, mark '-', monthName false, mark '-', number year]
  | 'w' => [number dayFromSunday]
  | 'y' => [number yearOfCentury]
  | 'z' => [offset false]
  | '+' => [timestampText]
  | '%' => [mark '%']
  | _ => [invalid]

/-- The items of a letter after a mark that asks for padding: only single numbers can be padded. -/
def paddedItems (c : Char) : List Item :=
  match letterItems c with
  | [number part] => [number part]
  | _ => [invalid]

/-- What a percent sign begins: its items, and what follows them. -/
def directive : List Char → List Item × List Char
  | [] => ([invalid], [])
  | '-' :: rest | '0' :: rest | '_' :: rest =>
    match rest with
    | [] => ([invalid], [])
    | c :: rest => (paddedItems c, rest)
  | '#' :: rest =>
    match rest with
    | 'z' :: rest => ([offset true], rest)
    | _ => ([invalid], [])
  | ':' :: ':' :: ':' :: 'z' :: rest | ':' :: ':' :: 'z' :: rest | ':' :: 'z' :: rest =>
    ([offset false], rest)
  | '.' :: '3' :: 'f' :: rest | '.' :: '6' :: 'f' :: rest | '.' :: '9' :: 'f' :: rest
  | '.' :: 'f' :: rest => ([fraction], rest)
  | '3' :: 'f' :: rest => ([fractionDigits 3], rest)
  | '6' :: 'f' :: rest => ([fractionDigits 6], rest)
  | '9' :: 'f' :: rest => ([fractionDigits 9], rest)
  | c :: rest => (letterItems c, rest)

theorem directive_length (cs : List Char) : (directive cs).2.length ≤ cs.length := by
  unfold directive
  repeat' split
  all_goals (simp only [List.length_cons, List.length_nil]; omega)

/-- The items that a text spells. -/
def ofText (cs : List Char) : List Item :=
  match cs with
  | [] => []
  | '%' :: rest =>
    have := directive_length rest
    (directive rest).1 ++ ofText (directive rest).2
  | c :: rest => (if isBlank c then blanks else mark c) :: ofText rest
termination_by cs.length

end Layout

end FormCheck
