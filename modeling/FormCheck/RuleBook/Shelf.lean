import FormCheck.RuleBook

/-!
# Rule books in memory

A `Shelf` keeps rule books under the names of their forms. Putting a book under a known name
replaces the old book.

`Shelf` stands for `InMemorySource`: `Shelf.withBook` is `with_document`, `Shelf.insert` is
`insert`, `Shelf.fetch` is `fetch_rule_document`, and `Shelf.forms` is `forms`.

* `Shelf.fetch_withBook`, `Shelf.fetch_withBooks`: a form has the book that was put there last.
* `Shelf.insert_eq`: putting a book gives the one that could be fetched before.
-/

namespace FormCheck

/-- Rule books by the names of their forms. -/
structure Shelf where
  books : Dict RuleBook := .empty
deriving Inhabited

namespace Shelf

/-- The shelf without books. -/
def empty : Shelf := {}

/-- The shelf with a book added or replaced. -/
def withBook (s : Shelf) (form : String) (b : RuleBook) : Shelf := ⟨s.books.insert form b⟩

/-- The shelf with some books added or replaced, the first one first. -/
def withBooks (s : Shelf) (writes : List (String × RuleBook)) : Shelf :=
  writes.foldl (fun s w => s.withBook w.1 w.2) s

/-- The book that is put there last for a form. -/
def latest? (form : String) (writes : List (String × RuleBook)) : Option RuleBook :=
  Entries.find? form writes.reverse

/-- Puts a book on the shelf, and gives the one that it replaces as well. -/
def insert (s : Shelf) (form : String) (b : RuleBook) : Option RuleBook × Shelf :=
  let (replaced, books) := s.books.exchange form b
  (replaced, ⟨books⟩)

/-- The book of a form. -/
def fetch (s : Shelf) (form : String) : Except BookError RuleBook :=
  match s.books.get? form with
  | some b => .ok b
  | none => .error (.unknownForm form)

/-- The names of the forms in ascending order. -/
def forms (s : Shelf) : List String := s.books.sortedKeys

theorem fetch_withBook (s : Shelf) (form form' : String) (b : RuleBook) :
    (s.withBook form b).fetch form' = if form' = form then .ok b else s.fetch form' := by
  unfold fetch withBook
  rw [Dict.get?_insert]
  by_cases h : form' = form <;> simp [h]

theorem books_withBooks (s : Shelf) (writes : List (String × RuleBook)) :
    (s.withBooks writes).books = s.books.insertAll writes := by
  induction writes generalizing s with
  | nil => rfl
  | cons w rest ih => exact ih (s.withBook w.1 w.2)

/-- After a run of writes a form has the book that was put there last, if there is one. -/
theorem fetch_withBooks (s : Shelf) (writes : List (String × RuleBook)) (form : String) :
    (s.withBooks writes).fetch form =
      match latest? form writes with
      | some b => .ok b
      | none => s.fetch form := by
  unfold fetch latest?
  rw [books_withBooks, Dict.get?_insertAll]
  cases Entries.find? form writes.reverse <;> rfl

theorem insert_eq (s : Shelf) (form : String) (b : RuleBook) :
    s.insert form b = ((s.fetch form).toOption, s.withBook form b) := by
  unfold insert fetch withBook
  rw [Dict.exchange_eq]
  cases s.books.get? form <;> rfl

end Shelf

end FormCheck
