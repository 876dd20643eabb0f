import FormCheck.Verdict

/-!
# Checks and chains of checks

A `Check` answers for every value of a type. A `Chain` is a list of checks that is run from the
first to the last and stops at the first failure; it is a check itself, so chains can be links of
chains.

`Check` stands for any implementation of `Validate`. `Chain.push` is `push`, `Check.andThen` is
`then` on any check, and `Chain.run` is the `validate` of a `Chain`.

* `Chain.run_append`: a chain of two parts is the first part and then the second.
* `Chain.isAccepted_run`: a chain accepts what all its links accept.
* `Chain.failure?_run`: a chain fails as the first of its links that fails.
-/

namespace FormCheck

/-- A condition on values, which answers with the failure of a value that violates it. -/
structure Check (α : Type) where
  run : α → Verdict

namespace Check

variable {α : Type}

/-- The check of a condition that always fails in the same way. -/
def of (holds : α → Bool) (failure : Failure) : Check α :=
  ⟨fun x => Verdict.ofCondition (holds x) failure⟩

end Check

/-- Checks that are run one after the other. -/
structure Chain (α : Type) where
  links : List (Check α) := []

namespace Chain

variable {α : Type}

/-- How many links there are. -/
def size (c : Chain α) : Nat := c.links.length

/-- Whether there are no links. -/
def isEmpty (c : Chain α) : Bool := c.links.isEmpty

/-- The chain with one more link. -/
def push (c : Chain α) (link : Check α) : Chain α := ⟨c.links ++ [link]⟩

/-- Runs links up to the first one that rejects. -/
def runLinks : List (Check α) → α → Verdict
  | [], _ => .accepted
  | link :: rest, x =>
    match link.run x with
    | .accepted => runLinks rest x
    | .rejected f => .rejected f

/-- Runs the chain on a value. -/
def run (c : Chain α) (x : α) : Verdict := runLinks c.links x

/-- The chain as a single check. -/
def toCheck (c : Chain α) : Check α := ⟨c.run⟩

@[simp] theorem run_nil (x : α) : run ⟨[]⟩ x = .accepted := rfl

theorem run_cons (link : Check α) (rest : List (Check α)) (x : α) :
    run ⟨link :: rest⟩ x = (link.run x).andThen (run ⟨rest⟩ x) := by
  simp only [run, runLinks]
  cases link.run x <;> rfl

theorem run_append (as bs : List (Check α)) (x : α) :
    run ⟨as ++ bs⟩ x = (run ⟨as⟩ x).andThen (run ⟨bs⟩ x) := by
  induction as with
  | nil => simp
  | cons link rest ih => rw [List.cons_append, run_cons, run_cons, ih, Verdict.andThen_assoc]

theorem run_push (c : Chain α) (link : Check α) (x : α) :
    (c.push link).run x = (c.run x).andThen (link.run x) := by
  rw [push, run_append, run_cons, run_nil, Verdict.andThen_accepted]

theorem isAccepted_run (c : Chain α) (x : α) :
    (c.run x).isAccepted = c.links.all fun link => (link.run x).isAccepted := by
  obtain ⟨links⟩ := c
  induction links with
  | nil => rfl
  | cons link rest ih => rw [run_cons, Verdict.isAccepted_andThen, ih, List.all_cons]

/-- A chain fails as the first of its links that fails. -/
theorem failure?_run (c : Chain α) (x : α) :
    (c.run x).failure? = c.links.findSome? fun link => (link.run x).failure? := by
  obtain ⟨links⟩ := c
  induction links with
  | nil => rfl
  | cons link rest ih =>
    rw [run_cons, Verdict.failure?_andThen, ih, List.findSome?_cons]
    cases (link.run x).failure? <;> rfl

end Chain

/-- The chain of a check and one that follows it. -/
def Check.andThen {α : Type} (first second : Check α) : Chain α :=
  (({} : Chain α).push first).push second

end FormCheck
