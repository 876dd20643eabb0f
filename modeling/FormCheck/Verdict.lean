import FormCheck.Failure

/-!
# Verdicts

A `Verdict` is the answer of a check: the value is accepted, or rejected with a failure. Verdicts
are combined so that the first failure counts (`Verdict.andThen`); `Verdict.accepted` is neutral.

A `Verdict` is the result of `validate`. `Verdict.toJson` is the form in which a `ValidationOutcome`
is serialized.
-/

namespace FormCheck

/-- The answer of a check. -/
inductive Verdict where
  | accepted
  | rejected (failure : Failure)
deriving DecidableEq, Inhabited

namespace Verdict

/-- Whether the value is accepted. -/
def isAccepted : Verdict → Bool
  | accepted => true
  | rejected _ => false

/-- The failure of a rejected value. -/
def failure? : Verdict → Option Failure
  | accepted => none
  | rejected f => some f

/-- Accepts where the condition holds, and rejects with the given failure elsewhere. -/
def ofCondition (holds : Bool) (failure : Failure) : Verdict :=
  if holds then accepted else rejected failure

/-- The second verdict if the first one accepts. -/
def andThen : Verdict → Verdict → Verdict
  | accepted, next => next
  | rejected f, _ => rejected f

/-- The verdict with its failure changed. -/
def mapFailure (change : Failure → Failure) : Verdict → Verdict
  | accepted => accepted
  | rejected f => rejected (change f)

@[simp] theorem accepted_andThen (v : Verdict) : accepted.andThen v = v := rfl

@[simp] theorem andThen_accepted (v : Verdict) : v.andThen accepted = v := by cases v <;> rfl

theorem andThen_assoc (u v w : Verdict) : (u.andThen v).andThen w = u.andThen (v.andThen w) := by
  cases u <;> rfl

@[simp] theorem isAccepted_andThen (v w : Verdict) :
    (v.andThen w).isAccepted = (v.isAccepted && w.isAccepted) := by
  cases v <;> simp [andThen, isAccepted]

@[simp] theorem isAccepted_mapFailure (change : Failure → Failure) (v : Verdict) :
    (v.mapFailure change).isAccepted = v.isAccepted := by cases v <;> rfl

@[simp] theorem isAccepted_ofCondition (holds : Bool) (f : Failure) :
    (ofCondition holds f).isAccepted = holds := by cases holds <;> rfl

@[simp] theorem failure?_andThen (v w : Verdict) :
    (v.andThen w).failure? = v.failure?.or w.failure? := by cases v <;> rfl

@[simp] theorem failure?_mapFailure (change : Failure → Failure) (v : Verdict) :
    (v.mapFailure change).failure? = v.failure?.map change := by cases v <;> rfl

@[simp] theorem failure?_ofCondition (holds : Bool) (f : Failure) :
    (ofCondition holds f).failure? = if holds then none else some f := by cases holds <;> rfl

theorem failure?_eq_some_iff {v : Verdict} {f : Failure} :
    v.failure? = some f ↔ v = rejected f := by
  cases v <;> simp [failure?]

theorem failure?_eq_none_iff {v : Verdict} : v.failure? = none ↔ v = accepted := by
  cases v <;> simp [failure?]

theorem ext_failure? {v w : Verdict} (h : v.failure? = w.failure?) : v = w := by
  cases v with
  | accepted => exact (failure?_eq_none_iff.1 h.symm).symm
  | rejected f => exact (failure?_eq_some_iff.1 h.symm).symm

/-- A verdict with its failure changed rejects what the verdict rejects. -/
theorem mapFailure_eq_rejected_iff {change : Failure → Failure} {v : Verdict} {f : Failure} :
    v.mapFailure change = rejected f ↔ ∃ d, v = rejected d ∧ change d = f := by
  cases v <;> simp [mapFailure]

theorem isAccepted_iff {v : Verdict} : v.isAccepted = true ↔ v = accepted := by
  cases v <;> simp [isAccepted]

/-- The form in which a verdict is sent on: of a failure its constraint and its message. -/
def toJson : Verdict → Json
  | accepted => .object [("ok", .bool true)]
  | rejected f =>
    .object [("ok", .bool false), ("kind", .text f.constraint.code), ("message", .text f.message)]

end Verdict

end FormCheck
