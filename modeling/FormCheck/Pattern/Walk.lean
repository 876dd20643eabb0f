import FormCheck.Pattern.Node

/-!
# Walking over a text

An expression leads from places of a text to places of the text: from the place where it begins to
match to each place where it can end. A `Walk` does so for a whole set of places at once, and the
walks of an expression are built from those of its parts.

A set of places is one number, whose bits stand for the places, so that a step of a walk is an
operation on numbers; nothing is ever tried twice. The lemmas here say what each operation and each
basic step does to a single place.
-/

namespace FormCheck.Pattern

/-- A set of places of a text. The place `i` is the one before the character `i`, and the last place
is the end of the text. -/
structure Places where
  bits : Nat
deriving DecidableEq, Inhabited

namespace Places

/-- Membership. -/
def mem (p : Places) (i : Nat) : Bool := p.bits.testBit i

/-- No place. -/
def none : Places := ⟨0⟩

/-- Whether there is no place in the set. -/
def isEmpty (p : Places) : Bool := p.bits == 0

/-- The places of either set. -/
def union (p q : Places) : Places := ⟨p.bits ||| q.bits⟩

/-- The places of both sets. -/
def inter (p q : Places) : Places := ⟨p.bits &&& q.bits⟩

/-- The places of `p` that are not in `q`. -/
def diff (p q : Places) : Places := ⟨p.bits ^^^ (p.bits &&& q.bits)⟩

/-- Every place moved behind the next character. -/
def shift (p : Places) : Places := ⟨p.bits <<< 1⟩

/-- The places at which a list is true. -/
def ofList (marks : List Bool) : Places := ⟨marks.foldr (fun b n => 2 * n + b.toNat) 0⟩

/-- All places of a text with so many characters. -/
def all (length : Nat) : Places := ⟨(1 <<< (length + 1)) - 1⟩

@[simp] theorem mem_union (p q : Places) (i : Nat) : (p.union q).mem i = (p.mem i || q.mem i) :=
  Nat.testBit_or p.bits q.bits i

@[simp] theorem mem_inter (p q : Places) (i : Nat) : (p.inter q).mem i = (p.mem i && q.mem i) :=
  Nat.testBit_and p.bits q.bits i

@[simp] theorem mem_diff (p q : Places) (i : Nat) : (p.diff q).mem i = (p.mem i && !q.mem i) := by
  unfold diff mem
  rw [Nat.testBit_xor, Nat.testBit_and]
  cases p.bits.testBit i <;> cases q.bits.testBit i <;> rfl

@[simp] theorem mem_shift (p : Places) (i : Nat) : p.shift.mem (i + 1) = p.mem i := by
  simp [shift, mem, Nat.testBit_shiftLeft]

theorem not_mem_shift_zero (p : Places) : p.shift.mem 0 = false := by simp [shift, mem]

theorem mem_all (length i : Nat) : (all length).mem i = true ↔ i ≤ length := by
  rw [all, mem, Nat.one_shiftLeft, Nat.testBit_two_pow_sub_one, decide_eq_true_iff,
    Nat.lt_succ_iff]

theorem isEmpty_iff (p : Places) : p.isEmpty = true ↔ ∀ i, p.mem i = false := by
  rw [isEmpty, beq_iff_eq]
  constructor
  · intro h i
    rw [mem, h, Nat.zero_testBit]
  · intro h
    exact Nat.eq_of_testBit_eq fun i => (h i).trans (Nat.zero_testBit i).symm

theorem mem_ofList (marks : List Bool) (i : Nat) : (ofList marks).mem i = marks[i]?.getD false := by
  induction marks generalizing i with
  | nil => simp [ofList, mem]
  | cons b rest ih =>
    have step : (ofList (b :: rest)).bits = 2 * (ofList rest).bits + b.toNat := rfl
    cases i with
    | zero =>
      rw [mem, step, Nat.testBit_zero]
      cases b <;> simp
    | succ i =>
      have half : (2 * (ofList rest).bits + b.toNat) / 2 = (ofList rest).bits := by
        cases b
        · simp
        · simp
          omega
      rw [mem, step, Nat.testBit_succ, half]
      exact ih i

end Places

/-- A way from places of a text to places of the text. -/
structure Walk where
  run : Places → Places

namespace Walk

/-- Leads nowhere else. -/
def stay : Walk := ⟨id⟩

/-- Leads past one of the marked characters. -/
def past (marked : Places) : Walk := ⟨fun p => (p.inter marked).shift⟩

/-- Stays where the place is marked. -/
def here (marked : Places) : Walk := ⟨fun p => p.inter marked⟩

/-- One walk, then another. -/
def andThen (a b : Walk) : Walk := ⟨fun p => b.run (a.run p)⟩

/-- Either of two walks. -/
def orElse (a b : Walk) : Walk := ⟨fun p => (a.run p).union (b.run p)⟩

/-- The places after so many rounds. A round that changes nothing is the last one needed. -/
def iterate (w : Walk) : Nat → Places → Places
  | 0, p => p
  | n + 1, p =>
    let q := w.run p
    if q = p then p else w.iterate n q

/-- The places after so many rounds or fewer. `seen` are those known so far, of which only the
`fresh` ones can lead to others. -/
def spread (w : Walk) : Nat → Places → Places → Places
  | 0, seen, _ => seen
  | n + 1, seen, fresh =>
    let next := (w.run fresh).diff seen
    if next.isEmpty then seen else w.spread n (seen.union next) next

/-- A walk repeated at least `min` times and at most `extra` times more. -/
def repeated (w : Walk) (min extra : Nat) : Walk :=
  ⟨fun p =>
    let q := w.iterate min p
    w.spread extra q q⟩

theorem mem_past (marked p : Places) (i : Nat) :
    ((past marked).run p).mem (i + 1) = (p.mem i && marked.mem i) := by simp [past]

theorem mem_here (marked p : Places) (i : Nat) :
    ((here marked).run p).mem i = (p.mem i && marked.mem i) := by simp [here]

/-- The neighbours of each place of a text. -/
def neighbours (text : List Char) : List (Option Char × Option Char) :=
  (none :: text.map some).zip (text.map some ++ [none])

/-- The way of an expression over a text. A repetition without an upper bound needs no more rounds
than there are places, because each round has to find a new one. -/
def ofNode (text : List Char) : Node → Walk
  | .empty => stay
  | .char set => past (Places.ofList (text.map set.contains))
  | .anchor f a =>
    here (Places.ofList ((neighbours text).map fun (before, after) => a.holds f before after))
  | .seq first second => (ofNode text first).andThen (ofNode text second)
  | .choice left right => (ofNode text left).orElse (ofNode text right)
  | .repetition inner min max =>
    let extra := match max with
      | some max => max - min
      | none => text.length + 1
    (ofNode text inner).repeated min extra

end Walk

/-- Whether an expression matches somewhere in a text. -/
def Node.matchesIn (node : Node) (text : List Char) : Bool :=
  !((Walk.ofNode text node).run (Places.all text.length)).isEmpty

end FormCheck.Pattern
