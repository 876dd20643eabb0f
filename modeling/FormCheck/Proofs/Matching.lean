import FormCheck.Pattern

/-!
# What patterns match

`Node.Leads` says when an expression can begin to match at one place of a text and end at another, by
one rule for each kind of expression, and without the sets of places, the bounded rounds and the early
ends of `Walk`.

* `Walk.follows_ofNode`: the walk of an expression leads from a set of places exactly to those that the
  expression leads to from one of them.
* **`Pattern.isMatch_iff`**: a pattern matches a text if and only if its expression leads from some
  place of the text to another. This is what the validator `Pattern` asks of a text.
* `Pattern.Node.matchesIn_whole_iff`: between `^` and `$` an expression has to match the whole text.

A repetition without an upper bound makes no more rounds than there are places. That is enough: an
expression never leads backwards (`Node.Leads.le`), so the rounds that stay where they are can be
left out, and each of the others finds a later place (`Rounds.shorten`).
-/

namespace FormCheck.Pattern

/-! ## The rules -/

/-- So many rounds of a relation lead from one place to another. -/
inductive Rounds (R : Nat → Nat → Prop) : Nat → Nat → Nat → Prop where
  | done (i : Nat) : Rounds R 0 i i
  | more {n i j k : Nat} : R i j → Rounds R n j k → Rounds R (n + 1) i k

/-- From places of a text of the length a relation leads to places of the text. -/
def Stays (R : Nat → Nat → Prop) (length : Nat) : Prop := ∀ i j, R i j → i ≤ length → j ≤ length

/-- The neighbours of the place `i`. -/
def around (text : List Char) (i : Nat) : Option Char × Option Char :=
  (if i = 0 then none else text[i - 1]?, text[i]?)

/-- An expression can begin to match at the place `i` of a text and end at the place `j`. An upper
bound below the lower one would count as the lower one; `readBounds?` accepts no such bounds. -/
def Node.Leads (text : List Char) : Node → Nat → Nat → Prop
  | .empty, i, j => i = j
  | .char set, i, j => (∃ c, text[i]? = some c ∧ set.contains c = true) ∧ j = i + 1
  | .anchor f a, i, j => a.holds f (around text i).1 (around text i).2 = true ∧ i = j
  | .seq first second, i, j => ∃ k, first.Leads text i k ∧ second.Leads text k j
  | .choice left right, i, j => left.Leads text i j ∨ right.Leads text i j
  | .repetition inner min max, i, j =>
    ∃ extra, (∀ m, max = some m → extra ≤ m - min) ∧
      Rounds (inner.Leads text) (min + extra) i j

namespace Rounds

variable {R : Nat → Nat → Prop}

theorem zero_iff {i j : Nat} : Rounds R 0 i j ↔ i = j :=
  ⟨fun | .done _ => rfl, fun h => h ▸ .done i⟩

theorem succ_iff {n i k : Nat} : Rounds R (n + 1) i k ↔ ∃ j, R i j ∧ Rounds R n j k :=
  ⟨fun | .more first rest => ⟨_, first, rest⟩, fun ⟨_, first, rest⟩ => .more first rest⟩

theorem add_iff {m n i k : Nat} :
    Rounds R (m + n) i k ↔ ∃ j, Rounds R m i j ∧ Rounds R n j k := by
  induction m generalizing i with
  | zero => simp [zero_iff]
  | succ m ih =>
    rw [Nat.add_right_comm, succ_iff]
    simp only [ih, succ_iff]
    constructor
    · rintro ⟨i', first, j, left, right⟩
      exact ⟨j, ⟨i', first, left⟩, right⟩
    · rintro ⟨j, ⟨i', first, left⟩, right⟩
      exact ⟨i', first, j, left, right⟩

theorem one_iff {i j : Nat} : Rounds R 1 i j ↔ R i j := by simp [succ_iff, zero_iff]

theorem le (forward : ∀ i j, R i j → i ≤ j) {n i j : Nat} (h : Rounds R n i j) : i ≤ j := by
  induction h with
  | done i => exact Nat.le_refl i
  | more first _ ih => exact Nat.le_trans (forward _ _ first) ih

/-- A relation that never leads backwards needs no more rounds than there are places on the way. -/
theorem shorten (forward : ∀ i j, R i j → i ≤ j) {n i j : Nat} (h : Rounds R n i j) :
    ∃ m ≤ j - i, Rounds R m i j := by
  induction h with
  | done i => exact ⟨0, Nat.zero_le _, .done i⟩
  | @more n i i' j first rest ih =>
    obtain ⟨m, bound, rest'⟩ := ih
    have onwards : i ≤ i' := forward i i' first
    have reaches : i' ≤ j := rest.le forward
    by_cases stays : i = i'
    · subst stays
      exact ⟨m, bound, rest'⟩
    · exact ⟨m + 1, by omega, .more first rest'⟩

theorem stays {length : Nat} (bounded : Stays R length) {n : Nat} : Stays (Rounds R n) length := by
  intro i j h start
  induction h with
  | done i => exact start
  | more first _ ih => exact ih (bounded _ _ first start)

end Rounds

/-- No expression leads backwards. -/
theorem Node.Leads.le {text : List Char} {node : Node} {i j : Nat} (h : node.Leads text i j) :
    i ≤ j := by
  induction node generalizing i j with
  | empty => exact Nat.le_of_eq h
  | char set => exact h.2 ▸ Nat.le_succ i
  | anchor f a => exact Nat.le_of_eq h.2
  | seq first second ihf ihs =>
    obtain ⟨k, left, right⟩ := h
    exact Nat.le_trans (ihf left) (ihs right)
  | choice left right ihl ihr => exact h.elim ihl ihr
  | repetition inner min max ih =>
    obtain ⟨_, _, rounds⟩ := h
    exact rounds.le fun _ _ => ih

theorem Node.stays_leads (text : List Char) (node : Node) : Stays (node.Leads text) text.length := by
  intro i j h start
  induction node generalizing i j with
  | empty => exact h ▸ start
  | char set =>
    obtain ⟨⟨c, read, _⟩, rfl⟩ := h
    exact (List.getElem?_eq_some_iff.mp read).1
  | anchor f a => exact h.2 ▸ start
  | seq first second ihf ihs =>
    obtain ⟨k, left, right⟩ := h
    exact ihs _ _ right (ihf _ _ left start)
  | choice left right ihl ihr => exact h.elim (ihl _ _ · start) (ihr _ _ · start)
  | repetition inner min max ih =>
    obtain ⟨_, _, rounds⟩ := h
    exact Rounds.stays ih _ _ rounds start

/-! ## Sets of places -/

namespace Places

/-- A relation leads to a place from one of the set. -/
def Reach (p : Places) (R : Nat → Nat → Prop) (j : Nat) : Prop := ∃ i, p.mem i = true ∧ R i j

/-- All places of a set are in a text of the length. -/
def Inside (p : Places) (length : Nat) : Prop := ∀ i, p.mem i = true → i ≤ length

variable {p q : Places} {R S : Nat → Nat → Prop} {length : Nat}

theorem reach_congr (h : ∀ i j, R i j ↔ S i j) (j : Nat) : p.Reach R j ↔ p.Reach S j :=
  exists_congr fun i => and_congr_right fun _ => h i j

/-- What is reached from the places that a relation leads to is reached in two steps. -/
theorem reach_of_mem_iff (h : ∀ i, q.mem i = true ↔ p.Reach R i) (j : Nat) :
    q.Reach S j ↔ p.Reach (fun i j => ∃ k, R i k ∧ S k j) j := by
  constructor
  · rintro ⟨k, hk, right⟩
    obtain ⟨i, hi, left⟩ := (h k).mp hk
    exact ⟨i, hi, k, left, right⟩
  · rintro ⟨i, hi, k, left, right⟩
    exact ⟨k, (h k).mpr ⟨i, hi, left⟩, right⟩

theorem inside_of_mem_iff (h : ∀ i, q.mem i = true ↔ p.Reach R i) (hp : p.Inside length)
    (bounded : Stays R length) : q.Inside length := by
  intro j hj
  obtain ⟨i, hi, hR⟩ := (h j).mp hj
  exact bounded i j hR (hp i hi)

theorem reach_succ {n j : Nat} :
    p.Reach (Rounds R (n + 1)) j ↔ ∃ i, p.Reach (Rounds R n) i ∧ R i j := by
  simp only [Reach, Rounds.add_iff, Rounds.one_iff]
  constructor
  · rintro ⟨i, hi, k, rounds, last⟩
    exact ⟨k, ⟨i, hi, rounds⟩, last⟩
  · rintro ⟨k, ⟨i, hi, rounds⟩, last⟩
    exact ⟨i, hi, k, rounds, last⟩

theorem reach_zero {j : Nat} : p.Reach (Rounds R 0) j ↔ p.mem j = true := by
  simp [Reach, Rounds.zero_iff]

/-- A set that one round leads to itself is one that any number of rounds leads to itself. -/
theorem reach_rounds_of_fixed (h : ∀ j, p.mem j = true ↔ p.Reach R j) (n j : Nat) :
    p.Reach (Rounds R n) j ↔ p.mem j = true := by
  induction n generalizing j with
  | zero => exact reach_zero
  | succ n ih =>
    rw [reach_succ, h j]
    simp only [ih]
    exact Iff.rfl

end Places

/-! ## Walks -/

namespace Walk

open Places

/-- From every set of places of a text, a walk leads where a relation does. -/
def Follows (w : Walk) (length : Nat) (R : Nat → Nat → Prop) : Prop :=
  ∀ p : Places, p.Inside length → ∀ j, (w.run p).mem j = true ↔ p.Reach R j

theorem follows_stay (length : Nat) : stay.Follows length (· = ·) := by
  intro p _ j
  simp [stay, Reach]

theorem follows_past (text : List Char) (set : Unicode.CharSet) :
    (past (ofList (text.map set.contains))).Follows text.length ((Node.char set).Leads text) := by
  intro p _ j
  unfold Reach Node.Leads
  cases j with
  | zero => simp [past, not_mem_shift_zero]
  | succ i =>
    rw [mem_past, mem_ofList, List.getElem?_map]
    constructor
    · intro h
      obtain ⟨hi, marked⟩ := (Bool.and_eq_true _ _).mp h
      cases read : text[i]? with
      | none => simp [read] at marked
      | some c => exact ⟨i, hi, ⟨c, read, by simpa [read] using marked⟩, rfl⟩
    · rintro ⟨i', hi, ⟨c, read, holds⟩, next⟩
      cases Nat.succ.inj next
      simp [read, hi, holds]

theorem getElem?_neighbours {text : List Char} {i : Nat} (h : i ≤ text.length) :
    (neighbours text)[i]? = some (around text i) := by
  unfold neighbours around
  rw [List.getElem?_zip_eq_some]
  constructor
  · cases i with
    | zero => rfl
    | succ i =>
      have reads : text[i]? = some text[i] := List.getElem?_eq_getElem h
      simp [reads]
  · rcases Nat.lt_or_eq_of_le h with inText | atEnd
    · simp [List.getElem?_append, inText]
    · simp [atEnd]

theorem follows_here (text : List Char) (f : Flags) (a : Anchor) :
    (here (ofList ((neighbours text).map fun (before, after) => a.holds f before after))).Follows
      text.length ((Node.anchor f a).Leads text) := by
  intro p inside j
  unfold Reach Node.Leads
  rw [mem_here, mem_ofList, List.getElem?_map]
  constructor
  · intro h
    obtain ⟨hj, marked⟩ := (Bool.and_eq_true _ _).mp h
    rw [getElem?_neighbours (inside j hj)] at marked
    exact ⟨j, hj, marked, rfl⟩
  · rintro ⟨i, hi, holds, rfl⟩
    rw [getElem?_neighbours (inside i hi), hi]
    exact holds

section Compose

variable {a b w : Walk} {length : Nat} {R S : Nat → Nat → Prop}

theorem Follows.inside (h : w.Follows length R) (bounded : Stays R length) {p : Places}
    (hp : p.Inside length) : (w.run p).Inside length :=
  inside_of_mem_iff (h p hp) hp bounded

theorem Follows.andThen (ha : a.Follows length R) (hb : b.Follows length S)
    (bounded : Stays R length) : (a.andThen b).Follows length fun i j => ∃ k, R i k ∧ S k j := by
  intro p hp j
  exact (hb (a.run p) (ha.inside bounded hp) j).trans (reach_of_mem_iff (ha p hp) j)

theorem Follows.orElse (ha : a.Follows length R) (hb : b.Follows length S) :
    (a.orElse b).Follows length fun i j => R i j ∨ S i j := by
  intro p hp j
  rw [Walk.orElse, mem_union, Bool.or_eq_true, ha p hp j, hb p hp j]
  simp only [Reach, and_or_left, exists_or]

/-- So many rounds, although a round that changes nothing is the last. -/
theorem Follows.iterate (h : w.Follows length R) (bounded : Stays R length) (n : Nat) {p : Places}
    (hp : p.Inside length) (j : Nat) : (w.iterate n p).mem j = true ↔ p.Reach (Rounds R n) j := by
  induction n generalizing p with
  | zero => exact reach_zero.symm
  | succ n ih =>
    rw [Walk.iterate]
    by_cases fixed : w.run p = p
    · have closed : ∀ j, p.mem j = true ↔ p.Reach R j := fun j => by rw [← h p hp j, fixed]
      rw [if_pos fixed, reach_rounds_of_fixed closed]
    · rw [if_neg fixed, ih (h.inside bounded hp), reach_of_mem_iff (h p hp)]
      exact reach_congr (fun _ _ => Rounds.succ_iff.symm) j

/-- What is known after `t` rounds from `q`: the places of as many rounds or fewer, and among them
those that are not reached in fewer. -/
structure Known (q : Places) (R : Nat → Nat → Prop) (t : Nat) (seen fresh : Places) : Prop where
  seen_iff : ∀ j, seen.mem j = true ↔ ∃ k ≤ t, q.Reach (Rounds R k) j
  fresh_iff : ∀ j, fresh.mem j = true ↔
    q.Reach (Rounds R t) j ∧ ∀ k < t, ¬q.Reach (Rounds R k) j

variable {q seen fresh : Places} {t : Nat}

theorem Known.start (q : Places) (R : Nat → Nat → Prop) : Known q R 0 q q where
  seen_iff j := by simp [reach_zero]
  fresh_iff j := by simp [reach_zero]

/-- The places that one more round finds. -/
theorem Known.mem_next (known : Known q R t seen fresh) (h : w.Follows length R)
    (hf : fresh.Inside length) (j : Nat) :
    ((w.run fresh).diff seen).mem j = true ↔
      q.Reach (Rounds R (t + 1)) j ∧ ∀ k < t + 1, ¬q.Reach (Rounds R k) j := by
  have unseen : seen.mem j = false ↔ ∀ k < t + 1, ¬q.Reach (Rounds R k) j := by
    rw [← Bool.not_eq_true, known.seen_iff]
    exact ⟨fun none k hk hr => none ⟨k, Nat.lt_succ_iff.mp hk, hr⟩,
      fun none ⟨k, hk, hr⟩ => none k (Nat.lt_succ_iff.mpr hk) hr⟩
  rw [mem_diff, Bool.and_eq_true, Bool.not_eq_true', h fresh hf j, unseen, reach_succ]
  refine and_congr_left fun new => ?_
  constructor
  · rintro ⟨i, hi, step⟩
    exact ⟨i, ((known.fresh_iff i).mp hi).1, step⟩
  · rintro ⟨i, reached, step⟩
    -- had `i` been reached earlier, `j` would have been too
    have late : ∀ k < t, ¬q.Reach (Rounds R k) i := fun k hk early =>
      new (k + 1) (Nat.succ_lt_succ hk) (reach_succ.mpr ⟨i, early, step⟩)
    exact ⟨i, (known.fresh_iff i).mpr ⟨reached, late⟩, step⟩

theorem Known.step (known : Known q R t seen fresh) (h : w.Follows length R)
    (hf : fresh.Inside length) :
    Known q R (t + 1) (seen.union ((w.run fresh).diff seen)) ((w.run fresh).diff seen) where
  seen_iff j := by
    rw [mem_union, Bool.or_eq_true, known.seen_iff, known.mem_next h hf]
    constructor
    · rintro (⟨k, hk, reached⟩ | ⟨reached, _⟩)
      · exact ⟨k, Nat.le_succ_of_le hk, reached⟩
      · exact ⟨t + 1, Nat.le_refl _, reached⟩
    · rintro ⟨k, hk, reached⟩
      by_cases early : ∃ k ≤ t, q.Reach (Rounds R k) j
      · exact .inl early
      · rcases Nat.lt_or_eq_of_le hk with before | rfl
        · exact absurd ⟨k, Nat.lt_succ_iff.mp before, reached⟩ early
        · exact .inr ⟨reached, fun k hk hr => early ⟨k, Nat.lt_succ_iff.mp hk, hr⟩⟩
  fresh_iff := known.mem_next h hf

/-- Where a round finds nothing, no later one does. -/
theorem Known.closed (known : Known q R t seen fresh) (h : w.Follows length R)
    (hf : fresh.Inside length) (nothing : ∀ j, ((w.run fresh).diff seen).mem j = false) {n j : Nat}
    (reached : q.Reach (Rounds R n) j) : ∃ k ≤ t, q.Reach (Rounds R k) j := by
  induction n generalizing j with
  | zero => exact ⟨0, Nat.zero_le t, reached⟩
  | succ n ih =>
    obtain ⟨i, earlier, step⟩ := reach_succ.mp reached
    obtain ⟨k, hk, hi⟩ := ih earlier
    have hj : q.Reach (Rounds R (k + 1)) j := reach_succ.mpr ⟨i, hi, step⟩
    rcases Nat.lt_or_eq_of_le hk with lt | rfl
    · exact ⟨k + 1, lt, hj⟩
    · refine Classical.byContradiction fun early => ?_
      have found : ((w.run fresh).diff seen).mem j = true :=
        (known.mem_next h hf j).mpr ⟨hj, fun k' hk' hr => early ⟨k', Nat.lt_succ_iff.mp hk', hr⟩⟩
      rw [nothing j] at found
      cases found

/-- The rounds of `spread`, although only fresh places are looked at and a round that finds none is
the last. -/
theorem Known.spread (known : Known q R t seen fresh) (h : w.Follows length R)
    (bounded : Stays R length) (hq : q.Inside length) (n j : Nat) :
    (w.spread n seen fresh).mem j = true ↔ ∃ k ≤ t + n, q.Reach (Rounds R k) j := by
  induction n generalizing t seen fresh with
  | zero => exact known.seen_iff j
  | succ n ih =>
    have hf : fresh.Inside length := fun i hi => by
      obtain ⟨i', hi', rounds⟩ := ((known.fresh_iff i).mp hi).1
      exact Rounds.stays bounded _ _ rounds (hq i' hi')
    rw [Walk.spread]
    by_cases nothing : ((w.run fresh).diff seen).isEmpty = true
    · rw [if_pos nothing, known.seen_iff]
      constructor
      · rintro ⟨k, hk, reached⟩
        exact ⟨k, by omega, reached⟩
      · rintro ⟨k, _, reached⟩
        exact known.closed h hf ((isEmpty_iff _).mp nothing) reached
    · rw [if_neg nothing, ih (known.step h hf), Nat.add_right_comm, Nat.add_assoc]

/-- At least `least` rounds, and at most `extra` more. -/
theorem Follows.repeated (h : w.Follows length R) (bounded : Stays R length) (least extra : Nat) :
    (w.repeated least extra).Follows length fun i j => ∃ k ≤ extra, Rounds R (least + k) i j := by
  intro p hp j
  have first := h.iterate bounded least hp
  have hq := inside_of_mem_iff first hp (Rounds.stays bounded)
  rw [Walk.repeated, (Known.start _ R).spread h bounded hq, Nat.zero_add]
  simp only [reach_of_mem_iff first, ← Rounds.add_iff]
  simp only [Reach]
  constructor
  · rintro ⟨k, hk, i, hi, rounds⟩
    exact ⟨i, hi, k, hk, rounds⟩
  · rintro ⟨i, hi, k, hk, rounds⟩
    exact ⟨k, hk, i, hi, rounds⟩

end Compose

/-- As many rounds as there are places, and one more, are enough for a repetition without an upper
bound. -/
theorem follows_unbounded {w : Walk} {length : Nat} {R : Nat → Nat → Prop}
    (h : w.Follows length R) (bounded : Stays R length)
    (forward : ∀ i j, R i j → i ≤ j) (least : Nat) :
    (w.repeated least (length + 1)).Follows length fun i j => ∃ k, Rounds R (least + k) i j := by
  intro p hp j
  rw [h.repeated bounded least (length + 1) p hp j]
  constructor
  · rintro ⟨i, hi, k, _, rounds⟩
    exact ⟨i, hi, k, rounds⟩
  · rintro ⟨i, hi, k, rounds⟩
    obtain ⟨i', first, others⟩ := Rounds.add_iff.mp rounds
    obtain ⟨k', hk', fewer⟩ := others.shorten forward
    have inText : j ≤ length := Rounds.stays bounded _ _ rounds (hp i hi)
    exact ⟨i, hi, k', by omega, Rounds.add_iff.mpr ⟨i', first, fewer⟩⟩

/-- **The walk of an expression leads where the expression does.** -/
theorem follows_ofNode (text : List Char) (node : Node) :
    (ofNode text node).Follows text.length (node.Leads text) := by
  induction node with
  | empty => exact follows_stay text.length
  | char set => exact follows_past text set
  | anchor f a => exact follows_here text f a
  | seq first second ihf ihs => exact ihf.andThen ihs (first.stays_leads text)
  | choice left right ihl ihr => exact ihl.orElse ihr
  | repetition inner min max ih =>
    intro p hp j
    have bounded := inner.stays_leads text
    cases max with
    | none =>
      refine (follows_unbounded ih bounded (fun _ _ h => h.le) min p hp j).trans ?_
      exact reach_congr (fun i j => by simp [Node.Leads]) j
    | some max =>
      refine (ih.repeated bounded min (max - min) p hp j).trans ?_
      exact reach_congr (fun i j => by simp [Node.Leads]) j

end Walk

/-- An expression matches in a text if and only if it leads from a place of the text to another. -/
theorem Node.matchesIn_iff (node : Node) (text : List Char) :
    node.matchesIn text = true ↔ ∃ i j, i ≤ text.length ∧ node.Leads text i j := by
  have reached (j : Nat) := Walk.follows_ofNode text node (.all text.length)
    (fun i hi => (Places.mem_all _ i).mp hi) j
  rw [matchesIn, Bool.not_eq_true', ← Bool.not_eq_true, Places.isEmpty_iff]
  simp only [Classical.not_forall, Bool.not_eq_false, reached, Places.Reach, Places.mem_all]
  exact exists_comm

/-- **A pattern matches a text** if and only if its expression can begin at some place of it and end
at another. -/
theorem isMatch_iff (p : FormCheck.Pattern) (text : String) :
    p.isMatch text = true ↔ ∃ i j, i ≤ text.toList.length ∧ p.node.Leads text.toList i j :=
  p.node.matchesIn_iff text.toList

/-- Between `^` and `$` an expression has to match the whole text, unless lines count. -/
theorem Node.matchesIn_whole_iff (node : Node) (text : List Char) {f : Flags}
    (single : f.multiLine = false) :
    (Node.seq (.anchor f .lineStart) (.seq node (.anchor f .lineEnd))).matchesIn text = true ↔
      node.Leads text 0 text.length := by
  have start (i : Nat) (h : i ≤ text.length) :
      Anchor.lineStart.holds f (around text i).1 (around text i).2 = true ↔ i = 0 := by
    cases i with
    | zero => simp [Anchor.holds, single, around]
    | succ i =>
      simp [Anchor.holds, single, around]
      omega
  have stop (j : Nat) (h : j ≤ text.length) :
      Anchor.lineEnd.holds f (around text j).1 (around text j).2 = true ↔ j = text.length := by
    simp [Anchor.holds, single, around]
    omega
  rw [matchesIn_iff]
  constructor
  · rintro ⟨i, j, hi, _, ⟨begins, rfl⟩, k, whole, ends, rfl⟩
    cases (start i hi).mp begins
    cases (stop k (node.stays_leads text _ _ whole hi)).mp ends
    exact whole
  · intro whole
    exact ⟨0, text.length, Nat.zero_le _, 0, ⟨(start 0 (Nat.zero_le _)).mpr rfl, rfl⟩, text.length,
      whole, (stop _ (Nat.le_refl _)).mpr rfl, rfl⟩

end FormCheck.Pattern
