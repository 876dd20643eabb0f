import FormCheck.Check.Standard

/-!
# How chains are put together does not matter

Checks can be put together in several ways: a link is pushed onto a chain, a check is followed by
another one, and chains are links of chains, nested to any depth. Whatever the way, what comes out is
told by the checks that went in and their order.

`Check.MadeOf` has a case for each way in which the program puts checks together: `new`, `push` and
`then`.

* `Check.MadeOf`: a check is put together from given checks, in this order.
* `Check.MadeOf.eq_toCheck`: it is the chain that has them for its links, by induction on the way in
  which it was put together.
* `Chain.run_eq_accepted_iff`, `Chain.run_eq_rejected_iff`: a chain accepts what all links accept, and
  fails as its first failing link does.
* `Chain.exists_perm_rejected_iff`: reordered, a chain can fail as each of its failing links does, and
  in no other way.
* **`Chain.flat_conjunction`**: all of this together.
-/

namespace FormCheck

variable {α : Type}

/-- **A check is put together from given checks**, which are run in this order. -/
inductive Check.MadeOf : Check α → List (Check α) → Prop
  | single (c : Check α) : MadeOf c [c]
  /-- The chain without links. -/
  | empty : MadeOf (Chain.toCheck {}) []
  /-- A chain with one more link, which may be a chain as well. -/
  | push {c : Chain α} {link : Check α} {parts more : List (Check α)} (hc : MadeOf c.toCheck parts)
      (hlink : MadeOf link more) : MadeOf (c.push link).toCheck (parts ++ more)
  /-- A check and one that follows it, each of which may be a chain. -/
  | andThen {first second : Check α} {parts more : List (Check α)} (hfirst : MadeOf first parts)
      (hsecond : MadeOf second more) : MadeOf (first.andThen second).toCheck (parts ++ more)

namespace Chain

variable (x : α)

theorem foldl_push (as : List (Check α)) (c : Chain α) : as.foldl push c = ⟨c.links ++ as⟩ := by
  induction as generalizing c with
  | nil => rw [List.foldl_nil, List.append_nil]
  | cons link rest ih => rw [List.foldl_cons, ih, push, List.append_assoc, List.singleton_append]

theorem run_singleton (c : Check α) : run ⟨[c]⟩ x = c.run x := by
  rw [run_cons, run_nil, Verdict.andThen_accepted]

theorem run_andThen (first second : Check α) :
    (first.andThen second).run x = (first.run x).andThen (second.run x) := by
  rw [Check.andThen, run_push, run_push]
  rfl

theorem run_eq_accepted_iff {as : List (Check α)} {x : α} :
    run ⟨as⟩ x = .accepted ↔ ∀ c ∈ as, c.run x = .accepted := by
  rw [← Verdict.isAccepted_iff, isAccepted_run, List.all_eq_true]
  simp only [Verdict.isAccepted_iff]

/-- A chain fails as the first of its links that fails, and changes nothing about the failure. -/
theorem run_eq_rejected_iff {as : List (Check α)} {x : α} {f : Failure} :
    run ⟨as⟩ x = .rejected f ↔
      ∃ before c after, as = before ++ c :: after ∧ (∀ b ∈ before, b.run x = .accepted) ∧
        c.run x = .rejected f := by
  rw [← Verdict.failure?_eq_some_iff, failure?_run, List.findSome?_eq_some_iff]
  simp only [Verdict.failure?_eq_some_iff, Verdict.failure?_eq_none_iff]
  constructor
  · rintro ⟨before, c, after, has, hc, hbefore⟩
    exact ⟨before, c, after, has, hbefore, hc⟩
  · rintro ⟨before, c, after, has, hbefore, hc⟩
    exact ⟨before, c, after, has, hc, hbefore⟩

/-- The failures with which a chain can fail once its links are reordered are those of its links. -/
theorem exists_perm_rejected_iff {as : List (Check α)} {x : α} {f : Failure} :
    (∃ bs, as.Perm bs ∧ run ⟨bs⟩ x = .rejected f) ↔ ∃ c ∈ as, c.run x = .rejected f := by
  constructor
  · rintro ⟨bs, hperm, hbs⟩
    obtain ⟨before, c, after, rfl, -, hc⟩ := run_eq_rejected_iff.1 hbs
    exact ⟨c, hperm.mem_iff.2 (List.mem_append_right _ List.mem_cons_self), hc⟩
  · rintro ⟨c, hmem, hc⟩
    -- the link that is to fail is moved to the front
    obtain ⟨before, after, rfl⟩ := List.append_of_mem hmem
    refine ⟨c :: (before ++ after), List.perm_middle, ?_⟩
    rw [run_cons, hc]
    rfl

end Chain

namespace Check.MadeOf

/-- **A check is the flat chain of what it was made of.** -/
theorem eq_toCheck {c : Check α} {parts : List (Check α)} (h : c.MadeOf parts) :
    c = Chain.toCheck ⟨parts⟩ := by
  have hrun : ∀ x, c.run x = Chain.run ⟨parts⟩ x := by
    intro x
    induction h with
    | single c => exact (Chain.run_singleton x c).symm
    | empty => rfl
    | @push c link parts more hc hlink ihc ihlink =>
      show (c.push link).run x = _
      have hchain : c.run x = Chain.run ⟨parts⟩ x := ihc
      rw [Chain.run_push, hchain, ihlink, Chain.run_append]
    | @andThen first second parts more hfirst hsecond ihfirst ihsecond =>
      show (first.andThen second).run x = _
      rw [Chain.run_andThen, ihfirst, ihsecond, Chain.run_append]
  exact congrArg Check.mk (funext hrun)

theorem pushes {c : Chain α} {parts : List (Check α)} (hc : MadeOf c.toCheck parts)
    {links : List (Check α × List (Check α))} (hlinks : ∀ link ∈ links, link.1.MadeOf link.2) :
    MadeOf (Chain.toCheck ⟨c.links ++ links.map Prod.fst⟩) (parts ++ links.flatMap Prod.snd) := by
  induction links generalizing c parts with
  | nil =>
    rw [List.map_nil, List.flatMap_nil, List.append_nil, List.append_nil]
    exact hc
  | cons link rest ih =>
    obtain ⟨hlink, hrest⟩ := List.forall_mem_cons.1 hlinks
    have hpush := ih (hc.push hlink) hrest
    rwa [Chain.push, List.append_assoc, List.append_assoc] at hpush

/-- Checks that were put together can be the links of a chain. -/
theorem chain {links : List (Check α × List (Check α))}
    (hlinks : ∀ link ∈ links, link.1.MadeOf link.2) :
    MadeOf (Chain.toCheck ⟨links.map Prod.fst⟩) (links.flatMap Prod.snd) :=
  empty.pushes hlinks

theorem links (as : List (Check α)) : MadeOf (Chain.toCheck ⟨as⟩) as := by
  have hsingles : ∀ link ∈ as.map fun c => (c, [c]), link.1.MadeOf link.2 := by
    intro link hlink
    obtain ⟨c, -, rfl⟩ := List.mem_map.1 hlink
    exact .single c
  have hchain := chain hsingles
  rwa [List.map_map, List.flatMap_map, List.flatMap_singleton',
    show Prod.fst ∘ (fun c : Check α => (c, [c])) = id from rfl, List.map_id] at hchain

end Check.MadeOf

namespace Chain

/-- A chain without links makes no difference wherever it stands. -/
theorem toCheck_empty_link (as bs : List (Check α)) :
    toCheck ⟨as ++ toCheck {} :: bs⟩ = toCheck ⟨as ++ bs⟩ := by
  refine congrArg Check.mk (funext fun x => ?_)
  rw [run_append, run_cons, run_append]
  rfl

/-- **Chains are flat ordered conjunctions.** A chain whose links are two chains is the chain of all
their links, and a check that was put together in any way is the flat chain of what it was made of. A
chain accepts what all its links accept, and otherwise fails as the first of them that fails. A chain
without links makes no difference. Links may change places without changing what is accepted; which
failure is met then is any of those with which a link fails, and no other. -/
theorem flat_conjunction :
    (∀ as : List (Check α), as.foldl push {} = ⟨as⟩) ∧
    (∀ as bs : List (Check α),
      toCheck ⟨[toCheck ⟨as⟩, toCheck ⟨bs⟩]⟩ = toCheck ⟨as ++ bs⟩) ∧
    (∀ links : List (Check α × List (Check α)), (∀ link ∈ links, link.1.MadeOf link.2) →
      Check.MadeOf (toCheck ⟨links.map Prod.fst⟩) (links.flatMap Prod.snd)) ∧
    (∀ (c : Check α) parts, c.MadeOf parts → c = toCheck ⟨parts⟩) ∧
    (∀ (as : List (Check α)) x, run ⟨as⟩ x = .accepted ↔ ∀ c ∈ as, c.run x = .accepted) ∧
    (∀ (as : List (Check α)) x f, run ⟨as⟩ x = .rejected f ↔
      ∃ before c after, as = before ++ c :: after ∧ (∀ b ∈ before, b.run x = .accepted) ∧
        c.run x = .rejected f) ∧
    (∀ as bs : List (Check α), toCheck ⟨as ++ toCheck {} :: bs⟩ = toCheck ⟨as ++ bs⟩) ∧
    (∀ as bs : List (Check α), as.Perm bs →
      ∀ x, run ⟨as⟩ x = .accepted ↔ run ⟨bs⟩ x = .accepted) ∧
    ∀ (as : List (Check α)) x f,
      (∃ bs, as.Perm bs ∧ run ⟨bs⟩ x = .rejected f) ↔ ∃ c ∈ as, c.run x = .rejected f := by
  refine ⟨fun as => foldl_push as {}, fun as bs => ?_, fun links h => .chain h,
    fun c parts h => h.eq_toCheck, fun as x => run_eq_accepted_iff,
    fun as x f => run_eq_rejected_iff, toCheck_empty_link, fun as bs hperm x => ?_,
    fun as x f => exists_perm_rejected_iff⟩
  · exact (Check.MadeOf.andThen (.links as) (.links bs)).eq_toCheck
  · simp only [run_eq_accepted_iff, hperm.mem_iff]

end Chain

namespace Sample

/-- A text is not too short. -/
def notShort : Check String := .minLength .chars 3

/-- A text is not too long. -/
def notLong : Check String := .maxLength .chars 1

end Sample

open Sample in
/-- A text that is both too short and too long fails as the first link does, however the two links are
put together, and as the other one when they change places. -/
theorem flat_conjunction_nested :
    Check.MadeOf ((notShort.andThen (Chain.toCheck {})).push notLong).toCheck [notShort, notLong] ∧
    ((notShort.andThen (Chain.toCheck {})).push notLong).toCheck =
      Chain.toCheck ⟨[notShort, notLong]⟩ ∧
    Chain.run ⟨[notShort, notLong]⟩ "ab" = .rejected (.minLength 3) ∧
    [notShort, notLong].Perm [notLong, notShort] ∧
    Chain.run ⟨[notLong, notShort]⟩ "ab" = .rejected (.maxLength 1) ∧
    ¬ Chain.run ⟨[notLong, notShort]⟩ "ab" = .accepted := by
  obtain ⟨-, -, -, hflat, -, hfails, -, hperm, -⟩ := Chain.flat_conjunction (α := String)
  have hmade : Check.MadeOf ((notShort.andThen (Chain.toCheck {})).push notLong).toCheck
      [notShort, notLong] :=
    .push (.andThen (.single notShort) .empty) (.single notLong)
  have hswap : [notShort, notLong].Perm [notLong, notShort] := List.Perm.swap _ _ _
  have hshort : Chain.run ⟨[notShort, notLong]⟩ "ab" = .rejected (.minLength 3) :=
    (hfails _ _ _).2 ⟨[], notShort, [notLong], rfl, List.forall_mem_nil _, by decide +kernel⟩
  have hlong : Chain.run ⟨[notLong, notShort]⟩ "ab" = .rejected (.maxLength 1) :=
    (hfails _ _ _).2 ⟨[], notLong, [notShort], rfl, List.forall_mem_nil _, by decide +kernel⟩
  refine ⟨hmade, hflat _ _ hmade, hshort, hswap, hlong, fun haccepted => ?_⟩
  have hshort' := (hperm _ _ hswap "ab").2 haccepted
  rw [hshort] at hshort'
  cases hshort'

end FormCheck
