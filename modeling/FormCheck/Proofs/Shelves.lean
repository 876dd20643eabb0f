import FormCheck.Proofs.SentFailures
import FormCheck.RuleBook.Shelf

/-!
# On a shelf the last book counts

Books are put on an empty shelf in any number of operations, which hand out the book that they replace
or do not. What can be seen of the shelf afterwards is which book is fetched for a form, which forms are
listed, and which book a further operation hands out.

`Shelf.Operation` are the calls of `with_document` and `insert` on an `InMemorySource`.

* `Shelf.fetch_afterAll_eq_ok_iff`, `Shelf.fetch_afterAll_eq_error_iff`: what is fetched, told by the
  operations.
* `Shelf.mem_forms_iff`: the forms that are listed are those for which a book is fetched.
* `Shelf.LooksLike`: two shelves cannot be told apart, whatever is done with both of them.
  `Shelf.LooksLike.of_fetch`: this is so as soon as the same books are fetched from both.
* `Shelf.SameForEach`: the operations of two runs are the same for each form, and stand in the same
  order there. Operations for different forms may have changed places.
* **`Shelf.last_write_counts`**: all of this for every run of operations on an empty shelf.
-/

namespace FormCheck.Shelf

/-! ## Runs of operations -/

/-- One operation, which puts a book on the shelf. -/
inductive Operation where
  /-- The book that is replaced is handed out. -/
  | insert (form : String) (b : RuleBook)
  | withBook (form : String) (b : RuleBook)

/-- The form of an operation, and the book that is put there. -/
def Operation.write : Operation → String × RuleBook
  | .insert form b | .withBook form b => (form, b)

/-- The shelf after one operation. -/
def after (s : Shelf) : Operation → Shelf
  | .insert form b => (s.insert form b).2
  | .withBook form b => s.withBook form b

/-- The shelf after some operations, the first one first. -/
def afterAll (s : Shelf) (ops : List Operation) : Shelf := ops.foldl after s

/-- The books that a run of operations hands out; there is none where the form was unknown. -/
def handedOut (s : Shelf) : List Operation → List (Option RuleBook)
  | [] => []
  | .insert form b :: rest => (s.insert form b).1 :: (s.after (.insert form b)).handedOut rest
  | .withBook form b :: rest => (s.after (.withBook form b)).handedOut rest

variable {s s' : Shelf} {form : String} {b : RuleBook} {ops ops' : List Operation}

theorem after_eq (s : Shelf) (op : Operation) : s.after op = s.withBook op.write.1 op.write.2 := by
  cases op with
  | insert form b => exact congrArg Prod.snd (insert_eq s form b)
  | withBook form b => rfl

/-- **An operation** gives its form a new book, and no other form. -/
theorem fetch_after (s : Shelf) (op : Operation) (form : String) :
    (s.after op).fetch form = if form = op.write.1 then .ok op.write.2 else s.fetch form := by
  rw [after_eq, fetch_withBook]

/-- **A run of operations** is the run of what they write. -/
theorem afterAll_eq (s : Shelf) (ops : List Operation) :
    s.afterAll ops = s.withBooks (ops.map Operation.write) := by
  induction ops generalizing s with
  | nil => rfl
  | cons op rest ih =>
    show (s.after op).afterAll rest = _
    rw [ih, after_eq]
    rfl

/-! ## What is fetched -/

theorem latest?_eq_some_iff {writes : List (String × RuleBook)} :
    latest? form writes = some b ↔ LastUnder form writes b :=
  find?_eq_some_iff_firstUnder.trans firstUnder_reverse_iff

theorem latest?_eq_none_iff {writes : List (String × RuleBook)} :
    latest? form writes = none ↔ form ∉ writes.map Prod.fst := by
  rw [latest?, Entries.find?_eq_none_iff, List.map_reverse, List.mem_reverse]

theorem fetch_afterAll (ops : List Operation) (form : String) :
    (empty.afterAll ops).fetch form =
      match latest? form (ops.map Operation.write) with
      | some b => .ok b
      | none => .error (.unknownForm form) := by
  rw [afterAll_eq, fetch_withBooks]
  rfl

/-- The book that is fetched is the one that was put there last. -/
theorem fetch_afterAll_eq_ok_iff :
    (empty.afterAll ops).fetch form = .ok b ↔ LastUnder form (ops.map Operation.write) b := by
  rw [fetch_afterAll, ← latest?_eq_some_iff]
  cases latest? form (ops.map Operation.write) <;> simp

/-- A form is unknown exactly if no operation was for it. Fetching fails in no other way. -/
theorem fetch_afterAll_eq_error_iff {e : BookError} :
    (empty.afterAll ops).fetch form = .error e ↔
      e = .unknownForm form ∧ ∀ op ∈ ops, op.write.1 ≠ form := by
  have hnone : (∀ op ∈ ops, op.write.1 ≠ form) ↔ latest? form (ops.map Operation.write) = none := by
    rw [latest?_eq_none_iff, List.map_map, List.mem_map, not_exists]
    exact forall_congr' fun op => not_and.symm
  rw [fetch_afterAll, hnone]
  cases latest? form (ops.map Operation.write) <;> simp [eq_comm]

/-! ## What is listed -/

theorem toOption_fetch (s : Shelf) (form : String) : (s.fetch form).toOption = s.books.get? form := by
  unfold fetch
  cases s.books.get? form <;> rfl

theorem mem_forms_iff : form ∈ s.forms ↔ ∃ b, s.fetch form = .ok b := by
  rw [forms, Dict.mem_sortedKeys, ← Dict.contains_iff, Dict.contains, ← toOption_fetch]
  cases s.fetch form <;> simp [Except.toOption]

theorem mem_forms_afterAll_iff :
    form ∈ (empty.afterAll ops).forms ↔ ∃ op ∈ ops, op.write.1 = form := by
  rw [mem_forms_iff]
  constructor
  · rintro ⟨b, hb⟩
    obtain ⟨before, later, hops, -⟩ := fetch_afterAll_eq_ok_iff.1 hb
    have hmem : (form, b) ∈ ops.map Operation.write := by simp [hops]
    obtain ⟨op, hop, hwrite⟩ := List.mem_map.1 hmem
    exact ⟨op, hop, congrArg Prod.fst hwrite⟩
  · rintro ⟨op, hop, hform⟩
    cases hfetch : (empty.afterAll ops).fetch form with
    | ok b => exact ⟨b, rfl⟩
    | error e => exact absurd hform ((fetch_afterAll_eq_error_iff.1 hfetch).2 op hop)

/-! ## Shelves that look alike -/

/-- **Two shelves cannot be told apart.** Whatever operations follow on both, the same books are handed
out, and the same books are fetched and the same forms listed afterwards. -/
structure LooksLike (s s' : Shelf) : Prop where
  handedOut : ∀ ops, s.handedOut ops = s'.handedOut ops
  fetch : ∀ ops form, (s.afterAll ops).fetch form = (s'.afterAll ops).fetch form
  forms : ∀ ops, (s.afterAll ops).forms = (s'.afterAll ops).forms

theorem fetch_after_congr (h : ∀ form, s.fetch form = s'.fetch form) (op : Operation)
    (form : String) : (s.after op).fetch form = (s'.after op).fetch form := by
  rw [fetch_after, fetch_after, h]

theorem fetch_afterAll_congr (h : ∀ form, s.fetch form = s'.fetch form) (ops : List Operation)
    (form : String) : (s.afterAll ops).fetch form = (s'.afterAll ops).fetch form := by
  induction ops generalizing s s' with
  | nil => exact h form
  | cons op rest ih => exact ih (fetch_after_congr h op)

theorem handedOut_congr (h : ∀ form, s.fetch form = s'.fetch form) (ops : List Operation) :
    s.handedOut ops = s'.handedOut ops := by
  induction ops generalizing s s' with
  | nil => rfl
  | cons op rest ih =>
    cases op with
    | insert form b =>
      rw [handedOut, handedOut, insert_eq, insert_eq, h, ih (fetch_after_congr h _)]
    | withBook form b => exact ih (fetch_after_congr h _)

theorem forms_congr (h : ∀ form, s.fetch form = s'.fetch form) : s.forms = s'.forms :=
  Dict.sortedKeys_congr fun form => by
    rw [Dict.contains, Dict.contains, ← toOption_fetch, ← toOption_fetch, h]

theorem LooksLike.of_fetch (h : ∀ form, s.fetch form = s'.fetch form) : s.LooksLike s' where
  handedOut := handedOut_congr h
  fetch := fetch_afterAll_congr h
  forms ops := forms_congr (fetch_afterAll_congr h ops)

/-! ## Operations in another order -/

/-- **Two runs do the same for each form**, in the same order. Operations for different forms may stand
in any order. -/
def SameForEach (ops ops' : List Operation) : Prop :=
  ∀ form, ops.filter (·.write.1 = form) = ops'.filter (·.write.1 = form)

theorem SameForEach.swap (before after : List Operation) {op op' : Operation}
    (hne : op.write.1 ≠ op'.write.1) :
    SameForEach (before ++ op :: op' :: after) (before ++ op' :: op :: after) := by
  intro form
  rw [List.filter_append, List.filter_append]
  by_cases hop : op.write.1 = form
  · have hop' : op'.write.1 ≠ form := fun h => hne (hop.trans h.symm)
    simp [hop, hop']
  · simp [List.filter_cons, hop]

/-- Operations of which no two are for one form may be reordered at will. -/
theorem SameForEach.of_perm (hforms : (ops.map fun op => op.write.1).Nodup) (hperm : ops.Perm ops') :
    SameForEach ops ops' := by
  intro form
  have hfilter := hperm.filter (·.write.1 = form)
  cases hops : ops.filter (·.write.1 = form) with
  | nil =>
    rw [hops] at hfilter
    exact hfilter.symm.eq_nil.symm
  | cons op rest =>
    cases rest with
    | nil =>
      rw [hops] at hfilter
      exact (List.perm_singleton.1 hfilter.symm).symm
    | cons op' rest =>
      -- two operations for the form cannot both be among those with different forms
      have hsublist : (op :: op' :: rest).Sublist ops := hops ▸ List.filter_sublist
      have hmem : ∀ o ∈ op :: op' :: rest, o.write.1 = form := by
        rw [← hops]
        intro o ho
        exact of_decide_eq_true (List.mem_filter.1 ho).2
      have hne := (List.nodup_cons.1 (hforms.sublist (hsublist.map _))).1
      rw [hmem op (by simp)] at hne
      exact absurd (List.mem_map.2 ⟨op', by simp, hmem op' (by simp)⟩) hne

/-- For each form only its own operations count. -/
theorem latest?_filter (form : String) (ops : List Operation) :
    latest? form ((ops.filter (·.write.1 = form)).map Operation.write) =
      latest? form (ops.map Operation.write) := by
  have hkept := Entries.find?_filter (fun name => decide (name = form)) form
    (ops.map Operation.write).reverse
  rw [if_pos (decide_eq_true rfl), List.filter_reverse, List.filter_map] at hkept
  exact hkept

theorem fetch_afterAll_of_sameForEach (h : SameForEach ops ops') (form : String) :
    (empty.afterAll ops).fetch form = (empty.afterAll ops').fetch form := by
  rw [fetch_afterAll, fetch_afterAll, ← latest?_filter, h, latest?_filter]

/-- **On a shelf the last book counts.** After any run of operations on an empty shelf, the book that
is fetched for a form is the one that was put there last, and the form is unknown exactly if no
operation was for it; what is handed out for a further book is what would have been fetched, and it is
nothing exactly if fetching would have failed. The forms are listed in ascending order, each once, and
they are those of the operations. A further operation changes what is fetched for its own form only.
Two runs that do the same for each form leave shelves behind that cannot be told apart; if no two
operations are for one form, this holds of all ways to order them. -/
theorem last_write_counts (ops : List Operation) :
    (∀ form b, (empty.afterAll ops).fetch form = .ok b ↔
      LastUnder form (ops.map Operation.write) b) ∧
    (∀ form e, (empty.afterAll ops).fetch form = .error e ↔
      e = .unknownForm form ∧ ∀ op ∈ ops, op.write.1 ≠ form) ∧
    (∀ form b, ((empty.afterAll ops).insert form b).1 =
        ((empty.afterAll ops).fetch form).toOption ∧
      (((empty.afterAll ops).insert form b).1 = none ↔
        ∃ e, (empty.afterAll ops).fetch form = .error e)) ∧
    (empty.afterAll ops).forms.Pairwise (· < ·) ∧
    (∀ form, form ∈ (empty.afterAll ops).forms ↔ ∃ op ∈ ops, op.write.1 = form) ∧
    (∀ op form, form ≠ op.write.1 →
      ((empty.afterAll ops).after op).fetch form = (empty.afterAll ops).fetch form) ∧
    (∀ ops', SameForEach ops ops' → (empty.afterAll ops).LooksLike (empty.afterAll ops')) ∧
    ((ops.map fun op => op.write.1).Nodup →
      ∀ ops', ops.Perm ops' → (empty.afterAll ops).LooksLike (empty.afterAll ops')) := by
  have hreordered : ∀ ops', SameForEach ops ops' →
      (empty.afterAll ops).LooksLike (empty.afterAll ops') :=
    fun ops' h => .of_fetch (fetch_afterAll_of_sameForEach h)
  refine ⟨fun form b => fetch_afterAll_eq_ok_iff, fun form e => fetch_afterAll_eq_error_iff,
    fun form b => ?_, Dict.ascending_sortedKeys _, fun form => mem_forms_afterAll_iff,
    fun op form hform => ?_, hreordered,
    fun hforms ops' hperm => hreordered ops' (.of_perm hforms hperm)⟩
  · rw [insert_eq]
    refine ⟨rfl, ?_⟩
    cases (empty.afterAll ops).fetch form <;> simp [Except.toOption]
  · rw [fetch_after, if_neg hform]

end FormCheck.Shelf

namespace FormCheck

namespace Sample

/-- A book with one field. -/
def memoBook : RuleBook := { fields := .ofList [("memo", .ofKind .text)] }

/-- A form gets a book, then another form gets one, and the first one is emptied. -/
def reshelved : List Shelf.Operation :=
  [.withBook "payment" memoBook, .insert "refund" memoBook, .insert "payment" {}]

/-- The same with the other form last. -/
def reshelvedLater : List Shelf.Operation :=
  [.withBook "payment" memoBook, .insert "payment" {}, .insert "refund" memoBook]

end Sample

open Sample in
/-- The form that was emptied stays so, a further book hands the empty one out, and it makes no
difference when the other form gets its book. -/
theorem last_write_counts_reshelved :
    LastUnder "payment" (reshelved.map Shelf.Operation.write) {} ∧
    (Shelf.empty.afterAll reshelved).fetch "payment" = .ok {} ∧
    ((Shelf.empty.afterAll reshelved).insert "payment" memoBook).1 = some {} ∧
    (∀ op ∈ reshelved, op.write.1 ≠ "order") ∧
    (Shelf.empty.afterAll reshelved).fetch "order" = .error (.unknownForm "order") ∧
    "refund" ≠ "payment" ∧
    ((Shelf.empty.afterAll reshelved).after (.insert "payment" memoBook)).fetch "refund" =
      (Shelf.empty.afterAll reshelved).fetch "refund" ∧
    Shelf.SameForEach reshelved reshelvedLater ∧
    (Shelf.empty.afterAll reshelved).LooksLike (Shelf.empty.afterAll reshelvedLater) := by
  obtain ⟨hfetch, hunknown, hinsert, -, -, hother, hreordered, -⟩ :=
    Shelf.last_write_counts reshelved
  have hlast : LastUnder "payment" (reshelved.map Shelf.Operation.write) {} :=
    ⟨[("payment", memoBook), ("refund", memoBook)], [], rfl, List.not_mem_nil⟩
  have hnone : ∀ op ∈ reshelved, op.write.1 ≠ "order" := by decide
  have hne : "refund" ≠ "payment" := by decide
  have hsame : Shelf.SameForEach reshelved reshelvedLater :=
    .swap [.withBook "payment" memoBook] [] hne
  have hpayment := (hfetch _ _).2 hlast
  exact ⟨hlast, hpayment, (hinsert _ _).1.trans (by rw [hpayment]; rfl), hnone,
    (hunknown _ _).2 ⟨rfl, hnone⟩, hne, hother (.insert "payment" memoBook) _ hne, hsame,
    hreordered _ hsame⟩

end FormCheck
