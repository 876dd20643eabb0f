import FormCheck.RuleBook.Path

/-!
# Forms and their files

The path of a form's file is made of the directory and the name of the form, so names decide what is
read. A name that is no name of a form is refused before anything is read, and any other one leads
to a file of its own that stands in the directory itself.

The paths are those of `form_path`, and fetching is the `fetch_rule_document` of a `FileSource`.

* `RuleFiles.fetchBy`: fetching as it goes, with files that are read on the way.
  `RuleFiles.fetchBy_pure`: it gives what `RuleFiles.fetch` gives.
* `RuleFiles.isFormName_iff`: which names are those of forms.
* `RuleFiles.fetchBy_of_refused`: a name that is refused has no file read.
* `RuleFiles.formPath?_eq_join`, `RuleFiles.eq_of_parts_eq`: the other names lead to files in the
  directory, different names to different ones.
* **`RuleFiles.form_stays_in_directory`**: all of this together, for every directory and every name.
-/

namespace FormCheck.RuleFiles

/-- Fetches the book of a form and reads the files on the way, by whatever effects reading has. The
definitions are read only when the file of the form gave rules. -/
def fetchBy {m : Type → Type} [Monad m] (s : RuleFiles) (ofText? : String → Option Json)
    (read : String → m Reading) (form : String) : m (Except BookError RuleBook) :=
  match s.formPath? form with
  | none => pure (.error (.unknownForm form))
  | some path => do
    match document ofText? path (← read path) with
    | .error e => pure (.error e)
    | .ok none => pure (.error (.unknownForm form))
    | .ok (some rules) =>
      let definitions := document ofText? s.definitions (← read s.definitions)
      pure (definitions.bind fun found => RuleBook.ofJson rules (found.getD .null))

section

variable {s : RuleFiles} {form form' path path' : String}

/-- Fetching gives the same when the files are known beforehand. -/
theorem fetchBy_pure {m : Type → Type} [Monad m] [LawfulMonad m] (ofText? : String → Option Json)
    (read : String → Reading) :
    s.fetchBy ofText? (fun path => (pure (read path) : m Reading)) form =
      pure (s.fetch ofText? read form) := by
  unfold fetchBy fetch
  cases s.formPath? form with
  | none => rfl
  | some path =>
    simp only [pure_bind]
    cases document ofText? path (read path) with
    | error e => rfl
    | ok rules =>
      cases rules with
      | none => rfl
      | some rules => rfl

/-! ## The names of forms -/

/-- Two elements are neighbours in a list exactly if they stand there as a part of it. -/
theorem mem_zip_tail_iff {α : Type} {a b : α} {cs : List α} :
    (a, b) ∈ cs.zip cs.tail ↔ [a, b] <:+: cs := by
  induction cs with
  | nil => simp
  | cons c rest ih =>
    cases rest with
    | nil => simp [List.infix_cons_iff]
    | cons d rest =>
      rw [List.tail_cons, List.zip_cons_cons, List.mem_cons, List.infix_cons_iff, ← ih]
      simp [List.cons_prefix_cons]

theorem isFormName_iff :
    isFormName form = true ↔
      form ≠ "" ∧ form ≠ "." ∧ '/' ∉ form.toList ∧ '\\' ∉ form.toList ∧
        ¬ ['.', '.'] <:+: form.toList := by
  rw [← mem_zip_tail_iff]
  simp [isFormName, and_assoc]

theorem formPath?_eq_none_iff : s.formPath? form = none ↔ isFormName form = false := by
  unfold formPath? fileName?
  cases isFormName form <;> simp

theorem formPath?_eq_some_iff :
    s.formPath? form = some path ↔
      isFormName form = true ∧ pathIn s.directory (form ++ ".json") = path := by
  unfold formPath? fileName?
  cases isFormName form <;> simp

/-- **A name that is refused has no file read**: there is no effect at all. -/
theorem fetchBy_of_refused {m : Type → Type} [Monad m] (h : s.formPath? form = none)
    (ofText? : String → Option Json) (read : String → m Reading) :
    s.fetchBy ofText? read form = pure (.error (.unknownForm form)) := by
  rw [fetchBy, h]

/-! ## The files of forms -/

/-- With its ending the name of a form is that of a file, and no backslash stands in it. -/
theorem isFileName_of_isFormName (h : isFormName form = true) :
    Path.IsFileName (form ++ ".json") ∧ '\\' ∉ (form ++ ".json").toList := by
  obtain ⟨-, -, hslash, hbackslash, -⟩ := isFormName_iff.1 h
  have hne {short : String} (hshort : short.length < 5) : form ++ ".json" ≠ short := by
    rintro rfl
    rw [String.length_append] at hshort
    exact absurd hshort (Nat.not_lt.2 (Nat.le_add_left _ _))
  have hchars {c : Char} (hform : c ∉ form.toList) (hjson : c ∉ ".json".toList) :
      c ∉ (form ++ ".json").toList := by
    rw [String.toList_append, List.mem_append]
    exact not_or.2 ⟨hform, hjson⟩
  exact ⟨⟨hne (by decide), hne (by decide), hne (by decide), hchars hslash (by decide)⟩,
    hchars hbackslash (by decide)⟩

/-- The path of a form's file is followed from the directory on. -/
theorem formPath?_eq_join (h : s.formPath? form = some path) :
    path = Path.join s.directory (form ++ ".json") ∧ Path.IsFileName (form ++ ".json") ∧
      '\\' ∉ (form ++ ".json").toList := by
  obtain ⟨hname, hpath⟩ := formPath?_eq_some_iff.1 h
  obtain ⟨hfile, hbackslash⟩ := isFileName_of_isFormName hname
  exact ⟨hpath.symm.trans (hfile.join _).symm, hfile, hbackslash⟩

/-- **Different names lead to different files**, also when paths are taken for the same by their
parts alone. -/
theorem eq_of_parts_eq (h : s.formPath? form = some path) (h' : s.formPath? form' = some path')
    (hparts : Path.parts path = Path.parts path') : form = form' := by
  obtain ⟨rfl, hfile, -⟩ := formPath?_eq_join h
  obtain ⟨rfl, hfile', -⟩ := formPath?_eq_join h'
  rw [Path.parts_join hfile, Path.parts_join hfile'] at hparts
  have hentry := Path.Part.entry.inj (List.singleton_inj.1 (List.append_cancel_left hparts))
  exact (String.append_left_inj _).1 hentry

/-- **No name leads out of the directory.**

A name is refused exactly if it is empty or a single point, or if a slash, a backslash or a pair of
points stands in it. Then the form is unknown, whatever the files hold, and none of them is read.

Any other name leads to the file that is called like the form, with an ending. Its name is a path of
one part, and the directory comes before it. Other names lead to other files. -/
theorem form_stays_in_directory (s : RuleFiles) (form : String) :
    (s.formPath? form = none ↔
      form = "" ∨ form = "." ∨ '/' ∈ form.toList ∨ '\\' ∈ form.toList ∨
        ['.', '.'] <:+: form.toList) ∧
    (s.formPath? form = none →
      (∀ ofText? read, s.fetch ofText? read form = .error (.unknownForm form)) ∧
      ∀ (m : Type → Type) [Monad m] ofText? (read : String → m Reading),
        s.fetchBy ofText? read form = pure (.error (.unknownForm form))) ∧
    ∀ path, s.formPath? form = some path →
      path = Path.join s.directory (form ++ ".json") ∧
      Path.parts (form ++ ".json") = [.entry (form ++ ".json")] ∧
      Path.parts path = Path.parts s.directory ++ [.entry (form ++ ".json")] ∧
      Path.parent? path = some (Path.parts s.directory) ∧
      Path.fileName? path = some (form ++ ".json") ∧
      form ++ ".json" ≠ "." ∧ form ++ ".json" ≠ ".." ∧
      '/' ∉ (form ++ ".json").toList ∧ '\\' ∉ (form ++ ".json").toList ∧
      ∀ form' path', form ≠ form' → s.formPath? form' = some path' →
        path ≠ path' ∧ Path.parts path ≠ Path.parts path' := by
  refine ⟨?_, fun h => ⟨fun ofText? read => ?_, fun m _ => fetchBy_of_refused h⟩, fun path h => ?_⟩
  · rw [formPath?_eq_none_iff, ← Bool.not_eq_true, isFormName_iff]
    simp only [ne_eq, Classical.not_and_iff_not_or_not, Classical.not_not]
  · exact (fetchBy_pure (m := Id) ofText? read).symm.trans (fetchBy_of_refused h ofText? _)
  · obtain ⟨hjoin, hfile, hbackslash⟩ := formPath?_eq_join h
    have hother (form' path' : String) (hne : form ≠ form') (h' : s.formPath? form' = some path') :
        Path.parts path ≠ Path.parts path' := fun hparts => hne (eq_of_parts_eq h h' hparts)
    refine ⟨hjoin, hfile.parts, ?_, ?_, ?_, hfile.ne_here, hfile.ne_above, hfile.no_slash,
      hbackslash, fun form' path' hne h' => ⟨fun heq => ?_, hother form' path' hne h'⟩⟩
    · rw [hjoin, Path.parts_join hfile]
    · rw [hjoin, Path.parent?_join hfile]
    · rw [hjoin, Path.fileName?_join hfile]
    · exact hother form' path' hne h' (congrArg Path.parts heq)

end

end FormCheck.RuleFiles

namespace FormCheck

namespace Sample

/-- Forms in a directory of the root. -/
def rootFiles : RuleFiles := { directory := "/rules" }

/-- Notes the paths that are read, and finds nothing. -/
def noted (path : String) : StateM (List String) RuleFiles.Reading := do
  modify (path :: ·)
  return .missing

end Sample

open Sample in
/-- Nothing is read for a name that leads up, and two other names have two files in the
directory. -/
theorem form_stays_in_directory_root :
    rootFiles.formPath? "../secrets" = none ∧
    rootFiles.fetchBy Json.ofText? noted "../secrets" =
      pure (.error (.unknownForm "../secrets")) ∧
    ((rootFiles.fetchBy Json.ofText? noted "../secrets").run []).2 = [] ∧
    rootFiles.formPath? "payment" = some "/rules/payment.json" ∧
    ((rootFiles.fetchBy Json.ofText? noted "payment").run []).2 = ["/rules/payment.json"] ∧
    Path.parts "/rules/payment.json" = Path.parts "/rules" ++ [.entry "payment.json"] ∧
    Path.parent? "/rules/payment.json" = some [.root, .entry "rules"] ∧
    "payment" ≠ "refund" ∧ rootFiles.formPath? "refund" = some "/rules/refund.json" ∧
    Path.parts "/rules/payment.json" ≠ Path.parts "/rules/refund.json" := by
  obtain ⟨hrefused, hnothing, -⟩ := RuleFiles.form_stays_in_directory rootFiles "../secrets"
  obtain ⟨-, -, hpath⟩ := RuleFiles.form_stays_in_directory rootFiles "payment"
  have hnone : rootFiles.formPath? "../secrets" = none :=
    hrefused.2 (.inr (.inr (.inl (by decide))))
  have hpayment : rootFiles.formPath? "payment" = some "/rules/payment.json" := by decide
  have hrefund : rootFiles.formPath? "refund" = some "/rules/refund.json" := by decide
  have hne : "payment" ≠ "refund" := by decide
  have hfetch := (hnothing hnone).2 (StateM (List String)) Json.ofText? noted
  obtain ⟨-, -, hparts, hparent, -, -, -, -, -, hother⟩ := hpath _ hpayment
  exact ⟨hnone, hfetch, by rw [hfetch]; rfl, hpayment, rfl, hparts, hparent, hne, hrefund,
    (hother _ _ hne hrefund).2⟩

end FormCheck
