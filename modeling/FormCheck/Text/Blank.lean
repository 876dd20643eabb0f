/-!
# Blank characters and trimming

A character is blank when it has the Unicode property `White_Space`. `trim` takes the blanks from
both ends of a text and leaves those inside.

* `trimmed` is the same on lists of characters, where its facts are stated;
  `trimmed_trimmed` says that trimming twice is trimming once.
-/

namespace FormCheck

/-- The property `White_Space`: the ASCII blanks, next line, no-break space, the ogham space, the
general punctuation spaces and separators, and the ideographic space. -/
def isBlank (c : Char) : Bool :=
  let n := c.toNat
  (9 ≤ n && n ≤ 13) || n == 0x20 || n == 0x85 || n == 0xA0 || n == 0x1680 ||
    (0x2000 ≤ n && n ≤ 0x200A) || n == 0x2028 || n == 0x2029 || n == 0x202F || n == 0x205F ||
    n == 0x3000

namespace Text

/-- The characters from the first one on that is not blank. -/
def trimmedLeft (cs : List Char) : List Char := cs.dropWhile isBlank

/-- The characters up to the last one that is not blank. -/
def trimmedRight (cs : List Char) : List Char := (cs.reverse.dropWhile isBlank).reverse

/-- The characters from the first to the last one that is not blank. -/
def trimmed (cs : List Char) : List Char := trimmedRight (trimmedLeft cs)

/-- A text without the blanks at its two ends. -/
def trim (s : String) : String := String.ofList (trimmed s.toList)

/-- Whether a text holds blanks only. -/
def isBlankOnly (s : String) : Bool := s.toList.all isBlank

theorem toList_trim (s : String) : (trim s).toList = trimmed s.toList := by
  simp [trim]

theorem trimmedRight_head {cs : List Char} (h : cs.head?.any (fun c => !isBlank c)) :
    (trimmedRight cs).head? = cs.head? := by
  cases cs with
  | nil => simp at h
  | cons c rest =>
    simp only [List.head?_cons, Option.any_some, Bool.not_eq_true'] at h
    unfold trimmedRight
    rw [List.reverse_cons, List.dropWhile_append]
    split
    · simp [List.dropWhile, h]
    · simp

theorem head?_trimmedLeft (cs : List Char) :
    trimmedLeft cs = [] ∨ (trimmedLeft cs).head?.any (fun c => !isBlank c) = true := by
  induction cs with
  | nil => simp [trimmedLeft]
  | cons c rest ih =>
    by_cases h : isBlank c
    · simpa [trimmedLeft, List.dropWhile, h] using ih
    · right
      simp [trimmedLeft, List.dropWhile, h]

theorem trimmedLeft_eq_self {cs : List Char}
    (h : cs = [] ∨ cs.head?.any (fun c => !isBlank c) = true) : trimmedLeft cs = cs := by
  cases cs with
  | nil => rfl
  | cons c rest =>
    simp only [reduceCtorEq, List.head?_cons, Option.any_some, Bool.not_eq_true', false_or] at h
    simp [trimmedLeft, List.dropWhile, h]

theorem trimmedRight_trimmedRight (cs : List Char) :
    trimmedRight (trimmedRight cs) = trimmedRight cs := by
  unfold trimmedRight
  rw [List.reverse_reverse]
  exact congrArg List.reverse (trimmedLeft_eq_self (head?_trimmedLeft _))

theorem trimmed_trimmed (cs : List Char) : trimmed (trimmed cs) = trimmed cs := by
  have key : trimmedLeft (trimmed cs) = trimmed cs := by
    apply trimmedLeft_eq_self
    unfold trimmed
    rcases head?_trimmedLeft cs with h | h
    · left
      rw [h]
      rfl
    · right
      rw [trimmedRight_head h]
      exact h
  show trimmedRight (trimmedLeft (trimmed cs)) = trimmed cs
  rw [key]
  exact trimmedRight_trimmedRight _

theorem trimmed_eq_self {cs : List Char} (h : ∀ c ∈ cs, isBlank c = false) : trimmed cs = cs := by
  have hleft : ∀ cs : List Char, (∀ c ∈ cs, isBlank c = false) → trimmedLeft cs = cs := by
    intro cs hcs
    cases cs with
    | nil => rfl
    | cons c rest => exact List.dropWhile_cons_of_neg (by simp [hcs c List.mem_cons_self])
  have hright : trimmedLeft cs.reverse = cs.reverse :=
    hleft cs.reverse fun c hc => h c (List.mem_reverse.1 hc)
  show (trimmedLeft (trimmedLeft cs).reverse).reverse = cs
  rw [hleft cs h, hright, List.reverse_reverse]

theorem trimmedLeft_subset (cs : List Char) : trimmedLeft cs ⊆ cs :=
  (List.dropWhile_sublist _).subset

/-- Trimming leaves characters out and changes nothing else. -/
theorem trimmed_sublist (cs : List Char) : List.Sublist (trimmed cs) cs := by
  have hleft : ∀ cs, List.Sublist (trimmedLeft cs) cs := fun _ => List.dropWhile_sublist isBlank
  have hright : List.Sublist (trimmedRight (trimmedLeft cs)) (trimmedLeft cs) := by
    have hreversed := (hleft (trimmedLeft cs).reverse).reverse
    rwa [List.reverse_reverse] at hreversed
  exact hright.trans (hleft cs)

theorem trimmed_subset (cs : List Char) : trimmed cs ⊆ cs := (trimmed_sublist cs).subset

theorem trim_trim (s : String) : trim (trim s) = trim s := by
  simp [trim, trimmed_trimmed]

end Text

end FormCheck
