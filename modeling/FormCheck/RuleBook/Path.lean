import FormCheck.RuleBook.Files

/-!
# The parts of a path

Slashes set the pieces of a path apart. A pair of points leads up, and other pieces are the names of
what is entered. Empty pieces and single points lead nowhere, unless they come first: a slash in front
stands for the root, and a point in front for the place from which paths are followed. Two paths are
taken for the same when they have the same parts.

* `Path.join`: a path that is followed from the end of another one.
* `Path.parts_join`: with the name of a file the other path gets one more part.
* `Path.parent?_join`, `Path.fileName?_join`: the name is taken off again.
-/

namespace FormCheck.Path

/-- One part of a path. -/
inductive Part where
  | root
  | here
  | above
  | entry (name : String)
deriving DecidableEq

/-- The pieces of a path. -/
def pieces (path : String) : List (List Char) := path.toList.splitOn '/'

/-- Where a path starts that is not empty, if its first piece tells. -/
def lead : List Char → List Part
  | [] => [.root]
  | ['.'] => [.here]
  | _ => []

/-- Where a piece leads on the way. -/
def ofPiece? : List Char → Option Part
  | [] | ['.'] => none
  | ['.', '.'] => some .above
  | cs => some (.entry (String.ofList cs))

/-- The parts of a path. -/
def parts (path : String) : List Part :=
  if path = "" then [] else lead ((pieces path).headD []) ++ (pieces path).filterMap ofPiece?

/-- A path followed from the end of another one. If it starts at the root, the other one is of no
account. -/
def join (base path : String) : String :=
  if path.toList.head? = some '/' then path else RuleFiles.pathIn base path

/-- The parts of a path without the last one. There is nothing before the root. -/
def parent? (path : String) : Option (List Part) :=
  match (parts path).getLast? with
  | none | some .root => none
  | some _ => some (parts path).dropLast

/-- The name at the end of a path. -/
def fileName? (path : String) : Option String :=
  match (parts path).getLast? with
  | some (.entry name) => some name
  | _ => none

/-- A text that can be the name of a file in any directory. -/
structure IsFileName (name : String) : Prop where
  ne_empty : name ≠ ""
  ne_here : name ≠ "."
  ne_above : name ≠ ".."
  no_slash : '/' ∉ name.toList

section

variable {name : String}

theorem IsFileName.pieces (h : IsFileName name) : pieces name = [name.toList] :=
  List.splitOn_eq_singleton h.no_slash

theorem IsFileName.ofPiece? (h : IsFileName name) : ofPiece? name.toList = some (.entry name) := by
  unfold Path.ofPiece?
  split
  · rename_i hcs
    exact absurd (String.toList_eq_nil_iff.1 hcs) h.ne_empty
  · rename_i hcs
    exact absurd (String.toList_inj.1 hcs) h.ne_here
  · rename_i hcs
    exact absurd (String.toList_inj.1 hcs) h.ne_above
  · rw [String.ofList_toList]

theorem IsFileName.lead (h : IsFileName name) : lead name.toList = [] := by
  unfold Path.lead
  split
  · rename_i hcs
    exact absurd (String.toList_eq_nil_iff.1 hcs) h.ne_empty
  · rename_i hcs
    exact absurd (String.toList_inj.1 hcs) h.ne_here
  · rfl

/-- **The name of a file is one part**, which starts nowhere. -/
theorem IsFileName.parts (h : IsFileName name) : parts name = [.entry name] := by
  rw [Path.parts, if_neg h.ne_empty, h.pieces, List.headD_cons, h.lead, List.nil_append,
    List.filterMap_cons_some h.ofPiece?, List.filterMap_nil]

/-- The name of a file does not start at the root. -/
theorem IsFileName.join (h : IsFileName name) (base : String) :
    join base name = RuleFiles.pathIn base name :=
  if_neg fun hhead => h.no_slash (List.mem_of_head? hhead)

end

section

variable {name : String}

theorem pieces_slash (a b : String) : pieces (a ++ "/" ++ b) = pieces a ++ pieces b := by
  have hslash : "/".toList = ['/'] := rfl
  rw [pieces, String.toList_append, String.toList_append, hslash, List.append_assoc,
    List.singleton_append]
  exact List.splitOn_append_cons_self _ _

/-- **What follows a slash is read apart from what comes before it.** -/
theorem parts_slash (a b : String) :
    parts (a ++ "/" ++ b) =
      lead ((pieces a).headD []) ++ (pieces a).filterMap ofPiece? ++
        (pieces b).filterMap ofPiece? := by
  have hne : a ++ "/" ++ b ≠ "" := by simp
  have hhead : (pieces a ++ pieces b).headD [] = (pieces a).headD [] := by
    obtain ⟨p, ps, hp⟩ := List.exists_cons_of_ne_nil (List.splitOn_ne_nil '/' a.toList)
    rw [pieces, hp]
    rfl
  rw [parts, if_neg hne, pieces_slash, hhead, List.filterMap_append, List.append_assoc]

theorem parts_end_slash (a : String) :
    parts (a ++ "/") = lead ((pieces a).headD []) ++ (pieces a).filterMap ofPiece? := by
  have hnothing : (pieces "").filterMap ofPiece? = [] := rfl
  have hend := parts_slash a ""
  rwa [String.append_empty, hnothing, List.append_nil] at hend

/-- What paths into a directory begin with leads to the directory. -/
theorem parts_start (base : String) : parts (RuleFiles.start base) = parts base := by
  unfold RuleFiles.start
  split
  · rfl
  · rename_i h
    have hne : base ≠ "" := by
      rintro rfl
      exact h rfl
    rw [parts_end_slash, parts, if_neg hne]

/-- What paths into a directory begin with is empty, or a slash is at its end. -/
theorem start_eq (base : String) :
    RuleFiles.start base = "" ∨ ∃ a, RuleFiles.start base = a ++ "/" := by
  unfold RuleFiles.start
  split
  · rename_i h
    rcases Bool.or_eq_true_iff.1 h with hempty | hslash
    · exact .inl (of_decide_eq_true hempty)
    · obtain ⟨cs, hcs⟩ := List.getLast?_eq_some_iff.1 (of_decide_eq_true hslash)
      exact .inr ⟨String.ofList cs, String.toList_inj.1 (by rw [hcs, String.toList_append]; simp)⟩
  · exact .inr ⟨base, rfl⟩

/-- **A file in a directory** has one part more than the directory: its name. -/
theorem parts_join (h : IsFileName name) (base : String) :
    parts (join base name) = parts base ++ [.entry name] := by
  rw [h.join, RuleFiles.pathIn, ← parts_start base]
  rcases start_eq base with hempty | ⟨a, ha⟩
  · rw [hempty, String.empty_append, h.parts]
    rfl
  · rw [ha, parts_slash, parts_end_slash, h.pieces, List.filterMap_cons_some h.ofPiece?,
      List.filterMap_nil]

example : parts (join "/rules" "../secrets.json") =
    [.root, .entry "rules", .above, .entry "secrets.json"] := by decide

theorem parent?_join (h : IsFileName name) (base : String) :
    parent? (join base name) = some (parts base) := by
  rw [parent?, parts_join h, List.getLast?_concat, List.dropLast_concat]

theorem fileName?_join (h : IsFileName name) (base : String) :
    fileName? (join base name) = some name := by
  rw [fileName?, parts_join h, List.getLast?_concat]

end

end FormCheck.Path
