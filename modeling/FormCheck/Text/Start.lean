/-!
# Texts with a common start

* `after?_eq_some_iff`: what follows the start of a text makes up the text together with it.
-/

namespace FormCheck.Text

/-- What follows `start` in a text that begins with it. -/
def after? (start text : String) : Option String :=
  if start.toList.isPrefixOf text.toList then some (String.ofList (text.toList.drop start.length))
  else none

/-- What follows the start of a text makes up the text together with it. -/
theorem after?_eq_some_iff {start text rest : String} :
    after? start text = some rest ↔ text = start ++ rest := by
  have hdrop : ∀ cs : List Char, (start.toList ++ cs).drop start.length = cs := by
    intro cs
    rw [← String.length_toList, List.drop_left]
  unfold after?
  constructor
  · intro h
    split at h
    · rename_i hstart
      obtain ⟨cs, hcs⟩ := List.isPrefixOf_iff_prefix.1 hstart
      obtain rfl := Option.some.inj h
      rw [← String.toList_inj, String.toList_append, String.toList_ofList, ← hcs, hdrop]
    · cases h
  · rintro rfl
    rw [String.toList_append, if_pos (List.isPrefixOf_iff_prefix.2 (List.prefix_append _ _)),
      hdrop, String.ofList_toList]

end FormCheck.Text
