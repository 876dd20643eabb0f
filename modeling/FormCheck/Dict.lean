/-!
# Ordered dictionaries

A `Dict` holds named values. Each name stands once, in the order in which the names were first
written. Writing a name again replaces its value and leaves its place.

* `get?_insert`: after writing `k`, looking up `k` gives the new value and every other name
  answers as before.
* `keys_insert`: a known name keeps the order of the names, a new one is appended.
* `ascending_sortedKeys`, `sortedKeys_congr`: in ascending order each name is listed once, and the list
  is told by the names that are known.
* `get?_overlay`: in a layered dictionary the upper layer decides the names that it holds.
* `keys_overlay`, `overlay_assoc`: the names of the base come first, and layers may be put together
  from either end.
* `get?_filterMap`, `keys_filterMap`: what a part of a dictionary answers, and its order.
* `filter_flatMap_entries`: what a list made entry by entry holds for one name.
* `Alike`: two dictionaries with values alike. `Alike.filterMap_eq`, `Alike.flatMap_eq`: what is made
  of alike values in the same way is the same.
-/

namespace FormCheck

universe u v

namespace Entries

variable {α : Type u}

/-- Writes `value` under `key`: in place if the key is there, at the end otherwise. -/
def put (key : String) (value : α) : List (String × α) → List (String × α)
  | [] => [(key, value)]
  | (k, v) :: rest => if k = key then (key, value) :: rest else (k, v) :: put key value rest

/-- The value of the first entry named `key`. -/
def find? (key : String) : List (String × α) → Option α
  | [] => none
  | (k, v) :: rest => if k = key then some v else find? key rest

/-- Writes `value` under `key`, and gives the value that stood there as well. -/
def exchange (key : String) (value : α) : List (String × α) → Option α × List (String × α)
  | [] => (none, [(key, value)])
  | (k, v) :: rest =>
    if k = key then (some v, (key, value) :: rest)
    else
      let (old, rest) := exchange key value rest
      (old, (k, v) :: rest)

theorem exchange_eq (key : String) (value : α) (es : List (String × α)) :
    exchange key value es = (find? key es, put key value es) := by
  induction es with
  | nil => rfl
  | cons e rest ih =>
    obtain ⟨k, v⟩ := e
    by_cases h : k = key <;> simp [exchange, find?, put, h, ih]

theorem map_fst_put (key : String) (value : α) (es : List (String × α)) :
    (put key value es).map Prod.fst =
      if key ∈ es.map Prod.fst then es.map Prod.fst else es.map Prod.fst ++ [key] := by
  induction es with
  | nil => simp [put]
  | cons e rest ih =>
    obtain ⟨k, v⟩ := e
    by_cases h : k = key
    · simp [put, h]
    · simp only [put, h, if_false, List.map_cons, ih, List.mem_cons]
      by_cases hm : key ∈ rest.map Prod.fst
      · simp [hm]
      · simp [hm, Ne.symm h]

theorem nodup_put {key : String} {value : α} {es : List (String × α)}
    (h : (es.map Prod.fst).Nodup) : ((put key value es).map Prod.fst).Nodup := by
  rw [map_fst_put]
  split
  · exact h
  · rename_i hm
    rw [List.nodup_append]
    refine ⟨h, by simp, ?_⟩
    intro a ha b hb
    simp only [List.mem_singleton] at hb
    subst hb
    exact fun e => hm (e ▸ ha)

theorem put_of_not_mem {key : String} (value : α) {es : List (String × α)}
    (h : key ∉ es.map Prod.fst) : put key value es = es ++ [(key, value)] := by
  induction es with
  | nil => rfl
  | cons e rest ih =>
    obtain ⟨k, v⟩ := e
    simp only [List.map_cons, List.mem_cons, not_or] at h
    rw [put, if_neg (Ne.symm h.1), ih h.2, List.cons_append]

theorem find?_put (key key' : String) (value : α) (es : List (String × α)) :
    find? key' (put key value es) = if key' = key then some value else find? key' es := by
  induction es with
  | nil =>
    by_cases h : key' = key
    · simp [put, find?, h]
    · simp [put, find?, h, Ne.symm h]
  | cons e rest ih =>
    obtain ⟨k, v⟩ := e
    by_cases hk : k = key
    · subst hk
      by_cases h : key' = k
      · simp [put, find?, h]
      · simp [put, find?, h, Ne.symm h]
    · by_cases h : key' = key
      · subst h
        simp [put, find?, hk, ih]
      · simp [put, find?, hk, ih, h]

theorem find?_eq_none_iff {key : String} {es : List (String × α)} :
    find? key es = none ↔ key ∉ es.map Prod.fst := by
  induction es with
  | nil => simp [find?]
  | cons e rest ih =>
    obtain ⟨k, v⟩ := e
    by_cases h : k = key
    · simp [find?, h]
    · simp [find?, h, ih, Ne.symm h]

/-- Leaving out entries by their names hides those names and no others. -/
theorem find?_filter (kept : String → Bool) (key : String) (es : List (String × α)) :
    find? key (es.filter fun e => kept e.1) = if kept key then find? key es else none := by
  induction es with
  | nil => simp [find?]
  | cons e rest ih =>
    obtain ⟨k, v⟩ := e
    by_cases hk : k = key
    · subst hk
      by_cases hkept : kept k
      · simp [find?, hkept]
      · simp [hkept, ih]
    · by_cases hkept : kept k
      · simp [find?, hk, hkept, ih]
      · simp [find?, hk, hkept, ih]

theorem find?_append (key : String) (es es' : List (String × α)) :
    find? key (es ++ es') = (find? key es).or (find? key es') := by
  induction es with
  | nil => rfl
  | cons e rest ih =>
    obtain ⟨k, v⟩ := e
    by_cases h : k = key
    · simp [find?, h]
    · simp [find?, h, ih]

/-- The first of some entries with one name counts. -/
theorem find?_of_first {key : String} {value : α} {before after : List (String × α)}
    (first : key ∉ before.map Prod.fst) : find? key (before ++ (key, value) :: after) = some value := by
  rw [find?_append, find?_eq_none_iff.2 first, Option.none_or]
  exact if_pos rfl

theorem mem_of_find? {key : String} {value : α} {es : List (String × α)}
    (h : find? key es = some value) : (key, value) ∈ es := by
  induction es with
  | nil => simp [find?] at h
  | cons e rest ih =>
    obtain ⟨k, v⟩ := e
    by_cases hk : k = key
    · simp only [find?, hk, if_true, Option.some.injEq] at h
      simp [hk, h]
    · simp only [find?, hk, if_false] at h
      exact List.mem_cons_of_mem _ (ih h)

theorem find?_eq_some_of_mem {key : String} {value : α} {es : List (String × α)}
    (nodup : (es.map Prod.fst).Nodup) (h : (key, value) ∈ es) : find? key es = some value := by
  induction es with
  | nil => simp at h
  | cons e rest ih =>
    obtain ⟨k, v⟩ := e
    simp only [List.map_cons, List.nodup_cons] at nodup
    rcases List.mem_cons.1 h with h | h
    · cases h
      simp [find?]
    · have hk : k ≠ key := by
        rintro rfl
        exact nodup.1 (List.mem_map.2 ⟨_, h, rfl⟩)
      simp [find?, hk, ih nodup.2 h]

end Entries

/-- Named values in the order in which their names were first written, each name once. -/
structure Dict (α : Type u) where
  /-- The names with their values, oldest name first. -/
  entries : List (String × α)
  /-- No name stands twice. -/
  nodup : (entries.map Prod.fst).Nodup
deriving DecidableEq

namespace Dict

variable {α : Type u} {β : Type v}

/-- The dictionary without names. -/
def empty : Dict α := ⟨[], by simp⟩

instance : Inhabited (Dict α) := ⟨empty⟩

/-- The names, oldest first. -/
def keys (d : Dict α) : List String := d.entries.map Prod.fst

/-- How many names there are. -/
def size (d : Dict α) : Nat := d.entries.length

/-- Whether there is no name at all. -/
def isEmpty (d : Dict α) : Bool := d.entries.isEmpty

/-- The value written under `key`, if any. -/
def get? (d : Dict α) (key : String) : Option α := Entries.find? key d.entries

/-- Whether `key` has a value. -/
def contains (d : Dict α) (key : String) : Bool := (d.get? key).isSome

/-- Writes `value` under `key`; a known key keeps its place. -/
def insert (d : Dict α) (key : String) (value : α) : Dict α :=
  ⟨Entries.put key value d.entries, Entries.nodup_put d.nodup⟩

/-- Writes `value` under `key`, and gives the value that stood there as well. -/
def exchange (d : Dict α) (key : String) (value : α) : Option α × Dict α :=
  let written := Entries.exchange key value d.entries
  (written.1, ⟨written.2, by
    show ((Entries.exchange key value d.entries).2.map Prod.fst).Nodup
    rw [Entries.exchange_eq]
    exact Entries.nodup_put d.nodup⟩)

/-- Writes all entries of a list, the first one first. -/
def insertAll (d : Dict α) (es : List (String × α)) : Dict α :=
  es.foldl (fun d e => d.insert e.1 e.2) d

/-- The dictionary that a list of entries spells: a repeated name keeps its first place and takes
its last value. -/
def ofList (es : List (String × α)) : Dict α := empty.insertAll es

/-- `upper` laid over `base`: the names of `base` come first, every name of `upper` takes the
value of `upper`. -/
def overlay (upper base : Dict α) : Dict α := base.insertAll upper.entries

theorem mapEntries_fst (f : String → α → β) (es : List (String × α)) :
    (es.map fun e => (e.1, f e.1 e.2)).map Prod.fst = es.map Prod.fst := by
  simp [List.map_map, Function.comp_def]

/-- The same names with their values changed by `f`. -/
def mapValues (f : String → α → β) (d : Dict α) : Dict β :=
  ⟨d.entries.map fun e => (e.1, f e.1 e.2), by rw [mapEntries_fst]; exact d.nodup⟩

/-- The part of a list of entries on which `f` answers, with its answers. -/
def pickEntries (f : String → α → Option β) (es : List (String × α)) : List (String × β) :=
  es.filterMap fun e => (f e.1 e.2).map fun v => (e.1, v)

theorem pickEntries_fst_sublist (f : String → α → Option β) (es : List (String × α)) :
    ((pickEntries f es).map Prod.fst).Sublist (es.map Prod.fst) := by
  induction es with
  | nil => simp [pickEntries]
  | cons e rest ih =>
    unfold pickEntries at ih ⊢
    cases h : f e.1 e.2 with
    | none => simpa [List.filterMap_cons, h] using ih.cons e.1
    | some v => simpa [List.filterMap_cons, h] using ih.cons_cons e.1

/-- The names on which `f` answers, with its answers, in the same order. -/
def filterMap (f : String → α → Option β) (d : Dict α) : Dict β :=
  ⟨pickEntries f d.entries, (pickEntries_fst_sublist f d.entries).nodup d.nodup⟩

/-- The dictionary without one of its names. -/
def erase (d : Dict α) (key : String) : Dict α :=
  d.filterMap fun k v => if k = key then none else some v

/-- The names in ascending order. -/
def sortedKeys (d : Dict α) : List String := d.keys.mergeSort fun a b => decide (a ≤ b)

/-! ## Look-ups after a write -/

theorem exchange_eq (d : Dict α) (key : String) (value : α) :
    d.exchange key value = (d.get? key, d.insert key value) := by
  unfold exchange get? insert
  simp only [Entries.exchange_eq]

@[simp] theorem get?_empty (key : String) : (empty : Dict α).get? key = none := rfl

@[simp] theorem keys_empty : (empty : Dict α).keys = [] := rfl

/-- A write is seen under its own name and under no other. -/
theorem get?_insert (d : Dict α) (key key' : String) (value : α) :
    (d.insert key value).get? key' = if key' = key then some value else d.get? key' :=
  Entries.find?_put key key' value d.entries

@[simp] theorem get?_insert_self (d : Dict α) (key : String) (value : α) :
    (d.insert key value).get? key = some value := by simp [get?_insert]

/-- A known name keeps the order of the names, a new one is appended. -/
theorem keys_insert (d : Dict α) (key : String) (value : α) :
    (d.insert key value).keys = if key ∈ d.keys then d.keys else d.keys ++ [key] :=
  Entries.map_fst_put key value d.entries

theorem get?_eq_none_iff {d : Dict α} {key : String} : d.get? key = none ↔ key ∉ d.keys :=
  Entries.find?_eq_none_iff

theorem contains_iff {d : Dict α} {key : String} : d.contains key = true ↔ key ∈ d.keys := by
  rw [contains, Option.isSome_iff_ne_none, ne_eq, get?_eq_none_iff, Classical.not_not]

theorem get?_eq_some_iff {d : Dict α} {key : String} {value : α} :
    d.get? key = some value ↔ (key, value) ∈ d.entries :=
  ⟨Entries.mem_of_find?, Entries.find?_eq_some_of_mem d.nodup⟩

/-- After a run of writes the last one of each name counts. -/
theorem get?_insertAll (es : List (String × α)) (d : Dict α) (key : String) :
    (d.insertAll es).get? key = (Entries.find? key es.reverse).or (d.get? key) := by
  induction es generalizing d with
  | nil => simp [insertAll, Entries.find?]
  | cons e rest ih =>
    have step : (d.insertAll (e :: rest)) = (d.insert e.1 e.2).insertAll rest := rfl
    rw [step, ih, List.reverse_cons, Entries.find?_append, get?_insert]
    cases Entries.find? key rest.reverse with
    | some v => simp
    | none =>
      by_cases h : key = e.1
      · simp [Entries.find?, h]
      · simp [Entries.find?, h, Ne.symm h]

theorem get?_congr_of_perm {d e : Dict α} (h : d.entries.Perm e.entries) (key : String) :
    d.get? key = e.get? key := by
  apply Option.ext
  intro v
  rw [get?_eq_some_iff, get?_eq_some_iff, h.mem_iff]

/-- Names that are kept are found as before when others have been left out. -/
theorem get?_congr_of_filter {kept : String → Bool} {d e : Dict α}
    (h : (d.entries.filter fun x => kept x.1) = e.entries.filter fun x => kept x.1) {key : String}
    (hkey : kept key = true) : d.get? key = e.get? key := by
  have hfind := Entries.find?_filter kept key d.entries
  rw [h, Entries.find?_filter, if_pos hkey, if_pos hkey] at hfind
  exact hfind.symm

theorem find?_reverse_entries (d : Dict α) (key : String) :
    Entries.find? key d.entries.reverse = d.get? key := by
  cases h : d.get? key with
  | none =>
    rw [get?_eq_none_iff] at h
    rw [Entries.find?_eq_none_iff, List.map_reverse, List.mem_reverse]
    exact h
  | some v =>
    rw [get?_eq_some_iff] at h
    refine Entries.find?_eq_some_of_mem ?_ (List.mem_reverse.2 h)
    rw [List.map_reverse]
    exact (List.reverse_perm _).nodup_iff.2 d.nodup

/-- In a layered dictionary the upper layer decides the names that it holds. -/
theorem get?_overlay (upper base : Dict α) (key : String) :
    (upper.overlay base).get? key = (upper.get? key).or (base.get? key) := by
  rw [overlay, get?_insertAll, find?_reverse_entries]

/-! ## The names in ascending order -/

theorem mem_sortedKeys {d : Dict α} {key : String} : key ∈ d.sortedKeys ↔ key ∈ d.keys :=
  (List.mergeSort_perm _ _).mem_iff

theorem nodup_sortedKeys (d : Dict α) : d.sortedKeys.Nodup :=
  (List.mergeSort_perm _ _).nodup_iff.2 d.nodup

/-- Sorted, the names ascend, and none stands twice. -/
theorem ascending_sortedKeys (d : Dict α) : d.sortedKeys.Pairwise (· < ·) := by
  have hsorted : d.sortedKeys.Pairwise fun a b => decide (a ≤ b) = true := by
    refine List.pairwise_mergeSort (fun a b c hab hbc => ?_) (fun a b => ?_) d.keys
    · exact decide_eq_true (String.le_trans (of_decide_eq_true hab) (of_decide_eq_true hbc))
    · rw [Bool.or_eq_true, decide_eq_true_eq, decide_eq_true_eq]
      exact String.le_total a b
  refine (hsorted.and d.nodup_sortedKeys).imp fun {a b} h => String.not_le.1 fun hle => h.2 ?_
  exact String.le_antisymm (of_decide_eq_true h.1) hle

theorem sortedKeys_congr {d : Dict α} {e : Dict β}
    (h : ∀ key, d.contains key = e.contains key) : d.sortedKeys = e.sortedKeys := by
  have hmem : ∀ key, key ∈ d.sortedKeys ↔ key ∈ e.sortedKeys := by
    intro key
    rw [mem_sortedKeys, mem_sortedKeys, ← contains_iff, ← contains_iff, h]
  refine List.Perm.eq_of_pairwise (fun a b _ _ hab hba => ?_) (ascending_sortedKeys d)
    (ascending_sortedKeys e) ?_
  · exact absurd (String.lt_trans hab hba) (String.lt_irrefl a)
  · exact (List.perm_ext_iff_of_nodup d.nodup_sortedKeys e.nodup_sortedKeys).2 hmem

/-! ## Writes of new names -/

/-- A dictionary is its entries. -/
theorem ext_entries {d e : Dict α} (h : d.entries = e.entries) : d = e := by
  cases d
  cases e
  cases h
  rfl

theorem entries_insert_of_not_mem (d : Dict α) {key : String} (value : α) (h : key ∉ d.keys) :
    (d.insert key value).entries = d.entries ++ [(key, value)] := Entries.put_of_not_mem value h

theorem entries_insertAll_of_nodup {es : List (String × α)} {d : Dict α}
    (nodup : ((d.entries ++ es).map Prod.fst).Nodup) :
    (d.insertAll es).entries = d.entries ++ es := by
  induction es generalizing d with
  | nil => exact (List.append_nil _).symm
  | cons e rest ih =>
    have hnew : e.1 ∉ d.keys := by
      rw [List.map_append, List.nodup_append] at nodup
      intro hmem
      exact nodup.2.2 e.1 hmem e.1 List.mem_cons_self rfl
    have hentries : (d.insert e.1 e.2).entries = d.entries ++ [e] :=
      entries_insert_of_not_mem d e.2 hnew
    have hassoc : (d.insert e.1 e.2).entries ++ rest = d.entries ++ e :: rest := by
      rw [hentries, List.append_assoc, List.singleton_append]
    show ((d.insert e.1 e.2).insertAll rest).entries = _
    rw [ih (by rwa [hassoc]), hassoc]

theorem ofList_entries (d : Dict α) : ofList d.entries = d :=
  ext_entries (entries_insertAll_of_nodup d.nodup)

/-! ## Layers -/

/-- Entries are told by their names and by what is found under each. -/
theorem entries_ext {es fs : List (String × α)} (nodup : (es.map Prod.fst).Nodup)
    (hkeys : es.map Prod.fst = fs.map Prod.fst)
    (hfind : ∀ key, Entries.find? key es = Entries.find? key fs) : es = fs := by
  induction es generalizing fs with
  | nil => exact (List.map_eq_nil_iff.1 hkeys.symm).symm
  | cons e rest ih =>
    cases fs with
    | nil => cases hkeys
    | cons f rest' =>
      obtain ⟨k, v⟩ := e
      obtain ⟨k', w⟩ := f
      obtain ⟨rfl, hrest⟩ := List.cons.inj hkeys
      obtain ⟨hnew, nodup⟩ := List.nodup_cons.1 nodup
      have hvalue : v = w := by simpa [Entries.find?] using hfind k
      have htail : rest = rest' := by
        refine ih nodup hrest fun key => ?_
        by_cases hk : k = key
        · subst hk
          have hnew' : k ∉ rest'.map Prod.fst := hrest ▸ hnew
          rw [Entries.find?_eq_none_iff.2 hnew, Entries.find?_eq_none_iff.2 hnew']
        · simpa [Entries.find?, hk] using hfind key
      rw [hvalue, htail]

/-- A dictionary is told by its names in their order and by what it answers. -/
theorem ext_get? {d e : Dict α} (hkeys : d.keys = e.keys) (hget : ∀ key, d.get? key = e.get? key) :
    d = e := ext_entries (entries_ext d.nodup hkeys hget)

/-- After a run of writes under different names, the new names follow the known ones. -/
theorem keys_insertAll {es : List (String × α)} (nodup : (es.map Prod.fst).Nodup) (d : Dict α) :
    (d.insertAll es).keys = d.keys ++ (es.map Prod.fst).removeAll d.keys := by
  induction es generalizing d with
  | nil => exact (List.append_nil _).symm
  | cons e rest ih =>
    rw [List.map_cons, List.nodup_cons] at nodup
    show ((d.insert e.1 e.2).insertAll rest).keys = _
    rw [ih nodup.2, keys_insert, List.map_cons]
    by_cases hknown : e.1 ∈ d.keys
    · simp [hknown, List.removeAll]
    · -- the name does not come again, so it takes nothing from the names that follow
      have hrest : (rest.map Prod.fst).removeAll (d.keys ++ [e.1]) =
          (rest.map Prod.fst).removeAll d.keys := by
        refine List.filter_congr fun key hkey => ?_
        have hne : key ≠ e.1 := fun h => nodup.1 (h ▸ hkey)
        simp [hne]
      rw [if_neg hknown, hrest, List.append_assoc]
      simp [hknown, List.removeAll]

/-- In a layered dictionary the names of the base come first, then those that the upper layer adds. -/
theorem keys_overlay (upper base : Dict α) :
    (upper.overlay base).keys = base.keys ++ upper.keys.removeAll base.keys :=
  keys_insertAll upper.nodup base

/-- Layers may be put together from either end. -/
theorem overlay_assoc (a b c : Dict α) : (a.overlay b).overlay c = a.overlay (b.overlay c) := by
  refine ext_get? ?_ fun key => ?_
  · simp only [keys_overlay, List.removeAll, List.filter_append, List.filter_filter,
      List.append_assoc]
    congr 2
    refine List.filter_congr fun key _ => ?_
    by_cases hc : key ∈ c.keys
    · simp [hc]
    · simp [hc]
  · simp only [get?_overlay, Option.or_assoc]

@[simp] theorem overlay_empty (d : Dict α) : d.overlay empty = d := ofList_entries d

@[simp] theorem empty_overlay (d : Dict α) : empty.overlay d = d := rfl

@[simp] theorem overlay_self (d : Dict α) : d.overlay d = d := by
  refine ext_get? ?_ fun key => ?_
  · have hnone : d.keys.removeAll d.keys = [] := by simp [List.removeAll]
    rw [keys_overlay, hnone, List.append_nil]
  · rw [get?_overlay, Option.or_self]

/-! ## Parts of a dictionary -/

theorem find?_pickEntries (f : String → α → Option β) (key : String) {es : List (String × α)}
    (nodup : (es.map Prod.fst).Nodup) :
    Entries.find? key (pickEntries f es) = (Entries.find? key es).bind (f key) := by
  induction es with
  | nil => rfl
  | cons e rest ih =>
    obtain ⟨k, v⟩ := e
    rw [List.map_cons, List.nodup_cons] at nodup
    have ih := ih nodup.2
    unfold pickEntries at ih ⊢
    by_cases hk : k = key
    · subst hk
      have hrest : Entries.find? k rest = none := Entries.find?_eq_none_iff.2 nodup.1
      rw [hrest] at ih
      cases hf : f k v with
      | none => simpa [Entries.find?, hf] using ih
      | some w => simp [Entries.find?, hf]
    · cases hf : f k v with
      | none => simpa [Entries.find?, hf, hk] using ih
      | some w => simpa [Entries.find?, hf, hk] using ih

/-- In a part of a dictionary a name has the answer to its value. -/
theorem get?_filterMap (f : String → α → Option β) (d : Dict α) (key : String) :
    (d.filterMap f).get? key = (d.get? key).bind (f key) :=
  find?_pickEntries f key d.nodup

theorem find?_map (f : String → α → β) (key : String) (es : List (String × α)) :
    Entries.find? key (es.map fun e => (e.1, f e.1 e.2)) = (Entries.find? key es).map (f key) := by
  induction es with
  | nil => rfl
  | cons e rest ih =>
    obtain ⟨k, v⟩ := e
    by_cases hk : k = key
    · subst hk
      simp [Entries.find?]
    · simp [Entries.find?, hk, ih]

theorem get?_mapValues (f : String → α → β) (d : Dict α) (key : String) :
    (d.mapValues f).get? key = (d.get? key).map (f key) :=
  find?_map f key d.entries

@[simp] theorem keys_mapValues (f : String → α → β) (d : Dict α) : (d.mapValues f).keys = d.keys :=
  mapEntries_fst f d.entries

theorem filterMap_filterMap {γ : Type v} (f : String → α → Option β) (g : String → β → Option γ)
    (d : Dict α) : (d.filterMap f).filterMap g = d.filterMap fun k v => (f k v).bind (g k) := by
  apply ext_entries
  simp only [filterMap, pickEntries, List.filterMap_filterMap]
  congr 1
  funext e
  cases f e.1 e.2 <;> rfl

theorem filterMap_mapValues {γ : Type v} (g : String → α → β) (f : String → β → Option γ)
    (d : Dict α) : (d.mapValues g).filterMap f = d.filterMap fun k v => f k (g k v) := by
  apply ext_entries
  simp only [filterMap, pickEntries, mapValues, List.filterMap_map, Function.comp_def]

theorem mapValues_filterMap {γ : Type v} (f : String → α → Option β) (g : String → β → γ)
    (d : Dict α) : (d.filterMap f).mapValues g = d.filterMap fun k v => (f k v).map (g k) := by
  apply ext_entries
  simp only [filterMap, pickEntries, mapValues, List.map_filterMap]
  congr 1
  funext e
  cases f e.1 e.2 <;> rfl

theorem map_fst_pickEntries {f : String → α → Option β} {kept : String → Bool}
    {es : List (String × α)} (h : ∀ e ∈ es, kept e.1 = (f e.1 e.2).isSome) :
    (pickEntries f es).map Prod.fst = (es.map Prod.fst).filter kept := by
  induction es with
  | nil => rfl
  | cons e rest ih =>
    have hrest := ih fun e' he' => h e' (List.mem_cons_of_mem e he')
    have he := h e List.mem_cons_self
    unfold pickEntries at hrest ⊢
    cases hf : f e.1 e.2 with
    | none => simpa [hf, he] using hrest
    | some w => simpa [hf, he] using hrest

/-- A part of a dictionary keeps the order of the names. -/
theorem keys_filterMap (f : String → α → Option β) (d : Dict α) :
    (d.filterMap f).keys = d.keys.filter (d.filterMap f).contains :=
  map_fst_pickEntries fun e he => by
    rw [contains, get?_filterMap, get?_eq_some_iff.2 he, Option.bind_some]

theorem flatMap_pickEntries {γ : Type v} (f : String → α → Option β) (g : String × β → List γ)
    (es : List (String × α)) :
    (pickEntries f es).flatMap g =
      es.flatMap fun e => ((f e.1 e.2).map fun w => g (e.1, w)).getD [] := by
  induction es with
  | nil => rfl
  | cons e rest ih =>
    unfold pickEntries at ih ⊢
    cases hf : f e.1 e.2 with
    | none => simpa [hf] using ih
    | some w => simpa [hf] using ih

/-! ## Lists made entry by entry -/

section Owner

variable {γ : Type v} (owner : γ → String) (g : String → α → List γ)

theorem filter_flatMap_of_not_mem (hg : ∀ k v, ∀ x ∈ g k v, owner x = k) {key : String}
    {es : List (String × α)} (hk : key ∉ es.map Prod.fst) :
    (es.flatMap fun e => g e.1 e.2).filter (fun x => owner x == key) = [] := by
  rw [List.filter_eq_nil_iff]
  intro x hx
  obtain ⟨e, he, hxe⟩ := List.mem_flatMap.1 hx
  rw [hg e.1 e.2 x hxe, beq_iff_eq]
  rintro rfl
  exact hk (List.mem_map_of_mem he)

/-- **What is listed for one name** in a list made entry by entry comes from the entry of that
name. -/
theorem filter_flatMap_entries (hg : ∀ k v, ∀ x ∈ g k v, owner x = k) (d : Dict α) (key : String) :
    (d.entries.flatMap fun e => g e.1 e.2).filter (fun x => owner x == key) =
      ((d.get? key).map (g key)).getD [] := by
  suffices h : ∀ es : List (String × α), (es.map Prod.fst).Nodup →
      (es.flatMap fun e => g e.1 e.2).filter (fun x => owner x == key) =
        ((Entries.find? key es).map (g key)).getD [] from h d.entries d.nodup
  intro es nodup
  induction es with
  | nil => rfl
  | cons e rest ih =>
    obtain ⟨k, v⟩ := e
    rw [List.map_cons, List.nodup_cons] at nodup
    rw [List.flatMap_cons, List.filter_append]
    by_cases hk : k = key
    · subst hk
      have hall : (g k v).filter (fun x => owner x == k) = g k v :=
        List.filter_eq_self.2 fun x hx => by rw [hg k v x hx, beq_self_eq_true]
      rw [hall, filter_flatMap_of_not_mem owner g hg nodup.1, List.append_nil]
      simp [Entries.find?]
    · have hnone : (g k v).filter (fun x => owner x == key) = [] := by
        rw [List.filter_eq_nil_iff]
        intro x hx
        rw [hg k v x hx, beq_iff_eq]
        exact hk
      rw [hnone, List.nil_append, ih nodup.2]
      simp [Entries.find?, hk]

end Owner

/-! ## Dictionaries with values alike -/

/-- Two dictionaries hold values that are alike under the same names, which stand in the same
order. -/
structure Alike (R : String → α → α → Prop) (d e : Dict α) : Prop where
  keys : d.keys = e.keys
  get? : ∀ key, Option.Rel (R key) (d.get? key) (e.get? key)

theorem none_or_some_of_rel {r : α → α → Prop} {x? y? : Option α} (h : Option.Rel r x? y?) :
    (x? = none ∧ y? = none) ∨ ∃ x y, x? = some x ∧ y? = some y ∧ r x y := by
  cases h with
  | none => exact .inl ⟨rfl, rfl⟩
  | some hxy => exact .inr ⟨_, _, rfl, rfl, hxy⟩

section Alike

variable {R : String → α → α → Prop} {S : String → β → β → Prop} {d e : Dict α}

theorem Alike.none_or_some (h : Alike R d e) (key : String) :
    (d.get? key = none ∧ e.get? key = none) ∨
      ∃ x y, d.get? key = some x ∧ e.get? key = some y ∧ R key x y :=
  none_or_some_of_rel (h.get? key)

theorem Alike.refl (hrefl : ∀ key x, R key x x) (d : Dict α) : Alike R d d where
  keys := rfl
  get? key := by
    cases d.get? key with
    | none => exact .none
    | some x => exact .some (hrefl key x)

theorem Alike.insert (h : Alike R d e) {key : String} {x y : α} (hxy : R key x y) :
    Alike R (d.insert key x) (e.insert key y) where
  keys := by rw [keys_insert, keys_insert, h.keys]
  get? key' := by
    rw [get?_insert, get?_insert]
    by_cases hkey : key' = key
    · rw [if_pos hkey, if_pos hkey, hkey]
      exact .some hxy
    · rw [if_neg hkey, if_neg hkey]
      exact h.get? key'

/-- Of dictionaries that are alike, the parts on which two functions answer alike are alike. -/
theorem Alike.filterMap (h : Alike R d e) {f g : String → α → Option β}
    (hfg : ∀ key x y, d.get? key = some x → R key x y → Option.Rel (S key) (f key x) (g key y)) :
    Alike S (d.filterMap f) (e.filterMap g) := by
  have hget : ∀ key, Option.Rel (S key) ((d.filterMap f).get? key) ((e.filterMap g).get? key) := by
    intro key
    rw [get?_filterMap, get?_filterMap]
    rcases h.none_or_some key with ⟨hx, hy⟩ | ⟨x, y, hx, hy, hR⟩
    · rw [hx, hy]
      exact .none
    · rw [hx, hy]
      exact hfg key x y hx hR
  have hcontains : (d.filterMap f).contains = (e.filterMap g).contains := by
    funext key
    unfold contains
    rcases none_or_some_of_rel (hget key) with ⟨hx, hy⟩ | ⟨x, y, hx, hy, -⟩
    · rw [hx, hy]
    · rw [hx, hy, Option.isSome_some, Option.isSome_some]
  exact ⟨by rw [keys_filterMap, keys_filterMap, h.keys, hcontains], hget⟩

theorem Alike.eq (h : Alike (fun _ => Eq) d e) : d = e := by
  refine ext_get? h.keys fun key => ?_
  rcases h.none_or_some key with ⟨hx, hy⟩ | ⟨x, y, hx, hy, hxy⟩
  · rw [hx, hy]
  · rw [hx, hy, hxy]

/-- Of dictionaries that are alike, the parts on which two functions give the same answers are the
same. -/
theorem Alike.filterMap_eq (h : Alike R d e) {f g : String → α → Option β}
    (hfg : ∀ key x y, d.get? key = some x → R key x y → f key x = g key y) :
    d.filterMap f = e.filterMap g := by
  refine Alike.eq (h.filterMap fun key x y hx hR => ?_)
  rw [hfg key x y hx hR]
  cases g key y with
  | none => exact .none
  | some z => exact .some rfl

/-- From dictionaries that are alike, two functions that make the same list of each value make the
same list of all. -/
theorem Alike.flatMap_eq (h : Alike R d e) {f g : String → α → List β}
    (hfg : ∀ key x y, d.get? key = some x → R key x y → f key x = g key y) :
    (d.entries.flatMap fun x => f x.1 x.2) = e.entries.flatMap fun y => g y.1 y.2 := by
  have hparts : ∀ (c : Dict α) (k : String → α → List β),
      (c.entries.flatMap fun x => k x.1 x.2) =
        (c.filterMap fun key x => some (k key x)).entries.flatMap Prod.snd :=
    fun c k => (flatMap_pickEntries (fun key x => some (k key x)) Prod.snd c.entries).symm
  rw [hparts, hparts, h.filterMap_eq fun key x y hx hR => congrArg some (hfg key x y hx hR)]

end Alike

end Dict

end FormCheck
