import FormCheck.Proofs.Attributes

/-!
# Rules laid over each other

A rule is laid over another, the result under a third, and so on: `Rule.layered` starts with one
rule and lays each of the others over what came out so far. Here it is said what such layers amount
to.

One layer is a `merged_over` of rules, with that of their messages in it.

* `Rule.overlay_assoc`, `Rule.overlay_empty`, `Rule.empty_overlay`, `Rule.overlay_self`: layers may
  be put together from either end, and neither the empty rule nor a repeated one adds to them.
  Messages keep their order.
* `Rule.LastStated` says which of several rules supplies a value: the last one that states it.
* `Rule.lastStated_layered`: the run over all layers, from `Rule.LastStated.of_overlay` for one. It
  is stated for any reader of rules that prefers the upper of two layers, and then holds of
  attributes (`Attribute.get_overlay`) and of messages (`Dict.get?_overlay`) alike.
* `Rule.keys_layered`: the keys of messages stand in the order of their first appearance.
* **`Rule.overlay_laws`**: all of this together.
-/

namespace FormCheck

/-! ## Names in the order of their first appearance -/

theorem eraseDups_of_nodup {keys : List String} (nodup : keys.Nodup) : keys.eraseDups = keys := by
  induction keys with
  | nil => rfl
  | cons key rest ih =>
    obtain ⟨hnew, nodup⟩ := List.nodup_cons.1 nodup
    have hrest : (rest.filter fun k => !k == key) = rest := by
      refine List.filter_eq_self.2 fun k hk => ?_
      have hne : k ≠ key := fun h => hnew (h ▸ hk)
      simp [hne]
    rw [List.eraseDups_cons, hrest, ih nodup]

/-- Names that are known already may be taken from a middle part. -/
theorem eraseDups_removeAll (as bs cs : List String) :
    ((as ++ bs.removeAll as) ++ cs).eraseDups = (as ++ (bs ++ cs)).eraseDups := by
  have hmiddle : (bs.removeAll as ++ cs).removeAll as = (bs ++ cs).removeAll as := by
    simp only [List.removeAll, List.filter_append, List.filter_filter, Bool.and_self]
  rw [List.append_assoc, List.eraseDups_append, List.eraseDups_append, hmiddle]

/-! ## The laws of two layers -/

/-- Of two layers, the upper one supplies the attributes that it states. The reference is none of
them: it says what the rule is laid over. -/
theorem Attribute.get_overlay {a : Attribute} (ha : a ∈ all) (hkey : a.key ≠ "$ref")
    (own base : Rule) : a.get (own.overlay base) = (a.get own).or (a.get base) := by
  simp only [all, List.mem_cons, List.not_mem_nil, or_false] at ha
  rcases ha with rfl | rfl | rfl | rfl | rfl | rfl | rfl | rfl | rfl | rfl | rfl
  any_goals rfl
  exact absurd rfl hkey

namespace Rule

/-- The rule without its reference. -/
def withoutReference (r : Rule) : Rule := { r with reference := none }

/-- Each of the rules laid over those before it. -/
def layered (first : Rule) (rest : List Rule) : Rule :=
  rest.foldl (fun base own => own.overlay base) first

theorem overlay_assoc (a b c : Rule) : (a.overlay b).overlay c = a.overlay (b.overlay c) := by
  simp only [overlay, Option.or_assoc, Dict.overlay_assoc]

theorem overlay_empty (a : Rule) : a.overlay {} = a.withoutReference := by
  simp only [overlay, withoutReference, Option.or_none, Dict.overlay_empty]

theorem empty_overlay (a : Rule) : overlay {} a = a.withoutReference := by
  simp only [overlay, withoutReference, Option.none_or, Dict.empty_overlay]

theorem overlay_self (a : Rule) : a.overlay a = a.withoutReference := by
  simp only [overlay, withoutReference, Option.or_self, Dict.overlay_self]

/-! ## Which layer supplies a value -/

/-- **The last of some rules that states a value supplies it.** There is none if no rule states one.
-/
inductive LastStated {α : Type} (get : Rule → Option α) : List Rule → Option α → Prop
  | nowhere {rules : List Rule} (silent : ∀ r ∈ rules, get r = none) : LastStated get rules none
  | last (before : List Rule) {r : Rule} {after : List Rule} {x : α} (states : get r = some x)
      (later : ∀ r ∈ after, get r = none) : LastStated get (before ++ r :: after) (some x)

section

variable {α : Type} {get : Rule → Option α}

/-- **One layer.** What a rule laid over another supplies is supplied by the one or the other. -/
theorem LastStated.of_overlay {own base : Rule} {rest : List Rule} {x : Option α}
    (hget : get (own.overlay base) = (get own).or (get base))
    (h : LastStated get (own.overlay base :: rest) x) : LastStated get (base :: own :: rest) x := by
  generalize hrules : own.overlay base :: rest = rules at h
  cases h with
  | nowhere hsilent =>
    subst hrules
    rw [List.forall_mem_cons, hget, Option.or_eq_none_iff] at hsilent
    obtain ⟨⟨hown, hbase⟩, hrest⟩ := hsilent
    refine .nowhere ?_
    rw [List.forall_mem_cons, List.forall_mem_cons]
    exact ⟨hbase, hown, hrest⟩
  | last before hstates hlater =>
    cases before with
    | nil =>
      -- it is supplied by the two layers that were put together, by the upper one if possible
      obtain ⟨rfl, rfl⟩ := List.cons.inj hrules
      rw [hget, Option.or_eq_some_iff] at hstates
      rcases hstates with hown | ⟨hown, hbase⟩
      · exact .last [base] hown hlater
      · refine .last [] hbase ?_
        rw [List.forall_mem_cons]
        exact ⟨hown, hlater⟩
    | cons _ before =>
      obtain ⟨-, rfl⟩ := List.cons.inj hrules
      exact .last (base :: own :: before) hstates hlater

/-- **All layers.** A value is supplied by the last rule that states it. -/
theorem lastStated_layered
    (hget : ∀ own base : Rule, get (own.overlay base) = (get own).or (get base)) (first : Rule)
    (rest : List Rule) : LastStated get (first :: rest) (get (layered first rest)) := by
  induction rest generalizing first with
  | nil =>
    show LastStated get [first] (get first)
    cases hfirst : get first with
    | none => exact .nowhere (List.forall_mem_singleton.2 hfirst)
    | some x => exact .last [] hfirst (List.forall_mem_nil _)
  | cons own rest ih => exact (ih (own.overlay first)).of_overlay (hget own first)

end

/-! ## The order of messages -/

/-- **The keys of messages stand in the order of their first appearance.** -/
theorem keys_layered (first : Rule) (rest : List Rule) :
    (layered first rest).messages.keys =
      ((first :: rest).flatMap fun r => r.messages.keys).eraseDups := by
  induction rest generalizing first with
  | nil =>
    rw [List.flatMap_singleton]
    exact (eraseDups_of_nodup first.messages.nodup).symm
  | cons own rest ih =>
    have hkeys : (own.overlay first).messages.keys =
        first.messages.keys ++ own.messages.keys.removeAll first.messages.keys :=
      Dict.keys_overlay own.messages first.messages
    have hlayers := ih (own.overlay first)
    rw [List.flatMap_cons, hkeys, eraseDups_removeAll] at hlayers
    rw [List.flatMap_cons, List.flatMap_cons]
    exact hlayers

theorem reference_layered {rest : List Rule} (h : rest ≠ []) (first : Rule) :
    (layered first rest).reference = none := by
  rw [layered, ← List.dropLast_concat_getLast h, List.foldl_append]
  rfl

/-! ## All laws -/

/-- **Rules laid over each other.** Layers may be put together from either end, the empty rule
changes nothing but the reference, and so does a rule that is laid over itself; equal rules have
equal messages in the same order. Of any number of layers each attribute and each message comes from
the last rule that states it, messages stand in the order of their first appearance, and a reference
is left only where there is a single rule. -/
theorem overlay_laws :
    (∀ a b c : Rule, (a.overlay b).overlay c = a.overlay (b.overlay c)) ∧
    (∀ a : Rule, a.overlay {} = a.withoutReference ∧ overlay {} a = a.withoutReference ∧
      a.overlay a = a.withoutReference) ∧
    ∀ (first : Rule) (rest : List Rule),
      (∀ a ∈ Attribute.all, a.key ≠ "$ref" →
        LastStated a.get (first :: rest) (a.get (layered first rest))) ∧
      (∀ key, LastStated (fun r => r.messages.get? key) (first :: rest)
        ((layered first rest).messages.get? key)) ∧
      (layered first rest).messages.keys =
        ((first :: rest).flatMap fun r => r.messages.keys).eraseDups ∧
      (rest ≠ [] → (layered first rest).reference = none) ∧ layered first [] = first := by
  refine ⟨overlay_assoc, fun a => ⟨overlay_empty a, empty_overlay a, overlay_self a⟩,
    fun first rest => ⟨fun a ha hkey => ?_, fun key => ?_, keys_layered first rest,
      fun h => reference_layered h first, rfl⟩⟩
  · exact lastStated_layered (Attribute.get_overlay ha hkey) first rest
  · exact lastStated_layered (fun own base => Dict.get?_overlay own.messages base.messages key)
      first rest

end Rule

namespace Sample

/-- A rent, which refers to a definition. -/
def rent : Rule :=
  { Rule.referring "money" with
    required := some true
    messages := .ofList [("errorMessageType", "no number"), ("errorMessageRequired", "how much?")] }

/-- What is asked of rents in a town. -/
def townRent : Rule :=
  { Rule.ofKind .number with
    required := some false
    messages := .ofList [("errorMessageMinValue", "too little"), ("errorMessageType", "no rent")] }

/-- A last word on the rent. -/
def finalRent : Rule := { messages := .ofList [("errorMessageMinValue", "raise it")] }

end Sample

open Sample in
/-- Of three layers the second decides whether there has to be a rent, and the messages of the first
come first. -/
theorem overlay_laws_rent :
    (∃ a ∈ Attribute.all, a.key = "required" ∧ a.key ≠ "$ref" ∧
      Rule.LastStated a.get [rent, townRent, finalRent]
        (a.get (Rule.layered rent [townRent, finalRent]))) ∧
    (Rule.layered rent [townRent, finalRent]).required = some false ∧
    [townRent, finalRent] ≠ [] ∧
    (Rule.layered rent [townRent, finalRent]).reference = none ∧
    rent.reference ≠ none ∧
    (Rule.layered rent [townRent, finalRent]).messages.keys =
      ["errorMessageType", "errorMessageRequired", "errorMessageMinValue"] := by
  obtain ⟨-, -, hlayers⟩ := Rule.overlay_laws
  obtain ⟨hattribute, -, hkeys, hreference, -⟩ := hlayers rent [townRent, finalRent]
  have hrequired : Attribute.all[1] ∈ Attribute.all := List.getElem_mem _
  have hne : Attribute.all[1].key ≠ "$ref" := by decide
  have hrest : [townRent, finalRent] ≠ [] := List.cons_ne_nil _ _
  exact ⟨⟨_, hrequired, rfl, hne, hattribute _ hrequired hne⟩, rfl, hrest, hreference hrest,
    by decide, hkeys.trans (by decide +kernel)⟩

end FormCheck
