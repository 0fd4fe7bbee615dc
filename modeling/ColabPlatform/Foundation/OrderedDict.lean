import Mathlib.Data.List.Forall2
import Mathlib.Data.List.Induction
import Mathlib.Data.List.Nodup
import Mathlib.Logic.Function.Basic

/-!
# Insertion-ordered dictionaries

A dictionary is the list of its items in the order in which their keys were
first inserted; inserting a key again replaces its value in place.  Keys are
compared exactly.
-/

namespace ColabPlatform.Foundation

abbrev OrderedDict (κ ν : Type*) := List (κ × ν)

namespace OrderedDict

variable {κ ν : Type*} [DecidableEq κ]

def insert (dict : OrderedDict κ ν) (key : κ) (value : ν) : OrderedDict κ ν :=
  if key ∈ dict.map Prod.fst then
    dict.map fun item => if item.1 = key then (key, value) else item
  else dict ++ [(key, value)]

/-- Insert a list of items, first item first. -/
def ofItems (items : List (κ × ν)) : OrderedDict κ ν :=
  items.foldl (fun dict item => insert dict item.1 item.2) []

/-- The value that the last item with this key carries. -/
def lastValue (items : List (κ × ν)) (key : κ) : Option ν :=
  (items.reverse.find? fun item => item.1 = key).map Prod.snd

theorem mem_insert {dict : OrderedDict κ ν} {key key' : κ} {value value' : ν} :
    (key', value') ∈ insert dict key value ↔
      (key' = key ∧ value' = value) ∨ (key' ≠ key ∧ (key', value') ∈ dict) := by
  unfold insert
  split
  · rename_i present
    constructor
    · intro h
      obtain ⟨item, mem, eq⟩ := List.mem_map.1 h
      by_cases same : item.1 = key
      · simp only [same, if_true, Prod.mk.injEq] at eq
        exact Or.inl ⟨eq.1.symm, eq.2.symm⟩
      · simp only [same, if_false] at eq
        subst eq
        exact Or.inr ⟨same, mem⟩
    · rintro (⟨rfl, rfl⟩ | ⟨other, mem⟩)
      · obtain ⟨item, mem, rfl⟩ := List.mem_map.1 present
        exact List.mem_map.2 ⟨item, mem, by simp⟩
      · exact List.mem_map.2 ⟨_, mem, by simp [other]⟩
  · rename_i absent
    have other : ∀ v, (key, v) ∉ dict := fun v mem =>
      absent (List.mem_map.2 ⟨_, mem, rfl⟩)
    by_cases same : key' = key
    · subst same
      simp [other]
    · simp [same]

theorem insert_of_absent {dict : OrderedDict κ ν} {key : κ} {value : ν}
    (absent : key ∉ dict.map Prod.fst) :
    insert dict key value = dict ++ [(key, value)] := by
  simp [insert, absent]

theorem mem_of_lookup {dict : OrderedDict κ ν} {key : κ} {value : ν}
    (found : List.lookup key dict = some value) : (key, value) ∈ dict := by
  obtain ⟨before, after, rfl, -⟩ := List.lookup_eq_some_iff.1 found
  simp

theorem lookup_cons (dict : OrderedDict κ ν) (item : κ × ν) (key : κ) :
    List.lookup key (item :: dict) =
      if key = item.1 then some item.2 else List.lookup key dict := by
  rw [List.lookup_cons]
  by_cases same : key = item.1
  · simp [same]
  · rw [beq_false_of_ne same, if_neg same]

theorem lookup_update (dict : OrderedDict κ ν) (key key' : κ) (value : ν) :
    List.lookup key' (dict.map fun item => if item.1 = key then (key, value) else item) =
      if key' = key ∧ key ∈ dict.map Prod.fst then some value else List.lookup key' dict := by
  induction dict with
  | nil => simp
  | cons item dict ih =>
      rw [List.map_cons, lookup_cons, lookup_cons, ih]
      by_cases here : item.1 = key
      · by_cases asked : key' = key <;> simp [here, asked]
      · by_cases asked : key' = key
        · subst asked
          have other : ¬ key' = item.1 := fun same => here same.symm
          rw [if_neg here, if_neg other, if_neg other]
          exact if_congr (by simp [other]) rfl rfl
        · simp [here, asked]

/-- Whether or not the key was there, it has the new value, and no other key changed its own. -/
theorem lookup_insert (dict : OrderedDict κ ν) (key key' : κ) (value : ν) :
    List.lookup key' (insert dict key value) =
      if key' = key then some value else List.lookup key' dict := by
  unfold insert
  by_cases present : key ∈ dict.map Prod.fst
  · rw [if_pos present, lookup_update]
    simp [present]
  · rw [if_neg present, List.lookup_append, lookup_cons, List.lookup_nil]
    by_cases asked : key' = key
    · subst asked
      have absent : List.lookup key' dict = none := by
        apply List.lookup_eq_none_iff.2
        intro item mem
        have other : key' ≠ item.1 := fun same =>
          present (List.mem_map.2 ⟨item, mem, same.symm⟩)
        simpa using other
      simp [absent]
    · simp [asked]

/-- What is found does not depend on the order when only one item can be. -/
theorem find?_perm {α : Type*} {p : α → Bool} {items items' : List α} (perm : items.Perm items')
    (only : ∀ a ∈ items, ∀ b ∈ items, p a → p b → a = b) : items.find? p = items'.find? p := by
  cases found : items.find? p with
  | none =>
      refine (List.find?_eq_none.2 fun a mem => ?_).symm
      exact List.find?_eq_none.1 found a (perm.mem_iff.2 mem)
  | some a =>
      have mem := List.mem_of_find?_eq_some found
      have passes := List.find?_some found
      cases found' : items'.find? p with
      | none => exact absurd passes (List.find?_eq_none.1 found' a (perm.mem_iff.1 mem))
      | some b =>
          have mem' := perm.mem_iff.2 (List.mem_of_find?_eq_some found')
          rw [only a mem b mem' passes (List.find?_some found')]

theorem lookup_eq_find? (dict : OrderedDict κ ν) (key : κ) :
    List.lookup key dict = (dict.find? fun item => item.1 = key).map Prod.snd := by
  induction dict with
  | nil => rfl
  | cons item dict ih =>
      rw [lookup_cons, List.find?_cons, ih]
      by_cases same : key = item.1
      · simp [same]
      · simp [same, Ne.symm same]

theorem lookup_perm {dict dict' : OrderedDict κ ν} (perm : dict.Perm dict')
    (distinct : (dict.map Prod.fst).Nodup) (key : κ) :
    List.lookup key dict = List.lookup key dict' := by
  rw [lookup_eq_find?, lookup_eq_find?]
  congr 1
  refine find?_perm perm fun a mem b mem' first second => ?_
  have same : a.1 = b.1 := (of_decide_eq_true first).trans (of_decide_eq_true second).symm
  exact List.inj_on_of_nodup_map distinct mem mem' same

/-- A dictionary that lists given keys is updated in place. -/
theorem insert_map {keys : List κ} {key : κ} (present : key ∈ keys) (f : κ → ν) (value : ν) :
    insert (keys.map fun k => (k, f k)) key value =
      keys.map fun k => (k, Function.update f key value k) := by
  have known : key ∈ (keys.map fun k => (k, f k)).map Prod.fst := by
    simpa [List.map_map, Function.comp_def] using present
  rw [insert, if_pos known, List.map_map]
  refine List.map_congr_left fun k _ => ?_
  by_cases same : k = key
  · subst same
    simp
  · simp [same]

theorem lookup_map (keys : List κ) (f : κ → ν) (key : κ) :
    List.lookup key (keys.map fun k => (k, f k)) = if key ∈ keys then some (f key) else none := by
  induction keys with
  | nil => simp
  | cons first keys ih =>
      rw [List.map_cons, lookup_cons, ih]
      by_cases same : key = first
      · subst same
        simp
      · simp [same]

/-- A dictionary built from items keeps the last value of each key. -/
theorem mem_ofItems {items : List (κ × ν)} {key : κ} {value : ν} :
    (key, value) ∈ ofItems items ↔ lastValue items key = some value := by
  induction items using List.reverseRecOn with
  | nil => simp [ofItems, lastValue]
  | append_singleton items item ih =>
      have step : ofItems (items ++ [item]) =
          insert (ofItems items) item.1 item.2 := by
        simp [ofItems]
      rw [step, mem_insert, ih]
      by_cases same : item.1 = key
      · simp [lastValue, same, eq_comm]
      · simp [lastValue, same, Ne.symm same]

theorem mem_of_lastValue {items : List (κ × ν)} {key : κ} {value : ν}
    (h : lastValue items key = some value) : (key, value) ∈ items := by
  obtain ⟨item, found, rfl⟩ := Option.map_eq_some_iff.1 h
  have mem := List.mem_of_find?_eq_some found
  have same : item.1 = key := by simpa using List.find?_some found
  rw [← same]
  simpa using mem

theorem lookup_ofItems (items : List (κ × ν)) (key : κ) :
    List.lookup key (ofItems items) = lastValue items key := by
  induction items using List.reverseRecOn with
  | nil => simp [ofItems, lastValue]
  | append_singleton items item ih =>
      have step : ofItems (items ++ [item]) = insert (ofItems items) item.1 item.2 := by
        simp [ofItems]
      rw [step, lookup_insert, ih]
      by_cases same : key = item.1
      · simp [lastValue, same]
      · simp [lastValue, same, Ne.symm same]

/-- A dictionary built from items with distinct keys holds these items. -/
theorem lookup_ofItems_eq_some_iff {items : List (κ × ν)} (distinct : (items.map Prod.fst).Nodup)
    {key : κ} {value : ν} :
    List.lookup key (ofItems items) = some value ↔ (key, value) ∈ items := by
  rw [lookup_ofItems]
  constructor
  · exact mem_of_lastValue
  · intro mem
    unfold lastValue
    cases found : items.reverse.find? fun item => item.1 = key with
    | none =>
        have missed := List.find?_eq_none.1 found (key, value) (List.mem_reverse.2 mem)
        exact absurd (decide_eq_true rfl) missed
    | some item =>
        have inside := List.mem_reverse.1 (List.mem_of_find?_eq_some found)
        have same : item.1 = key := by simpa using List.find?_some found
        rw [List.inj_on_of_nodup_map distinct inside mem same, Option.map_some]

/-- Dictionaries built from the same keys with related values have related values. -/
theorem rel_lookup_ofItems {ν' : Type*} {related : ν → ν' → Prop} {items : List (κ × ν)}
    {items' : List (κ × ν')}
    (alike : List.Forall₂ (fun item item' => item.1 = item'.1 ∧ related item.2 item'.2) items items')
    (key : κ) :
    Option.Rel related (List.lookup key (ofItems items)) (List.lookup key (ofItems items')) := by
  rw [lookup_ofItems, lookup_ofItems, lastValue, lastValue]
  have reversed := List.rel_reverse alike
  generalize items.reverse = last, items'.reverse = last' at reversed
  induction reversed with
  | nil => exact .none
  | cons first _ ih =>
      rw [List.find?_cons, List.find?_cons, ← first.1]
      split
      · exact .some first.2
      · exact ih

end OrderedDict

end ColabPlatform.Foundation
