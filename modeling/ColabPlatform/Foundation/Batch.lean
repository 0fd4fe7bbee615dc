import ColabPlatform.Foundation.Table
import Mathlib.Data.List.Dedup

/-!
# Rows together

The rows of one flush are inserted together: if one of them is refused, none is inserted.
The rows that a query has found may be updated one by one.  `GROUP BY` makes one group for
each value that a key has among the rows, with the rows that have it.
-/

namespace ColabPlatform.Foundation.Table

universe u v w

variable {ρ : Type u} {κ : Type v} {μ : Type w} {key : ρ → κ} {alt : ρ → Option μ}
  [DecidableEq κ] [DecidableEq μ]

def insertAll? (t : Table ρ key alt) (rows : List ρ) : Option (Table ρ key alt) :=
  rows.foldlM insert? t

theorem insertAll?_cons {t : Table ρ key alt} {row : ρ} {rows : List ρ} :
    t.insertAll? (row :: rows) = (t.insert? row).bind fun t' => t'.insertAll? rows := rfl

/-- Rows of different keys are inserted exactly when no key is taken. -/
theorem isSome_insertAll?_iff {t : Table ρ key alt} {rows : List ρ}
    (nodup : (rows.map key).Nodup) (null : ∀ row ∈ rows, alt row = none) :
    (t.insertAll? rows).isSome ↔ ∀ row ∈ rows, t.lookup (key row) = none := by
  induction rows generalizing t with
  | nil => simp [insertAll?]
  | cons row rows ih =>
      rw [List.map_cons, List.nodup_cons] at nodup
      rw [List.forall_mem_cons] at null ⊢
      rw [insertAll?_cons]
      cases inserted : t.insert? row with
      | none =>
          have taken := (insert?_eq_none_iff_of_null null.1).1 inserted
          simp [taken]
      | some t' =>
          rw [Option.bind_some, ih nodup.2 null.2]
          have free := lookup_of_insert? inserted
          simp only [free, true_and]
          refine forall_congr' fun later => forall_congr' fun mem => ?_
          have other : key row ≠ key later := fun same =>
            nodup.1 (same ▸ List.mem_map_of_mem mem)
          rw [lookup_insert inserted, if_neg other]

/-- After it each key has its new row, and the others have what they had. -/
theorem lookup_insertAll? {t t' : Table ρ key alt} {rows : List ρ}
    (nodup : (rows.map key).Nodup) (inserted : t.insertAll? rows = some t') (k : κ) :
    t'.lookup k = (rows.find? fun row => key row = k).or (t.lookup k) := by
  induction rows generalizing t with
  | nil =>
      cases inserted
      rfl
  | cons row rows ih =>
      rw [List.map_cons, List.nodup_cons] at nodup
      rw [insertAll?_cons, Option.bind_eq_some_iff] at inserted
      obtain ⟨middle, first, rest⟩ := inserted
      rw [ih nodup.2 rest, lookup_insert first, List.find?_cons]
      by_cases same : key row = k
      · have absent : (rows.find? fun later => key later = k) = none := by
          rw [List.find?_eq_none]
          intro later mem found
          rw [decide_eq_true_eq] at found
          exact nodup.1 (same.trans found.symm ▸ List.mem_map_of_mem mem)
        simp [same, absent]
      · simp [same]

/-! ## Updating the rows of a selection -/

/-- One update for each row of a selection, one after the other. -/
def modifyEach (t : Table ρ key alt) (rows : List ρ) (f : ρ → ρ)
    (same_key : ∀ row, key (f row) = key row) (same_alt : ∀ row, alt (f row) = alt row) :
    Table ρ key alt :=
  rows.foldl (fun t row => t.modify (key row) f same_key same_alt) t

omit [DecidableEq μ] in
theorem lookup_modifyEach {t : Table ρ key alt} {rows : List ρ} {f : ρ → ρ}
    {same_key : ∀ row, key (f row) = key row} {same_alt : ∀ row, alt (f row) = alt row}
    (nodup : (rows.map key).Nodup) (k : κ) :
    (t.modifyEach rows f same_key same_alt).lookup k =
      if k ∈ rows.map key then (t.lookup k).map f else t.lookup k := by
  induction rows generalizing t with
  | nil => simp [modifyEach]
  | cons row rows ih =>
      rw [List.map_cons, List.nodup_cons] at nodup
      have rest := @ih (t.modify (key row) f same_key same_alt) nodup.2
      change ((t.modify (key row) f same_key same_alt).modifyEach rows f same_key
        same_alt).lookup k = _
      rw [rest, lookup_modify, List.map_cons]
      by_cases same : key row = k
      · subst same
        simp [nodup.1]
      · simp [same, Ne.symm same]

omit [DecidableEq μ] in
/-- The rows of a query, each of which is updated. -/
theorem lookup_modifyEach_filter {t : Table ρ key alt} {p : ρ → Bool} {f : ρ → ρ}
    {same_key : ∀ row, key (f row) = key row} {same_alt : ∀ row, alt (f row) = alt row} (k : κ) :
    (t.modifyEach (t.rows.filter p) f same_key same_alt).lookup k =
      (t.lookup k).map fun row => if p row then f row else row := by
  have nodup : ((t.rows.filter p).map key).Nodup :=
    (List.filter_sublist.map key).nodup t.keys_nodup
  rw [lookup_modifyEach nodup]
  cases found : t.lookup k with
  | none => simp
  | some row =>
      obtain ⟨stored, rfl⟩ := lookup_eq_some_iff.1 found
      have selected : key row ∈ (t.rows.filter p).map key ↔ p row = true := by
        constructor
        · intro mem
          obtain ⟨row', mem', same⟩ := List.mem_map.1 mem
          obtain ⟨stored', holds⟩ := List.mem_filter.1 mem'
          rwa [← eq_of_key_eq stored' stored same]
        · exact fun holds => List.mem_map_of_mem (List.mem_filter.2 ⟨stored, holds⟩)
      by_cases holds : p row
      · simp [selected.2 holds, holds]
      · simp [mt selected.1 holds, holds]

end ColabPlatform.Foundation.Table

namespace ColabPlatform.Foundation

universe u v

variable {ρ : Type u} {κ : Type v} [DecidableEq κ]

def groupRows (key : ρ → κ) (rows : List ρ) : List (κ × List ρ) :=
  (rows.map key).dedup.map fun k => (k, rows.filter fun row => key row = k)

theorem mem_groupRows_iff {key : ρ → κ} {rows : List ρ} {group : κ × List ρ} :
    group ∈ groupRows key rows ↔
      (∃ row ∈ rows, key row = group.1) ∧ group.2 = rows.filter fun row => key row = group.1 := by
  obtain ⟨k, members⟩ := group
  simp only [groupRows, List.mem_map, List.mem_dedup, Prod.mk.injEq]
  constructor
  · rintro ⟨k', there, rfl, rfl⟩
    exact ⟨there, rfl⟩
  · rintro ⟨there, same⟩
    exact ⟨k, there, rfl, same.symm⟩

/-- What is computed of a group's key alone is computed of the rows. -/
theorem exists_group_iff {key : ρ → κ} {rows : List ρ} {P : κ → Prop} :
    (∃ group ∈ groupRows key rows, P group.1) ↔ ∃ row ∈ rows, P (key row) := by
  simp only [mem_groupRows_iff]
  constructor
  · rintro ⟨group, ⟨⟨row, mem, same⟩, -⟩, holds⟩
    exact ⟨row, mem, same ▸ holds⟩
  · rintro ⟨row, mem, holds⟩
    exact ⟨(key row, rows.filter fun other => key other = key row), ⟨⟨row, mem, rfl⟩, rfl⟩, holds⟩

end ColabPlatform.Foundation
