import Mathlib.Data.List.Basic

/-!
# Loops over a list that changes

A loop goes through a list by position while others append to it and erase from it.
What is still ahead of the loop stays ahead, unless something is erased behind it.
-/

namespace ColabPlatform.Foundation

variable {α : Type*} {list : List α} {k : Nat} {a b : α}

theorem mem_drop_concat (ahead : a ∈ list.drop k) : a ∈ (list ++ [b]).drop k := by
  rw [List.drop_append]
  exact List.mem_append_left _ ahead

/-- The loop goes on to the next position. -/
theorem mem_drop_succ (here : list[k]? = some b) (ahead : a ∈ list.drop k) (other : a ≠ b) :
    a ∈ list.drop (k + 1) := by
  obtain ⟨inside, rfl⟩ := List.getElem?_eq_some_iff.1 here
  rw [List.drop_eq_getElem_cons inside] at ahead
  exact (List.mem_cons.1 ahead).resolve_left other

theorem not_mem_drop_of_getElem?_eq_none (past : list[k]? = none) : a ∉ list.drop k := by
  rw [List.drop_eq_nil_of_le (List.getElem?_eq_none_iff.1 past)]
  exact List.not_mem_nil

variable [DecidableEq α]

theorem take_erase (ahead : b ∉ list.take k) (inside : k ≤ list.length) :
    (list.erase b).take k = list.take k ∧ (list.erase b).drop k = (list.drop k).erase b := by
  have split := List.take_append_drop k list
  have length : (list.take k).length = k := List.length_take_of_le inside
  have erased : list.erase b = list.take k ++ (list.drop k).erase b := by
    conv_lhs => rw [← split]
    exact List.erase_append_right _ ahead
  rw [erased]
  exact ⟨List.take_left' length, List.drop_left' length⟩

/-- What is erased from a position ahead of the loop. -/
theorem mem_drop_erase (ahead : a ∈ list.drop k) (free : b ∉ list.take k) (other : a ≠ b) :
    a ∈ (list.erase b).drop k := by
  have inside : k ≤ list.length := by
    by_contra past
    rw [List.drop_eq_nil_of_le (by omega)] at ahead
    cases ahead
  rw [(take_erase free inside).2]
  exact (List.mem_erase_of_ne other).2 ahead

theorem mem_drop_foldl_erase {gone : List α} (ahead : a ∈ list.drop k)
    (free : ∀ b ∈ gone, b ∉ list.take k) (other : a ∉ gone) :
    a ∈ (gone.foldl List.erase list).drop k := by
  induction gone generalizing list with
  | nil => exact ahead
  | cons b gone ih =>
      have first : a ≠ b := by
        rintro rfl
        exact other List.mem_cons_self
      have inside : k ≤ list.length := by
        by_contra past
        rw [List.drop_eq_nil_of_le (by omega)] at ahead
        cases ahead
      have freeB := free b List.mem_cons_self
      apply ih (mem_drop_erase ahead freeB first)
      · intro c mem
        rw [(take_erase freeB inside).1]
        exact free c (List.mem_cons_of_mem _ mem)
      · intro later
        exact other (List.mem_cons_of_mem _ later)

theorem mem_of_mem_foldl_erase {gone : List α} (mem : a ∈ gone.foldl List.erase list) :
    a ∈ list := by
  induction gone generalizing list with
  | nil => exact mem
  | cons b gone ih => exact List.mem_of_mem_erase (ih mem)

theorem mem_foldl_erase {gone : List α} (mem : a ∈ list) (other : a ∉ gone) :
    a ∈ gone.foldl List.erase list := by
  have ahead : a ∈ (gone.foldl List.erase list).drop 0 :=
    mem_drop_foldl_erase (by simpa using mem) (by simp) other
  simpa using ahead

end ColabPlatform.Foundation
