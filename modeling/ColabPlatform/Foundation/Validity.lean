import Mathlib.Data.List.Basic
import Mathlib.Order.Lattice
import Mathlib.Order.MinMax

/-!
# Rows with a time of validity

A row holds from its start until its stop, or for ever while it has none.  The
file says what it takes that exactly one of a list of rows holds at every time
from some time on, and when the row without a stop can be replaced by another
so that this stays true.
-/

namespace ColabPlatform.Foundation

variable {α τ : Type*} [LinearOrder τ] {start : α → τ} {stop : α → Option τ}

/-- The row holds at the time. -/
def activeAt (start : α → τ) (stop : α → Option τ) (t : τ) (row : α) : Bool :=
  start row ≤ t && (stop row).all (t < ·)

/-- Exactly one row holds at every time from `first` on. -/
def OneActive (start : α → τ) (stop : α → Option τ) (rows : List α) (first : τ) : Prop :=
  ∀ t, first ≤ t → rows.countP (activeAt start stop t) = 1

/-- At some late time all starts and all stops are past. -/
theorem exists_late (start : α → τ) (stop : α → Option τ) (rows : List α) (first : τ) :
    ∃ t, first ≤ t ∧ ∀ row ∈ rows, start row ≤ t ∧ ∀ u ∈ stop row, u ≤ t := by
  induction rows with
  | nil => exact ⟨first, le_refl _, nofun⟩
  | cons row rows ih =>
      obtain ⟨t, later, past⟩ := ih
      refine ⟨max t (max (start row) ((stop row).getD t)), later.trans (le_max_left _ _), ?_⟩
      intro other mem
      rcases List.mem_cons.1 mem with rfl | old
      · refine ⟨(le_max_left _ _).trans (le_max_right _ _), fun u stops => ?_⟩
        rw [Option.mem_def] at stops
        rw [stops]
        exact (le_max_right _ _).trans (le_max_right _ _)
      · obtain ⟨started, stopped⟩ := past other old
        exact ⟨started.trans (le_max_left _ _), fun u stops => (stopped u stops).trans (le_max_left _ _)⟩

/-- One of the rows has no stop. -/
theorem OneActive.filter_open {rows : List α} {first : τ} (h : OneActive start stop rows first) :
    ∃ row, rows.filter (fun row => (stop row).isNone) = [row] := by
  obtain ⟨t, later, past⟩ := exists_late start stop rows first
  have count := h t later
  rw [List.countP_eq_length_filter, List.length_eq_one_iff] at count
  have same : rows.filter (activeAt start stop t) =
      rows.filter fun row => (stop row).isNone := by
    apply List.filter_congr
    intro row mem
    obtain ⟨started, stopped⟩ := past row mem
    cases stops : stop row with
    | none => simp [activeAt, stops, started]
    | some u => simp [activeAt, stops, stopped u stops]
  rwa [same] at count

omit [LinearOrder τ] in
/-- What holds at a time, split into the rows with a stop and those without. -/
theorem countP_active_split (stop : α → Option τ) (rows : List α) (p : α → Bool) :
    rows.countP p = rows.countP (fun row => p row && (stop row).isSome) +
      (rows.filter fun row => (stop row).isNone).countP p := by
  induction rows with
  | nil => rfl
  | cons row rows ih =>
      rw [List.countP_cons, List.countP_cons, ih]
      cases stops : stop row with
      | none =>
          rw [List.filter_cons_of_pos (by simp [stops]), List.countP_cons]
          simp
          omega
      | some u =>
          rw [List.filter_cons_of_neg (by simp [stops])]
          simp
          omega

/-- The row without a stop can be closed at `now` and a new one be added exactly if the new
one starts when the old one is closed, as far as times from `first` on and after the start of
the old one are concerned. -/
theorem OneActive.replace_iff {rows : List α} {first now : τ} {old new : α} {close : α → α}
    (h : OneActive start stop rows first)
    (isOpen : rows.filter (fun row => (stop row).isNone) = [old])
    (started : ∀ row, start (close row) = start row)
    (closed : ∀ row, stop (close row) = some now) (fresh : stop new = none) :
    OneActive start stop
        (new :: rows.map fun row => if (stop row).isNone then close row else row) first ↔
      max (max (start old) now) first = max (start new) first := by
  have stops : stop old = none := by
    have mem : old ∈ rows.filter fun row => (stop row).isNone := by simp [isOpen]
    simpa using (List.mem_filter.1 mem).2
  have before : ∀ t, first ≤ t →
      rows.countP (fun row => activeAt start stop t row && (stop row).isSome) +
        (if start old ≤ t then 1 else 0) = 1 := by
    intro t later
    have count := h t later
    rw [countP_active_split stop, isOpen] at count
    simpa [activeAt, stops, List.countP_cons] using count
  have after : ∀ t,
      (new :: rows.map fun row => if (stop row).isNone then close row else row).countP
          (activeAt start stop t) =
        rows.countP (fun row => activeAt start stop t row && (stop row).isSome) +
          (if start old ≤ t ∧ t < now then 1 else 0) + if start new ≤ t then 1 else 0 := by
    intro t
    have kept : rows.countP (fun row =>
          activeAt start stop t (if (stop row).isNone then close row else row) &&
            (stop row).isSome) =
        rows.countP fun row => activeAt start stop t row && (stop row).isSome := by
      apply List.countP_congr
      intro row mem
      cases stopsRow : stop row with
      | none => simp
      | some u => simp
    rw [List.countP_cons, List.countP_map, countP_active_split stop rows, isOpen]
    simp only [Function.comp_def]
    rw [kept]
    simp [activeAt, stops, started, closed, fresh]
  constructor
  · intro only
    have exactly : ∀ t, first ≤ t → (if start old ≤ t ∧ t < now then 1 else 0) +
        (if start new ≤ t then 1 else 0) = if start old ≤ t then 1 else 0 := by
      intro t later
      have count := only t later
      rw [after] at count
      have split := before t later
      omega
    apply le_antisymm
    · have gap := exactly (max (start new) first) (le_max_right _ _)
      rw [if_pos (le_max_left _ _)] at gap
      have begun : start old ≤ max (start new) first := by
        by_contra late
        rw [if_neg late] at gap
        omega
      have past : ¬ max (start new) first < now := by
        intro early
        rw [if_pos ⟨begun, early⟩, if_pos begun] at gap
        omega
      exact max_le (max_le begun (not_lt.1 past)) (le_max_right _ _)
    · have overlap := exactly (max (max (start old) now) first) (le_max_right _ _)
      have begun : start old ≤ max (max (start old) now) first :=
        (le_max_left _ _).trans (le_max_left _ _)
      have past : ¬ max (max (start old) now) first < now :=
        not_lt.2 ((le_max_right _ _).trans (le_max_left _ _))
      rw [if_pos begun, if_neg fun both => past both.2] at overlap
      have follows : start new ≤ max (max (start old) now) first := by
        by_contra late
        rw [if_neg late] at overlap
        omega
      exact max_le follows (le_max_right _ _)
  · intro same t later
    have split := before t later
    have starts : start new ≤ t ↔ start old ≤ t ∧ ¬ t < now := by
      have both : max (max (start old) now) first ≤ t ↔ max (start new) first ≤ t := by
        rw [same]
      rw [max_le_iff, max_le_iff, max_le_iff] at both
      simpa [later, not_lt] using both.symm
    rw [after]
    by_cases begun : start old ≤ t
    · rw [if_pos begun] at split
      by_cases early : t < now
      · rw [if_pos ⟨begun, early⟩, if_neg fun follows => (starts.1 follows).2 early]
        omega
      · rw [if_neg fun both => early both.2, if_pos (starts.2 ⟨begun, early⟩)]
        omega
    · rw [if_neg begun] at split
      rw [if_neg fun both => begun both.1, if_neg fun follows => begun (starts.1 follows).1]
      omega

/-- The first row of all holds from its start on. -/
theorem oneActive_singleton {row : α} (stops : stop row = none) :
    OneActive start stop [row] (start row) := by
  intro t later
  simp [activeAt, stops, later]

end ColabPlatform.Foundation
