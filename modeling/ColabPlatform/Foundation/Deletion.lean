import Mathlib.Data.List.Basic
import Mathlib.Data.List.Infix

/-!
# Deleting the matches of a pattern

A text is scanned once from the left.  Where the pattern matches, what it matches is
skipped; any other character is kept.  What is kept can come to stand beside each other
and match again, so a second scan may delete more.
-/

namespace ColabPlatform.Foundation

universe u

variable {α : Type u}

/-- How many characters are matched at the front of a text, at least one if any. -/
abbrev Pattern (α : Type u) := List α → Option Nat

/-- The scan, with the number of characters that it has still to skip. -/
def deleteMatches (pattern : Pattern α) : Nat → List α → List α
  | _, [] => []
  | skip + 1, _ :: text => deleteMatches pattern skip text
  | 0, c :: text =>
      match pattern (c :: text) with
      | some n => deleteMatches pattern (n - 1) text
      | none => c :: deleteMatches pattern 0 text

/-- The pattern matches nowhere in the text. -/
def Free (pattern : Pattern α) (text : List α) : Prop :=
  ∀ c rest, (c :: rest) <:+ text → pattern (c :: rest) = none

variable {pattern : Pattern α}

theorem deleteMatches_skip (skip : Nat) (text : List α) :
    deleteMatches pattern skip text = deleteMatches pattern 0 (text.drop skip) := by
  induction text generalizing skip with
  | nil => cases skip <;> simp [deleteMatches]
  | cons c text ih =>
      cases skip with
      | zero => rfl
      | succ skip => exact ih skip

theorem deleteMatches_of_match {c : α} {text : List α} {n : Nat}
    (matched : pattern (c :: text) = some n) :
    deleteMatches pattern 0 (c :: text) = deleteMatches pattern 0 (text.drop (n - 1)) := by
  rw [← deleteMatches_skip]
  simp only [deleteMatches, matched]

theorem deleteMatches_of_none {c : α} {text : List α} (kept : pattern (c :: text) = none) :
    deleteMatches pattern 0 (c :: text) = c :: deleteMatches pattern 0 text := by
  simp only [deleteMatches, kept]

theorem length_deleteMatches_le (skip : Nat) (text : List α) :
    (deleteMatches pattern skip text).length ≤ text.length := by
  induction text generalizing skip with
  | nil => simp [deleteMatches]
  | cons c text ih =>
      cases skip with
      | succ skip => exact (ih skip).trans (Nat.le_succ _)
      | zero =>
          cases matched : pattern (c :: text) with
          | some n =>
              simp only [deleteMatches, matched]
              exact (ih (n - 1)).trans (Nat.le_succ _)
          | none =>
              rw [deleteMatches_of_none matched]
              exact Nat.succ_le_succ (ih 0)

theorem Free.tail {c : α} {text : List α} (free : Free pattern (c :: text)) :
    Free pattern text :=
  fun d rest suffix => free d rest (suffix.trans (List.suffix_cons c text))

/-- A text that the scan leaves alone is one in which nothing matches. -/
theorem deleteMatches_eq_self_iff {text : List α} :
    deleteMatches pattern 0 text = text ↔ Free pattern text := by
  induction text with
  | nil => simp [deleteMatches, Free]
  | cons c text ih =>
      cases matched : pattern (c :: text) with
      | some n =>
          have shorter : (deleteMatches pattern (n - 1) text).length ≤ text.length :=
            length_deleteMatches_le (n - 1) text
          constructor
          · intro same
            rw [deleteMatches_of_match matched, ← deleteMatches_skip] at same
            rw [same, List.length_cons] at shorter
            omega
          · intro free
            rw [free c text (List.suffix_refl _)] at matched
            cases matched
      | none =>
          rw [deleteMatches_of_none matched, List.cons_inj_right, ih]
          refine ⟨?_, Free.tail⟩
          intro free d rest suffix
          rcases List.suffix_cons_iff.1 suffix with same | suffix
          · exact same ▸ matched
          · exact free d rest suffix

/-- What is kept stood in the text, and nothing matched there. -/
theorem kept_of_deleteMatches {skip : Nat} {text before after : List α} {c : α}
    (kept : deleteMatches pattern skip text = before ++ c :: after) :
    ∃ rest, (c :: rest) <:+ text ∧ pattern (c :: rest) = none ∧
      deleteMatches pattern 0 rest = after := by
  induction text generalizing skip before with
  | nil => simp [deleteMatches] at kept
  | cons d text ih =>
      have later : ∀ {skip before}, deleteMatches pattern skip text = before ++ c :: after →
          ∃ rest, (c :: rest) <:+ d :: text ∧ pattern (c :: rest) = none ∧
            deleteMatches pattern 0 rest = after := by
        intro skip before kept
        obtain ⟨rest, suffix, found⟩ := ih kept
        exact ⟨rest, suffix.trans (List.suffix_cons d text), found⟩
      cases skip with
      | succ skip => exact later kept
      | zero =>
          cases matched : pattern (d :: text) with
          | some n =>
              simp only [deleteMatches, matched] at kept
              exact later kept
          | none =>
              rw [deleteMatches_of_none matched] at kept
              cases before with
              | nil =>
                  obtain ⟨rfl, rest⟩ := List.cons.inj kept
                  exact ⟨text, List.suffix_refl _, matched, rest⟩
              | cons e before => exact later (List.cons.inj kept).2

end ColabPlatform.Foundation
