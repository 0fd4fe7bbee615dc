import Mathlib.Data.List.Chain

/-!
# Walks

A log is a walk if each of its entries leads from where the entry before it has led
to, along a relation.  Nothing follows an entry that leads to where no step is allowed.
-/

namespace ColabPlatform.Foundation

universe u v

variable {σ : Type u} {α : Type v}

/-- The log leads from `a` to `b`. -/
def Walk (allowed : σ → σ → Prop) (source target : α → σ) : σ → List α → σ → Prop
  | a, [], b => a = b
  | a, entry :: log, b =>
      source entry = a ∧ allowed a (target entry) ∧ Walk allowed source target (target entry) log b

namespace Walk

variable {allowed : σ → σ → Prop} {source target : α → σ} {a b : σ} {log : List α}

theorem append {first second : List α} (h : Walk allowed source target a (first ++ second) b) :
    ∃ c, Walk allowed source target a first c ∧ Walk allowed source target c second b := by
  induction first generalizing a with
  | nil => exact ⟨a, rfl, h⟩
  | cons entry first ih =>
      obtain ⟨start, step, rest⟩ := h
      obtain ⟨c, left, right⟩ := ih rest
      exact ⟨c, ⟨start, step, left⟩, right⟩

theorem concat (h : Walk allowed source target a log b) {entry : α} (start : source entry = b)
    (step : allowed b (target entry)) :
    Walk allowed source target a (log ++ [entry]) (target entry) := by
  induction log generalizing a with
  | nil =>
      subst h
      exact ⟨start, step, rfl⟩
  | cons first log ih => exact ⟨h.1, h.2.1, ih h.2.2⟩

theorem source_head (h : Walk allowed source target a log b) :
    ∀ entry ∈ log.head?, source entry = a := by
  intro entry head
  cases log with
  | nil => cases head
  | cons first log =>
      obtain rfl := Option.some.inj head
      exact h.1

theorem isChain (h : Walk allowed source target a log b) :
    log.IsChain fun entry entry' => target entry = source entry' := by
  induction log generalizing a with
  | nil => exact .nil
  | cons first log ih =>
      rw [List.isChain_cons]
      exact ⟨fun entry head => (h.2.2.source_head entry head).symm, ih h.2.2⟩

theorem allowed_of_mem (h : Walk allowed source target a log b) :
    ∀ entry ∈ log, allowed (source entry) (target entry) := by
  induction log generalizing a with
  | nil =>
      intro entry mem
      cases mem
  | cons first log ih =>
      obtain ⟨start, step, rest⟩ := h
      intro entry mem
      rcases List.mem_cons.1 mem with rfl | later
      · rw [start]
        exact step
      · exact ih rest entry later

theorem target_last (h : Walk allowed source target a log b) :
    b = (log.getLast?.map target).getD a := by
  induction log generalizing a with
  | nil => exact h.symm
  | cons first log ih =>
      rw [ih h.2.2, List.getLast?_cons]
      cases log.getLast? with
      | none => rfl
      | some last => rfl

/-- An entry that leads to where no step is allowed is the last one. -/
theorem nothing_after {before after : List α} {entry : α}
    (h : Walk allowed source target a (before ++ entry :: after) b)
    (final : ∀ c, ¬ allowed (target entry) c) : after = [] := by
  obtain ⟨c, -, tail⟩ := h.append
  cases after with
  | nil => rfl
  | cons next after => exact absurd tail.2.2.2.1 (final _)

end Walk

end ColabPlatform.Foundation
