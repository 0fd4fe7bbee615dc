import ColabPlatform.Foundation.Run
import Mathlib.Data.List.Forall2
import Mathlib.Data.List.Induction
import Mathlib.Data.List.TakeWhile

/-!
# Milestones of a history

What a history of events has shown, in order.  The first half is a rule for
machines each of whose states is only reached by a history with certain
milestones.  The second half is about a chain of events that have to come one
after the other: what is still awaited after a history, and when the order in
which the events came did not matter.
-/

namespace ColabPlatform.Foundation

universe u v

variable {σ : Type u} {ε : Type v}

/-! ## What a state certifies -/

/-- Events of the history meet the milestones of the chain, one after the other. -/
abbrev Occurs (chain : List (ε → Prop)) (history : List ε) : Prop :=
  List.SublistForall₂ (fun milestone e => milestone e) chain history

theorem Occurs.concat {chain : List (ε → Prop)} {history : List ε}
    (h : Occurs chain history) (e : ε) : Occurs chain (history ++ [e]) := by
  obtain ⟨shown, meets, sub⟩ := List.sublistForall₂_iff.1 h
  exact List.sublistForall₂_iff.2
    ⟨shown, meets, sub.trans (List.sublist_append_left history [e])⟩

theorem Occurs.concat_milestone {chain : List (ε → Prop)} {history : List ε}
    (h : Occurs chain history) {milestone : ε → Prop} {e : ε} (met : milestone e) :
    Occurs (chain ++ [milestone]) (history ++ [e]) := by
  obtain ⟨shown, meets, sub⟩ := List.sublistForall₂_iff.1 h
  refine List.sublistForall₂_iff.2 ⟨shown ++ [e], ?_, sub.append (List.Sublist.refl [e])⟩
  exact List.rel_append meets (.cons met .nil)

theorem Occurs.earlier {chain chain' : List (ε → Prop)} {history : List ε}
    (h : Occurs chain history) (fewer : chain' <+: chain) : Occurs chain' history := by
  obtain ⟨rest, rfl⟩ := fewer
  induction chain' generalizing history with
  | nil => exact .nil
  | cons milestone chain' ih =>
      induction history with
      | nil => cases h
      | cons e history ihHistory =>
          cases h with
          | cons met later => exact .cons met (ih later)
          | cons_right later => exact .cons_right (ihHistory later)

/-- If a step asks for nothing new, or for one milestone more which its event
meets, then a run has shown what the state it reaches asks for. -/
theorem occurs_of_run {step : σ → ε → σ} {required : σ → List (ε → Prop)}
    (advances : ∀ s e, required (step s e) <+: required s ∨
      ∃ milestone : ε → Prop, milestone e ∧ required (step s e) = required s ++ [milestone])
    {s : σ} (start : required s = []) (events : List ε) :
    Occurs (required (runFrom step s events)) events := by
  induction events using List.reverseRecOn with
  | nil => simpa [start] using List.SublistForall₂.nil
  | append_singleton events e ih =>
      rw [runFrom_append, runFrom_cons, runFrom_nil]
      rcases advances (runFrom step s events) e with fewer | ⟨milestone, met, more⟩
      · exact (ih.concat e).earlier fewer
      · rw [more]
        exact ih.concat_milestone met

/-! ## What a chain still awaits -/

section Chain

variable [DecidableEq ε]

/-- The first event of the chain is taken off when it comes. -/
def await : List ε → ε → List ε
  | [], _ => []
  | next :: rest, e => if e = next then rest else next :: rest

@[simp] theorem await_cons (next : ε) (rest : List ε) (e : ε) :
    await (next :: rest) e = if e = next then rest else next :: rest := rfl

theorem await_suffix (chain : List ε) (e : ε) : await chain e <:+ chain := by
  cases chain with
  | nil => exact List.suffix_rfl
  | cons next rest =>
      rw [await_cons]
      split
      · exact List.suffix_cons next rest
      · exact List.suffix_rfl

/-- What is left of the chain after the events. -/
def awaited (chain : List ε) (events : List ε) : List ε := runFrom await chain events

theorem awaited_suffix (chain events : List ε) : awaited chain events <:+ chain := by
  induction events generalizing chain with
  | nil => exact List.suffix_rfl
  | cons e events ih => exact (ih (await chain e)).trans (await_suffix chain e)

/-- A start of the chain is through exactly if it came in this order. -/
theorem length_awaited_le_iff (before rest events : List ε) :
    (awaited (before ++ rest) events).length ≤ rest.length ↔ before.Sublist events := by
  induction events generalizing before with
  | nil =>
      simp only [awaited, runFrom_nil, List.length_append, List.sublist_nil]
      rw [← List.length_eq_zero_iff]
      omega
  | cons e events ih =>
      cases before with
      | nil => simpa using (awaited_suffix rest (e :: events)).length_le
      | cons next before =>
          change (awaited (await (next :: (before ++ rest)) e) events).length ≤ _ ↔ _
          rw [await_cons]
          by_cases same : e = next
          · rw [if_pos same, ih, same, List.cons_sublist_cons]
          · rw [if_neg same, ← List.cons_append, ih]
            constructor
            · exact fun h => h.cons e
            · intro h
              cases h with
              | cons _ h => exact h
              | cons_cons _ _ => exact absurd rfl same

/-- The events of the chain that came, as far as none before them is missing. -/
def shown (chain events : List ε) : List ε := chain.takeWhile (· ∈ events)

/-- Nothing is taken off beyond the first event that did not come. -/
theorem length_dropWhile_le (chain events : List ε) :
    (chain.dropWhile (· ∈ events)).length ≤ (awaited chain events).length := by
  by_contra fewer
  cases missing : chain.dropWhile (· ∈ events) with
  | nil => simp [missing] at fewer
  | cons next rest =>
      have split : chain = (shown chain events ++ [next]) ++ rest := by
        rw [List.append_assoc, List.singleton_append, ← missing, shown,
          List.takeWhile_append_dropWhile]
      have through : (awaited ((shown chain events ++ [next]) ++ rest) events).length ≤
          rest.length := by
        rw [← split]
        rw [missing, List.length_cons] at fewer
        omega
      have came : next ∈ events :=
        ((length_awaited_le_iff _ _ _).1 through).subset (by simp)
      have absent := List.head_dropWhile_not (fun x => decide (x ∈ events))
        (show chain.dropWhile (fun x => decide (x ∈ events)) ≠ [] by rw [missing]; simp)
      simp only [missing, List.head_cons, came, decide_true] at absent
      cases absent

/-- All that can be taken off is, exactly if it came in the order of the chain. -/
theorem awaited_eq_dropWhile_iff (chain events : List ε) :
    awaited chain events = chain.dropWhile (· ∈ events) ↔
      (shown chain events).Sublist events := by
  have exactly := length_awaited_le_iff (shown chain events)
    (chain.dropWhile (· ∈ events)) events
  rw [shown, List.takeWhile_append_dropWhile] at exactly
  rw [shown, ← exactly]
  constructor
  · intro same
    rw [same]
  · intro fewer
    refine List.IsSuffix.eq_of_length ?_ (le_antisymm fewer (length_dropWhile_le chain events))
    exact List.suffix_of_suffix_length_le (awaited_suffix chain events)
      (List.dropWhile_suffix _) fewer

/-- Some order of the events: that of the chain, each once. -/
def inOrder (chain events : List ε) : List ε := chain.filter (· ∈ events)

omit [DecidableEq ε] in
theorem takeWhile_eq_of_forall {p q : ε → Bool} {chain : List ε}
    (agree : ∀ e ∈ chain, p e = q e) :
    chain.takeWhile p = chain.takeWhile q ∧ chain.dropWhile p = chain.dropWhile q := by
  induction chain with
  | nil => exact ⟨rfl, rfl⟩
  | cons e chain ih =>
      obtain ⟨takes, drops⟩ := ih fun e' mem => agree e' (by simp [mem])
      simp only [List.takeWhile_cons, List.dropWhile_cons, agree e (by simp), takes, drops]
      exact ⟨trivial, trivial⟩

theorem awaited_inOrder (chain events : List ε) :
    awaited chain (inOrder chain events) = chain.dropWhile (· ∈ events) := by
  have agree : ∀ e ∈ chain, decide (e ∈ inOrder chain events) = decide (e ∈ events) := by
    intro e mem
    simp [inOrder, mem]
  obtain ⟨takes, drops⟩ := takeWhile_eq_of_forall agree
  rw [← drops, awaited_eq_dropWhile_iff, shown, takes]
  have all : (chain.takeWhile (· ∈ events)).filter (· ∈ events) =
      chain.takeWhile (· ∈ events) :=
    List.filter_eq_self.2 fun e mem =>
      List.mem_takeWhile_imp (p := fun x => decide (x ∈ events)) mem
  rw [← all]
  exact (List.takeWhile_prefix _).sublist.filter _

/-- The order in which the events came did not matter. -/
theorem awaited_eq_inOrder_iff (chain events : List ε) :
    awaited chain events = awaited chain (inOrder chain events) ↔
      (shown chain events).Sublist events := by
  rw [awaited_inOrder, awaited_eq_dropWhile_iff]

end Chain

end ColabPlatform.Foundation
