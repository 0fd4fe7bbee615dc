import Mathlib.Data.List.Pairwise
import Mathlib.Logic.Relation

/-!
# Keys between keys

A list of keys is kept in order by a key that is computed for two neighbours and put
between them.  When the computation succeeds on every two keys in order, the list stays in
order however often keys are put into it.
-/

namespace ColabPlatform.Foundation

universe u v

variable {α : Type u} {ε : Type v} {lt : α → α → Prop} {Key : α → Prop}
  {mid : α → α → Except ε α}

/-- The lists after a key that was computed for two neighbours is put between them. -/
inductive Inserted (mid : α → α → Except ε α) : List α → List α → Prop
  | between {a b m : α} (before after : List α) (computed : mid a b = .ok m) :
      Inserted mid (before ++ a :: b :: after) (before ++ a :: m :: b :: after)

/-- `mid` succeeds on two keys in order, with a key that lies strictly between them. -/
def Interpolates (lt : α → α → Prop) (Key : α → Prop) (mid : α → α → Except ε α) : Prop :=
  ∀ a b, Key a → Key b → lt a b → ∃ m, mid a b = .ok m ∧ Key m ∧ lt a m ∧ lt m b

theorem lt_of_neighbours {a b : α} {before after : List α}
    (sorted : (before ++ a :: b :: after).Pairwise lt) : lt a b := by
  have tail := (List.pairwise_append.1 sorted).2.1
  exact List.rel_of_pairwise_cons tail (List.mem_cons_self ..)

theorem pairwise_between [IsTrans α lt] {a b m : α}
    {before after : List α} (sorted : (before ++ a :: b :: after).Pairwise lt)
    (above : lt a m) (below : lt m b) : (before ++ a :: m :: b :: after).Pairwise lt := by
  rw [List.pairwise_append] at sorted ⊢
  have behind := List.pairwise_cons.1 sorted.2.1
  have last := List.pairwise_cons.1 behind.2
  refine ⟨sorted.1, ?_, ?_⟩
  · refine .cons ?_ (.cons ?_ behind.2)
    · intro key mem
      rcases List.mem_cons.1 mem with rfl | mem
      · exact above
      · exact behind.1 key mem
    · intro key mem
      rcases List.mem_cons.1 mem with rfl | mem
      · exact below
      · exact IsTrans.trans m b key below (last.1 key mem)
  · intro key mem key' mem'
    have first := sorted.2.2 key mem a (List.mem_cons_self ..)
    simp only [List.mem_cons] at mem'
    rcases mem' with rfl | rfl | mem'
    · exact first
    · exact IsTrans.trans key a key' first above
    · exact sorted.2.2 key mem key' (List.mem_cons_of_mem a (List.mem_cons.2 mem'))

namespace Interpolates

variable [IsTrans α lt]

/-- What every insertion preserves. -/
theorem insertion (interpolates : Interpolates lt Key mid) {keys keys' : List α}
    (inserted : Inserted mid keys keys') (sorted : keys.Pairwise lt)
    (proper : ∀ key ∈ keys, Key key) : keys'.Pairwise lt ∧ ∀ key ∈ keys', Key key := by
  cases inserted with
  | between before after computed =>
      rename_i a b m
      obtain ⟨m', same, key, above, below⟩ := interpolates a b (proper a (by simp))
        (proper b (by simp)) (lt_of_neighbours sorted)
      obtain rfl : m = m' := Except.ok.inj (computed.symm.trans same)
      constructor
      · exact pairwise_between sorted above below
      · intro c mem
        by_cases new : c = m
        · exact new ▸ key
        · apply proper c
          simpa [new] using mem

/-- What any number of insertions preserves. -/
theorem insertions (interpolates : Interpolates lt Key mid) {keys keys' : List α}
    (inserted : Relation.ReflTransGen (Inserted mid) keys keys') (sorted : keys.Pairwise lt)
    (proper : ∀ key ∈ keys, Key key) : keys'.Pairwise lt ∧ ∀ key ∈ keys', Key key := by
  induction inserted with
  | refl => exact ⟨sorted, proper⟩
  | tail _ last ih => exact interpolates.insertion last ih.1 ih.2

/-- However often keys were inserted, the next one can be inserted anywhere. -/
theorem succeeds (interpolates : Interpolates lt Key mid) {keys before after : List α}
    {a b : α}
    (inserted : Relation.ReflTransGen (Inserted mid) keys (before ++ a :: b :: after))
    (sorted : keys.Pairwise lt) (proper : ∀ key ∈ keys, Key key) :
    ∃ m, mid a b = .ok m ∧ lt a m ∧ lt m b := by
  have reached := interpolates.insertions inserted sorted proper
  obtain ⟨m, computed, -, between⟩ := interpolates a b (reached.2 a (by simp))
    (reached.2 b (by simp)) (lt_of_neighbours reached.1)
  exact ⟨m, computed, between⟩

end Interpolates

end ColabPlatform.Foundation
