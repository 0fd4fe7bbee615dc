import ColabPlatform.Profiles.AiReview
import Mathlib.Tactic.Tauto

/-!
# Profile service: distances of perceptual hashes

The columns of the hashes are signed, and the bits of a negative difference are counted in
its absolute value.  Hashes of one sign get their Hamming distance.  Those of opposite signs
get one more than the number of bits in which they agree above the lowest bit in which they
differ.
-/

namespace ColabPlatform.Profiles

/-- What a `BIGINT` column holds. -/
def Bigint (h : Int) : Prop := -2 ^ 63 ≤ h ∧ h < 2 ^ 63

instance : DecidablePred Bigint := fun h => inferInstanceAs (Decidable (-2 ^ 63 ≤ h ∧ h < 2 ^ 63))

/-- Two nullable hashes of a `BIGINT` column. -/
def Bigints (hashes : Option Int × Option Int) : Prop :=
  (∀ h ∈ hashes.1, Bigint h) ∧ ∀ h ∈ hashes.2, Bigint h

/-- In how many of their 64 bits two hashes differ, in two's complement. -/
def bitDistance (h1 h2 : Int) : Nat :=
  (List.range 64).countP fun i => h1.testBit i != h2.testBit i

/-- In how many bits two hashes agree above the lowest bit in which they differ. -/
def agreeAbove (h1 h2 : Int) : Nat :=
  (List.range 64).countP fun i => h1.testBit i == h2.testBit i &&
    (List.range i).any fun j => h1.testBit j != h2.testBit j

/-! ## Counting bits -/

def ones (width n : Nat) : Nat := (List.range width).countP fun i => n.testBit i

/-- The ones above the lowest zero. -/
def onesAboveZero (width n : Nat) : Nat :=
  (List.range width).countP fun i => n.testBit i && (List.range i).any fun j => !n.testBit j

theorem countP_range_succ (p : Nat → Bool) (width : Nat) :
    (List.range (width + 1)).countP p =
      (List.range width).countP (fun i => p (i + 1)) + if p 0 then 1 else 0 := by
  rw [List.range_succ_eq_map, List.countP_cons, List.countP_map]
  rfl

theorem any_range_succ (p : Nat → Bool) (width : Nat) :
    (List.range (width + 1)).any p = (p 0 || (List.range width).any fun i => p (i + 1)) := by
  rw [List.range_succ_eq_map, List.any_cons, List.any_map]
  rfl

/-- The carry turns the ones below the lowest zero into zeros, and the zero into a one. -/
theorem ones_succ {width n : Nat} (fits : n + 1 < 2 ^ width) :
    ones width (n + 1) = onesAboveZero width n + 1 := by
  induction width generalizing n with
  | zero => omega
  | succ width ih =>
      unfold ones onesAboveZero at ih ⊢
      rw [countP_range_succ, countP_range_succ]
      simp only [any_range_succ, Nat.testBit_succ, Nat.testBit_zero]
      rcases Nat.mod_two_eq_zero_or_one n with even | odd
      · have half : (n + 1) / 2 = n / 2 := by omega
        have last : (n + 1) % 2 = 1 := by omega
        simp [half, last, even]
      · have half : (n + 1) / 2 = n / 2 + 1 := by omega
        have last : (n + 1) % 2 = 0 := by omega
        have smaller : n / 2 + 1 < 2 ^ width := by
          rw [Nat.pow_succ] at fits
          omega
        simp [half, last, odd, ih smaller]

/-! ## The distance -/

theorem hammingDistance_eq_ones (h1 h2 : Int) :
    hammingDistance h1 h2 = ones 64 (Int.xor h1 h2).natAbs := by
  rw [hammingDistance, hashBits, ones, List.countP_eq_length_filter]

def SameSign (h1 h2 : Int) : Prop := h1 < 0 ↔ h2 < 0

instance (h1 h2 : Int) : Decidable (SameSign h1 h2) :=
  inferInstanceAs (Decidable (h1 < 0 ↔ h2 < 0))

/-- The difference of hashes of one sign is not negative. -/
theorem xor_of_sameSign {h1 h2 : Int} (same : SameSign h1 h2) :
    ∃ n : Nat, Int.xor h1 h2 = n := by
  cases h1 with
  | ofNat n1 =>
      cases h2 with
      | ofNat n2 => exact ⟨_, rfl⟩
      | negSucc n2 =>
          exact absurd (same.2 (Int.negSucc_lt_zero n2)) (Int.not_lt.2 (Int.natCast_nonneg n1))
  | negSucc n1 =>
      cases h2 with
      | ofNat n2 =>
          exact absurd (same.1 (Int.negSucc_lt_zero n1)) (Int.not_lt.2 (Int.natCast_nonneg n2))
      | negSucc n2 => exact ⟨_, rfl⟩

theorem xor_of_oppositeSigns {h1 h2 : Int} (opposite : ¬ SameSign h1 h2) :
    ∃ n : Nat, Int.xor h1 h2 = Int.negSucc n := by
  cases h1 with
  | ofNat n1 =>
      cases h2 with
      | ofNat n2 =>
          exact absurd (iff_of_false (Int.not_lt.2 (Int.natCast_nonneg n1))
            (Int.not_lt.2 (Int.natCast_nonneg n2))) opposite
      | negSucc n2 => exact ⟨_, rfl⟩
  | negSucc n1 =>
      cases h2 with
      | ofNat n2 => exact ⟨_, rfl⟩
      | negSucc n2 =>
          exact absurd (iff_of_true (Int.negSucc_lt_zero n1) (Int.negSucc_lt_zero n2)) opposite

theorem hammingDistance_of_sameSign {h1 h2 : Int} (same : SameSign h1 h2) :
    hammingDistance h1 h2 = bitDistance h1 h2 := by
  obtain ⟨n, xor⟩ := xor_of_sameSign same
  have bits : ∀ i, n.testBit i = (h1.testBit i != h2.testBit i) := by
    intro i
    have bit := Int.testBit_lxor h1 h2 i
    rw [xor] at bit
    exact bit
  rw [hammingDistance_eq_ones, xor]
  unfold ones bitDistance
  simp only [Int.natAbs_natCast, bits]

/-- From bit 63 on all bits of a hash are its sign. -/
theorem testBit_of_bigint {h : Int} (bigint : Bigint h) {i : Nat} (high : 63 ≤ i) :
    h.testBit i = decide (h < 0) := by
  unfold Bigint at bigint
  have grows : 2 ^ 63 ≤ 2 ^ i := Nat.pow_le_pow_right (by decide) high
  cases h with
  | ofNat n =>
      have small : n < 2 ^ i := by
        have := bigint.2
        simp only [Int.ofNat_eq_natCast] at this
        omega
      have bit : (Int.ofNat n).testBit i = n.testBit i := rfl
      rw [bit, Nat.testBit_lt_two_pow small]
      simp
  | negSucc n =>
      have small : n < 2 ^ i := by
        have := bigint.1
        omega
      have bit : (Int.negSucc n).testBit i = !n.testBit i := rfl
      rw [bit, Nat.testBit_lt_two_pow small]
      simp

theorem hammingDistance_of_oppositeSigns {h1 h2 : Int} (bigint1 : Bigint h1)
    (bigint2 : Bigint h2) (opposite : ¬ SameSign h1 h2) :
    hammingDistance h1 h2 = agreeAbove h1 h2 + 1 := by
  obtain ⟨n, xor⟩ := xor_of_oppositeSigns opposite
  have bits : ∀ i, n.testBit i = (h1.testBit i == h2.testBit i) := by
    intro i
    have bit := Int.testBit_lxor h1 h2 i
    rw [xor] at bit
    change (!n.testBit i) = _ at bit
    rw [← Bool.not_not (n.testBit i), bit]
    cases h1.testBit i <;> simp
  have fits : n < 2 ^ 63 := by
    apply Nat.lt_pow_two_of_testBit
    intro i high
    rw [bits, testBit_of_bigint bigint1 high, testBit_of_bigint bigint2 high]
    unfold SameSign at opposite
    by_cases negative : h1 < 0 <;> simp_all
  have carry : (Int.negSucc n).natAbs = n + 1 := rfl
  rw [hammingDistance_eq_ones, xor, carry, ones_succ (by omega)]
  unfold onesAboveZero agreeAbove
  simp only [bits, bne]

/-! ## The signal -/

/-- It is so for the new hash and an existing one of the same kind, with the threshold of the
kind. -/
def SomeCompared (phash ahash : Option Int) (existing : List (Option Int × Option Int))
    (P : Nat → Int → Int → Prop) : Prop :=
  ∃ pair ∈ existing, (∃ h ∈ phash, ∃ e ∈ pair.1, P phashHammingThreshold h e) ∨
    ∃ h ∈ ahash, ∃ e ∈ pair.2, P ahashHammingThreshold h e

theorem SomeCompared.congr {phash ahash : Option Int}
    {existing : List (Option Int × Option Int)} {P Q : Nat → Int → Int → Prop}
    (new : Bigints (phash, ahash)) (stored : ∀ pair ∈ existing, Bigints pair)
    (same : ∀ threshold h e, Bigint h → Bigint e → (P threshold h e ↔ Q threshold h e)) :
    SomeCompared phash ahash existing P ↔ SomeCompared phash ahash existing Q := by
  unfold SomeCompared
  refine exists_congr fun pair => and_congr_right fun mem => or_congr ?_ ?_
  · refine exists_congr fun h => and_congr_right fun memH =>
      exists_congr fun e => and_congr_right fun memE => ?_
    exact same _ h e (new.1 h memH) ((stored pair mem).1 e memE)
  · refine exists_congr fun h => and_congr_right fun memH =>
      exists_congr fun e => and_congr_right fun memE => ?_
    exact same _ h e (new.2 h memH) ((stored pair mem).2 e memE)

theorem someCompared_or {phash ahash : Option Int} {existing : List (Option Int × Option Int)}
    {P Q : Nat → Int → Int → Prop} :
    (SomeCompared phash ahash existing fun threshold h e => P threshold h e ∨ Q threshold h e) ↔
      SomeCompared phash ahash existing P ∨ SomeCompared phash ahash existing Q := by
  unfold SomeCompared
  rw [← exists_or]
  refine exists_congr fun pair => ?_
  rw [← and_or_left, or_or_or_comm]
  simp only [and_or_left, exists_or]

theorem near_iff {threshold : Nat} {hash existing : Option Int} :
    near threshold hash existing = true ↔
      ∃ h ∈ hash, ∃ e ∈ existing, hammingDistance h e ≤ threshold := by
  cases hash <;> cases existing <;> simp [near]

/-- The scan of the list, with its early ends. -/
theorem computePhashDupSignal_eq_one_iff (phash ahash : Option Int)
    (existing : List (Option Int × Option Int)) :
    computePhashDupSignal phash ahash existing = 1 ↔
      SomeCompared phash ahash existing fun threshold h e => hammingDistance h e ≤ threshold := by
  unfold computePhashDupSignal SomeCompared
  simp only [← near_iff]
  by_cases null : phash = none ∧ ahash = none
  · simp [null.1, null.2, near]
  · have signal : ∀ found : Bool, (if found then (1 : Score) else 0) = 1 ↔ found = true := by
      intro found
      cases found <;> simp
    rw [if_neg null, signal, List.any_eq_true]
    simp only [Bool.or_eq_true]

/-- The signal is there exactly when some compared hashes are within their threshold; it does
not depend on which of two hashes is the new one, nor on the order of the list. -/
structure DetectsDuplicates (phash ahash : Option Int)
    (existing : List (Option Int × Option Int)) : Prop where
  detects : computePhashDupSignal phash ahash existing = 1 ↔
    SomeCompared phash ahash existing fun threshold h e => bitDistance h e ≤ threshold
  symmetric : ∀ pair ∈ existing, computePhashDupSignal phash ahash [pair] =
    computePhashDupSignal pair.1 pair.2 [(phash, ahash)]
  unordered : ∀ existing', existing'.Perm existing →
    computePhashDupSignal phash ahash existing' = computePhashDupSignal phash ahash existing

theorem hammingDistance_comm (h1 h2 : Int) : hammingDistance h1 h2 = hammingDistance h2 h1 := by
  have same : Int.xor h1 h2 = Int.xor h2 h1 := by
    cases h1 <;> cases h2 <;> simp [Int.xor, Nat.xor_comm]
  rw [hammingDistance, hammingDistance, same]

theorem near_comm (threshold : Nat) (hash existing : Option Int) :
    near threshold hash existing = near threshold existing hash := by
  cases hash <;> cases existing <;> simp [near, hammingDistance_comm]

theorem computePhashDupSignal_singleton (phash ahash : Option Int)
    (pair : Option Int × Option Int) : computePhashDupSignal phash ahash [pair] =
      computePhashDupSignal pair.1 pair.2 [(phash, ahash)] := by
  obtain ⟨ep, ea⟩ := pair
  unfold computePhashDupSignal
  simp only [List.any_cons, List.any_nil, Bool.or_false]
  rw [near_comm phashHammingThreshold ep, near_comm ahashHammingThreshold ea]
  by_cases null : phash = none ∧ ahash = none
  · simp [null.1, null.2, near]
  · by_cases null' : ep = none ∧ ea = none
    · simp [null'.1, null'.2, near]
    · rw [if_neg null, if_neg null']

theorem computePhashDupSignal_perm (phash ahash : Option Int)
    {existing existing' : List (Option Int × Option Int)} (perm : existing'.Perm existing) :
    computePhashDupSignal phash ahash existing' = computePhashDupSignal phash ahash existing := by
  unfold computePhashDupSignal
  rw [perm.any_eq]

/-- The signal is right when hashes of one sign settle it, or else exactly when the hashes of
opposite signs that are counted as close are there along with ones that are close. -/
theorem detectsDuplicates_iff {phash ahash : Option Int}
    {existing : List (Option Int × Option Int)} (new : Bigints (phash, ahash))
    (stored : ∀ pair ∈ existing, Bigints pair) :
    DetectsDuplicates phash ahash existing ↔
      (SomeCompared phash ahash existing fun threshold h e =>
        SameSign h e ∧ bitDistance h e ≤ threshold) ∨
      ((SomeCompared phash ahash existing fun threshold h e =>
          ¬ SameSign h e ∧ agreeAbove h e < threshold) ↔
        SomeCompared phash ahash existing fun threshold h e =>
          ¬ SameSign h e ∧ bitDistance h e ≤ threshold) := by
  have counted := computePhashDupSignal_eq_one_iff phash ahash existing
  rw [SomeCompared.congr new stored fun threshold h e bigintH bigintE =>
    show hammingDistance h e ≤ threshold ↔ (SameSign h e ∧ bitDistance h e ≤ threshold) ∨
        ¬ SameSign h e ∧ agreeAbove h e < threshold by
      by_cases same : SameSign h e
      · simp [same, hammingDistance_of_sameSign same]
      · simp only [same, false_and, not_false_eq_true, true_and, false_or]
        rw [hammingDistance_of_oppositeSigns bigintH bigintE same]
        exact Nat.add_one_le_iff, someCompared_or] at counted
  have close := SomeCompared.congr (P := fun threshold h e => bitDistance h e ≤ threshold)
    (Q := fun threshold h e => (SameSign h e ∧ bitDistance h e ≤ threshold) ∨
      ¬ SameSign h e ∧ bitDistance h e ≤ threshold) new stored
    fun threshold h e _ _ => by tauto
  rw [someCompared_or] at close
  constructor
  · intro sound
    have detects := sound.detects
    rw [counted, close] at detects
    tauto
  · intro settled
    refine ⟨?_, fun pair _ => computePhashDupSignal_singleton phash ahash pair,
      fun existing' perm => computePhashDupSignal_perm phash ahash perm⟩
    rw [counted, close]
    tauto

/-- A hash and another that differs in its sign alone. -/
theorem detectsDuplicates_of_sign_bit :
    Bigints (some (2 ^ 62), none) ∧ DetectsDuplicates (some (2 ^ 62)) none
      [(some (2 ^ 62 - 2 ^ 63), none)] := by
  have bigints : Bigints (some (2 ^ 62), none) := by simp [Bigints, Bigint]
  refine ⟨bigints, (detectsDuplicates_iff bigints (by simp [Bigints, Bigint])).2 (.inr ?_)⟩
  apply iff_of_true
  · exact ⟨_, List.mem_singleton_self _, .inl ⟨_, rfl, _, rfl, by decide, by decide⟩⟩
  · exact ⟨_, List.mem_singleton_self _, .inl ⟨_, rfl, _, rfl, by decide, by decide⟩⟩

/-- All 64 bits differ, and the absolute value of the difference is one. -/
theorem opposite_bits_are_detected : ¬ DetectsDuplicates (some (-1)) none [(some 0, none)] := by
  intro sound
  have signal : computePhashDupSignal (some (-1)) none [(some 0, none)] = 1 := by decide
  obtain ⟨pair, mem, close⟩ := sound.detects.1 signal
  obtain rfl := List.mem_singleton.1 mem
  rcases close with ⟨h, memH, e, memE, close⟩ | ⟨h, memH, -⟩
  · cases memH
    cases memE
    exact absurd close (by decide)
  · cases memH

end ColabPlatform.Profiles
