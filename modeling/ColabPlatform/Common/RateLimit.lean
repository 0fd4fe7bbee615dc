import ColabPlatform.Foundation.KeyStore
import ColabPlatform.Foundation.TokenBucket
import Mathlib.Data.List.Induction
import Mathlib.Data.Rat.Floor
import Mathlib.Data.Set.Finite.Lattice
import Mathlib.Data.Set.Finite.List

/-!
# The rate limiter

One call of the script refills the bucket of a key and takes a token from it.
The refill is rounded down and the time of the last refill is set anew by every
call, so that tokens are lost but never gained; a bucket that expires would have
been full.
-/

namespace ColabPlatform.Common

open Foundation

structure Bucket where
  tokens : Int
  lastRefill : Int
  deriving DecidableEq, Repr

/-! ## The script -/

/-- The seconds until an unused bucket expires. -/
def bucketTtl (capacity : Int) (refillPerSec : ℚ) : Int :=
  ⌈(capacity : ℚ) / refillPerSec⌉ + 10

/-- The tokens of a bucket after the refill; an absent one is new and full. -/
def refilled (capacity : Int) (refillPerSec : ℚ) (now : Int) (bucket : Option Bucket) : Int :=
  let tokens := (bucket.map Bucket.tokens).getD capacity
  let lastRefill := (bucket.map Bucket.lastRefill).getD now
  let elapsed := now - lastRefill
  min capacity (tokens + ⌊(elapsed : ℚ) * refillPerSec⌋)

/-- `_TOKEN_BUCKET_LUA` at the time `now`: whether a token was taken, and those that are left. -/
def checkRateLimit (key : String) (capacity : Int) (refillPerSec : ℚ)
    (store : KeyStore String Bucket) (now : Int) : (Bool × Int) × KeyStore String Bucket :=
  let tokens := refilled capacity refillPerSec now (store.get now key)
  let left := if 1 ≤ tokens then tokens - 1 else tokens
  ((decide (1 ≤ tokens), left),
    store.setEx now (bucketTtl capacity refillPerSec) key ⟨left, now⟩)

/-- The answer `allowed` alone. -/
def allow (key : String) (capacity : Int) (refillPerSec : ℚ) (store : KeyStore String Bucket)
    (now : Int) : Bool × KeyStore String Bucket :=
  ((checkRateLimit key capacity refillPerSec store now).1.1,
    (checkRateLimit key capacity refillPerSec store now).2)

/-- What the calls with `key` at `times` are bound by. -/
structure Bounded (key : String) (capacity : Int) (refillPerSec : ℚ)
    (store : KeyStore String Bucket) (times : List Int) : Prop where
  allowed_in : ∀ s t : Int, s ≤ t →
    (((admittedAt (allow key capacity refillPerSec) store times).filter
        fun time => s ≤ time ∧ time ≤ t).length : ℚ) ≤
      capacity + refillPerSec * ((t : ℚ) - s)
  tokens_in : ∀ first, first <+: times → ∀ stored,
    (askedAt (allow key capacity refillPerSec) store first).entries key = some stored →
      0 ≤ stored.value.tokens ∧ stored.value.tokens ≤ capacity
  allowed_iff : ∀ first now, first ++ [now] <+: times →
    ((allow key capacity refillPerSec
        (askedAt (allow key capacity refillPerSec) store first) now).1 = true ↔
      1 ≤ refilled capacity refillPerSec now
        ((askedAt (allow key capacity refillPerSec) store first).get now key))

/-! ## The level of a bucket -/

section Level

variable {key : String} {capacity : Int} {refillPerSec : ℚ}

/-- The bucket was last used at or before `now`, or never. -/
def Since (key : String) (capacity : Int) (refillPerSec : ℚ) (store : KeyStore String Bucket)
    (now : Int) : Prop :=
  ∀ stored, store.entries key = some stored →
    0 ≤ stored.value.tokens ∧ stored.value.tokens ≤ capacity ∧ stored.value.lastRefill ≤ now ∧
      stored.deadline = some (stored.value.lastRefill + bucketTtl capacity refillPerSec)

/-- The tokens that an exact refill would have given, whether or not the key has expired. -/
def level (key : String) (capacity : Int) (refillPerSec : ℚ) (store : KeyStore String Bucket)
    (now : Int) : ℚ :=
  match store.entries key with
  | none => capacity
  | some stored =>
      min capacity (stored.value.tokens + refillPerSec * ((now : ℚ) - stored.value.lastRefill))

/-- An expired bucket would have been full. -/
theorem capacity_le_of_expired (pos : 0 < refillPerSec) {lastRefill now : Int}
    (expired : lastRefill + bucketTtl capacity refillPerSec ≤ now) :
    (capacity : ℚ) ≤ refillPerSec * ((now : ℚ) - lastRefill) := by
  have long : (capacity : ℚ) / refillPerSec ≤ now - lastRefill := by
    have ceil := Int.le_ceil ((capacity : ℚ) / refillPerSec)
    have elapsed : ((⌈(capacity : ℚ) / refillPerSec⌉ : Int) : ℚ) ≤ ((now - lastRefill : Int) : ℚ) := by
      apply Int.cast_le.2
      unfold bucketTtl at expired
      omega
    rw [Int.cast_sub] at elapsed
    exact ceil.trans elapsed
  rw [mul_comm]
  exact (div_le_iff₀ pos).1 long

theorem get_cases (store : KeyStore String Bucket) (now : Int) (key : String) :
    store.get now key = none ∨
      ∃ stored, store.entries key = some stored ∧ store.get now key = some stored.value := by
  cases found : store.get now key with
  | none => exact Or.inl rfl
  | some bucket =>
      obtain ⟨stored, entry, -, rfl⟩ := KeyStore.get_eq_some_iff.1 found
      exact Or.inr ⟨stored, entry, rfl⟩

/-- The script gives no more than the exact refill. -/
theorem refilled_le_level (pos : 0 < refillPerSec) {store : KeyStore String Bucket} {now : Int}
    (since : Since key capacity refillPerSec store now) :
    (refilled capacity refillPerSec now (store.get now key) : ℚ) ≤
      level key capacity refillPerSec store now := by
  unfold level KeyStore.get
  cases entry : store.entries key with
  | none => simp [refilled]
  | some stored =>
      obtain ⟨nonneg, within, past, deadline⟩ := since stored entry
      dsimp only
      by_cases alive : KeyStore.Stamped.alive stored now = true
      · rw [if_pos alive]
        have rounded := Int.floor_le (((now - stored.value.lastRefill : Int) : ℚ) * refillPerSec)
        simp only [refilled, Option.map_some, Option.getD_some, Int.cast_min, Int.cast_add]
        apply min_le_min_left
        rw [Int.cast_sub] at rounded ⊢
        linarith
      · rw [if_neg alive]
        have expired : stored.value.lastRefill + bucketTtl capacity refillPerSec ≤ now := by
          simpa [KeyStore.Stamped.alive, deadline] using alive
        have full := capacity_le_of_expired pos expired
        have tokens_nonneg : (0 : ℚ) ≤ stored.value.tokens := Int.cast_nonneg nonneg
        simp only [refilled, Option.map_none, Option.getD_none, sub_self, Int.cast_zero, zero_mul,
          Int.floor_zero, add_zero, min_self]
        exact le_min le_rfl (by linarith)

theorem refilled_nonneg (pos : 0 < refillPerSec) (one_le : 1 ≤ capacity)
    {store : KeyStore String Bucket} {now : Int}
    (since : Since key capacity refillPerSec store now) :
    0 ≤ refilled capacity refillPerSec now (store.get now key) := by
  rcases get_cases store now key with absent | ⟨stored, entry, found⟩
  · rw [absent]
    simp only [refilled, Option.map_none, Option.getD_none, sub_self, Int.cast_zero, zero_mul,
      Int.floor_zero, add_zero, min_self]
    omega
  · obtain ⟨nonneg, within, past, -⟩ := since stored entry
    have elapsed : (0 : ℚ) ≤ ((now - stored.value.lastRefill : Int) : ℚ) * refillPerSec :=
      mul_nonneg (Int.cast_nonneg (by omega)) pos.le
    have gained : 0 ≤ ⌊((now - stored.value.lastRefill : Int) : ℚ) * refillPerSec⌋ :=
      Int.floor_nonneg.2 elapsed
    rw [found]
    simp only [refilled, Option.map_some, Option.getD_some]
    omega

theorem refilled_le_capacity (capacity : Int) (refillPerSec : ℚ) (now : Int)
    (bucket : Option Bucket) : refilled capacity refillPerSec now bucket ≤ capacity :=
  min_le_left _ _

/-! ## A call -/

/-- The tokens that a call leaves. -/
def leftOver (key : String) (capacity : Int) (refillPerSec : ℚ) (store : KeyStore String Bucket)
    (now : Int) : Int :=
  (checkRateLimit key capacity refillPerSec store now).1.2

theorem entries_allow (store : KeyStore String Bucket) (now : Int) :
    (allow key capacity refillPerSec store now).2.entries key =
      some ⟨⟨leftOver key capacity refillPerSec store now, now⟩,
        some (now + bucketTtl capacity refillPerSec)⟩ := by
  simp [allow, checkRateLimit, leftOver, KeyStore.entries_setEx]

theorem leftOver_cases (key : String) (capacity : Int) (refillPerSec : ℚ)
    (store : KeyStore String Bucket) (now : Int) :
    ((allow key capacity refillPerSec store now).1 = true ∧
        1 ≤ refilled capacity refillPerSec now (store.get now key) ∧
        leftOver key capacity refillPerSec store now =
          refilled capacity refillPerSec now (store.get now key) - 1) ∨
      (allow key capacity refillPerSec store now).1 = false ∧
        refilled capacity refillPerSec now (store.get now key) < 1 ∧
        leftOver key capacity refillPerSec store now =
          refilled capacity refillPerSec now (store.get now key) := by
  unfold allow leftOver checkRateLimit
  by_cases enough : 1 ≤ refilled capacity refillPerSec now (store.get now key)
  · exact Or.inl ⟨decide_eq_true enough, enough, if_pos enough⟩
  · exact Or.inr ⟨decide_eq_false enough, not_le.1 enough, if_neg enough⟩

theorem leftOver_bounds (pos : 0 < refillPerSec) (one_le : 1 ≤ capacity)
    {store : KeyStore String Bucket} {now : Int}
    (since : Since key capacity refillPerSec store now) :
    0 ≤ leftOver key capacity refillPerSec store now ∧
      leftOver key capacity refillPerSec store now ≤ capacity := by
  have nonneg := refilled_nonneg pos one_le since
  have within := refilled_le_capacity capacity refillPerSec now (store.get now key)
  rcases leftOver_cases key capacity refillPerSec store now with ⟨-, enough, left⟩ | ⟨-, -, left⟩ <;> omega

theorem since_allow (pos : 0 < refillPerSec) (one_le : 1 ≤ capacity)
    {store : KeyStore String Bucket} {now : Int}
    (since : Since key capacity refillPerSec store now) :
    Since key capacity refillPerSec (allow key capacity refillPerSec store now).2 now := by
  intro stored entry
  rw [entries_allow] at entry
  cases entry
  obtain ⟨nonneg, within⟩ := leftOver_bounds pos one_le since
  exact ⟨nonneg, within, le_rfl, rfl⟩

theorem level_allow (pos : 0 < refillPerSec) (one_le : 1 ≤ capacity)
    {store : KeyStore String Bucket} {now : Int}
    (since : Since key capacity refillPerSec store now) :
    level key capacity refillPerSec (allow key capacity refillPerSec store now).2 now =
      leftOver key capacity refillPerSec store now := by
  unfold level
  rw [entries_allow]
  have within : (leftOver key capacity refillPerSec store now : ℚ) ≤ capacity :=
    Int.cast_le.2 (leftOver_bounds pos one_le since).2
  simpa using within

/-- The script is paid from the level of its bucket. -/
theorem metered_allow (pos : 0 < refillPerSec) (one_le : 1 ≤ capacity) :
    Metered (allow key capacity refillPerSec) refillPerSec (capacity : ℚ)
      (level key capacity refillPerSec) (Since key capacity refillPerSec) where
  since_mono store now later since le := by
    intro stored entry
    obtain ⟨nonneg, within, past, deadline⟩ := since stored entry
    exact ⟨nonneg, within, past.trans le, deadline⟩
  since_call store now since := since_allow pos one_le since
  nonneg store now since :=
    (Int.cast_nonneg (refilled_nonneg pos one_le since)).trans (refilled_le_level pos since)
  le_cap store now _ := by
    unfold level
    cases store.entries key with
    | none => exact le_rfl
    | some stored => exact min_le_left _ _
  grows store now later _ le := by
    have added : 0 ≤ refillPerSec * ((later : ℚ) - now) :=
      mul_nonneg pos.le (sub_nonneg.2 (Int.cast_le.2 le))
    unfold level
    cases store.entries key with
    | none => linarith
    | some stored =>
        dsimp only
        rw [← min_add_add_right]
        apply min_le_min
        · linarith
        · apply le_of_eq
          ring
  pays store now since := by
    have enough := refilled_le_level pos since
    rw [level_allow pos one_le since]
    rcases leftOver_cases key capacity refillPerSec store now with ⟨allowed, -, left⟩ | ⟨refused, -, left⟩
    · rw [allowed, left, if_pos rfl, Int.cast_sub, Int.cast_one, sub_add_cancel]
      exact enough
    · rw [refused, left, if_neg Bool.false_ne_true, add_zero]
      exact enough

theorem since_asked (pos : 0 < refillPerSec) (one_le : 1 ≤ capacity)
    {store : KeyStore String Bucket} (fresh : store.entries key = none) {times : List Int}
    (sorted : times.Pairwise (· ≤ ·)) {now : Int} (past : ∀ time ∈ times, time ≤ now) :
    Since key capacity refillPerSec (askedAt (allow key capacity refillPerSec) store times) now := by
  induction times using List.reverseRecOn generalizing now with
  | nil =>
      intro stored entry
      simp [askedAt, fresh] at entry
  | append_singleton times time ih =>
      obtain ⟨before, -, ordered⟩ := List.pairwise_append.1 sorted
      have since : Since key capacity refillPerSec
          (askedAt (allow key capacity refillPerSec) store times) time :=
        ih before fun x mem => ordered x mem time List.mem_cons_self
      have next := since_allow pos one_le since
      rw [askedAt, List.foldl_append]
      exact (metered_allow pos one_le).since_mono _ time now next (past time (by simp))

end Level

theorem token_bucket_bound {key : String} {capacity : Int} {refillPerSec : ℚ}
    {store : KeyStore String Bucket} {times : List Int} (one_le : 1 ≤ capacity)
    (pos : 0 < refillPerSec) (fresh : store.entries key = none)
    (sorted : times.Pairwise (· ≤ ·)) : Bounded key capacity refillPerSec store times where
  allowed_in s t le := by
    have start : ∀ time ∈ times, Since key capacity refillPerSec store time := by
      intro time _ stored entry
      rw [fresh] at entry
      cases entry
    have cap_nonneg : (0 : ℚ) ≤ capacity := Int.cast_nonneg (by omega)
    exact (metered_allow pos one_le).admitted_in_le pos.le cap_nonneg start sorted le
  tokens_in first isPrefix stored entry := by
    obtain ⟨last, past⟩ := (List.finite_toSet first).bddAbove
    have since := since_asked pos one_le fresh (sorted.sublist isPrefix.sublist)
      fun time mem => past mem
    exact ⟨(since stored entry).1, (since stored entry).2.1⟩
  allowed_iff first now isPrefix := by
    rcases leftOver_cases key capacity refillPerSec
      (askedAt (allow key capacity refillPerSec) store first) now with
      ⟨allowed, enough, -⟩ | ⟨refused, short, -⟩
    · simp [allowed, enough]
    · simp [refused, short]

theorem token_bucket_bound_two :
    Bounded "rl:user:1:feed" 2 (1 / 2) .empty [0, 0, 0, 3, 20] :=
  token_bucket_bound (by decide) (by norm_num) rfl (by decide)

end ColabPlatform.Common
