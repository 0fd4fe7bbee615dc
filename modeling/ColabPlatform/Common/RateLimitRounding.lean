import ColabPlatform.Common.RateLimit

/-!
# What rounding costs a client

Every call of the script rounds its refill down and sets the time of the last refill anew, so
that the fractions of frequent calls are lost one after the other.  The script keeps up with the
ideal bucket for as long as the fractions lost since the bucket was full stay below a token.
-/

namespace ColabPlatform.Common

open Foundation

/-! ## The fractions that are lost -/

/-- The fraction of a token that the refill at `now` rounds away. -/
def roundedAway (refillPerSec : ℚ) (now : Int) (bucket : Option Bucket) : ℚ :=
  Int.fract (((now - (bucket.map Bucket.lastRefill).getD now : Int) : ℚ) * refillPerSec)

/-- The fractions lost since the bucket was last full, and the store, after one more call. -/
def lossCall (key : String) (capacity : Int) (refillPerSec : ℚ)
    (s : ℚ × KeyStore String Bucket) (now : Int) : ℚ × KeyStore String Bucket :=
  (if refilled capacity refillPerSec now (s.2.get now key) = capacity then 0
    else s.1 + roundedAway refillPerSec now (s.2.get now key),
    (allow key capacity refillPerSec s.2 now).2)

def lost (key : String) (capacity : Int) (refillPerSec : ℚ) (store : KeyStore String Bucket)
    (times : List Int) : ℚ :=
  (times.foldl (lossCall key capacity refillPerSec) (0, store)).1

/-- The tokens that a call at `now` finds after the calls at `times`. -/
def tokensAt (key : String) (capacity : Int) (refillPerSec : ℚ) (store : KeyStore String Bucket)
    (times : List Int) (now : Int) : Int :=
  refilled capacity refillPerSec now
    ((askedAt (allow key capacity refillPerSec) store times).get now key)

/-- The same of the ideal bucket. -/
def idealTokensAt (capacity : Int) (refillPerSec : ℚ) (times : List Int) (now : Int) : ℚ :=
  idealRefilled (capacity : ℚ) refillPerSec now
    (askedAt (idealCall (capacity : ℚ) refillPerSec) none times)

/-- A call at `now` after those at `times`: it is admitted if the ideal bucket admits it, rounding
has cost less than a token, and the calls that were refused have cost nothing. -/
structure RoundedOnce (key : String) (capacity : Int) (refillPerSec : ℚ)
    (store : KeyStore String Bucket) (times : List Int) (now : Int) : Prop where
  allowed : (idealCall (capacity : ℚ) refillPerSec
      (askedAt (idealCall (capacity : ℚ) refillPerSec) none times) now).1 = true →
    (allow key capacity refillPerSec (askedAt (allow key capacity refillPerSec) store times)
      now).1 = true
  tokens : idealTokensAt capacity refillPerSec times now <
    tokensAt key capacity refillPerSec store times now + 1
  kept : tokensAt key capacity refillPerSec store
      (admittedAt (allow key capacity refillPerSec) store times) now ≤
    tokensAt key capacity refillPerSec store times now

section Rounding

variable {key : String} {capacity : Int} {refillPerSec : ℚ} {store : KeyStore String Bucket}
  {times : List Int} {now : Int}

theorem lost_concat (key : String) (capacity : Int) (refillPerSec : ℚ)
    (store : KeyStore String Bucket) (times : List Int) (now : Int) :
    lost key capacity refillPerSec store (times ++ [now]) =
      if tokensAt key capacity refillPerSec store times now = capacity then 0
      else lost key capacity refillPerSec store times +
        roundedAway refillPerSec now
          ((askedAt (allow key capacity refillPerSec) store times).get now key) := by
  have stores : ∀ s : ℚ × KeyStore String Bucket,
      (times.foldl (lossCall key capacity refillPerSec) s).2 =
        askedAt (allow key capacity refillPerSec) s.2 times := by
    induction times with
    | nil => exact fun _ => rfl
    | cons time times ih => exact fun s => ih _
  rw [lost, List.foldl_append, List.foldl_cons, List.foldl_nil, lossCall, stores]
  rfl

theorem lost_nonneg (key : String) (capacity : Int) (refillPerSec : ℚ)
    (store : KeyStore String Bucket) (times : List Int) :
    0 ≤ lost key capacity refillPerSec store times := by
  induction times using List.reverseRecOn with
  | nil => exact le_rfl
  | append_singleton times time ih =>
      rw [lost_concat]
      split
      · exact le_rfl
      · exact add_nonneg ih (Int.fract_nonneg _)

/-! ## The script is behind the ideal bucket -/

theorem allow_iff : (allow key capacity refillPerSec
      (askedAt (allow key capacity refillPerSec) store times) now).1 = true ↔
    1 ≤ tokensAt key capacity refillPerSec store times now :=
  decide_eq_true_iff

theorem idealCall_iff : (idealCall (capacity : ℚ) refillPerSec
      (askedAt (idealCall (capacity : ℚ) refillPerSec) none times) now).1 = true ↔
    1 ≤ idealTokensAt capacity refillPerSec times now :=
  decide_eq_true_iff

/-- After a call that found `tokens` the script has no more left than an ideal bucket with as much. -/
theorem leftOver_le {ideal : ℚ} {time : Int}
    (le : (refilled capacity refillPerSec time (store.get time key) : ℚ) ≤ ideal) :
    (leftOver key capacity refillPerSec store time : ℚ) ≤
      if 1 ≤ ideal then ideal - 1 else ideal := by
  rcases leftOver_cases key capacity refillPerSec store time with
    ⟨-, enough, left⟩ | ⟨-, short, left⟩
  · have one : (1 : ℚ) ≤ refilled capacity refillPerSec time (store.get time key) := by
      exact_mod_cast enough
    rw [left, if_pos (one.trans le), Int.cast_sub, Int.cast_one]
    linarith
  · rw [left]
    split
    · have empty : (refilled capacity refillPerSec time (store.get time key) : ℚ) ≤ 0 := by
        exact_mod_cast Int.lt_add_one_iff.1 short
      linarith
    · exact le

/-- What the script has and would have been given exactly is in the ideal bucket. -/
theorem level_le_ideal (pos : 0 < refillPerSec) (one_le : 1 ≤ capacity)
    (fresh : store.entries key = none) (sorted : times.Pairwise (· ≤ ·))
    (past : ∀ time ∈ times, time ≤ now) :
    level key capacity refillPerSec (askedAt (allow key capacity refillPerSec) store times) now ≤
      idealTokensAt capacity refillPerSec times now := by
  induction times using List.reverseRecOn generalizing now with
  | nil =>
      unfold level
      rw [askedAt, List.foldl_nil, fresh]
      exact le_rfl
  | append_singleton times time ih =>
      obtain ⟨before, -, ordered⟩ := List.pairwise_append.1 sorted
      have earlier : ∀ x ∈ times, x ≤ time := fun x mem => ordered x mem time List.mem_cons_self
      have here := ih before earlier
      have since := since_asked pos one_le fresh before earlier
      have left := leftOver_le ((refilled_le_level pos since).trans here)
      unfold level idealTokensAt
      rw [askedAt_concat, askedAt_concat, entries_allow, idealRefilled_call]
      exact min_le_min_left _ (add_le_add left le_rfl)

theorem tokensAt_le_ideal (pos : 0 < refillPerSec) (one_le : 1 ≤ capacity)
    (fresh : store.entries key = none) (sorted : times.Pairwise (· ≤ ·))
    (past : ∀ time ∈ times, time ≤ now) :
    (tokensAt key capacity refillPerSec store times now : ℚ) ≤
      idealTokensAt capacity refillPerSec times now :=
  (refilled_le_level pos (since_asked pos one_le fresh sorted past)).trans
    (level_le_ideal pos one_le fresh sorted past)

/-! ## By how much -/

/-- The ideal bucket holds the lost fractions more, if there is room for them. -/
def Apart (key : String) (capacity : Int) (refillPerSec : ℚ) (store : KeyStore String Bucket)
    (times : List Int) (now : Int) : Prop :=
  idealTokensAt capacity refillPerSec times now =
    min (capacity : ℚ) (tokensAt key capacity refillPerSec store times now +
      lost key capacity refillPerSec store (times ++ [now]))

theorem tokensAt_le_capacity : tokensAt key capacity refillPerSec store times now ≤ capacity :=
  refilled_le_capacity _ _ _ _

theorem lost_of_full (full : tokensAt key capacity refillPerSec store times now = capacity) :
    lost key capacity refillPerSec store (times ++ [now]) = 0 := by
  rw [lost_concat, if_pos full]

/-- While less than a token is lost there is room for it. -/
theorem Apart.eq_add (apart : Apart key capacity refillPerSec store times now)
    (small : lost key capacity refillPerSec store (times ++ [now]) < 1) :
    idealTokensAt capacity refillPerSec times now =
      tokensAt key capacity refillPerSec store times now +
        lost key capacity refillPerSec store (times ++ [now]) := by
  rw [apart]
  by_cases full : tokensAt key capacity refillPerSec store times now = capacity
  · rw [lost_of_full full, full, add_zero, min_self]
  · have room : (tokensAt key capacity refillPerSec store times now : ℚ) + 1 ≤ capacity := by
      exact_mod_cast Int.add_one_le_iff.2 (lt_of_le_of_ne tokensAt_le_capacity full)
    exact min_eq_right (by linarith)

/-- The script is a token behind as soon as a token is lost. -/
theorem Apart.lt_iff (apart : Apart key capacity refillPerSec store times now) :
    idealTokensAt capacity refillPerSec times now <
        tokensAt key capacity refillPerSec store times now + 1 ↔
      lost key capacity refillPerSec store (times ++ [now]) < 1 := by
  constructor
  · intro lt
    by_contra large
    have full : tokensAt key capacity refillPerSec store times now ≠ capacity := fun full =>
      large (by rw [lost_of_full full]; exact one_pos)
    have room : (tokensAt key capacity refillPerSec store times now : ℚ) + 1 ≤ capacity := by
      exact_mod_cast Int.add_one_le_iff.2 (lt_of_le_of_ne tokensAt_le_capacity full)
    have behind : (tokensAt key capacity refillPerSec store times now : ℚ) + 1 ≤
        idealTokensAt capacity refillPerSec times now := by
      rw [apart]
      exact le_min room (by linarith)
    linarith
  · intro small
    rw [apart.eq_add small]
    linarith

/-- Then both admit, or both refuse. -/
theorem Apart.one_le_iff (apart : Apart key capacity refillPerSec store times now)
    (small : lost key capacity refillPerSec store (times ++ [now]) < 1) :
    1 ≤ idealTokensAt capacity refillPerSec times now ↔
      1 ≤ tokensAt key capacity refillPerSec store times now := by
  have nonneg := lost_nonneg key capacity refillPerSec store (times ++ [now])
  rw [apart.eq_add small]
  constructor
  · intro enough
    have some_left : (0 : ℚ) < tokensAt key capacity refillPerSec store times now := by linarith
    exact Int.cast_pos.1 some_left
  · intro enough
    have one : (1 : ℚ) ≤ tokensAt key capacity refillPerSec store times now := by
      exact_mod_cast enough
    linarith

/-- The refill of a bucket adds whole tokens, and what it rounds away to the loss. -/
theorem refilled_some (capacity : Int) (refillPerSec : ℚ) (now left time : Int) {loss : ℚ}
    (loss_nonneg : 0 ≤ loss) :
    min (capacity : ℚ) (left + loss + refillPerSec * ((now : ℚ) - time)) =
      min (capacity : ℚ) (refilled capacity refillPerSec now (some ⟨left, time⟩) +
        if refilled capacity refillPerSec now (some ⟨left, time⟩) = capacity then 0
        else loss + roundedAway refillPerSec now (some ⟨left, time⟩)) := by
  have parts := Int.floor_add_fract (((now - time : Int) : ℚ) * refillPerSec)
  have elapsed : ((now - time : Int) : ℚ) = (now : ℚ) - time := Int.cast_sub now time
  have tokens : refilled capacity refillPerSec now (some ⟨left, time⟩) =
      min capacity (left + ⌊((now - time : Int) : ℚ) * refillPerSec⌋) := rfl
  have away : roundedAway refillPerSec now (some ⟨left, time⟩) =
      Int.fract (((now - time : Int) : ℚ) * refillPerSec) := rfl
  by_cases full : refilled capacity refillPerSec now (some ⟨left, time⟩) = capacity
  · have filled : (capacity : ℚ) ≤ left + ⌊((now - time : Int) : ℚ) * refillPerSec⌋ := by
      exact_mod_cast min_eq_left_iff.1 (tokens.symm.trans full)
    have some_more := Int.fract_nonneg (((now - time : Int) : ℚ) * refillPerSec)
    rw [if_pos full, full, add_zero, min_self, min_eq_left]
    rw [elapsed] at filled some_more parts
    linarith
  · have rest := (min_choice capacity
      (left + ⌊((now - time : Int) : ℚ) * refillPerSec⌋)).resolve_left (tokens ▸ full)
    rw [if_neg full, tokens, rest, away, Int.cast_add]
    congr 1
    rw [elapsed] at parts ⊢
    linarith

/-- The refill of a stored bucket, which may have expired, beside the ideal one. -/
theorem refill_apart (pos : 0 < refillPerSec) {left time : Int} {loss : ℚ} (left_nonneg : 0 ≤ left)
    (loss_nonneg : 0 ≤ loss) (entry : store.entries key =
      some ⟨⟨left, time⟩, some (time + bucketTtl capacity refillPerSec)⟩) :
    min (capacity : ℚ) (left + loss + refillPerSec * ((now : ℚ) - time)) =
      min (capacity : ℚ) (refilled capacity refillPerSec now (store.get now key) +
        if refilled capacity refillPerSec now (store.get now key) = capacity then 0
        else loss + roundedAway refillPerSec now (store.get now key)) := by
  by_cases alive : now < time + bucketTtl capacity refillPerSec
  · have found : store.get now key = some ⟨left, time⟩ :=
      KeyStore.get_eq_some_iff.2 ⟨_, entry, decide_eq_true alive, rfl⟩
    rw [found]
    exact refilled_some capacity refillPerSec now left time loss_nonneg
  · have gone : store.get now key = none := by
      unfold KeyStore.get
      rw [entry]
      exact if_neg fun still => alive (of_decide_eq_true still)
    have full := capacity_le_of_expired pos (not_lt.1 alive)
    have new : refilled capacity refillPerSec now none = capacity := by
      simp [refilled]
    have left_cast : (0 : ℚ) ≤ left := Int.cast_nonneg left_nonneg
    rw [gone, new, if_pos rfl, add_zero, min_self, min_eq_left]
    linarith

/-- Both take a token or neither does. -/
theorem Apart.left_over {time : Int} (apart : Apart key capacity refillPerSec store times time)
    (small : lost key capacity refillPerSec store (times ++ [time]) < 1) :
    (if 1 ≤ idealTokensAt capacity refillPerSec times time
        then idealTokensAt capacity refillPerSec times time - 1
        else idealTokensAt capacity refillPerSec times time) =
      leftOver key capacity refillPerSec (askedAt (allow key capacity refillPerSec) store times)
          time + lost key capacity refillPerSec store (times ++ [time]) := by
  have both := apart.one_le_iff small
  have more := apart.eq_add small
  rcases leftOver_cases key capacity refillPerSec
    (askedAt (allow key capacity refillPerSec) store times) time with
    ⟨-, enough, left⟩ | ⟨-, short, left⟩
  · rw [if_pos (both.2 enough), left, more, Int.cast_sub, Int.cast_one, tokensAt]
    ring
  · rw [if_neg fun enough => absurd (both.1 enough) (not_le.2 short), left, more, tokensAt]

theorem apart_of_small (pos : 0 < refillPerSec) (one_le : 1 ≤ capacity)
    (fresh : store.entries key = none) (sorted : times.Pairwise (· ≤ ·))
    (past : ∀ time ∈ times, time ≤ now)
    (small : ∀ first, first <+: times → lost key capacity refillPerSec store first < 1) :
    Apart key capacity refillPerSec store times now := by
  induction times using List.reverseRecOn generalizing now with
  | nil =>
      have full : tokensAt key capacity refillPerSec store [] now = capacity := by
        simp [tokensAt, askedAt, KeyStore.get, fresh, refilled]
      rw [Apart, lost_of_full full, full, add_zero, min_self]
      rfl
  | append_singleton times time ih =>
      obtain ⟨before, -, ordered⟩ := List.pairwise_append.1 sorted
      have earlier : ∀ x ∈ times, x ≤ time := fun x mem => ordered x mem time List.mem_cons_self
      have here := ih before earlier fun first isPrefix =>
        small first (isPrefix.trans (List.prefix_append times [time]))
      have since := since_asked pos one_le fresh before earlier
      have entry : (allow key capacity refillPerSec
          (askedAt (allow key capacity refillPerSec) store times) time).2.entries key =
            some ⟨⟨leftOver key capacity refillPerSec
                (askedAt (allow key capacity refillPerSec) store times) time, time⟩,
              some (time + bucketTtl capacity refillPerSec)⟩ :=
        entries_allow _ time
      have ideal : idealTokensAt capacity refillPerSec (times ++ [time]) now =
          min (capacity : ℚ) ((if 1 ≤ idealTokensAt capacity refillPerSec times time
            then idealTokensAt capacity refillPerSec times time - 1
            else idealTokensAt capacity refillPerSec times time) +
              refillPerSec * ((now : ℚ) - time)) := by
        rw [idealTokensAt, askedAt_concat, idealRefilled_call]
        rfl
      rw [Apart, ideal, here.left_over (small _ (List.prefix_refl _)),
        lost_concat key capacity refillPerSec store (times ++ [time]) now, tokensAt, askedAt_concat]
      exact refill_apart pos (leftOver_bounds pos one_le since).1 (lost_nonneg ..) entry

/-- Less than a token is lost before each call, so the same calls are admitted. -/
theorem admitted_eq (pos : 0 < refillPerSec) (one_le : 1 ≤ capacity)
    (fresh : store.entries key = none) (sorted : times.Pairwise (· ≤ ·))
    (small : ∀ first, first <+: times → lost key capacity refillPerSec store first < 1) :
    admittedAt (allow key capacity refillPerSec) store times =
      admittedAt (idealCall (capacity : ℚ) refillPerSec) none times := by
  induction times using List.reverseRecOn with
  | nil => rfl
  | append_singleton times time ih =>
      obtain ⟨before, -, ordered⟩ := List.pairwise_append.1 sorted
      have small' : ∀ first, first <+: times →
          lost key capacity refillPerSec store first < 1 :=
        fun first isPrefix => small first (isPrefix.trans (List.prefix_append times [time]))
      have apart := apart_of_small pos one_le fresh before
        (fun x mem => ordered x mem time List.mem_cons_self) small'
      have both : (allow key capacity refillPerSec
          (askedAt (allow key capacity refillPerSec) store times) time).1 =
            (idealCall (capacity : ℚ) refillPerSec
              (askedAt (idealCall (capacity : ℚ) refillPerSec) none times) time).1 := by
        rw [Bool.eq_iff_iff, allow_iff, idealCall_iff]
        exact (apart.one_le_iff (small _ (List.prefix_refl _))).symm
      rw [admittedAt_concat, admittedAt_concat, ih before small', both]

/-- Calls that were refused have taken nothing. -/
theorem tokensAt_admitted_le (pos : 0 < refillPerSec) (one_le : 1 ≤ capacity)
    (fresh : store.entries key = none) (sorted : times.Pairwise (· ≤ ·))
    (past : ∀ time ∈ times, time ≤ now)
    (small : ∀ first, first <+: times → lost key capacity refillPerSec store first < 1)
    (lt : idealTokensAt capacity refillPerSec times now <
      tokensAt key capacity refillPerSec store times now + 1) :
    tokensAt key capacity refillPerSec store
        (admittedAt (allow key capacity refillPerSec) store times) now ≤
      tokensAt key capacity refillPerSec store times now := by
  have fewer := admittedAt_sublist (allow key capacity refillPerSec) store times
  have le := tokensAt_le_ideal pos one_le fresh (sorted.sublist fewer)
    fun time mem => past time (fewer.subset mem)
  have same : idealTokensAt capacity refillPerSec
      (admittedAt (allow key capacity refillPerSec) store times) now =
        idealTokensAt capacity refillPerSec times now := by
    rw [admitted_eq pos one_le fresh sorted small]
    exact idealRefilled_admitted pos.le sorted past
  have within : (tokensAt key capacity refillPerSec store
      (admittedAt (allow key capacity refillPerSec) store times) now : ℚ) <
        tokensAt key capacity refillPerSec store times now + 1 := (le.trans_eq same).trans_lt lt
  exact Int.lt_add_one_iff.1 (by exact_mod_cast within)

/-- A token is lost at the first call where the script is one behind. -/
theorem lost_lt_one (pos : 0 < refillPerSec) (one_le : 1 ≤ capacity)
    (fresh : store.entries key = none) (sorted : times.Pairwise (· ≤ ·))
    (close : ∀ first now, first ++ [now] <+: times →
      idealTokensAt capacity refillPerSec first now <
        tokensAt key capacity refillPerSec store first now + 1) :
    ∀ first, first <+: times → lost key capacity refillPerSec store first < 1 := by
  induction times using List.reverseRecOn with
  | nil =>
      intro first isPrefix
      rw [List.prefix_nil.1 isPrefix]
      exact one_pos
  | append_singleton times time ih =>
      obtain ⟨before, -, ordered⟩ := List.pairwise_append.1 sorted
      have small := ih before fun first now isPrefix =>
        close first now (isPrefix.trans (List.prefix_append times [time]))
      have apart := apart_of_small pos one_le fresh before
        (fun x mem => ordered x mem time List.mem_cons_self) small
      intro first isPrefix
      rcases List.prefix_concat_iff.1 isPrefix with rfl | shorter
      · exact apart.lt_iff.1 (close times time (List.prefix_refl _))
      · exact small first shorter

theorem roundedOnce_of_lost (pos : 0 < refillPerSec) (one_le : 1 ≤ capacity)
    (fresh : store.entries key = none) (sorted : (times ++ [now]).Pairwise (· ≤ ·))
    (small : ∀ first, first <+: times ++ [now] → lost key capacity refillPerSec store first < 1) :
    RoundedOnce key capacity refillPerSec store times now := by
  obtain ⟨before, -, ordered⟩ := List.pairwise_append.1 sorted
  have past : ∀ time ∈ times, time ≤ now := fun time mem => ordered time mem now List.mem_cons_self
  have small' : ∀ first, first <+: times → lost key capacity refillPerSec store first < 1 :=
    fun first isPrefix => small first (isPrefix.trans (List.prefix_append times [now]))
  have last := small (times ++ [now]) (List.prefix_refl _)
  have apart := apart_of_small pos one_le fresh before past small'
  exact {
    allowed := fun admitted => allow_iff.2 ((apart.one_le_iff last).1 (idealCall_iff.1 admitted))
    tokens := apart.lt_iff.2 last
    kept := tokensAt_admitted_le pos one_le fresh before past small' (apart.lt_iff.2 last) }

end Rounding

/-! ## Every run of calls -/

/-- The script keeps up with the ideal bucket at every call exactly when at every call the
fractions that were rounded away since the bucket was full are less than a token. -/
theorem rounded_once_iff {key : String} {capacity : Int} {refillPerSec : ℚ}
    {store : KeyStore String Bucket} {times : List Int} (one_le : 1 ≤ capacity)
    (pos : 0 < refillPerSec) (fresh : store.entries key = none)
    (sorted : times.Pairwise (· ≤ ·)) :
    (∀ first now, first ++ [now] <+: times →
        RoundedOnce key capacity refillPerSec store first now) ↔
      ∀ first, first <+: times → lost key capacity refillPerSec store first < 1 := by
  constructor
  · intro rounded
    exact lost_lt_one pos one_le fresh sorted fun first now isPrefix =>
      (rounded first now isPrefix).tokens
  · intro small first now isPrefix
    exact roundedOnce_of_lost pos one_le fresh (sorted.sublist isPrefix.sublist)
      fun shorter le => small shorter (le.trans isPrefix)

theorem rounded_once_one_early_call :
    admittedAt (allow "rl:otp:phone:1" 1 (1 / 60)) .empty [0, 60, 90, 150] = [0, 60, 150] ∧
      ∀ first now, first ++ [now] <+: [0, 60, 90, 150] →
        RoundedOnce "rl:otp:phone:1" 1 (1 / 60) .empty first now := by
  refine ⟨by decide +kernel, ?_⟩
  refine (rounded_once_iff (by decide) (by norm_num) rfl (by decide)).2 fun first isPrefix => ?_
  have small : ∀ first ∈ List.inits [0, 60, 90, 150],
      lost "rl:otp:phone:1" 1 (1 / 60) .empty first < 1 := by
    decide +kernel
  exact small first ((List.mem_inits _ _).2 isPrefix)

/-- Asked for a second too early each time, the code that `login_phone_start` sends at most once a
minute is sent once, where the ideal bucket allows it every other time. -/
theorem polling_is_starved :
    admittedAt (idealCall (1 : ℚ) (1 / 60)) none [0, 59, 118, 177, 236] = [0, 118, 236] ∧
      admittedAt (allow "rl:otp:phone:1" 1 (1 / 60)) .empty [0, 59, 118, 177, 236] = [0] ∧
      ¬ RoundedOnce "rl:otp:phone:1" 1 (1 / 60) .empty [0, 59, 118, 177] 236 := by
  refine ⟨by decide +kernel, by decide +kernel, fun rounded => ?_⟩
  exact absurd rounded.kept (by decide +kernel)

end ColabPlatform.Common
