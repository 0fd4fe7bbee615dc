import Mathlib.Algebra.Order.Field.Basic
import Mathlib.Algebra.Order.Ring.Int
import Mathlib.Data.Int.Cast.Lemmas
import Mathlib.Data.List.Basic
import Mathlib.Data.List.Induction
import Mathlib.Tactic.Linarith
import Mathlib.Tactic.Ring

/-!
# Admissions paid from a bucket

A machine is asked at integer times and admits or refuses.  It is metered when a
level can be read off its state which is never negative nor above the capacity,
grows no faster than the rate, and falls by one with every admission.  Then no
interval of time sees more admissions than the capacity and what the rate adds
during the interval.  The ideal bucket, which keeps fractions of a token, is what
an implementation is compared with.
-/

namespace ColabPlatform.Foundation

variable {σ K : Type*} [Field K] [LinearOrder K] [IsStrictOrderedRing K]

/-- The times of the requests that are admitted. -/
def admittedAt (call : σ → Int → Bool × σ) : σ → List Int → List Int
  | _, [] => []
  | s, now :: times =>
      if (call s now).1 then now :: admittedAt call (call s now).2 times
      else admittedAt call (call s now).2 times

/-- The state after the requests at the given times. -/
def askedAt (call : σ → Int → Bool × σ) (s : σ) (times : List Int) : σ :=
  times.foldl (fun s now => (call s now).2) s

theorem askedAt_concat (call : σ → Int → Bool × σ) (s : σ) (times : List Int) (now : Int) :
    askedAt call s (times ++ [now]) = (call (askedAt call s times) now).2 := by
  rw [askedAt, List.foldl_append]
  rfl

theorem admittedAt_concat (call : σ → Int → Bool × σ) (s : σ) (times : List Int) (now : Int) :
    admittedAt call s (times ++ [now]) =
      admittedAt call s times ++ if (call (askedAt call s times) now).1 then [now] else [] := by
  induction times generalizing s with
  | nil => rfl
  | cons time times ih =>
      rw [List.cons_append, admittedAt, admittedAt, ih]
      split <;> rfl

theorem admittedAt_sublist (call : σ → Int → Bool × σ) (s : σ) (times : List Int) :
    (admittedAt call s times).Sublist times := by
  induction times generalizing s with
  | nil => exact .slnil
  | cons now times ih =>
      unfold admittedAt
      split
      · exact (ih _).cons_cons now
      · exact (ih _).cons now

/-- Nothing is admitted up to `t` once the first request comes after it. -/
theorem filter_admittedAt_eq_nil {call : σ → Int → Bool × σ} {s : σ} {now t : Int}
    {times : List Int} (sorted : (now :: times).Pairwise (· ≤ ·)) (past : t < now) :
    (admittedAt call s (now :: times)).filter (· ≤ t) = [] := by
  apply List.filter_eq_nil_iff.2
  intro time mem
  have after : t < time := by
    rcases List.mem_cons.1 ((admittedAt_sublist call s _).subset mem) with rfl | mem
    · exact past
    · exact past.trans_le ((List.pairwise_cons.1 sorted).1 time mem)
  simpa using after

/-- `since s now`: no request was made after `now` on the way to `s`. -/
structure Metered (call : σ → Int → Bool × σ) (rate cap : K) (level : σ → Int → K)
    (since : σ → Int → Prop) : Prop where
  since_mono : ∀ s now later, since s now → now ≤ later → since s later
  since_call : ∀ s now, since s now → since (call s now).2 now
  nonneg : ∀ s now, since s now → 0 ≤ level s now
  le_cap : ∀ s now, since s now → level s now ≤ cap
  grows : ∀ s now later, since s now → now ≤ later →
    level s later ≤ level s now + rate * ((later : K) - now)
  pays : ∀ s now, since s now →
    level (call s now).2 now + (if (call s now).1 then 1 else 0) ≤ level s now

namespace Metered

variable {call : σ → Int → Bool × σ} {rate cap : K} {level : σ → Int → K}
  {since : σ → Int → Prop}

/-- What is admitted up to `t` is paid from the level now and from what is added until `t`. -/
theorem length_admittedAt_le (h : Metered call rate cap level since) (nonneg : 0 ≤ rate)
    {s : σ} {now t : Int} (start : since s now) (now_le : now ≤ t) {times : List Int}
    (sorted : (now :: times).Pairwise (· ≤ ·)) :
    (((admittedAt call s times).filter (· ≤ t)).length : K) ≤
      level s now + rate * ((t : K) - now) := by
  have enough : 0 ≤ level s now + rate * ((t : K) - now) :=
    add_nonneg (h.nonneg s now start) (mul_nonneg nonneg (sub_nonneg.2 (Int.cast_le.2 now_le)))
  induction times generalizing s now with
  | nil => simpa [admittedAt] using enough
  | cons time times ih =>
      have later : now ≤ time := (List.pairwise_cons.1 sorted).1 time List.mem_cons_self
      have rest : (time :: times).Pairwise (· ≤ ·) := (List.pairwise_cons.1 sorted).2
      by_cases past : t < time
      · rw [filter_admittedAt_eq_nil rest past]
        simpa using enough
      · have within : time ≤ t := not_lt.1 past
        have here : since s time := h.since_mono s now time start later
        have next : since (call s time).2 time := h.since_call s time here
        have still : 0 ≤ level (call s time).2 time + rate * ((t : K) - time) :=
          add_nonneg (h.nonneg _ _ next)
            (mul_nonneg nonneg (sub_nonneg.2 (Int.cast_le.2 within)))
        have paid := h.pays s time here
        have grown := h.grows s now time start later
        have others := ih next within rest still
        have added : rate * ((t : K) - now) =
            rate * ((time : K) - now) + rate * ((t : K) - time) := by ring
        unfold admittedAt
        cases admitted : (call s time).1 with
        | true =>
            rw [admitted, if_pos rfl] at paid
            rw [if_pos rfl, List.filter_cons_of_pos (by simpa using within), List.length_cons,
              Nat.cast_add, Nat.cast_one]
            linarith
        | false =>
            rw [admitted, if_neg Bool.false_ne_true] at paid
            rw [if_neg Bool.false_ne_true]
            linarith

/-- No interval sees more admissions than the capacity and what is added during it. -/
theorem admitted_in_le (h : Metered call rate cap level since) (nonneg : 0 ≤ rate)
    (cap_nonneg : 0 ≤ cap) {s : σ} {times : List Int} (start : ∀ time ∈ times, since s time)
    (sorted : times.Pairwise (· ≤ ·)) {begin t : Int} (le : begin ≤ t) :
    (((admittedAt call s times).filter fun time => begin ≤ time ∧ time ≤ t).length : K) ≤
      cap + rate * ((t : K) - begin) := by
  have enough : 0 ≤ cap + rate * ((t : K) - begin) :=
    add_nonneg cap_nonneg (mul_nonneg nonneg (sub_nonneg.2 (Int.cast_le.2 le)))
  induction times generalizing s with
  | nil => simpa [admittedAt] using enough
  | cons time times ih =>
      have here : since s time := start time List.mem_cons_self
      have later : ∀ x ∈ times, time ≤ x := (List.pairwise_cons.1 sorted).1
      by_cases early : time < begin
      · have next : ∀ x ∈ times, since (call s time).2 x := fun x mem =>
          h.since_mono _ time x (h.since_call s time here) (later x mem)
        have others := ih next (List.pairwise_cons.1 sorted).2
        have skipped : ¬ (begin ≤ time ∧ time ≤ t) := fun inside => absurd inside.1 early.not_ge
        unfold admittedAt
        split
        · rwa [List.filter_cons_of_neg (by simpa using skipped)]
        · exact others
      · have fewer : ((admittedAt call s (time :: times)).filter
            fun time => begin ≤ time ∧ time ≤ t).length ≤
            ((admittedAt call s (time :: times)).filter (· ≤ t)).length := by
          apply List.Sublist.length_le
          apply List.monotone_filter_right
          intro x inside
          simpa using (of_decide_eq_true inside).2
        by_cases past : t < time
        · rw [filter_admittedAt_eq_nil sorted past, List.length_nil, Nat.le_zero] at fewer
          rw [fewer]
          simpa using enough
        · have within : time ≤ t := not_lt.1 past
          have all : (time :: time :: times).Pairwise (· ≤ ·) :=
            List.pairwise_cons.2 ⟨fun x mem => by
              rcases List.mem_cons.1 mem with rfl | mem
              · exact le_rfl
              · exact later x mem, sorted⟩
          have paid := h.length_admittedAt_le nonneg here within all
          have full := h.le_cap s time here
          have shorter : rate * ((t : K) - time) ≤ rate * ((t : K) - begin) := by
            apply mul_le_mul_of_nonneg_left _ nonneg
            have : (begin : K) ≤ time := Int.cast_le.2 (not_lt.1 early)
            linarith
          calc (((admittedAt call s (time :: times)).filter
              fun time => begin ≤ time ∧ time ≤ t).length : K)
              ≤ ((admittedAt call s (time :: times)).filter (· ≤ t)).length := Nat.cast_le.2 fewer
            _ ≤ level s time + rate * ((t : K) - time) := paid
            _ ≤ cap + rate * ((t : K) - begin) := add_le_add full shorter

end Metered

/-! ## The ideal bucket -/

structure IdealBucket (K : Type*) where
  tokens : K
  lastRefill : Int
  deriving DecidableEq, Repr

/-- The tokens at `now`; a bucket that was never used is full. -/
def idealRefilled (cap rate : K) (now : Int) : Option (IdealBucket K) → K
  | none => cap
  | some bucket => min cap (bucket.tokens + rate * ((now : K) - bucket.lastRefill))

/-- Fractions of a token are kept, and a call takes one token if there is one. -/
def idealCall (cap rate : K) (bucket : Option (IdealBucket K)) (now : Int) :
    Bool × Option (IdealBucket K) :=
  let tokens := idealRefilled cap rate now bucket
  (decide (1 ≤ tokens), some ⟨if 1 ≤ tokens then tokens - 1 else tokens, now⟩)

section Ideal

variable {cap rate : K} {bucket : Option (IdealBucket K)} {now later : Int}

theorem added_nonneg (nonneg : 0 ≤ rate) (le : now ≤ later) :
    0 ≤ rate * ((later : K) - now) :=
  mul_nonneg nonneg (sub_nonneg.2 (Int.cast_le.2 le))

omit [IsStrictOrderedRing K] in
theorem idealRefilled_call (cap rate : K) (bucket : Option (IdealBucket K)) (now later : Int) :
    idealRefilled cap rate later (idealCall cap rate bucket now).2 =
      min cap ((if 1 ≤ idealRefilled cap rate now bucket
        then idealRefilled cap rate now bucket - 1 else idealRefilled cap rate now bucket) +
          rate * ((later : K) - now)) := rfl

/-- A call that is refused changes nothing. -/
theorem idealRefilled_of_refused (nonneg : 0 ≤ rate) (le : now ≤ later)
    (refused : (idealCall cap rate bucket now).1 = false) :
    idealRefilled cap rate later (idealCall cap rate bucket now).2 =
      idealRefilled cap rate later bucket := by
  have short : ¬ 1 ≤ idealRefilled cap rate now bucket := of_decide_eq_false refused
  have added := added_nonneg nonneg le
  rw [idealRefilled_call, if_neg short]
  cases bucket with
  | none => exact min_eq_left (le_add_of_nonneg_right added)
  | some bucket =>
      unfold idealRefilled
      rw [← min_add_add_right, ← min_assoc, min_eq_left (le_add_of_nonneg_right added)]
      congr 1
      ring

/-- The calls that are refused may be left out. -/
theorem idealRefilled_admitted (nonneg : 0 ≤ rate) {times : List Int}
    (sorted : times.Pairwise (· ≤ ·)) (past : ∀ time ∈ times, time ≤ now) :
    idealRefilled cap rate now
        (askedAt (idealCall cap rate) none (admittedAt (idealCall cap rate) none times)) =
      idealRefilled cap rate now (askedAt (idealCall cap rate) none times) := by
  induction times using List.reverseRecOn generalizing now with
  | nil => rfl
  | append_singleton times time ih =>
      obtain ⟨before, -, ordered⟩ := List.pairwise_append.1 sorted
      have here := ih before fun x mem => ordered x mem time List.mem_cons_self
      have le : time ≤ now := past time (by simp)
      rw [admittedAt_concat, askedAt_concat]
      cases allowed : (idealCall cap rate (askedAt (idealCall cap rate) none times) time).1 with
      | true =>
          have same : ∀ other, idealRefilled cap rate time other =
              idealRefilled cap rate time (askedAt (idealCall cap rate) none times) →
                idealCall cap rate other time =
                  idealCall cap rate (askedAt (idealCall cap rate) none times) time := by
            intro other equal
            simp only [idealCall, equal]
          rw [if_pos rfl, askedAt_concat, same _ here]
      | false =>
          rw [if_neg Bool.false_ne_true, List.append_nil, idealRefilled_of_refused nonneg le allowed]
          exact ih before fun x mem => past x (List.mem_append_left _ mem)

end Ideal

end ColabPlatform.Foundation
