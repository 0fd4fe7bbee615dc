import ColabPlatform.Profiles.Review
import ColabPlatform.Foundation.Maxima
import Mathlib.Tactic.Linarith
import Mathlib.Tactic.NormNum
import Mathlib.Tactic.FieldSimp
import Mathlib.Tactic.Ring
import Mathlib.Tactic.Positivity

/-!
# Profile service: the health score

The score weighs completeness, activity and feedback.  Feedback is a smoothed ratio of
thumbs, scaled by their number up to ten, so the sign of a vote's effect depends on how
many there are.
-/

namespace ColabPlatform.Profiles

open Foundation
open Review (AiReviewStatus)

/-- `_clamp` -/
def clamp (value lo hi : ℚ) : ℚ := clampTo lo hi value

/-- A profile, as far as its score reads it. -/
structure ScoredProfile where
  displayName : Option String
  hasLocationPoint : Bool
  locationCity : Option String
  /-- `is_primary` of each vocation -/
  vocations : List Bool
  bio : Option String
  obsessedWith : Option String
  /-- `ai_review_status` of each portfolio item -/
  portfolioItems : List AiReviewStatus
  externalLinks : List String
  /-- the keys of the answered questions -/
  personalityAnswers : List String
  experienceLevel : Option Int
  lookingFor : Option String
  pastExperience : Option String
  /-- in microseconds -/
  lastActiveAt : Option Int
  deriving DecidableEq, Repr

/-- Whether a text is neither null nor empty. -/
def filled (text : Option String) : Bool := text.any (· ≠ "")

def credit (earned : Bool) (weight : ℚ) : ℚ := if earned then weight else 0

def computeCompleteness (profile : ScoredProfile) (identityApproved : Bool) : ℚ :=
  let passedItems := profile.portfolioItems.filter (· = .passed)
  clamp
    (credit (filled profile.displayName) (5 / 100) +
      credit (profile.hasLocationPoint && filled profile.locationCity) (10 / 100) +
      credit (profile.vocations.any id) (10 / 100) +
      credit (profile.bio.any fun bio => 60 ≤ bio.length) (8 / 100) +
      credit (filled profile.obsessedWith) (5 / 100) +
      clamp (passedItems.length / 6) 0 1 * (30 / 100) +
      credit (profile.externalLinks ≠ []) (10 / 100) +
      credit (profile.personalityAnswers ≠ []) (5 / 100) +
      credit profile.experienceLevel.isSome (4 / 100) +
      credit (filled profile.lookingFor) (6 / 100) +
      credit (filled profile.pastExperience) (4 / 100) +
      credit identityApproved (3 / 100)) 0 1

/-- `exp` is `math.exp`. -/
def computeActivity (exp : ℚ → ℚ) (now : Int) (profile : ScoredProfile)
    (loginDaysLast28 portfolioUpdatesLast90d : Nat) : ℚ :=
  let recency := (profile.lastActiveAt.map fun lastActiveAt =>
    exp (-(((now - lastActiveAt : Int) : ℚ) / 1000000 / 86400) / 14)).getD 0
  let weeklyLogins := clamp (loginDaysLast28 / 14) 0 1
  let portfolioFreshness := clamp (portfolioUpdatesLast90d / 3) 0 1
  clamp (4 / 10 * recency + 3 / 10 * weeklyLogins + 3 / 10 * portfolioFreshness) 0 1

def laplaceRatio (thumbsUp thumbsDown : Nat) : ℚ :=
  (thumbsUp + 1) / ((thumbsUp + thumbsDown : Nat) + 2)

def volumeFactor (n : Nat) : ℚ := clamp (n / 10) 0 1

def tagBoost (distinctPositiveTags : Nat) : ℚ :=
  clamp (distinctPositiveTags * (2 / 100)) 0 (1 / 10)

def computeFeedback (thumbsUp thumbsDown distinctPositiveTags : Nat) : ℚ :=
  let n := thumbsUp + thumbsDown
  if n = 0 then 1 / 2
  else
    clamp (laplaceRatio thumbsUp thumbsDown * volumeFactor n + tagBoost distinctPositiveTags) 0 1

structure HealthWeights where
  completeness : ℚ := 40 / 100
  activity : ℚ := 30 / 100
  feedback : ℚ := 30 / 100

/-- What the score is computed from, apart from the feedback. -/
structure HealthInputs where
  profile : ScoredProfile
  identityApproved : Bool := false
  loginDaysLast28 : Nat := 0
  portfolioUpdatesLast90d : Nat := 0

def computeHealthScore (exp : ℚ → ℚ) (now : Int) (inputs : HealthInputs)
    (thumbsUp thumbsDown distinctPositiveTags : Nat) (weights : HealthWeights) : ℚ :=
  let completeness := computeCompleteness inputs.profile inputs.identityApproved
  let activity := computeActivity exp now inputs.profile inputs.loginDaysLast28
    inputs.portfolioUpdatesLast90d
  let feedback := computeFeedback thumbsUp thumbsDown distinctPositiveTags
  clamp (100 * (weights.completeness * completeness + weights.activity * activity +
    weights.feedback * feedback)) 0 100

/-! ## The parts of the feedback -/

theorem volumeFactor_of_le_ten {n : Nat} (few : n ≤ 10) : volumeFactor n = n / 10 := by
  have many : (n : ℚ) ≤ 10 := by exact_mod_cast few
  have none : (0 : ℚ) ≤ n := Nat.cast_nonneg n
  exact clampTo_of_mem (by linarith) (by linarith)

theorem volumeFactor_of_ten_le {n : Nat} (many : 10 ≤ n) : volumeFactor n = 1 := by
  have more : (10 : ℚ) ≤ n := by exact_mod_cast many
  unfold volumeFactor clamp clampTo
  rw [min_eq_left (by linarith), max_eq_right zero_le_one]

theorem volumeFactor_mono {m n : Nat} (le : m ≤ n) : volumeFactor m ≤ volumeFactor n := by
  have cast : (m : ℚ) ≤ n := by exact_mod_cast le
  exact clampTo_mono (by linarith)

theorem volumeFactor_nonneg (n : Nat) : 0 ≤ volumeFactor n := le_clampTo

theorem tagBoost_mono {t t' : Nat} (le : t ≤ t') : tagBoost t ≤ tagBoost t' := by
  have cast : (t : ℚ) ≤ t' := by exact_mod_cast le
  exact clampTo_mono (by linarith)

theorem tagBoost_nonneg (t : Nat) : 0 ≤ tagBoost t := le_clampTo

theorem tagBoost_le (t : Nat) : tagBoost t ≤ 1 / 10 := clampTo_le (by norm_num)

theorem laplaceRatio_nonneg (u d : Nat) : 0 ≤ laplaceRatio u d := by
  unfold laplaceRatio
  positivity

theorem laplaceRatio_lt_one (u d : Nat) : laplaceRatio u d < 1 := by
  unfold laplaceRatio
  rw [div_lt_one (by positivity)]
  push_cast
  linarith [Nat.cast_nonneg (α := ℚ) d]

theorem laplaceRatio_up (u d : Nat) : laplaceRatio u d ≤ laplaceRatio (u + 1) d := by
  unfold laplaceRatio
  rw [div_le_div_iff₀ (by positivity) (by positivity)]
  push_cast
  nlinarith [Nat.cast_nonneg (α := ℚ) u, Nat.cast_nonneg (α := ℚ) d]

theorem laplaceRatio_down (u d : Nat) : laplaceRatio u (d + 1) ≤ laplaceRatio u d := by
  unfold laplaceRatio
  gcongr
  omega

/-! ## The direction of a vote -/

section Direction

variable (u d t : Nat)

theorem computeFeedback_of_votes (votes : 0 < u + d) :
    computeFeedback u d t = clamp (laplaceRatio u d * volumeFactor (u + d) + tagBoost t) 0 1 := by
  unfold computeFeedback
  rw [if_neg (Nat.pos_iff_ne_zero.1 votes)]

theorem computeFeedback_mem : 0 ≤ computeFeedback u d t ∧ computeFeedback u d t ≤ 1 := by
  by_cases votes : 0 < u + d
  · rw [computeFeedback_of_votes u d t votes]
    exact ⟨le_clampTo, clampTo_le zero_le_one⟩
  · rw [computeFeedback, if_pos (by omega)]
    norm_num

/-- The boost is at most a tenth, so the cap is out of reach below nine tenths. -/
theorem computeFeedback_of_small (votes : 0 < u + d)
    (small : laplaceRatio u d * volumeFactor (u + d) ≤ 9 / 10) :
    computeFeedback u d t = laplaceRatio u d * volumeFactor (u + d) + tagBoost t := by
  rw [computeFeedback_of_votes u d t votes]
  have nonneg := mul_nonneg (laplaceRatio_nonneg u d) (volumeFactor_nonneg (u + d))
  exact clampTo_of_mem (by linarith [tagBoost_nonneg t]) (by linarith [tagBoost_le t])

theorem computeFeedback_first_up : computeFeedback 1 0 t < computeFeedback 0 0 t := by
  have value : laplaceRatio 1 0 * volumeFactor (1 + 0) = 1 / 15 := by
    norm_num [laplaceRatio, volumeFactor, clamp, clampTo]
  rw [computeFeedback_of_small 1 0 t (by decide) (by rw [value]; norm_num), value,
    computeFeedback, if_pos rfl]
  linarith [tagBoost_le t]

theorem computeFeedback_first_down : computeFeedback 0 1 t ≤ computeFeedback 0 0 t := by
  have value : laplaceRatio 0 1 * volumeFactor (0 + 1) = 1 / 30 := by
    norm_num [laplaceRatio, volumeFactor, clamp, clampTo]
  rw [computeFeedback_of_small 0 1 t (by decide) (by rw [value]; norm_num), value,
    computeFeedback, if_pos rfl]
  linarith [tagBoost_le t]

/-- A vote up raises the ratio and the volume, and lowers only the neutral prior. -/
theorem computeFeedback_up_iff :
    computeFeedback u d t ≤ computeFeedback (u + 1) d t ↔ 0 < u + d := by
  constructor
  · intro le
    by_contra none
    obtain ⟨rfl, rfl⟩ : u = 0 ∧ d = 0 := by omega
    exact absurd le (not_le.2 (computeFeedback_first_up t))
  · intro votes
    rw [computeFeedback_of_votes u d t votes, computeFeedback_of_votes (u + 1) d t (by omega)]
    have product : laplaceRatio u d * volumeFactor (u + d) ≤
        laplaceRatio (u + 1) d * volumeFactor (u + 1 + d) :=
      mul_le_mul (laplaceRatio_up u d) (volumeFactor_mono (by omega)) (volumeFactor_nonneg _)
        (laplaceRatio_nonneg _ _)
    exact clampTo_mono (by linarith)

/-- Up to ten votes, the volume that a vote down adds outweighs what it takes off the ratio. -/
theorem computeFeedback_down_lt (votes : 0 < u + d) (few : u + d < 10) :
    computeFeedback u d t < computeFeedback u (d + 1) t := by
  have here := volumeFactor_of_le_ten (n := u + d) (by omega)
  have next := volumeFactor_of_le_ten (n := u + (d + 1)) (by omega)
  have few' : (u : ℚ) + d ≤ 9 := by exact_mod_cast Nat.le_of_lt_succ few
  have up := Nat.cast_nonneg (α := ℚ) u
  have down := Nat.cast_nonneg (α := ℚ) d
  have small : laplaceRatio u d * volumeFactor (u + d) ≤ 9 / 10 := by
    have ratio := laplaceRatio_lt_one u d
    have volume : volumeFactor (u + d) ≤ 9 / 10 := by
      rw [here]
      push_cast
      linarith
    nlinarith [laplaceRatio_nonneg u d, volumeFactor_nonneg (u + d)]
  have small' : laplaceRatio u (d + 1) * volumeFactor (u + (d + 1)) ≤ 9 / 10 := by
    rw [next, laplaceRatio, div_mul_div_comm, div_le_div_iff₀ (by positivity) (by positivity)]
    push_cast
    nlinarith
  rw [computeFeedback_of_small u d t votes small,
    computeFeedback_of_small u (d + 1) t (by omega) small', here, next]
  refine add_lt_add_left ?_ _
  rw [laplaceRatio, laplaceRatio, div_mul_div_comm, div_mul_div_comm,
    div_lt_div_iff₀ (by positivity) (by positivity)]
  push_cast
  nlinarith

theorem computeFeedback_down_iff :
    computeFeedback u (d + 1) t ≤ computeFeedback u d t ↔ u + d = 0 ∨ 10 ≤ u + d := by
  constructor
  · intro le
    by_contra between
    have bounds : 0 < u + d ∧ u + d < 10 := by omega
    exact absurd le (not_le.2 (computeFeedback_down_lt u d t bounds.1 bounds.2))
  · rintro (none | many)
    · obtain ⟨rfl, rfl⟩ : u = 0 ∧ d = 0 := by omega
      exact computeFeedback_first_down t
    · rw [computeFeedback_of_votes u d t (by omega),
        computeFeedback_of_votes u (d + 1) t (by omega), volumeFactor_of_ten_le many,
        volumeFactor_of_ten_le (by omega)]
      exact clampTo_mono (by linarith [laplaceRatio_down u d])

theorem computeFeedback_tags {t t' : Nat} (more : t ≤ t') :
    computeFeedback u d t ≤ computeFeedback u d t' := by
  by_cases votes : 0 < u + d
  · rw [computeFeedback_of_votes u d t votes, computeFeedback_of_votes u d t' votes]
    exact clampTo_mono (by linarith [tagBoost_mono more])
  · rw [computeFeedback, computeFeedback, if_pos (by omega), if_pos (by omega)]

end Direction

/-! ## The score -/

theorem computeCompleteness_mem (profile : ScoredProfile) (identityApproved : Bool) :
    0 ≤ computeCompleteness profile identityApproved ∧
      computeCompleteness profile identityApproved ≤ 1 :=
  ⟨le_clampTo, clampTo_le zero_le_one⟩

theorem computeActivity_mem (exp : ℚ → ℚ) (now : Int) (profile : ScoredProfile)
    (loginDays updates : Nat) :
    0 ≤ computeActivity exp now profile loginDays updates ∧
      computeActivity exp now profile loginDays updates ≤ 1 :=
  ⟨le_clampTo, clampTo_le zero_le_one⟩

section Score

variable (exp : ℚ → ℚ) (now : Int) (inputs : HealthInputs)

/-- With the default weights the score is never cut off, so it follows the feedback. -/
theorem computeHealthScore_le_iff {u d t u' d' t' : Nat} :
    computeHealthScore exp now inputs u d t {} ≤ computeHealthScore exp now inputs u' d' t' {} ↔
      computeFeedback u d t ≤ computeFeedback u' d' t' := by
  have completeness := computeCompleteness_mem inputs.profile inputs.identityApproved
  have activity := computeActivity_mem exp now inputs.profile inputs.loginDaysLast28
    inputs.portfolioUpdatesLast90d
  have feedback := computeFeedback_mem u d t
  have feedback' := computeFeedback_mem u' d' t'
  simp only [computeHealthScore, clamp]
  rw [clampTo_of_mem (by linarith) (by linarith), clampTo_of_mem (by linarith) (by linarith)]
  constructor
  · intro le
    linarith
  · intro le
    linarith

/-- The feedback stays in its range and grows with the tags.  A vote up lowers it exactly when it
is the first vote, and a vote down raises it exactly while there are one to nine votes.  The
score has the same directions. -/
theorem feedback_directions (u d t : Nat) :
    (0 ≤ computeFeedback u d t ∧ computeFeedback u d t ≤ 1) ∧
    (computeFeedback u d t ≤ computeFeedback (u + 1) d t ↔ 0 < u + d) ∧
    (computeFeedback u (d + 1) t ≤ computeFeedback u d t ↔ u + d = 0 ∨ 10 ≤ u + d) ∧
    (∀ t', t ≤ t' → computeFeedback u d t ≤ computeFeedback u d t') ∧
    (computeHealthScore exp now inputs u d t {} ≤ computeHealthScore exp now inputs (u + 1) d t {} ↔
      0 < u + d) ∧
    (computeHealthScore exp now inputs u (d + 1) t {} ≤ computeHealthScore exp now inputs u d t {} ↔
      u + d = 0 ∨ 10 ≤ u + d) ∧
    (∀ t', t ≤ t' →
      computeHealthScore exp now inputs u d t {} ≤ computeHealthScore exp now inputs u d t' {}) := by
  simp only [computeHealthScore_le_iff]
  have tags : ∀ t', t ≤ t' → computeFeedback u d t ≤ computeFeedback u d t' :=
    fun t' => computeFeedback_tags u d
  exact ⟨computeFeedback_mem u d t, computeFeedback_up_iff u d t, computeFeedback_down_iff u d t,
    tags, computeFeedback_up_iff u d t, computeFeedback_down_iff u d t, tags⟩

end Score

/-- The first thumb up lowers the feedback, and a thumb down then raises it. -/
theorem votes_work_backwards :
    ¬ computeFeedback 0 0 0 ≤ computeFeedback (0 + 1) 0 0 ∧
      ¬ computeFeedback 1 (0 + 1) 0 ≤ computeFeedback 1 0 0 := by
  decide +kernel

end ColabPlatform.Profiles
