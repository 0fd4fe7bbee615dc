import ColabPlatform.Foundation.Maxima
import Mathlib.Algebra.Order.Field.Rat
import Mathlib.Tactic.Linarith
import Mathlib.Tactic.NormNum

/-!
# Matching service: the match score

The score is a weighted mean of five signals.  A candidate without an embedding is scored
by other weights, and an embedding similarity of zero counts as no embedding, so the score
jumps there.
-/

namespace ColabPlatform.Matching

open Foundation

structure RankingWeights where
  weightEmbSim : ℚ := 40 / 100
  weightCompVoc : ℚ := 25 / 100
  weightActivity : ℚ := 15 / 100
  weightHealth : ℚ := 10 / 100
  weightRand : ℚ := 10 / 100
  activityLambda : ℚ := 5 / 100
  deriving DecidableEq, Repr

/-- What the score is computed with: the exponential, the clock in microseconds, and the Gaussian
noise of a viewer and a candidate on a day. -/
structure Ranker where
  exp : ℚ → ℚ
  now : Int
  gauss : String → String → Int → ℚ

/-- `max(0.0, min(1.0, value))` -/
def unit (value : ℚ) : ℚ := clampTo 0 1 value

def Ranker.activityScore (ranker : Ranker) (lastActiveAt : Option Int) (lambda : ℚ) : ℚ :=
  match lastActiveAt with
  | none => 0
  | some lastActiveAt =>
      let days : ℚ := max 0 (((ranker.now - lastActiveAt : Int) : ℚ) / 1000000 / 86400)
      unit (ranker.exp (-lambda * days))

def Ranker.randComponent (ranker : Ranker) (viewerId candidateId : String) (day : Int) : ℚ :=
  unit (ranker.gauss viewerId candidateId day)

/-- A viewer, a candidate, when the candidate was last active, and the day. -/
structure Pairing where
  viewerId : String
  candidateId : String
  lastActiveAt : Option Int
  day : Int
  deriving DecidableEq, Repr

structure MatchScore where
  total : ℚ
  embSim : ℚ
  compVoc : ℚ
  activity : ℚ
  rand : ℚ
  deriving DecidableEq, Repr

def Ranker.computeScore (ranker : Ranker) (pairing : Pairing) (embSim compVoc health : ℚ)
    (weights : Option RankingWeights) : MatchScore :=
  let weights := weights.getD {}
  let act := ranker.activityScore pairing.lastActiveAt weights.activityLambda
  let rnd := ranker.randComponent pairing.viewerId pairing.candidateId pairing.day
  let embSim := unit embSim
  let compVoc := unit compVoc
  let health := unit health
  let total :=
    if embSim = 0 then
      45 / 100 * compVoc + 25 / 100 * act + 20 / 100 * health + 10 / 100 * rnd
    else
      weights.weightEmbSim * embSim + weights.weightCompVoc * compVoc +
        weights.weightActivity * act + weights.weightHealth * health + weights.weightRand * rnd
  ⟨unit total, embSim, compVoc, act, rnd⟩

/-! ## The signals -/

theorem unit_mem (value : ℚ) : 0 ≤ unit value ∧ unit value ≤ 1 :=
  ⟨le_clampTo, clampTo_le zero_le_one⟩

theorem unit_mono {a b : ℚ} (le : a ≤ b) : unit a ≤ unit b := clampTo_mono le

theorem unit_eq_zero_iff {value : ℚ} : unit value = 0 ↔ value ≤ 0 := by
  unfold unit clampTo
  constructor
  · intro zero
    have small : min 1 value ≤ 0 := zero ▸ le_max_right _ _
    exact (min_le_iff.1 small).resolve_left (by norm_num)
  · intro low
    rw [min_eq_right (by linarith), max_eq_left low]

theorem activityScore_mem (ranker : Ranker) (lastActiveAt : Option Int) (lambda : ℚ) :
    0 ≤ ranker.activityScore lastActiveAt lambda ∧
      ranker.activityScore lastActiveAt lambda ≤ 1 := by
  unfold Ranker.activityScore
  cases lastActiveAt with
  | none => exact ⟨le_rfl, zero_le_one⟩
  | some lastActiveAt => exact unit_mem _

/-! ## The two formulas -/

/-- The mean for a candidate without an embedding. -/
def coldStart (compVoc health act rnd : ℚ) : ℚ :=
  45 / 100 * compVoc + 25 / 100 * act + 20 / 100 * health + 10 / 100 * rnd

/-- The mean with the default weights. -/
def regular (embSim compVoc health act rnd : ℚ) : ℚ :=
  40 / 100 * embSim + 25 / 100 * compVoc + 15 / 100 * act + 10 / 100 * health + 10 / 100 * rnd

section Score

variable (ranker : Ranker) (pairing : Pairing)

/-- The activity and the noise of a pairing. -/
def Ranker.act : ℚ := ranker.activityScore pairing.lastActiveAt ({} : RankingWeights).activityLambda

def Ranker.rnd : ℚ := ranker.randComponent pairing.viewerId pairing.candidateId pairing.day

variable {embSim embSim' compVoc compVoc' health health' : ℚ}

theorem total_of_nonpos (cold : embSim ≤ 0) :
    (ranker.computeScore pairing embSim compVoc health none).total =
      coldStart (unit compVoc) (unit health) (ranker.act pairing) (ranker.rnd pairing) := by
  have act := activityScore_mem ranker pairing.lastActiveAt ({} : RankingWeights).activityLambda
  have rnd := unit_mem (ranker.gauss pairing.viewerId pairing.candidateId pairing.day)
  have voc := unit_mem compVoc
  have well := unit_mem health
  simp only [Ranker.computeScore, Option.getD_none, if_pos (unit_eq_zero_iff.2 cold)]
  exact clampTo_of_mem (by unfold Ranker.randComponent; linarith)
    (by unfold Ranker.randComponent; linarith)

theorem total_of_pos (warm : 0 < embSim) :
    (ranker.computeScore pairing embSim compVoc health none).total =
      regular (unit embSim) (unit compVoc) (unit health) (ranker.act pairing)
        (ranker.rnd pairing) := by
  have act := activityScore_mem ranker pairing.lastActiveAt ({} : RankingWeights).activityLambda
  have rnd := unit_mem (ranker.gauss pairing.viewerId pairing.candidateId pairing.day)
  have emb := unit_mem embSim
  have voc := unit_mem compVoc
  have well := unit_mem health
  have some : unit embSim ≠ 0 := fun zero => absurd (unit_eq_zero_iff.1 zero) (not_le.2 warm)
  simp only [Ranker.computeScore, Option.getD_none, if_neg some]
  exact clampTo_of_mem (by unfold Ranker.randComponent; linarith)
    (by unfold Ranker.randComponent; linarith)

theorem total_mem :
    0 ≤ (ranker.computeScore pairing embSim compVoc health none).total ∧
      (ranker.computeScore pairing embSim compVoc health none).total ≤ 1 :=
  unit_mem _

theorem total_compVoc_mono (le : compVoc ≤ compVoc') :
    (ranker.computeScore pairing embSim compVoc health none).total ≤
      (ranker.computeScore pairing embSim compVoc' health none).total := by
  have more := unit_mono le
  rcases le_or_gt embSim 0 with cold | warm
  · rw [total_of_nonpos ranker pairing cold, total_of_nonpos ranker pairing cold]
    unfold coldStart
    linarith
  · rw [total_of_pos ranker pairing warm, total_of_pos ranker pairing warm]
    unfold regular
    linarith

theorem total_health_mono (le : health ≤ health') :
    (ranker.computeScore pairing embSim compVoc health none).total ≤
      (ranker.computeScore pairing embSim compVoc health' none).total := by
  have more := unit_mono le
  rcases le_or_gt embSim 0 with cold | warm
  · rw [total_of_nonpos ranker pairing cold, total_of_nonpos ranker pairing cold]
    unfold coldStart
    linarith
  · rw [total_of_pos ranker pairing warm, total_of_pos ranker pairing warm]
    unfold regular
    linarith

/-- What the candidate loses with the weights of the cold start. -/
def Ranker.redistributed (compVoc health : ℚ) : ℚ :=
  20 / 100 * unit compVoc + 10 / 100 * ranker.act pairing + 10 / 100 * unit health

theorem total_switch_iff (cold : embSim ≤ 0) (warm : 0 < embSim') :
    (ranker.computeScore pairing embSim compVoc health none).total ≤
        (ranker.computeScore pairing embSim' compVoc health none).total ↔
      ranker.redistributed pairing compVoc health ≤ 40 / 100 * unit embSim' := by
  rw [total_of_nonpos ranker pairing cold, total_of_pos ranker pairing warm]
  unfold coldStart regular Ranker.redistributed
  constructor
  · intro le
    linarith
  · intro le
    linarith

theorem total_embSim_iff (le : embSim ≤ embSim') :
    (ranker.computeScore pairing embSim compVoc health none).total ≤
        (ranker.computeScore pairing embSim' compVoc health none).total ↔
      0 < embSim ∨ embSim' ≤ 0 ∨
        ranker.redistributed pairing compVoc health ≤ 40 / 100 * unit embSim' := by
  rcases le_or_gt embSim 0 with cold | warm
  · rcases le_or_gt embSim' 0 with cold' | warm'
    · rw [total_of_nonpos ranker pairing cold, total_of_nonpos ranker pairing cold']
      exact iff_of_true le_rfl (Or.inr (Or.inl cold'))
    · rw [total_switch_iff ranker pairing cold warm']
      constructor
      · exact fun made_up => Or.inr (Or.inr made_up)
      · rintro (warm | cold' | made_up)
        · exact absurd cold (not_le.2 warm)
        · exact absurd cold' (not_le.2 warm')
        · exact made_up
  · have more := unit_mono le
    rw [total_of_pos ranker pairing warm, total_of_pos ranker pairing (warm.trans_le le)]
    refine iff_of_true ?_ (Or.inl warm)
    unfold regular
    linarith

/-- The score stays in its range and grows with the vocations and the health.  It grows with the
similarity too, except that a candidate who gets a positive one must make up for the weights
of the cold start. -/
theorem compute_score_directions (embSim compVoc health : ℚ) :
    (0 ≤ (ranker.computeScore pairing embSim compVoc health none).total ∧
      (ranker.computeScore pairing embSim compVoc health none).total ≤ 1) ∧
    (∀ compVoc', compVoc ≤ compVoc' →
      (ranker.computeScore pairing embSim compVoc health none).total ≤
        (ranker.computeScore pairing embSim compVoc' health none).total) ∧
    (∀ health', health ≤ health' →
      (ranker.computeScore pairing embSim compVoc health none).total ≤
        (ranker.computeScore pairing embSim compVoc health' none).total) ∧
    (∀ embSim', embSim ≤ embSim' →
      ((ranker.computeScore pairing embSim compVoc health none).total ≤
          (ranker.computeScore pairing embSim' compVoc health none).total ↔
        0 < embSim ∨ embSim' ≤ 0 ∨
          ranker.redistributed pairing compVoc health ≤ 40 / 100 * unit embSim')) :=
  ⟨total_mem ranker pairing, fun _ => total_compVoc_mono ranker pairing,
    fun _ => total_health_mono ranker pairing, fun _ => total_embSim_iff ranker pairing⟩

end Score

/-! ## A candidate with an embedding that hardly matches -/

/-- Activity is full, and the noise is at its mean. -/
def evenRanker : Ranker := ⟨fun _ => 1, 0, fun _ _ _ => 1 / 2⟩

def strangers : Pairing := ⟨"viewer", "candidate", some 0, 0⟩

theorem slight_similarity_lowers :
    ¬ (evenRanker.computeScore strangers 0 1 1 none).total ≤
      (evenRanker.computeScore strangers (1 / 10) 1 1 none).total := by
  decide +kernel

end ColabPlatform.Matching
