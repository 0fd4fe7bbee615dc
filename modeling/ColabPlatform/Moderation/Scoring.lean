import ColabPlatform.Common.Text
import ColabPlatform.Foundation.OrderedDict
import Mathlib.Algebra.Order.Field.Rat
import Mathlib.Data.Rat.Floor

/-!
# Moderation service: combined score and routing

What the scanning tools report is combined to a score, which with the flagged
categories decides where the content is routed.  Scores are rationals.
-/

namespace ColabPlatform.Moderation

open Foundation Common

abbrev Score := ℚ

/-- `round(score, 4)`: to the nearest, a half to the even neighbour. -/
def round4 (score : Score) : Score :=
  let scaled := score * 10000
  let below := ⌊scaled⌋
  let rest := scaled - below
  if rest < 1 / 2 then below / 10000
  else if rest > 1 / 2 then (below + 1) / 10000
  else if below % 2 = 0 then below / 10000
  else (below + 1) / 10000

structure ModerationSettings where
  tier1Threshold : Score := 4 / 10
  tier2Threshold : Score := 7 / 10
  tier3Threshold : Score := 9 / 10
  dupBump : Score := 3 / 10
  tier1SlaHours : Nat := 24
  tier2SlaHours : Nat := 6
  tier3SlaHours : Nat := 1
  deriving DecidableEq, Repr

/-- `DEFAULT_CATEGORY_WEIGHTS` -/
def defaultCategoryWeights : List (String × Score) :=
  [("sexual/minors", 15 / 10), ("harassment/threatening", 13 / 10),
    ("hate/threatening", 13 / 10), ("violence/graphic", 12 / 10),
    ("self-harm/intent", 12 / 10), ("Rekognition:Explicit", 12 / 10),
    ("Rekognition:Hate Symbols", 13 / 10), ("illicit/violent", 12 / 10),
    ("sexual", 1), ("harassment", 1), ("violence", 1)]

/-- `ALWAYS_HUMAN_REKOGNITION` -/
def alwaysHumanRekognition : List String := ["Hate Symbols"]

/-- `weights.get(category, default)` -/
def weightOf (category : String) (default : Score) : Score :=
  (defaultCategoryWeights.lookup category).getD default

/-! ## Results of the tools -/

structure OpenAIModResult where
  flagged : Bool
  categoryScores : OrderedDict String Score
  flaggedCategories : List String
  deriving DecidableEq, Repr

/-- `max(values, default=0.0)` -/
def maxOf : List Score → Score
  | [] => 0
  | value :: values => values.foldl max value

def OpenAIModResult.maxScore (openai : OpenAIModResult) : Score :=
  maxOf (openai.categoryScores.map (·.2))

/-- A label with its parent, if it has one, and a confidence in percent. -/
structure Label where
  name : String
  parentName : String
  confidence : Score
  deriving DecidableEq, Repr

/-- `label.get("ParentName") or label.get("Name", "")` -/
def Label.parent (label : Label) : String :=
  if label.parentName = "" then label.name else label.parentName

/-- The greatest confidence of each parent label, between 0 and 1. -/
def parentScores (labels : List Label) : OrderedDict String Score :=
  labels.foldl (fun scores label =>
    OrderedDict.insert scores label.parent
      (max ((scores.lookup label.parent).getD 0) (label.confidence / 100))) []

structure DupResult where
  phashMatch : Bool
  chromaprintMatch : Bool
  semdupMatch : Bool
  deriving DecidableEq, Repr

def DupResult.anyMatch (dup : DupResult) : Bool :=
  dup.phashMatch || dup.chromaprintMatch || dup.semdupMatch

/-! ## The combined score -/

/-- What the score was made of, as it is reported. -/
structure Breakdown where
  openaiMaxScore : Score
  openaiWeighted : Score
  flaggedCategories : List String
  categoryScores : List (String × Score)
  parentScores : List (String × Score)
  rekognitionWeighted : Score
  dup : DupResult
  bumpApplied : Score
  weighted : Score
  deriving DecidableEq, Repr

def textWeighted (openai : OpenAIModResult) : Score :=
  max (openai.categoryScores.foldl (fun weighted item =>
    max weighted (weightOf item.1 1 * item.2)) 0) openai.maxScore

def imageWeighted (labels : List Label) : Score :=
  (parentScores labels).foldl (fun weighted item =>
    max weighted (weightOf ("Rekognition:" ++ item.1) (weightOf item.1 1) * item.2)) 0

def bump (settings : ModerationSettings) (dup : DupResult) : Score :=
  if dup.anyMatch then settings.dupBump else 0

def combinedScore (settings : ModerationSettings) (openai : OpenAIModResult)
    (labels : List Label) (dup : DupResult) : Score :=
  min 1 (max (textWeighted openai) (imageWeighted labels) + bump settings dup)

def breakdown (settings : ModerationSettings) (openai : OpenAIModResult)
    (labels : List Label) (dup : DupResult) : Breakdown where
  openaiMaxScore := openai.maxScore
  openaiWeighted := round4 (textWeighted openai)
  flaggedCategories := openai.flaggedCategories
  categoryScores := openai.categoryScores.map fun item => (item.1, round4 item.2)
  parentScores := (parentScores labels).map fun item => (item.1, round4 item.2)
  rekognitionWeighted := round4 (imageWeighted labels)
  dup := dup
  bumpApplied := round4 (bump settings dup)
  weighted := round4 (combinedScore settings openai labels dup)

theorem combinedScore_le_one (settings : ModerationSettings) (openai : OpenAIModResult)
    (labels : List Label) (dup : DupResult) : combinedScore settings openai labels dup ≤ 1 :=
  min_le_left _ _

/-! ## Routing -/

inductive Action where
  | allowLog
  | softWarnUserQueue
  | hideContentQueue
  | autoHideTempMuteQueue
  deriving DecidableEq, Repr

inductive Tier where
  | tier0Allow
  | tier1
  | tier2
  | tier3
  deriving DecidableEq, Repr

structure RoutingDecision where
  action : Action
  tier : Tier
  slaHours : Option Nat
  forcedHuman : Bool
  forcedReason : Option String
  isCsam : Bool
  score : Score
  deriving DecidableEq, Repr

/-- Why a moderator has to see the content whatever its score. -/
def forcedReason (openai : OpenAIModResult) (labels : List Label) (hasIpClaim : Bool) :
    Option String :=
  let matched := alwaysHumanRekognition.filter (· ∈ labels.map Label.parent)
  if "harassment/threatening" ∈ openai.flaggedCategories then some "harassment/threatening"
  else if "violence/graphic" ∈ openai.flaggedCategories then some "violence/graphic"
  else if matched ≠ [] then some ("rekognition:" ++ join "," matched)
  else if hasIpClaim then some "ip_claim"
  else none

/-- Routing by the thresholds alone. -/
def thresholdRouting (settings : ModerationSettings) (score : Score) :
    Action × Tier × Option Nat :=
  if score < settings.tier1Threshold then (.allowLog, .tier0Allow, none)
  else if score < settings.tier2Threshold then
    (.softWarnUserQueue, .tier1, some settings.tier1SlaHours)
  else if score < settings.tier3Threshold then
    (.hideContentQueue, .tier2, some settings.tier2SlaHours)
  else (.autoHideTempMuteQueue, .tier3, some settings.tier3SlaHours)

def route (settings : ModerationSettings) (score : Score) (openai : OpenAIModResult)
    (labels : List Label) (hasIpClaim : Bool) : RoutingDecision :=
  if "sexual/minors" ∈ openai.flaggedCategories then
    ⟨.autoHideTempMuteQueue, .tier3, some settings.tier3SlaHours, true, some "csam_path", true,
      score⟩
  else
    let reason := forcedReason openai labels hasIpClaim
    let routed := thresholdRouting settings score
    -- forced cases get at least the first tier
    let (action, tier, sla) :=
      if reason.isSome && routed.2.1 = .tier0Allow then
        (.softWarnUserQueue, .tier1, some settings.tier1SlaHours)
      else routed
    ⟨action, tier, sla, reason.isSome, reason, false, score⟩

theorem thresholdRouting_allow_iff (settings : ModerationSettings) (score : Score) :
    (thresholdRouting settings score).2.1 = .tier0Allow ↔ score < settings.tier1Threshold := by
  unfold thresholdRouting
  split
  · simp [*]
  · split
    · simp [*]
    · split <;> simp [*]

/-- Content is let pass exactly below the first threshold and if nothing forces a case. -/
theorem route_allow_iff (settings : ModerationSettings) (score : Score)
    (openai : OpenAIModResult) (labels : List Label) (hasIpClaim : Bool) :
    (route settings score openai labels hasIpClaim).tier = .tier0Allow ↔
      score < settings.tier1Threshold ∧ "sexual/minors" ∉ openai.flaggedCategories ∧
        forcedReason openai labels hasIpClaim = none := by
  unfold route
  by_cases csam : "sexual/minors" ∈ openai.flaggedCategories
  · simp [csam]
  · rw [if_neg csam]
    cases reason : forcedReason openai labels hasIpClaim with
    | none => simp [csam, thresholdRouting_allow_iff]
    | some text =>
        by_cases allow : (thresholdRouting settings score).2.1 = .tier0Allow
        · simp [allow]
        · simp [allow]

end ColabPlatform.Moderation
