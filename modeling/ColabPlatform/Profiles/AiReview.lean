import ColabPlatform.Profiles.BadgeFsm
import Mathlib.Data.Int.Bitwise

/-!
# Profile service: scores of the AI review

What the review reads from the answers of the scanners, and how the scores are
aggregated and routed.
-/

namespace ColabPlatform.Profiles

def hashBits (n : Nat) : List Nat := (List.range 64).filter n.testBit

/-- `_hamming_distance` -/
def hammingDistance (h1 h2 : Int) : Nat := (hashBits (Int.xor h1 h2).natAbs).length

structure AiWeights where
  openai : Score := 35 / 100
  rekognition : Score := 35 / 100
  dup : Score := 20 / 100
  embedding : Score := 10 / 100
  deriving DecidableEq, Repr

def aggregateRisk (openaiScore rekognitionScore dupSignal embeddingOutlier : Score)
    (weights : AiWeights) : Score :=
  min 1 (max 0 (weights.openai * openaiScore + weights.rekognition * rekognitionScore +
    weights.dup * dupSignal + weights.embedding * embeddingOutlier))

def alwaysHumanCategories : List String :=
  ["sexual/minors", "harassment/threatening", "illicit/violent"]

/-- `category_scores` of the results; an absent one is empty. -/
abbrev OpenaiResponse := List (List (String × Score))

/-- `max(…, default=0.0)` -/
def maxScore : List Score → Score
  | [] => 0
  | score :: scores => scores.foldl max score

/-- The maximal score, and whether a category is for humans in any case. -/
def extractOpenaiMaxScore : OpenaiResponse → Score × Bool
  | [] => (0, false)
  | scores :: _ =>
      if scores = [] then (0, false)
      else (maxScore (scores.map (·.2)),
        alwaysHumanCategories.any fun category => 1 / 2 < (scores.lookup category).getD 0)

/-- The confidences of the labels, in percent. -/
abbrev RekognitionResponse := List Score

def extractRekognitionMaxScore (labels : RekognitionResponse) : Score := maxScore labels / 100

def phashHammingThreshold : Nat := 6

def ahashHammingThreshold : Nat := 10

/-- Both hashes are there and close to each other. -/
def near (threshold : Nat) (hash existing : Option Int) : Bool :=
  match hash, existing with
  | some hash, some existing => decide (hammingDistance hash existing ≤ threshold)
  | _, _ => false

def computePhashDupSignal (phash ahash : Option Int)
    (existingHashes : List (Option Int × Option Int)) : Score :=
  if phash = none ∧ ahash = none then 0
  else if existingHashes.any fun (ep, ea) =>
    near phashHammingThreshold phash ep || near ahashHammingThreshold ahash ea then 1
  else 0

inductive RoutingAction where
  | humanQueue | autoAllow | softWarn | hideContent | autoHideTempMute
  deriving DecidableEq, Repr

structure RoutingDecision where
  action : RoutingAction
  slaHours : Option Nat
  queuePriority : Option String
  score : Score
  deriving DecidableEq, Repr

def routingDecision (score : Score) (alwaysHuman : Bool) : RoutingDecision :=
  if alwaysHuman then ⟨.humanQueue, some 1, some "HIGH", score⟩
  else if score < 40 / 100 then ⟨.autoAllow, none, none, score⟩
  else if score < 70 / 100 then ⟨.softWarn, some 24, some "MEDIUM", score⟩
  else if score < 90 / 100 then ⟨.hideContent, some 6, some "HIGH", score⟩
  else ⟨.autoHideTempMute, some 1, some "URGENT", score⟩

/-! ## Files of a portfolio -/

inductive PortfolioType where
  | image | audio | video
  deriving DecidableEq, Repr

def PortfolioType.value : PortfolioType → String
  | image => "image"
  | audio => "audio"
  | video => "video"

def PortfolioType.allowedMimes : PortfolioType → List String
  | image => ["image/jpeg", "image/png", "image/gif", "image/webp"]
  | audio => ["audio/mpeg", "audio/mp3", "audio/wav", "audio/ogg", "audio/m4a", "audio/flac"]
  | video => ["video/mp4", "video/quicktime", "video/webm", "video/mpeg"]

/-- In bytes. -/
def PortfolioType.sizeCap : PortfolioType → Nat
  | image => 10 * 1024 * 1024
  | audio => 30 * 1024 * 1024
  | video => 100 * 1024 * 1024

end ColabPlatform.Profiles
