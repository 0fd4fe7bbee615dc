import ColabPlatform.Moderation.Scan
import Mathlib.Tactic.NormNum

/-!
# Moderation service: scans whose tools fail

Only the text classifier of OpenAI leaves a trace when it fails, a score of its
own.  The other tools report a failure as they report clean content, so a scan
is fail-safe exactly if none of them fails.
-/

namespace ColabPlatform.Moderation

open Foundation Common

/-- A scan of one piece of content, with how each applicable tool ended. -/
inductive Scan where
  | text (openai : ToolRun OpenAIModResult) (semdup : ToolRun SemdupRun)
  | image (rekognition : ToolRun (List Label)) (phash : ToolRun String)
  | audio (chromaprint : ToolRun String)
  | video (start : ToolRun String)

namespace Scan

/-- What a synchronous scan is routed to; the asynchronous ones are not routed. -/
def routing? (settings : ModerationSettings) : Scan → Option RoutingResult
  | text openai semdup => some (routeText settings openai semdup)
  | image rekognition phash => some (routeImage settings rekognition phash)
  | audio _ | video _ => none

def toolsCompleted : Scan → Bool
  | text openai semdup => openai.isCompleted && semdup.isCompleted
  | image rekognition phash => rekognition.isCompleted && phash.isCompleted
  | audio chromaprint => chromaprint.isCompleted
  | video start => start.isCompleted

/-- The combined score of a scan that is routed. -/
def score (settings : ModerationSettings) : Scan → Score
  | text openai semdup =>
      combinedScore settings (scanOpenaiText openai).result []
        ⟨false, false, (scanSemdup semdup).result.isMatch⟩
  | image rekognition phash =>
      combinedScore settings cleanModeration (scanRekognitionImage rekognition).result
        ⟨(scanPhash phash).result.isMatch, false, false⟩
  | audio _ | video _ => 0

end Scan

/-- A result that finds nothing; the tool has no category `__synthetic__`. -/
structure OpenAIModResult.Clean (openai : OpenAIModResult) : Prop where
  unflagged : openai.flagged = false
  no_categories : openai.flaggedCategories = []
  real : "__synthetic__" ∉ openai.categoryScores.map (·.1)

/-- The same scan, but a tool that failed has found nothing. -/
inductive CleanedUp : Scan → Scan → Prop where
  | openai (error : String) {moderation : OpenAIModResult} (clean : moderation.Clean)
      (semdup : ToolRun SemdupRun) :
      CleanedUp (.text (.failed error) semdup) (.text (.completed moderation) semdup)
  | semdup (openai : ToolRun OpenAIModResult) (error : String) (dimension : Nat) :
      CleanedUp (.text openai (.failed error)) (.text openai (.completed (.embedded dimension)))
  | rekognition (error : String) (phash : ToolRun String) :
      CleanedUp (.image (.failed error) phash) (.image (.completed []) phash)
  | phash (rekognition : ToolRun (List Label)) (error hex : String) :
      CleanedUp (.image rekognition (.failed error)) (.image rekognition (.completed hex))

/--
Content is let pass only if every tool completed and the score is below the
first threshold, and a failed tool is not taken for one that found nothing.
-/
def FailsSafe (settings : ModerationSettings) (scan : Scan) : Prop :=
  ∀ routing ∈ scan.routing? settings,
    (routing.tier = .tier0Allow →
      scan.toolsCompleted = true ∧ scan.score settings < settings.tier1Threshold) ∧
    ∀ clean, CleanedUp scan clean → clean.routing? settings ≠ some routing

/-- No tool but the text classifier fails, and its failure alone reaches the first threshold. -/
def OnlySyntheticFailure (settings : ModerationSettings) : Scan → Prop
  | .text openai semdup =>
      semdup.isCompleted = true ∧ (openai.isCompleted = true ∨
        settings.tier1Threshold ≤
          min 1 (1 / 2 + if semdup = .completed .seen then settings.dupBump else 0))
  | .image rekognition phash => rekognition.isCompleted = true ∧ phash.isCompleted = true
  | .audio _ | .video _ => True

/-! ## Scores without findings -/

theorem textWeighted_synthetic : textWeighted syntheticModeration = 1 / 2 := by
  decide +kernel

theorem imageWeighted_nil : imageWeighted [] = 0 := rfl

theorem score_synthetic (settings : ModerationSettings) (error : String) (run : SemdupRun) :
    (Scan.text (.failed error) (.completed run)).score settings =
      min 1 (1 / 2 + if run = .seen then settings.dupBump else 0) := by
  change combinedScore settings syntheticModeration [] ⟨false, false, run.result.isMatch⟩ = _
  rw [combinedScore, textWeighted_synthetic, imageWeighted_nil,
    max_eq_left (by norm_num : (0 : Score) ≤ 1 / 2)]
  cases run <;> simp [bump, DupResult.anyMatch, SemdupRun.result]

/-- A scan that lets pass has a score below the first threshold. -/
theorem score_of_allow {settings : ModerationSettings} {scan : Scan} {routing : RoutingResult}
    (routed : routing ∈ scan.routing? settings) (allow : routing.tier = .tier0Allow) :
    scan.score settings < settings.tier1Threshold := by
  cases scan with
  | text openai semdup =>
      obtain rfl := Option.mem_some_iff.1 routed
      exact ((route_allow_iff ..).1 allow).1
  | image rekognition phash =>
      obtain rfl := Option.mem_some_iff.1 routed
      exact ((route_allow_iff ..).1 allow).1
  | audio chromaprint => cases routed
  | video start => cases routed

/-! ## Which failures show -/

theorem names_breakdown (settings : ModerationSettings) (openai : OpenAIModResult)
    (labels : List Label) (dup : DupResult) :
    (breakdown settings openai labels dup).categoryScores.map (·.1) =
      openai.categoryScores.map (·.1) := by
  simp [breakdown, Function.comp_def]

/-- The failure of the text classifier shows in the category scores. -/
theorem failsSafe_synthetic_iff (settings : ModerationSettings) (error : String)
    (run : SemdupRun) :
    FailsSafe settings (.text (.failed error) (.completed run)) ↔
      settings.tier1Threshold ≤ min 1 (1 / 2 + if run = .seen then settings.dupBump else 0) := by
  rw [← score_synthetic settings error]
  constructor
  · intro safe
    by_contra below
    have allow : (routeText settings (.failed error) (.completed run)).tier = .tier0Allow :=
      (route_allow_iff ..).2 ⟨lt_of_not_ge below, List.not_mem_nil, rfl⟩
    have completed := ((safe _ rfl).1 allow).1
    simp [Scan.toolsCompleted, ToolRun.isCompleted] at completed
  · intro reached routing routed
    refine ⟨fun allow => absurd (score_of_allow routed allow) (not_lt_of_ge reached), ?_⟩
    intro clean cleaned same
    obtain rfl := Option.mem_some_iff.1 routed
    cases cleaned with
    | openai error clean semdup =>
        have names := congrArg (fun routing => routing.breakdown.categoryScores.map (·.1))
          (Option.some.inj same)
        simp only [routeText, buildRoutingResult, names_breakdown, scanOpenaiText,
          ToolRun.report, id_eq] at names
        refine clean.real ?_
        rw [names]
        exact List.mem_singleton_self _

/-- A failure that is reported like a clean result is not fail-safe. -/
theorem not_failsSafe_of_same (settings : ModerationSettings) {scan clean : Scan}
    (cleaned : CleanedUp scan clean) {routing : RoutingResult}
    (routed : scan.routing? settings = some routing)
    (same : clean.routing? settings = some routing) : ¬ FailsSafe settings scan :=
  fun safe => (safe routing routed).2 clean cleaned same

/-- A scan whose tools all completed is. -/
theorem failsSafe_of_completed {settings : ModerationSettings} {scan : Scan}
    (completed : scan.toolsCompleted = true) : FailsSafe settings scan := by
  intro routing routed
  refine ⟨fun allow => ⟨completed, score_of_allow routed allow⟩, ?_⟩
  intro clean cleaned
  cases cleaned <;> simp [Scan.toolsCompleted, ToolRun.isCompleted] at completed

/-- A scan is fail-safe exactly if none of its tools fails but the text classifier,
whose failure has to reach the first threshold. -/
theorem scan_fails_safe_iff (settings : ModerationSettings) (scan : Scan) :
    FailsSafe settings scan ↔ OnlySyntheticFailure settings scan := by
  cases scan with
  | text openai semdup =>
      cases semdup with
      | failed error =>
          have hidden := not_failsSafe_of_same settings (.semdup openai error 0) rfl rfl
          simp [OnlySyntheticFailure, ToolRun.isCompleted, hidden]
      | completed run =>
          cases openai with
          | completed moderation =>
              have safe : FailsSafe settings (.text (.completed moderation) (.completed run)) :=
                failsSafe_of_completed rfl
              simp [OnlySyntheticFailure, ToolRun.isCompleted, safe]
          | failed error =>
              rw [failsSafe_synthetic_iff]
              simp [OnlySyntheticFailure, ToolRun.isCompleted]
  | image rekognition phash =>
      cases rekognition with
      | failed error =>
          have hidden := not_failsSafe_of_same settings (.rekognition error phash) rfl rfl
          simp [OnlySyntheticFailure, ToolRun.isCompleted, hidden]
      | completed labels =>
          cases phash with
          | failed error =>
              have hidden := not_failsSafe_of_same settings
                (.phash (.completed labels) error "") rfl rfl
              simp [OnlySyntheticFailure, ToolRun.isCompleted, hidden]
          | completed hex =>
              have safe : FailsSafe settings (.image (.completed labels) (.completed hex)) :=
                failsSafe_of_completed rfl
              simp [OnlySyntheticFailure, ToolRun.isCompleted, safe]
  | audio chromaprint => simp [FailsSafe, OnlySyntheticFailure, Scan.routing?]
  | video start => simp [FailsSafe, OnlySyntheticFailure, Scan.routing?]

/-- Rekognition and the semantic check time out, and the content is let pass. -/
theorem failed_tools_let_pass :
    (routeImage {} (.failed "timed out") (.completed "c3a1")).tier = .tier0Allow ∧
      (routeText {} (.completed ⟨false, [("violence", 1 / 10)], []⟩)
        (.failed "timed out")).tier = .tier0Allow ∧
      ¬ FailsSafe {} (.image (.failed "timed out") (.completed "c3a1")) ∧
      ¬ FailsSafe {} (.text (.completed ⟨false, [("violence", 1 / 10)], []⟩)
        (.failed "timed out")) :=
  ⟨by decide +kernel, by decide +kernel,
    not_failsSafe_of_same {} (.rekognition "timed out" (.completed "c3a1")) rfl rfl,
    not_failsSafe_of_same {} (.semdup _ "timed out" 0) rfl rfl⟩

end ColabPlatform.Moderation
