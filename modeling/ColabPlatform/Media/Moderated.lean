import ColabPlatform.Media.RoomScope
import ColabPlatform.Moderation.FailSafe

/-!
# Media that is shown has been scanned

An upload is stored with the status that the answer of the moderation service leads to.  Only
images are scanned before the answer; the other kinds get a job that nothing waits for, and
whatever goes wrong counts as a score of 0.  The file finds the uploads that are shown after a
scan.
-/

namespace ColabPlatform.Media

open Foundation Common
open Chat (ChatMessage ChatState ModerationStatus statusOf)
open Moderation (Action Label Scan Score ToolRun internalError)

/-! ## What is promised -/

/-- The scan that applies to the kind and has ended when the moderation service answers: one of
audio or video has been queued by then, and none is made for documents. -/
def completedScan (kind : String) (run : ModerationRun) : Option Scan :=
  if run.answered = true ∧ kind = "image" then some (.image run.rekognition run.phash) else none

/-- The decision is to hide. -/
def hidesContent : Action → Bool
  | .hideContentQueue | .autoHideTempMuteQueue => true
  | .allowLog | .softWarnUserQueue => false

/-- Every tool has ended with a result, the combined score is below 0.7, and no moderator is
needed for a decision to hide. -/
def scanPasses (settings : Moderation.ModerationSettings) (scan : Scan) : Bool :=
  scan.toolsCompleted && scan.score settings < 7 / 10 &&
    (scan.routing? settings).all fun routing =>
      !(routing.forcedHuman && hidesContent routing.action)

def scanPassed (kind : String) (run : ModerationRun) : Bool :=
  (completedScan kind run).any (scanPasses run.deployment.settings)

namespace MediaState

/-- A message that a request stores is shown, and published, only after a scan. -/
structure ShownAfterScan (settings : MediaSettings) (s : MediaState) (request : ConfirmRequest)
    (outside : ConfirmOutside) : Prop where
  stored : ∀ message ∈ (s.confirmUpload settings request outside).1.chat.messages.rows,
    message ∉ s.chat.messages.rows → message.shown = true →
      scanPassed request.kind outside.moderation = true
  published : ∀ sent ∈ (s.confirmUpload settings request outside).1.chat.published,
    sent ∉ s.chat.published → scanPassed request.kind outside.moderation = true

def Scanned (settings : MediaSettings) (s : MediaState) : MediaEvent → Prop
  | .confirm request outside => s.ShownAfterScan settings request outside
  | .uploadUrl _ _ | .signedUrl _ _ | .elsewhere _ _ => True

/-! ## The uploads that keep it -/

/-- The moderation service answers with a score for which the message is hidden. -/
def answersHidden (request : ConfirmRequest) (run : ModerationRun) : Bool :=
  (callModerationMedia run request.s3Key request.kind).any fun score => 7 / 10 ≤ score

/-- What is stored has passed a scan, or is hidden. -/
def keepsScanned (settings : MediaSettings) (s : MediaState) : MediaEvent → Bool
  | .confirm request outside =>
      match s.acceptConfirm request with
      | .error _ => true
      | .ok profileId => (s.storeConfirmed settings request profileId outside).isNone ||
          scanPassed request.kind outside.moderation ||
            answersHidden request outside.moderation
  | .uploadUrl _ _ | .signedUrl _ _ | .elsewhere _ _ => true

/-! ## The stored status -/

variable {settings : MediaSettings} {s : MediaState}

theorem mediaScore_eq (run : ModerationRun) (s3Key kind : String) :
    mediaScore run s3Key kind = (callModerationMedia run s3Key kind).getD 0 := by
  simp [mediaScore, phashDupCheck]

/-- Without an answer that hides, the message is shown. -/
theorem shown_confirmed_iff (request : ConfirmRequest) (profileId : String)
    (outside : ConfirmOutside) :
    (confirmedMessage request profileId outside).shown = true ↔
      answersHidden request outside.moderation = false := by
  rw [ChatMessage.shown, Bool.and_eq_true, and_iff_left (by rfl), confirmedMessage,
    Chat.visible_statusOf, mediaScore_eq, answersHidden, and_iff_left rfl]
  cases callModerationMedia outside.moderation request.s3Key request.kind with
  | none => norm_num
  | some score => simp

theorem shownAfterScan_iff (request : ConfirmRequest) (outside : ConfirmOutside) :
    s.ShownAfterScan settings request outside ↔
      s.keepsScanned settings (.confirm request outside) = true := by
  rcases confirmUpload_cases settings s request outside with
    ⟨same, -, unstored⟩ | ⟨profileId, stored, accepted, stores, result⟩
  · have kept : s.ShownAfterScan settings request outside := by
      constructor
      · intro message mem new
        rw [same] at mem
        exact absurd mem new
      · intro sent mem new
        rw [same] at mem
        exact absurd mem new
    refine iff_of_true kept ?_
    simp only [keepsScanned]
    split
    · rfl
    · rename_i profileId accepted
      simp [unstored profileId accepted]
  · obtain ⟨inserted, published, -⟩ := storeConfirmed_eq_some stores
    simp only [keepsScanned, accepted, stores, Option.isNone_some, Bool.false_or, Bool.or_eq_true]
    constructor
    · intro h
      have asked := h.stored
      rw [result, Table.forall_new_iff inserted, shown_confirmed_iff] at asked
      cases hidden : answersHidden request outside.moderation with
      | true => exact Or.inr rfl
      | false => exact Or.inl (asked hidden)
    · intro kept
      constructor
      · rw [result, Table.forall_new_iff inserted, shown_confirmed_iff]
        intro shown
        exact kept.resolve_right (by simp [shown])
      · intro sent mem new
        rw [result, published] at mem
        exact absurd mem new

theorem scanned_iff (event : MediaEvent) :
    s.Scanned settings event ↔ s.keepsScanned settings event = true := by
  cases event with
  | uploadUrl request fileUuid => exact iff_of_true trivial rfl
  | confirm request outside => exact shownAfterScan_iff request outside
  | signedUrl request outside => exact iff_of_true trivial rfl
  | elsewhere chat objects => exact iff_of_true trivial rfl

/-! ## What the moderation service answers -/

/-- The context names no subject, so that a scan that calls for a case is answered with 500. -/
theorem scanImage_scanBody {deployment : Moderation.Deployment}
    (storable : ∀ case ∈ deployment.cases, case.storable = true) (s3Key : String)
    (rekognition : ToolRun (List Label)) (phash : ToolRun String) :
    Moderation.scanImage deployment "media-svc" (scanBody s3Key) rekognition phash =
      let routing := Moderation.routeImage deployment.settings rekognition phash
      if routing.tier = .tier0Allow ∧ routing.forcedHuman = false then
        .ok (⟨routing.score, routing.breakdown, Moderation.decisionLabel routing.action, none,
          routing.action, routing.tier, routing.forcedHuman⟩, deployment.cases)
      else .error internalError := by
  have named : ("portfolio_item" : String) ∈ Moderation.subjectTypes := by decide
  dsimp only
  split
  · rename_i allowed
    simp [Moderation.scanImage, Moderation.imageScanRequest, scanBody, Moderation.parsed,
      Moderation.required, Moderation.requireInternal, Moderation.answer, Moderation.readId,
      Moderation.createCaseFromRouting, allowed, named, bind, Except.bind, pure, Except.pure]
  · rename_i queued
    simp [Moderation.scanImage, Moderation.imageScanRequest, scanBody, Moderation.parsed,
      Moderation.required, Moderation.requireInternal, Moderation.answer, Moderation.readId,
      Moderation.createCaseFromRouting, queued, named, bind, Except.bind, pure, Except.pure]
    rw [if_neg]
    · rfl
    · intro stored
      have unstorable : ∀ case : Moderation.AutoCase, case.subjectId = none →
          ¬ case.storable = true := by
        intro case none
        simp [Moderation.AutoCase.storable, none]
      refine unstorable _ rfl (stored fun old => unstorable _ rfl (storable _ old))

/-- Rounding stays below a bound of four digits. -/
theorem round4_le {score : Score} {n : Int} (below : score ≤ n / 10000) :
    Moderation.round4 score ≤ n / 10000 := by
  have scaled : score * 10000 ≤ n := (le_div_iff₀ (by norm_num)).1 below
  have floored : ⌊score * 10000⌋ ≤ n := by
    have floor : (⌊score * 10000⌋ : ℚ) ≤ n := (Int.floor_le _).trans scaled
    exact_mod_cast floor
  have down : (⌊score * 10000⌋ : ℚ) / 10000 ≤ n / 10000 :=
    div_le_div_of_nonneg_right (by exact_mod_cast floored) (by norm_num)
  rcases floored.lt_or_eq with less | whole
  · have up : ((⌊score * 10000⌋ : ℚ) + 1) / 10000 ≤ n / 10000 :=
      div_le_div_of_nonneg_right (by exact_mod_cast less) (by norm_num)
    unfold Moderation.round4
    dsimp only
    split
    · exact down
    · split
      · exact up
      · split
        · exact down
        · exact up
  · have rest : score * 10000 - (⌊score * 10000⌋ : ℚ) < 1 / 2 := by
      rw [whole]
      exact lt_of_le_of_lt (sub_nonpos.2 scaled) (by norm_num)
    unfold Moderation.round4
    dsimp only
    rw [if_pos rest]
    exact down

/-- With the usual thresholds nothing is ever hidden: every stored upload is shown. -/
theorem shown_of_low_threshold {run : ModerationRun}
    (low : run.deployment.settings.tier1Threshold ≤ 4 / 10)
    (storable : ∀ case ∈ run.deployment.cases, case.storable = true) (request : ConfirmRequest) :
    answersHidden request run = false := by
  have zero : decide ((7 / 10 : Score) ≤ 0) = false := by decide +kernel
  rw [answersHidden, callModerationMedia]
  split
  · split
    · rfl
    · rfl
    · rw [scanImage_scanBody storable]
      dsimp only
      by_cases allowed : (Moderation.routeImage run.deployment.settings run.rekognition
          run.phash).tier = .tier0Allow ∧
        (Moderation.routeImage run.deployment.settings run.rekognition
          run.phash).forcedHuman = false
      · rw [if_pos allowed]
        have unforced : (Scan.image run.rekognition run.phash).score run.deployment.settings <
            run.deployment.settings.tier1Threshold :=
          Moderation.score_of_allow rfl allowed.1
        have rounded : Moderation.round4 ((Scan.image run.rekognition run.phash).score
            run.deployment.settings) ≤ ((4000 : Int) : ℚ) / 10000 :=
          round4_le ((unforced.le.trans low).trans (by norm_num))
        apply decide_eq_false
        apply not_le_of_gt
        exact lt_of_le_of_lt rounded (by norm_num)
      · rw [if_neg allowed]
        exact zero
  · exact zero

/-! ## Runs -/

theorem media_scanned_iff (settings : MediaSettings) (s : MediaState) (events : List MediaEvent) :
    Guarded (step settings) (fun s event => s.Scanned settings event) s events ↔
      Guarded (step settings) (fun s event => s.keepsScanned settings event = true) s events := by
  simp only [scanned_iff]

/-! ## Some uploads -/

def confirmed (kind mime : String) (moderation : ModerationRun) : MediaEvent :=
  .confirm ⟨.uuid "anna", "kitchen", kind, "k", mime, 1000, none⟩
    { msgId := "m", attachmentId := "a", now := 0, moderation }

/-- The picture is explicit. -/
def explicitScan : ModerationRun :=
  { cleanScan with rekognition := .completed [⟨"Explicit", "", 95⟩] }

/-- The job of a voice message is queued. -/
def voiceQueued : List MediaEvent := [confirmed "voice" "audio/mp4" cleanScan]

/-- The answer of the moderation service does not come in time. -/
def scanLate : List MediaEvent :=
  [confirmed "image" "image/png" { cleanScan with answered := false }]

/-- The scan calls for a case, which cannot be stored. -/
def caseRefused : List MediaEvent := [confirmed "image" "image/png" explicitScan]

def documentSent : List MediaEvent := [confirmed "doc" "application/pdf" cleanScan]

theorem not_media_scanned :
    ¬ Guarded (step {}) (fun s event => s.Scanned {} event) (initial twoRooms ["k"])
        voiceQueued ∧
      ¬ Guarded (step {}) (fun s event => s.Scanned {} event) (initial twoRooms ["k"]) scanLate ∧
      ¬ Guarded (step {}) (fun s event => s.Scanned {} event) (initial twoRooms ["k"])
        caseRefused ∧
      ¬ Guarded (step {}) (fun s event => s.Scanned {} event) (initial twoRooms ["k"])
        documentSent := by
  refine ⟨fun h => ?_, fun h => ?_, fun h => ?_, fun h => ?_⟩
  · exact absurd ((scanned_iff _).1 h.1) (by decide +kernel)
  · exact absurd ((scanned_iff _).1 h.1) (by decide +kernel)
  · exact absurd ((scanned_iff _).1 h.1) (by decide +kernel)
  · exact absurd ((scanned_iff _).1 h.1) (by decide +kernel)

end MediaState

end ColabPlatform.Media
