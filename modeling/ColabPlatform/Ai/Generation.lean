import ColabPlatform.Ai.Clients
import ColabPlatform.Common.Text

/-!
# Generation of an asset

The Celery task that starts a prediction at Replicate, and the webhook by which
Replicate reports how it ended.
-/

namespace ColabPlatform.Ai

open Foundation
open Billing (Uuid Timestamp)
open Common

/-! ## The task -/

/-- `max_retries` of the tasks -/
def maxRetries : Nat := 2

/-- `self.retry(exc=exc)` -/
def retry (task : GenerationTask) (error : Failure) : AiM Response := do
  if task.retries < maxRetries then
    enqueue { task with retries := task.retries + 1 }
  throw error

/-- The body that the tasks share; `create` starts the prediction. -/
def enqueuePrediction (create : AiM String) (task : GenerationTask) : AiM Response := do
  try
    let predictionId ← create
    save [.updateInteraction task.interactionId
        { replicatePredictionId := some predictionId, status := some .processing },
      .updateAsset task.assetId { replicatePredictionId := some predictionId }]
    pure .nothing
  catch error => retry task error

section

variable (settings : AISettings)

def enqueueImagePrediction (task : GenerationTask) : AiM Response :=
  enqueuePrediction (createPrediction settings .image task.prompt task.tier) task

def enqueueAudioPrediction (task : GenerationTask) : AiM Response :=
  enqueuePrediction (createPrediction settings .audio task.prompt task.tier) task

def runTask (task : GenerationTask) : AiM Response :=
  match task.kind with
  | .image => enqueueImagePrediction settings task
  | .audio => enqueueAudioPrediction settings task

end

/-! ## The webhook -/

inductive PredictionStatus where
  | starting
  | processing
  | succeeded
  | failed
  | canceled
  deriving DecidableEq, Repr

/-- `payload.get("output")`: falsy, a list of one or more, a text, or another value -/
inductive Output where
  | missing
  | urls (first : String)
  | url (value : String)
  | other
  deriving DecidableEq, Repr

/-- The artifact's address, itself `none` when it is no text. -/
def Output.artifact : Output → Option (Option String)
  | .missing => none
  | .urls first => some (some first)
  | .url value => some (some value)
  | .other => some none

/-- `payload.get("error", ...)`: the key is missing, or its value is a text or not -/
inductive ErrorField where
  | missing
  | text (value : String)
  | null
  deriving DecidableEq, Repr

def ErrorField.reason : ErrorField → Option String
  | .missing => some "Replicate prediction failed"
  | .text value => some value
  | .null => none

structure Delivery where
  /-- whether the signature is the HMAC of the body -/
  signed : Bool := true
  predictionId : String
  status : PredictionStatus
  output : Output := .missing
  error : ErrorField := .missing
  now : Timestamp
  /-- what `uuid.uuid4()` draws for a collaboration or an asset that is missing -/
  drawnCollab : Uuid
  drawnAsset : Uuid

section

/-- `_handle_failure`; slicing a reason that is no text raises. -/
def handleFailure (interaction : AIInteraction) (asset : Option MockupAsset)
    (reason : Option String) : AiM Unit := do
  save (.updateInteraction interaction.id
      { status := some .failed, failureReason := some reason } ::
    asset.toList.map fun asset => .updateAsset asset.id { active := some false })
  match interaction.billingReservationId, reason with
  | none, _ => return
  | some _, none => throw (.raised "TypeError")
  | some reservationId, some reason =>
      releaseReservation reservationId (String.ofList (reason.toList.take 100))

/-- The lifespan that the consent of the asset grants, else one day. -/
def lifespanDays (asset : Option MockupAsset) : AiM Nat := do
  match asset.bind MockupAsset.mockupConsentId with
  | none => return 1
  | some consentId =>
      match ← Process.perform (Op.consent consentId) with
      | none => return 1
      | some consent => return consent.lifespanDays

variable (settings : AISettings)

/-- The scan blocks the image: what is stored, filed and given back. -/
def blockAsset (interaction : AIInteraction) (asset : Option MockupAsset) (score : Score) :
    AiM Unit := do
  save (.updateInteraction interaction.id { status := some .moderationBlocked } ::
    asset.toList.map fun asset => .updateAsset asset.id
      { moderationScore := some score, moderationStatus := some .blocked, active := some false })
  match asset with
  | none => pure ()
  | some asset => ask (.fileCase asset.id)
  match interaction.billingReservationId with
  | none => return
  | some reservationId => releaseReservation reservationId "moderation_block"

/-- What follows a scan that passes: watermark, upload, completion and charge. -/
def storeAsset (delivery : Delivery) (interaction : AIInteraction)
    (asset : Option MockupAsset) (kind : AssetKind) (bytes : List UInt8) (score : Score) :
    AiM Unit := do
  let watermarked ← orRaise (← ask (.watermark kind bytes))
  let (contentType, ext) := match kind with
    | .image => ("image/jpeg", "image.jpg")
    | .audio => ("audio/mpeg", "audio.mp3")
  let collabId := interaction.collabId.getD delivery.drawnCollab
  let assetId := (asset.map MockupAsset.id).getD delivery.drawnAsset
  let s3Key := "mockups/" ++ collabId.text ++ "/" ++ assetId.text ++ "/" ++ ext
  orRaise (← ask (.upload s3Key contentType watermarked))
  let expiresAt := delivery.now + (← lifespanDays asset) * 86400000000
  save (.updateInteraction interaction.id
      { status := some .completed, completedAt := some delivery.now } ::
    asset.toList.map fun asset => .updateAsset asset.id
      { s3Key := some s3Key, moderationScore := some score,
        moderationStatus := some .passed, generatedAt := some delivery.now,
        expiresAt := some expiresAt, active := some true,
        fileSizeBytes := some watermarked.length })
  match interaction.billingReservationId with
  | none => return
  | some reservationId => commitReservation reservationId

/-- `_handle_success` -/
def handleSuccess (delivery : Delivery) (interaction : AIInteraction)
    (asset : Option MockupAsset) (artifactUrl : Option String) : AiM Unit := do
  let bytes ← orRaise (← ask (.download artifactUrl)).body
  let guessed := if isSubstring "audio" (artifactUrl.getD "") then .audio else .image
  match (asset.map MockupAsset.kind).getD guessed with
  | .image =>
      let score ← scanImage bytes
      if ← reaches score settings.moderationBlockThreshold then
        blockAsset interaction asset (score.getD 0)
      else
        storeAsset delivery interaction asset .image bytes (score.getD 0)
  | .audio => storeAsset delivery interaction asset .audio bytes 0

/-- The delivery of a prediction that is known. -/
def handlePrediction (delivery : Delivery) (interaction : AIInteraction)
    (asset : Option MockupAsset) : AiM String := do
  match delivery.status with
  | .failed =>
      handleFailure interaction asset delivery.error.reason
      return "failure_handled"
  | .succeeded =>
      match delivery.output.artifact with
      | none =>
          handleFailure interaction asset (some "No output in Replicate response")
          return "failure_handled"
      | some artifactUrl =>
          try
            handleSuccess settings delivery interaction asset artifactUrl
          catch error => handleFailure interaction asset (some error.text)
          return "ok"
  | _ => return "ok"

/-- `redis.setex(idem_key, ...)` -/
def markPrediction (predictionId : String) : AiM Unit := do
  orRaise (← Process.perform (Op.mark predictionId))

/-- `replicate_webhook` -/
def replicateWebhook (delivery : Delivery) : AiM Response := do
  if ¬ delivery.signed then
    throw (.http 403 (.text "Invalid signature"))
  if delivery.predictionId = "" then
    throw (.http 400 (.text "Missing prediction id"))
  if ← orRaise (← Process.perform (Op.isMarked delivery.predictionId)) then
    return .webhook "already_processed"
  let found ← Process.perform (Op.interactionOf delivery.predictionId)
  let asset ← Process.perform (Op.assetOf delivery.predictionId)
  match found with
  | none =>
      markPrediction delivery.predictionId
      return .webhook "unknown_prediction"
  | some interaction =>
      let status ← handlePrediction settings delivery interaction asset
      markPrediction delivery.predictionId
      return .webhook status

end

end ColabPlatform.Ai
