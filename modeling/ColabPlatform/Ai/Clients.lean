import ColabPlatform.Ai.Model

/-!
# Clients of other services

`billing_client`, `openai_client`, `moderation_client` and `replicate_client`:
which replies they turn into errors, and which they read as a value.
-/

namespace ColabPlatform.Ai

open Foundation
open Billing (Uuid Timestamp)

variable (settings : AISettings)

/-! ## Billing -/

def tierOfText : String → Option AiTier
  | "premium" => some .premium
  | "pro" => some .pro
  | _ => none

/-- `check_entitlement`, with `none` for an `EntitlementError`. -/
def checkEntitlement (userId : Uuid) : AiM (Option AiTier) := do
  match ← ask (.entitlement userId) with
  | .response 404 _ => return none
  | reply => return tierOfText ((← orRaise reply.body).getD "free")

/-- `reserve_credits`, with `none` for an `InsufficientCreditsError`. -/
def reserveCredits (userId : Uuid) (amount : Nat) (referenceId : Uuid) :
    AiM (Option Uuid) := do
  match ← Process.perform (Op.reserve userId amount referenceId) with
  | .response 402 _ => return none
  | reply =>
      match ← orRaise reply.body with
      | some id => return some id
      | none => throw (.raised "'reservation_id'")

def commitReservation (reservationId : Uuid) : AiM Unit := do
  orRaise (← Process.perform (Op.settle reservationId .committed "")).reply.body

/-- An error status is only logged. -/
def releaseReservation (reservationId : Uuid) (reason : String) : AiM Unit := do
  match (← Process.perform (Op.settle reservationId .released reason)).reply with
  | .raised text => throw (.raised text)
  | .response _ _ => return

/-! ## OpenAI -/

/-- The attempts from a given one on, when `left` of them follow it. -/
def completeFrom (attempts : Nat → Attempt) (attempt : Nat) : Nat → Except String Completion
  | 0 =>
      match attempts attempt with
      | .completed completion => .ok completion
      | .retryable text | .raised text => .error text
  | left + 1 =>
      match attempts attempt with
      | .completed completion => .ok completion
      | .retryable _ => completeFrom attempts (attempt + 1) left
      | .raised text => .error text

def chatComplete (messages : List ChatMessage) (model : String) (maxTokens : Nat) :
    AiM Completion := do
  let attempts ← ask (.completions model messages maxTokens)
  orRaise (completeFrom attempts 0 settings.openaiMaxRetries)

def maxScore : List Score → Score
  | [] => 0
  | first :: rest => rest.foldl (fun best score => if best < score then score else best) first

/-- An error passes the text through. -/
def moderateText (text : String) : AiM Score := do
  match ← ask (.moderation text) with
  | .ok scores => return maxScore scores
  | .error _ => return 0

/-! ## Moderation service -/

/-- The score of a scan, 0 after an error; `none` is a body whose score is no number. -/
def scanScore : HttpReply (Option Score) → Option Score
  | .raised _ => some 0
  | .response status score => if isSuccess status then score else some 0

def scanText (text : String) : AiM (Option Score) := do
  return scanScore (← ask (.scanText text))

def scanImage (bytes : List UInt8) : AiM (Option Score) := do
  return scanScore (← ask (.scanImage bytes))

/-- The comparison with a threshold, which raises for what is no number. -/
def reaches (score : Option Score) (threshold : Score) : AiM Bool :=
  match score with
  | none => throw (.raised "TypeError")
  | some score => return decide (threshold ≤ score)

/-! ## Replicate -/

def predictionRequest (kind : AssetKind) (prompt : String) (tier : AiTier) :
    PredictionRequest :=
  match kind, tier with
  | .image, .premium =>
      { model := settings.replicateModelImageBasic, prompt, numInferenceSteps := some 30 }
  | .image, .pro =>
      { model := settings.replicateModelImagePro, prompt, numInferenceSteps := some 50 }
  | .audio, .premium =>
      { model := settings.replicateModelAudioBasic, prompt, duration := some 10 }
  | .audio, .pro =>
      { model := settings.replicateModelAudioPro, prompt, duration := some 20 }

/-- `create_image_prediction` and `create_audio_prediction` -/
def createPrediction (kind : AssetKind) (prompt : String) (tier : AiTier) : AiM String := do
  let reply ← Process.perform (Op.predict (predictionRequest settings kind prompt tier))
  match ← orRaise reply.body with
  | some id => return id
  | none => throw (.raised "'id'")

/-! ## Database -/

def draw (row : RowKind) : AiM Uuid := Process.perform (Op.draw row)

/-- A transaction up to its commit. -/
def save (writes : List Write) : AiM Unit := do
  orRaise (← Process.perform (Op.save writes))

/-! ## Queue -/

/-- `.delay(...)` -/
def enqueue (task : GenerationTask) : AiM Unit := do
  orRaise (← Process.perform (Op.enqueue task))

/-! ## Callers -/

/-- `str(exc)` -/
def Failure.text : Failure → String
  | .raised text => text
  | .http status _ => toString status

/-- The header `X-User-Id`, `none` when it is no UUID. -/
def getUserId : Option Uuid → AiM Uuid
  | some userId => return userId
  | none => throw (.http 401 (.text "Missing or invalid X-User-Id"))

end ColabPlatform.Ai
