import ColabPlatform.Ai.Commands

/-!
# Consent to a mockup

`mockup_consent`: party A asks, party B approves, and the approval reserves the
credits and starts the generation.
-/

namespace ColabPlatform.Ai

open Foundation
open Billing (Uuid Timestamp)

structure ConsentCall where
  collabId : Uuid
  userId : Option Uuid
  lifespanDays : Nat
  brief : String
  kind : GenerationKind
  now : Timestamp

/-- `_get_collab_participants`, where an error gives the empty list -/
def getCollabParticipants (collabId : Uuid) : AiM (List Uuid) := do
  match ← ask (.participants collabId) with
  | .response status participants =>
      if isSuccess status then return participants else return []
  | .raised _ => return []

def GenerationKind.asset : GenerationKind → AssetKind
  | .image => .image
  | .audio | .both => .audio

def consentExpiryMicros : Int := 48 * 3600 * 1000000

/-- Party A creates a new consent. -/
def createConsent (call : ConsentCall) (userId : Uuid) : AiM Response := do
  let id ← draw .consent
  save [.insertConsent
    { id, collabId := call.collabId, requestedBy := userId, partyAConsentedAt := call.now,
      lifespanDays := call.lifespanDays, brief := call.brief, status := .pendingB,
      generationKind := call.kind, expiresConsentAt := call.now + consentExpiryMicros }]
  return .consentCreated id "Waiting for your collaborator to consent."

section

variable (settings : AISettings)

/-- Party B accepts. -/
def approveConsent (call : ConsentCall) (userId : Uuid) (existing : MockupConsent) :
    AiM Response := do
  let entitled ← try checkEntitlement userId catch _ => pure none
  match entitled with
  | none => throw (.http 402 (.text "Premium required to generate mockups"))
  | some tier =>
      let kind := existing.generationKind.asset
      let cost := creditCost settings .mockupImage tier
      let id ← draw .interaction
      let interaction : AIInteraction :=
        { id, userId, collabId := some call.collabId,
          command := (match kind with | .image => .mockupImage | .audio => .mockupAudio),
          costCredits := cost, status := .queued }
      match ← reserveCredits userId cost id with
      | none =>
          save [.approveConsent existing.id call.now,
            .insertInteraction { interaction with status := .rejectedInsufficientCredits }]
          throw (.http 402 (.text "Insufficient credits to generate mockup"))
      | some reservationId =>
          let assetId ← draw .asset
          save [.approveConsent existing.id call.now,
            .insertInteraction { interaction with
              billingReservationId := some reservationId
              mockupAssetId := some assetId },
            .insertAsset
              { id := assetId, mockupConsentId := some existing.id,
                replicatePredictionId := "pending", kind, s3Key := "" }]
          enqueue { interactionId := id, assetId, kind, prompt := existing.brief, tier }
          return .consentApproved existing.id id
            (match kind with | .image => 60 | .audio => 45)

/-- `mockup_consent` -/
def mockupConsent (call : ConsentCall) : AiM Response := do
  let userId ← getUserId call.userId
  let participants ← getCollabParticipants call.collabId
  if participants ≠ [] ∧ userId ∉ participants then
    throw (.http 404 (.text "Collab not found or user not a participant"))
  match ← Process.perform (Op.openConsent call.collabId) with
  | none => createConsent call userId
  | some existing =>
      if existing.status = .pendingB ∧ existing.requestedBy ≠ userId then
        approveConsent settings call userId existing
      else if existing.requestedBy = userId then
        throw (.http 409 (.conflict "Consent already exists" existing.status))
      else
        createConsent call userId

end

end ColabPlatform.Ai
