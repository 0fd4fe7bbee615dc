import ColabPlatform.Ai.Consent
import ColabPlatform.Foundation.Run
import ColabPlatform.Foundation.Table

/-!
# Consent to a mockup, step by step

`mockup_consent` as a sequence of steps, between which others may do any of theirs, and
`expire_pending_consents`.  The table of consents has the unique index of the schema,
and the update of an approval is held back from all others until its commit.
-/

namespace ColabPlatform.Ai

open Foundation
open Billing (Uuid Timestamp)

/-! ## The table -/

/-- A row, with the start of the transaction that inserted it. -/
structure StoredConsent extends MockupConsent where
  createdAt : Timestamp
  deriving DecidableEq, Repr

namespace StoredConsent

/-- `idx_mockup_consent_collab_active` -/
def activeCollab (row : StoredConsent) : Option Uuid :=
  if row.status = .pendingB ∨ row.status = .approved then some row.collabId else none

def approve (row : StoredConsent) (at_ : Timestamp) : StoredConsent :=
  { row with toMockupConsent := row.toMockupConsent.approve at_ }

/-- What `expire_pending_consents` makes of a row. -/
def expire (row : StoredConsent) (cutoff : Timestamp) : StoredConsent :=
  if row.status = .pendingB ∧ row.createdAt ≤ cutoff then { row with status := .expired } else row

theorem expire_id (row : StoredConsent) (cutoff : Timestamp) :
    (row.expire cutoff).id = row.id := by
  unfold expire
  split <;> rfl

/-- An expired row leaves the index, and the others stay in it. -/
theorem activeCollab_expire (cutoff : Timestamp) (row : StoredConsent) (collabId : Uuid)
    (active : (row.expire cutoff).activeCollab = some collabId) :
    row.activeCollab = some collabId := by
  unfold expire at active
  split at active
  · simp [activeCollab] at active
  · exact active

end StoredConsent

/-- A generation that was put on the queue, and the approval that it comes from. -/
structure StartedGeneration where
  consentId : Uuid
  approvedBy : Uuid
  approvedAt : Timestamp
  task : GenerationTask
  deriving DecidableEq, Repr

structure ConsentWorld where
  now : Timestamp
  consents : Table StoredConsent (fun row => row.id) StoredConsent.activeCollab
  interactions : List AIInteraction
  assets : List MockupAsset
  started : List StartedGeneration

/-! ## Calls -/

structure ConsentRequest where
  collabId : Uuid
  userId : Uuid
  lifespanDays : Nat := 1
  brief : String := ""
  kind : GenerationKind := .image
  deriving DecidableEq, Repr

inductive ConsentFailure where
  | http (status : Nat) (detail : Detail)
  | billing (text : String)
  | database
  /-- raised by `.delay(...)`, after the commit -/
  | broker
  deriving DecidableEq, Repr

/-- The consent that party B has found, and the time of the answer. -/
structure Approval where
  existing : StoredConsent
  at_ : Timestamp
  deriving DecidableEq, Repr

/-- What an approval does next. -/
inductive ApprovalStage where
  | flush
  | entitlement
  | interaction (tier : AiTier)
  | reserve (tier : AiTier) (interaction : AIInteraction)
  /-- the commit of an interaction without credits -/
  | refuse (interaction : AIInteraction)
  | commit (tier : AiTier) (interaction : AIInteraction)
  | enqueue (task : GenerationTask)
  deriving DecidableEq

/-- What a call does next; `begun` is the start of its transaction. -/
inductive ConsentPhase where
  | lookup
  | query
  | decide (existing : Option StoredConsent) (begun : Timestamp)
  | insert (begun at_ : Timestamp)
  | approve (approval : Approval) (stage : ApprovalStage)
  | done (result : Except ConsentFailure Response)

/-- The collaboration of the row that the call has updated and not yet committed. -/
def ConsentPhase.holds : ConsentPhase → Option Uuid
  | .approve _ .flush | .approve _ (.enqueue _) => none
  | .approve approval _ => some approval.existing.collabId
  | _ => none

/-- What the other services and the database do in a step. -/
structure ConsentOutside where
  /-- the status of collab-svc; a success has the participants as its body -/
  participants : HttpReply Unit := .response 200 ()
  db : Bool := true
  /-- the id that the database draws -/
  id : Uuid := ⟨"drawn"⟩
  entitlement : HttpReply (Option String) := .response 200 (some "premium")
  reservation : HttpReply (Option Uuid) := .response 200 (some ⟨"reservation"⟩)
  broker : Bool := true

/-! ## Steps -/

/-- `_get_collab_participants` of a collaboration with the given members -/
def participantsOf (members : List Uuid) : HttpReply Unit → List Uuid
  | .response status () => if isSuccess status then members else []
  | .raised _ => []

/-- `check_entitlement`, with `none` for any error. -/
def entitledTier (reply : HttpReply (Option String)) : Option AiTier :=
  match reply.body with
  | .ok tier => tierOfText (tier.getD "free")
  | .error _ => none

namespace ConsentWorld

def initial : ConsentWorld := ⟨0, .empty, [], [], []⟩

/-- `.scalars().first()` of the open consents of a collaboration -/
def openConsent (w : ConsentWorld) (collabId : Uuid) : Option StoredConsent :=
  w.consents.lookupAlt collabId

/-- The table after the update of party B, unless it violates the index. -/
def approve? (w : ConsentWorld) (approval : Approval) : Option ConsentWorld :=
  (w.consents.update? approval.existing.id fun row => row.approve approval.at_).map
    fun consents => { w with consents }

end ConsentWorld

namespace ConsentRequest

/-- The row that party A inserts. -/
def row (request : ConsentRequest) (id : Uuid) (begun at_ : Timestamp) : StoredConsent :=
  { id
    collabId := request.collabId
    requestedBy := request.userId
    partyAConsentedAt := at_
    lifespanDays := request.lifespanDays
    brief := request.brief
    status := .pendingB
    generationKind := request.kind
    expiresConsentAt := at_ + consentExpiryMicros
    createdAt := begun }

variable (settings : AISettings)

/-- The interaction of an approval, before its reservation. -/
def interaction (request : ConsentRequest) (kind : AssetKind) (tier : AiTier) (id : Uuid) :
    AIInteraction :=
  { id
    userId := request.userId
    collabId := some request.collabId
    command := match kind with | .image => .mockupImage | .audio => .mockupAudio
    costCredits := creditCost settings .mockupImage tier
    status := .queued }

end ConsentRequest

section

variable (settings : AISettings)

/-- One step of an approval; `held` when another call holds a row of the collaboration. -/
def approvalStep (outside : ConsentOutside) (held : Bool) (request : ConsentRequest)
    (approval : Approval) : ApprovalStage → ConsentWorld → ConsentPhase × ConsentWorld
  | .flush, w =>
      if held then (.approve approval .flush, w)
      else if outside.db ∧ (w.approve? approval).isSome then (.approve approval .entitlement, w)
      else (.done (.error .database), w)
  | .entitlement, w =>
      match entitledTier outside.entitlement with
      | some tier => (.approve approval (.interaction tier), w)
      | none => (.done (.error (.http 402 (.text "Premium required to generate mockups"))), w)
  | .interaction tier, w =>
      if outside.db then
        (.approve approval (.reserve tier (request.interaction settings
          approval.existing.generationKind.asset tier outside.id)), w)
      else (.done (.error .database), w)
  | .reserve tier interaction, w =>
      match outside.reservation with
      | .response 402 _ =>
          (.approve approval
            (.refuse { interaction with status := .rejectedInsufficientCredits }), w)
      | reply =>
          match reply.body with
          | .ok (some id) =>
              (.approve approval
                (.commit tier { interaction with billingReservationId := some id }), w)
          | .ok none => (.done (.error (.billing "'reservation_id'")), w)
          | .error text => (.done (.error (.billing text)), w)
  | .refuse interaction, w =>
      if outside.db then
        match w.approve? approval with
        | some w' =>
            -- the update of party B is committed with the interaction
            (.done (.error (.http 402 (.text "Insufficient credits to generate mockup"))),
              { w' with interactions := interaction :: w.interactions })
        | none => (.done (.error .database), w)
      else (.done (.error .database), w)
  | .commit tier interaction, w =>
      let kind := approval.existing.generationKind.asset
      if outside.db then
        match w.approve? approval with
        | some w' =>
            (.approve approval (.enqueue
              { interactionId := interaction.id, assetId := outside.id, kind,
                prompt := approval.existing.brief, tier }),
              { w' with
                interactions :=
                  { interaction with mockupAssetId := some outside.id } :: w.interactions
                assets :=
                  { id := outside.id, mockupConsentId := some approval.existing.id,
                    replicatePredictionId := "pending", kind, s3Key := "" } :: w.assets })
        | none => (.done (.error .database), w)
      else (.done (.error .database), w)
  | .enqueue task, w =>
      if outside.broker then
        (.done (.ok (.consentApproved approval.existing.id task.interactionId
            (match task.kind with | .image => 60 | .audio => 45))),
          { w with started :=
              ⟨approval.existing.id, request.userId, approval.at_, task⟩ :: w.started })
      else (.done (.error .broker), w)

variable (members : Uuid → List Uuid)

/-- One step of `mockup_consent` -/
def consentStep (outside : ConsentOutside) (held : Bool) (request : ConsentRequest) :
    ConsentPhase → ConsentWorld → ConsentPhase × ConsentWorld
  | .lookup, w =>
      let participants := participantsOf (members request.collabId) outside.participants
      if participants ≠ [] ∧ request.userId ∉ participants then
        (.done (.error (.http 404 (.text "Collab not found or user not a participant"))), w)
      else (.query, w)
  | .query, w =>
      if outside.db then (.decide (w.openConsent request.collabId) w.now, w)
      else (.done (.error .database), w)
  | .decide none begun, w => (.insert begun w.now, w)
  | .decide (some existing) begun, w =>
      if existing.status = .pendingB ∧ existing.requestedBy ≠ request.userId then
        (.approve ⟨existing, w.now⟩ .flush, w)
      else if existing.requestedBy = request.userId then
        (.done (.error (.http 409 (.conflict "Consent already exists" existing.status))), w)
      else (.insert begun w.now, w)
  | .insert begun at_, w =>
      if held then (.insert begun at_, w)
      else if outside.db then
        match w.consents.insert? (request.row outside.id begun at_) with
        | some consents =>
            (.done (.ok (.consentCreated outside.id "Waiting for your collaborator to consent.")),
              { w with consents })
        | none => (.done (.error .database), w)
      else (.done (.error .database), w)
  | .approve approval stage, w => approvalStep settings outside held request approval stage w
  | .done result, w => (.done result, w)

end

/-! ## Runs -/

structure ConsentCalling where
  request : ConsentRequest
  phase : ConsentPhase := .lookup
  /-- some step of the call has changed the consents -/
  wrote : Bool := false

structure ConsentState where
  world : ConsentWorld
  calls : List ConsentCalling

inductive ConsentEvent where
  | begin (request : ConsentRequest)
  | advance (index : Nat) (outside : ConsentOutside)
  /-- `expire_pending_consents`, which read the clock for its cutoff -/
  | expire (cutoff : Timestamp)
  | tick (time : Nat)

namespace ConsentState

def initial : ConsentState := ⟨.initial, []⟩

/-- Some call has updated a row of the collaboration and not yet committed. -/
def held (s : ConsentState) (collabId : Uuid) : Bool :=
  s.calls.any fun call => call.phase.holds = some collabId

variable (settings : AISettings) (members : Uuid → List Uuid)

/-- One event; the bulk update waits while a call holds a row that it would expire. -/
def step (s : ConsentState) : ConsentEvent → ConsentState
  | .begin request => { s with calls := s.calls ++ [{ request }] }
  | .advance index outside =>
      match s.calls[index]? with
      | some call =>
          let after := consentStep settings members outside (s.held call.request.collabId)
            call.request call.phase s.world
          { world := after.2
            calls := s.calls.set index
              { call with
                phase := after.1
                wrote := call.wrote || decide (after.2.consents ≠ s.world.consents) } }
      | none => s
  | .expire cutoff =>
      if cutoff ≤ s.world.now - consentExpiryMicros ∧
          s.world.consents.rows.all fun row => row.expire cutoff = row ∨ !s.held row.collabId then
        { s with world := { s.world with
            consents := s.world.consents.modifyAll (fun row => row.expire cutoff)
              (fun row => row.expire_id cutoff) (StoredConsent.activeCollab_expire cutoff) } }
      else s
  | .tick time => { s with world := { s.world with now := s.world.now + time } }

/-- The state after the events of a run. -/
def run (events : List ConsentEvent) : ConsentState := runFrom (step settings members) initial events

end ConsentState

end ColabPlatform.Ai
