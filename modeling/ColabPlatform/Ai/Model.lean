import ColabPlatform.Foundation.Process
import ColabPlatform.Billing.Model
import Mathlib.Data.Rat.Floor

/-!
# AI orchestrator: rows, calls and the world

The rows of the schema `ai`, the operations that the requests, the Celery tasks
and the webhook call, and what each does to the world.  A transaction is one
operation, its commit; the id that a flush brings back is drawn before.  The
answers of other services are chosen by the environment, except that the ids
which the database, the billing service and Replicate give out are new.
-/

namespace ColabPlatform.Ai

open Foundation
open Billing (Uuid Timestamp)

/-! ## Settings -/

/-- Scores and thresholds of moderation are between 0 and 1. -/
abbrev Score := ℚ

structure AISettings where
  openaiModelText : String := "gpt-4.1"
  openaiModelPalette : String := "gpt-4.1-mini"
  openaiMaxRetries : Nat := 2
  replicateModelImageBasic : String := "stability-ai/sdxl"
  replicateModelImagePro : String := "black-forest-labs/flux-1.1-pro"
  replicateModelAudioBasic : String := "meta/musicgen"
  replicateModelAudioPro : String := "stability-ai/stable-audio"
  commandRatePerMinute : Nat := 10
  creditMockupImageBasic : Nat := 20
  creditMockupImagePro : Nat := 50
  creditMockupAudioBasic : Nat := 15
  creditMockupAudioPro : Nat := 40
  creditSummarizeChat : Nat := 5
  creditBrainstorm : Nat := 5
  creditPalette : Nat := 2
  moderationBlockThreshold : Score := 7 / 10
  moderationPreGenThreshold : Score := 4 / 10

/-! ## Rows -/

inductive Command where
  | summarizeChat
  | brainstorm
  | palette
  | mockupImage
  | mockupAudio
  deriving DecidableEq, Repr

/-- The tiers that may use the commands. -/
inductive AiTier where
  | premium
  | pro
  deriving DecidableEq, Repr

inductive AssetKind where
  | image
  | audio
  deriving DecidableEq, Repr

inductive GenerationKind where
  | image
  | audio
  | both
  deriving DecidableEq, Repr

inductive ConsentStatus where
  | pendingB
  | approved
  | rejected
  | expired
  | generated
  deriving DecidableEq, Repr

inductive ModerationStatus where
  | passed
  | blocked
  deriving DecidableEq, Repr

inductive InteractionStatus where
  | queued
  | processing
  | completed
  | failed
  | moderationBlocked
  | refunded
  | rejectedInsufficientCredits
  deriving DecidableEq, Repr

structure MockupConsent where
  id : Uuid
  collabId : Uuid
  requestedBy : Uuid
  partyAConsentedAt : Timestamp
  partyBConsentedAt : Option Timestamp := none
  lifespanDays : Nat
  brief : String
  status : ConsentStatus
  generationKind : GenerationKind
  expiresConsentAt : Timestamp
  deriving DecidableEq, Repr

structure MockupAsset where
  id : Uuid
  mockupConsentId : Option Uuid := none
  replicatePredictionId : String
  kind : AssetKind
  s3Key : String
  moderationScore : Option Score := none
  moderationStatus : Option ModerationStatus := none
  generatedAt : Option Timestamp := none
  expiresAt : Option Timestamp := none
  active : Bool := true
  fileSizeBytes : Option Nat := none
  deriving DecidableEq

structure AIInteraction where
  id : Uuid
  userId : Uuid
  collabId : Option Uuid := none
  roomId : Option Uuid := none
  command : Command
  inputTokens : Option Nat := none
  outputTokens : Option Nat := none
  costCredits : Nat
  replicatePredictionId : Option String := none
  mockupAssetId : Option Uuid := none
  billingReservationId : Option Uuid := none
  status : InteractionStatus
  failureReason : Option String := none
  completedAt : Option Timestamp := none
  deriving DecidableEq

/-! ### The columns that an `UPDATE` sets -/

structure InteractionChange where
  inputTokens : Option Nat := none
  outputTokens : Option Nat := none
  replicatePredictionId : Option String := none
  mockupAssetId : Option Uuid := none
  status : Option InteractionStatus := none
  failureReason : Option (Option String) := none
  completedAt : Option Timestamp := none

def AIInteraction.set (row : AIInteraction) (change : InteractionChange) : AIInteraction :=
  { row with
    inputTokens := change.inputTokens.or row.inputTokens
    outputTokens := change.outputTokens.or row.outputTokens
    replicatePredictionId := change.replicatePredictionId.or row.replicatePredictionId
    mockupAssetId := change.mockupAssetId.or row.mockupAssetId
    status := change.status.getD row.status
    failureReason := change.failureReason.getD row.failureReason
    completedAt := change.completedAt.or row.completedAt }

structure AssetChange where
  replicatePredictionId : Option String := none
  s3Key : Option String := none
  moderationScore : Option Score := none
  moderationStatus : Option ModerationStatus := none
  generatedAt : Option Timestamp := none
  expiresAt : Option Timestamp := none
  active : Option Bool := none
  fileSizeBytes : Option Nat := none

def MockupAsset.set (row : MockupAsset) (change : AssetChange) : MockupAsset :=
  { row with
    replicatePredictionId := change.replicatePredictionId.getD row.replicatePredictionId
    s3Key := change.s3Key.getD row.s3Key
    moderationScore := change.moderationScore.or row.moderationScore
    moderationStatus := change.moderationStatus.or row.moderationStatus
    generatedAt := change.generatedAt.or row.generatedAt
    expiresAt := change.expiresAt.or row.expiresAt
    active := change.active.getD row.active
    fileSizeBytes := change.fileSizeBytes.or row.fileSizeBytes }

def MockupConsent.approve (row : MockupConsent) (now : Timestamp) : MockupConsent :=
  { row with partyBConsentedAt := some now, status := .approved }

inductive Write where
  | insertInteraction (row : AIInteraction)
  | updateInteraction (id : Uuid) (change : InteractionChange)
  | insertAsset (row : MockupAsset)
  | updateAsset (id : Uuid) (change : AssetChange)
  | insertConsent (row : MockupConsent)
  | approveConsent (id : Uuid) (now : Timestamp)

/-! ## What the operations ask and answer -/

/-- The outcome of an HTTP request to another service. -/
inductive HttpReply (β : Type) where
  | raised (text : String)
  | response (status : Nat) (body : β)

structure ChatMessage where
  role : String
  content : String
  deriving DecidableEq, Repr

/-- A message as chat-svc returns it. -/
structure RoomMessage where
  messageType : String := "text"
  senderDisplayName : String := "User"
  body : String := ""
  deriving DecidableEq, Repr

structure Completion where
  content : String
  inputTokens : Nat
  outputTokens : Nat
  deriving DecidableEq, Repr

/-- One attempt at a completion: an error that is tried again, or another one. -/
inductive Attempt where
  | completed (completion : Completion)
  | retryable (text : String)
  | raised (text : String)

/-- Calls to other services after which the world is as before. -/
inductive Question where
  | countCall (userId : Uuid)
  | entitlement (userId : Uuid)
  | participants (collabId : Uuid)
  | moderation (text : String)
  | messages (roomId : Uuid) (limit : Nat)
  | vocations (userId : Uuid)
  | completions (model : String) (messages : List ChatMessage) (maxTokens : Nat)
  | scanText (text : String)
  | scanImage (bytes : List UInt8)
  | fileCase (subjectId : Uuid)
  | download (url : Option String)
  | watermark (kind : AssetKind) (bytes : List UInt8)
  | upload (key contentType : String) (bytes : List UInt8)

/-- A score in a reply is `none` when it is no number. -/
abbrev Question.Answer : Question → Type
  | .countCall _ => Except String Nat
  | .entitlement _ => HttpReply (Option String)
  | .participants _ => HttpReply (List Uuid)
  | .moderation _ => Except String (List Score)
  | .messages .. => HttpReply (List RoomMessage)
  | .vocations _ => HttpReply (List String)
  | .completions .. => Nat → Attempt
  | .scanText _ => HttpReply (Option Score)
  | .scanImage _ => HttpReply (Option Score)
  | .fileCase _ => Unit
  | .download _ => HttpReply (List UInt8)
  | .watermark .. => Except String (List UInt8)
  | .upload .. => Except String Unit

inductive RowKind where
  | interaction
  | asset
  | consent
  deriving DecidableEq, Repr

/-- What becomes of a reservation. -/
inductive Settlement where
  | committed
  | released
  deriving DecidableEq, Repr

/-- The reply of billing-svc, and whether the call was carried out when none came. -/
structure BillingReply where
  reply : HttpReply Unit
  reached : Bool := false

/-- A message of the queue of `generation_tasks`, with the retries before it. -/
structure GenerationTask where
  interactionId : Uuid
  assetId : Uuid
  kind : AssetKind
  prompt : String
  tier : AiTier
  retries : Nat := 0
  deriving DecidableEq, Repr

structure PredictionRequest where
  model : String
  prompt : String
  numInferenceSteps : Option Nat := none
  duration : Option Nat := none
  deriving DecidableEq, Repr

inductive Op where
  | ask (question : Question)
  | draw (row : RowKind)
  | reserve (userId : Uuid) (amount : Nat) (referenceId : Uuid)
  | settle (reservationId : Uuid) (settlement : Settlement) (reason : String)
  | save (writes : List Write)
  | enqueue (task : GenerationTask)
  | predict (request : PredictionRequest)
  | isMarked (predictionId : String)
  | mark (predictionId : String)
  | interactionOf (predictionId : String)
  | assetOf (predictionId : String)
  | consent (id : Uuid)
  | openConsent (collabId : Uuid)

/-- The body of a reply is `none` when the field that is read is missing. -/
abbrev Op.Reply : Op → Type
  | .ask question => question.Answer
  | .draw _ => Uuid
  | .reserve .. => HttpReply (Option Uuid)
  | .settle .. => BillingReply
  | .save _ => Except String Unit
  | .enqueue _ => Except String Unit
  | .predict _ => HttpReply (Option String)
  | .isMarked _ => Except String Bool
  | .mark _ => Except String Unit
  | .interactionOf _ => Option AIInteraction
  | .assetOf _ => Option MockupAsset
  | .consent _ => Option MockupConsent
  | .openConsent _ => Option MockupConsent

/-! ## Responses and errors -/

structure AIPaletteColor where
  name : String
  hex : String
  usageNote : String
  deriving DecidableEq, Repr

/-- What a request, a delivery or a task returns. -/
inductive Response where
  | text (interactionId : Uuid) (command : Command) (body : String)
      (inputTokens outputTokens : Option Nat) (creditsCharged : Nat)
  | palette (interactionId : Uuid) (colors : List AIPaletteColor) (creditsCharged : Nat)
  | queued (interactionId assetId : Uuid) (estimatedSeconds : Nat)
  | consentApproved (consentId interactionId : Uuid) (estimatedSeconds : Nat)
  | consentCreated (consentId : Uuid) (message : String)
  | webhook (status : String)
  | nothing
  deriving DecidableEq, Repr

/-- The detail of an HTTP error: a text, or the upsell of a 402. -/
inductive Detail where
  | text (detail : String)
  | insufficientCredits (upsellTier ctaUrl : String)
  | conflict (message : String) (status : ConsentStatus)
  deriving DecidableEq, Repr

inductive Failure where
  | http (status : Nat) (detail : Detail)
  | raised (text : String)
  deriving DecidableEq, Repr

abbrev AiM := Process Op.Reply Failure

def ask (question : Question) : AiM question.Answer := Process.perform (Op.ask question)

/-- `response.is_success` -/
def isSuccess (status : Nat) : Bool := 200 ≤ status ∧ status < 300

/-- The body after `raise_for_status()`. -/
def HttpReply.body {β : Type} : HttpReply β → Except String β
  | .raised text => .error text
  | .response status body => if isSuccess status then .ok body else .error (toString status)

def BillingReply.carriedOut (answer : BillingReply) : Bool :=
  match answer.reply with
  | .raised _ => answer.reached
  | .response status _ => isSuccess status

/-- Raise the error of a call, if it has one. -/
def orRaise {β : Type} : Except String β → AiM β
  | .ok value => return value
  | .error text => throw (.raised text)

/-! ## The world -/

structure World where
  interactions : Table AIInteraction AIInteraction.id (noAlt AIInteraction)
  assets : Table MockupAsset MockupAsset.id fun asset => some asset.replicatePredictionId
  consents : Table MockupConsent MockupConsent.id (noAlt MockupConsent)
  /-- the ids of interactions, assets and consents that the database has drawn -/
  drawn : List (RowKind × Uuid)
  /-- the ids drawn for assets, with the interaction of the request -/
  assetOwners : List (Uuid × Uuid)
  /-- the reservations that billing-svc has returned, with the interaction they are for -/
  reservations : List (Uuid × Uuid)
  /-- the commits and releases that billing-svc has carried out -/
  settlements : List (Uuid × Settlement)
  /-- the predictions that Replicate has started, with the interaction they are for -/
  predictions : List (String × Uuid)
  /-- the predictions `replicate:{id}` whose key is set -/
  marked : List String
  tasks : List GenerationTask
  /-- what was returned to callers of requests for an interaction -/
  responses : List (Uuid × Response)

namespace World

def initial : World :=
  { interactions := .empty, assets := .empty, consents := .empty, drawn := [],
    assetOwners := [], reservations := [], settlements := [], predictions := [],
    marked := [], tasks := [], responses := [] }

def apply (w : World) : Write → Option World
  | .insertInteraction row =>
      (w.interactions.insert? row).map fun table => { w with interactions := table }
  | .updateInteraction id change =>
      some { w with interactions := w.interactions.modify id fun row => row.set change }
  | .insertAsset row => (w.assets.insert? row).map fun table => { w with assets := table }
  | .updateAsset id change =>
      (w.assets.update? id fun row => row.set change).map fun table =>
        { w with assets := table }
  | .insertConsent row =>
      (w.consents.insert? row).map fun table => { w with consents := table }
  | .approveConsent id now =>
      some { w with consents := w.consents.modify id fun row => row.approve now }

/-- The writes of a transaction; `none` is a unique violation. -/
def applyAll (w : World) : List Write → Option World
  | [] => some w
  | first :: rest => (w.apply first).bind fun w' => w'.applyAll rest

/-- `.scalars().first()` of the interactions with a prediction id. -/
def interactionOf (w : World) (predictionId : String) : Option AIInteraction :=
  w.interactions.rows.find? fun row => row.replicatePredictionId = some predictionId

def openConsent (w : World) (collabId : Uuid) : Option MockupConsent :=
  w.consents.rows.find? fun row =>
    row.collabId = collabId ∧ (row.status = .pendingB ∨ row.status = .approved)

/--
The reply of an operation and the world after it, when it is called for the
interaction `subject` and the environment answers with `answer`.  There is no
such reply when an id in the answer is not new.
-/
def perform (w : World) (subject : Option Uuid) :
    (op : Op) → op.Reply → Option (op.Reply × World)
  | .ask _, answer => some (answer, w)
  | .draw kind, id =>
      if id ∈ w.drawn.map Prod.snd then none
      else some (id, { w with
        drawn := (kind, id) :: w.drawn
        assetOwners := match kind, subject with
          | .asset, some owner => (id, owner) :: w.assetOwners
          | _, _ => w.assetOwners })
  | .reserve _ _ reference, answer =>
      match answer.body with
      | .ok (some id) =>
          if id ∈ w.reservations.map Prod.fst then none
          else some (answer, { w with reservations := (id, reference) :: w.reservations })
      | _ => some (answer, w)
  | .settle id settlement _, answer =>
      some (answer, if answer.carriedOut
        then { w with settlements := (id, settlement) :: w.settlements } else w)
  | .save writes, answer =>
      match answer with
      | .error text => some (.error text, w)
      | .ok () =>
          match w.applyAll writes with
          | none => some (.error "UniqueViolation", w)
          | some w' => some (.ok (), w')
  | .enqueue task, answer =>
      match answer with
      | .error text => some (.error text, w)
      | .ok () => some (.ok (), { w with tasks := w.tasks ++ [task] })
  | .predict _, answer =>
      match answer.body, subject with
      | .ok (some id), some interaction =>
          if id ∈ w.predictions.map Prod.fst ∨ id ∈ w.marked then none
          else some (answer, { w with predictions := (id, interaction) :: w.predictions })
      | _, _ => some (answer, w)
  | .isMarked id, answer =>
      match answer with
      | .error text => some (.error text, w)
      | .ok _ => some (.ok (decide (id ∈ w.marked)), w)
  | .mark id, answer =>
      match answer with
      | .error text => some (.error text, w)
      | .ok () => some (.ok (), { w with marked := id :: w.marked })
  | .interactionOf id, _ => some (w.interactionOf id, w)
  | .assetOf id, _ => some (w.assets.lookupAlt id, w)
  | .consent id, _ => some (w.consents.lookup id, w)
  | .openConsent collabId, _ => some (w.openConsent collabId, w)

end World

/-! ## What an operation does -/

/-- The operation has found the key of the prediction set, or has set it. -/
def Op.tells (predictionId : String) : (op : Op) → op.Reply → Bool
  | .isMarked id, .ok true => id = predictionId
  | .mark id, .ok () => id = predictionId
  | _, _ => false

namespace World

/-- How the world is after an operation, as far as the operation has changed it. -/
inductive Effect (w : World) : (op : Op) → op.Reply → World → Prop
  | unchanged {op : Op} {reply : op.Reply} (silent : ∀ p, op.tells p reply = false) :
      Effect w op reply w
  | seen (id : String) (known : Bool) (so : known = decide (id ∈ w.marked)) :
      Effect w (.isMarked id) (.ok known) w
  | drawn (kind : RowKind) (id : Uuid) (owners : List (Uuid × Uuid))
      (kept : ∀ owner ∈ w.assetOwners, owner ∈ owners) :
      Effect w (.draw kind) id
        { w with drawn := (kind, id) :: w.drawn, assetOwners := owners }
  | reserved {reply : HttpReply (Option Uuid)} (userId : Uuid) (amount : Nat)
      (reference id : Uuid) (body : reply.body = .ok (some id)) :
      Effect w (.reserve userId amount reference) reply
        { w with reservations := (id, reference) :: w.reservations }
  | settled {reply : BillingReply} (id : Uuid) (settlement : Settlement) (reason : String) :
      Effect w (.settle id settlement reason) reply
        { w with settlements := (id, settlement) :: w.settlements }
  | saved {writes : List Write} {w' : World} (stored : w.applyAll writes = some w') :
      Effect w (.save writes) (.ok ()) w'
  | enqueued (task : GenerationTask) :
      Effect w (.enqueue task) (.ok ()) { w with tasks := w.tasks ++ [task] }
  | predicted {request : PredictionRequest} {reply : HttpReply (Option String)} (id : String)
      (owner : Uuid) (fresh : id ∉ w.marked) :
      Effect w (.predict request) reply { w with predictions := (id, owner) :: w.predictions }
  | marked (id : String) :
      Effect w (.mark id) (.ok ()) { w with marked := id :: w.marked }

theorem effect_of_perform {w w' : World} {subject : Option Uuid} {op : Op}
    {answer reply : op.Reply} (performed : w.perform subject op answer = some (reply, w')) :
    w.Effect op reply w' := by
  unfold perform at performed
  cases op <;> dsimp only at performed
  case ask | interactionOf | assetOf | consent | openConsent =>
    obtain ⟨rfl, rfl⟩ := Prod.mk.inj (Option.some.inj performed)
    exact .unchanged fun p => rfl
  case draw kind =>
    split at performed
    · cases performed
    · obtain ⟨rfl, rfl⟩ := Prod.mk.inj (Option.some.inj performed)
      refine .drawn kind answer _ fun owner mem => ?_
      split
      · exact List.mem_cons_of_mem _ mem
      · exact mem
  case reserve userId amount reference =>
    split at performed
    · rename_i id body
      split at performed
      · cases performed
      · obtain ⟨rfl, rfl⟩ := Prod.mk.inj (Option.some.inj performed)
        exact .reserved userId amount reference id body
    · obtain ⟨rfl, rfl⟩ := Prod.mk.inj (Option.some.inj performed)
      exact .unchanged fun p => rfl
  case settle id settlement reason =>
    obtain ⟨rfl, rfl⟩ := Prod.mk.inj (Option.some.inj performed)
    split
    · exact .settled id settlement reason
    · exact .unchanged fun p => rfl
  case save writes =>
    split at performed
    · obtain ⟨rfl, rfl⟩ := Prod.mk.inj (Option.some.inj performed)
      exact .unchanged fun p => rfl
    · split at performed
      · obtain ⟨rfl, rfl⟩ := Prod.mk.inj (Option.some.inj performed)
        exact .unchanged fun p => rfl
      · rename_i after stored
        obtain ⟨rfl, rfl⟩ := Prod.mk.inj (Option.some.inj performed)
        exact .saved stored
  case enqueue task =>
    split at performed
    · obtain ⟨rfl, rfl⟩ := Prod.mk.inj (Option.some.inj performed)
      exact .unchanged fun p => rfl
    · obtain ⟨rfl, rfl⟩ := Prod.mk.inj (Option.some.inj performed)
      exact .enqueued task
  case predict request =>
    split at performed
    · rename_i id owner _
      split at performed
      · cases performed
      · rename_i fresh
        obtain ⟨rfl, rfl⟩ := Prod.mk.inj (Option.some.inj performed)
        exact .predicted id owner fun marked => fresh (Or.inr marked)
    · obtain ⟨rfl, rfl⟩ := Prod.mk.inj (Option.some.inj performed)
      exact .unchanged fun p => rfl
  case isMarked id =>
    split at performed
    · obtain ⟨rfl, rfl⟩ := Prod.mk.inj (Option.some.inj performed)
      exact .unchanged fun p => rfl
    · obtain ⟨rfl, rfl⟩ := Prod.mk.inj (Option.some.inj performed)
      exact .seen id _ rfl
  case mark id =>
    split at performed
    · obtain ⟨rfl, rfl⟩ := Prod.mk.inj (Option.some.inj performed)
      exact .unchanged fun p => rfl
    · obtain ⟨rfl, rfl⟩ := Prod.mk.inj (Option.some.inj performed)
      exact .marked id

end World

end ColabPlatform.Ai
