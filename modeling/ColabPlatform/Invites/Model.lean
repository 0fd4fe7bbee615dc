import ColabPlatform.Foundation.KeyStore
import ColabPlatform.Foundation.Table
import ColabPlatform.Billing.Model
import ColabPlatform.Common.Ids
import Mathlib.Data.Rat.Floor

/-!
# Invite service: rows, requests and stores

The tables of the schema `invite`, the keys that the service keeps in Redis, the
events that it publishes, and what other services answer.
-/

namespace ColabPlatform.Invites

open Foundation Common
open Billing (Uuid Timestamp AxisValue)

/-! ## Settings -/

structure InviteSettings where
  freeInviteQuotaPerWeek : Int := 5
  inviteTtlDays : Nat := 30
  synopsisFlagThreshold : ℚ := 4 / 10

/-- The settings, and the digest in hex of the standard library. -/
structure InviteService where
  settings : InviteSettings := {}
  sha256 : String → String

/-! ## Rows -/

inductive InviteStatus where
  | pending
  | accepted
  | rejected
  | expired
  | cancelled
  deriving DecidableEq, Repr

def InviteStatus.text : InviteStatus → String
  | .pending => "pending"
  | .accepted => "accepted"
  | .rejected => "rejected"
  | .expired => "expired"
  | .cancelled => "cancelled"

/-- `String(250)` -/
abbrev Synopsis := { text : String // text.length ≤ 250 }

/-- A row of `collab_invite`; `apart` is the check `ck_invite_no_self_invite`. -/
structure CollabInvite where
  id : Uuid
  fromProfileId : Uuid
  toProfileId : Uuid
  synopsis : Synopsis
  status : InviteStatus := .pending
  modCaseId : Option Uuid := none
  createdAt : Timestamp
  respondedAt : Option Timestamp := none
  archiveAt : Timestamp
  idempotencyKey : Option String := none
  apart : fromProfileId ≠ toProfileId
  deriving DecidableEq

namespace CollabInvite

/-- The columns that an answer or the archival sets. -/
def turn (row : CollabInvite) (status : InviteStatus) (at_ : Timestamp) : CollabInvite :=
  { row with status, respondedAt := some at_ }

/-- The invite is from the first profile to the second. -/
def between (row : CollabInvite) (sender recipient : Uuid) : Bool :=
  row.fromProfileId = sender ∧ row.toProfileId = recipient

@[simp] theorem id_turn (row : CollabInvite) (status : InviteStatus) (at_ : Timestamp) :
    (row.turn status at_).id = row.id := rfl

@[simp] theorem status_turn (row : CollabInvite) (status : InviteStatus) (at_ : Timestamp) :
    (row.turn status at_).status = status := rfl

@[simp] theorem between_turn (row : CollabInvite) (status : InviteStatus) (at_ : Timestamp)
    (sender recipient : Uuid) :
    (row.turn status at_).between sender recipient = row.between sender recipient := rfl

end CollabInvite

inductive BlockReason where
  | harassment
  | spam
  | inappropriateContent
  | other
  deriving DecidableEq, Repr

/-- A row of `block`; `apart` is the check `ck_block_no_self_block`. -/
structure Block where
  blockerId : Uuid
  blockedId : Uuid
  createdAt : Timestamp
  reason : Option BlockReason := none
  apart : blockerId ≠ blockedId
  deriving DecidableEq

def Block.key (row : Block) : Uuid × Uuid := (row.blockerId, row.blockedId)

/-! ## Requests and responses -/

/-- A request to send an invite, and the id that is drawn for the invite. -/
structure Sending where
  fromProfileId : Uuid
  toProfileId : Uuid
  synopsis : Synopsis
  /-- `X-Idempotency-Key` -/
  clientKey : Option String := none
  /-- `probe_invite_id` -/
  inviteId : Uuid
  deriving DecidableEq

structure SendInviteResponse where
  inviteId : Uuid
  status : InviteStatus
  quotaRemaining : Int
  archiveAt : Timestamp
  deriving DecidableEq

/-- The detail of an HTTP error. -/
inductive Detail where
  | text (detail : String)
  | blocked
  | quotaExceeded (quotaRemaining : Int) (upsell : Bool)
  | synopsisFlagged (reason : String)
  deriving DecidableEq, Repr

inductive Failure where
  | http (status : Nat) (detail : Detail)
  /-- `scalar_one_or_none()` of several rows -/
  | multipleResultsFound
  /-- an error of a store, or of the scan's reply -/
  | raised
  deriving DecidableEq, Repr

/-! ## Events -/

inductive InviteEvent where
  | inviteSent (inviteId fromProfileId toProfileId : Uuid)
  | inviteAnswered (status : InviteStatus) (inviteId fromProfileId toProfileId : Uuid)
  | matchCreated (profileAId profileBId inviteAId inviteBId : Uuid)
  | blockCreated (blockerId blockedId : Uuid)
  | blockRemoved (blockerId blockedId : Uuid)
  deriving DecidableEq, Repr

/-- `emit_match_created`, with the profiles in the order of their texts -/
def matchCreated (profileAId profileBId inviteAId inviteBId : Uuid) : InviteEvent :=
  if profileBId.text < profileAId.text then
    .matchCreated profileBId profileAId inviteBId inviteAId
  else .matchCreated profileAId profileBId inviteAId inviteBId

/-! ## What other services answer -/

/-- `GET /internal/entitlements/{user_id}`; the axis may be null or missing. -/
inductive EntitlementReply where
  | raised
  | response (status : Nat) (invitesPerWeek : Option AxisValue)
  deriving DecidableEq, Repr

/-- `POST /internal/scan/text`; the score with its default 0, `none` if it is no number. -/
inductive ScanReply where
  /-- a timeout or an error of the request -/
  | failed
  | scanned (score : Option ℚ) (breakdown : List (String × Option ℚ))
      (decision : Option String) (caseId : IdField)

/-- What the outside does in one step of a call. -/
structure Outside where
  /-- the statement or the commit is carried out -/
  db : Bool := true
  /-- the command of Redis is carried out -/
  redis : Bool := true
  published : Bool := true
  entitlement : EntitlementReply := .raised
  scan : ScanReply := .failed
  /-- the order in which the plan of a query finds the rows -/
  rank : Uuid → Nat := fun _ => 0

/-! ## The stores -/

/-- A member of the sorted set `invite:quota:{user_id}`, scored in milliseconds. -/
structure QuotaEntry where
  member : Uuid
  score : Int
  deriving DecidableEq, Repr

structure World where
  now : Timestamp
  invites : Table CollabInvite CollabInvite.id CollabInvite.idempotencyKey
  blocks : Table Block Block.key (noAlt Block)
  /-- `invite:quota:{user_id}` -/
  windows : KeyStore Uuid (List QuotaEntry)
  /-- `entitlement:{user_id}:invites_per_week` -/
  limits : KeyStore Uuid String
  /-- `idem:invite:{idem_key}` -/
  responses : KeyStore String SendInviteResponse
  published : List InviteEvent

namespace World

def initial : World :=
  { now := 0, invites := .empty, blocks := .empty, windows := .empty, limits := .empty,
    responses := .empty, published := [] }

/-- `_is_blocked` -/
def isBlocked (w : World) (profileA profileB : Uuid) : Bool :=
  w.blocks.rows.any fun row =>
    row.blockerId = profileA ∧ row.blockedId = profileB ∨
      row.blockerId = profileB ∧ row.blockedId = profileA

/-- The invites from a profile to another one that are accepted. -/
def acceptedFrom (w : World) (sender recipient : Uuid) : List CollabInvite :=
  w.invites.rows.filter fun row => row.between sender recipient ∧ row.status = .accepted

def publish (w : World) (event : InviteEvent) : World :=
  { w with published := event :: w.published }

end World

end ColabPlatform.Invites
