import ColabPlatform.Foundation.Broker
import ColabPlatform.Foundation.JsonText
import ColabPlatform.Invites.Model

/-!
# The event bus: what is published and who listens

What the services publish to RabbitMQ, with its exchange, its routing key and its payload, and
the queues that they bind.  No service drains the table `event_outbox`, so the events of
auth-svc and identity-svc are not among what is published.  A payload is spelled out where some
queue is bound for its message.
-/

namespace ColabPlatform.Bus

open Foundation
open Billing (Uuid)
open Invites (InviteEvent)

/-- An exchange, a routing key and a payload. -/
abbrev BusPost := Post String String Json

def jsonText (text : String) : Json := .string text.toList

def jsonObject (members : List (String × Json)) : Json :=
  .object (members.map fun member => (member.1.toList, member.2))

/-! ## invite-svc -/

/-- `_publish` of invite-svc, and `emit_event` of collab-svc and meeting-svc -/
def emitEvent (routingKey : String) (payload : Json) : BusPost :=
  ⟨"colab.events", routingKey, payload⟩

section

variable (now : String) (inviteId fromProfileId toProfileId : Uuid)

/-- The members that the events of an invite share, and when it happened. -/
def inviteMembers (event stamp : String) : List (String × Json) :=
  [("event", jsonText event), ("invite_id", jsonText inviteId.text),
    ("from_profile_id", jsonText fromProfileId.text),
    ("to_profile_id", jsonText toProfileId.text), (stamp, jsonText now)]

def emitInviteSent : BusPost :=
  emitEvent "invite.sent"
    (jsonObject (inviteMembers now inviteId fromProfileId toProfileId "invite.sent" "sent_at"))

def emitInviteAccepted : BusPost :=
  emitEvent "invite.accepted"
    (jsonObject
      (inviteMembers now inviteId fromProfileId toProfileId "invite.accepted" "accepted_at"))

def emitInviteRejected : BusPost :=
  emitEvent "invite.rejected"
    (jsonObject
      (inviteMembers now inviteId fromProfileId toProfileId "invite.rejected" "rejected_at" ++
        [("silent", .bool true)]))

def emitInviteCancelled : BusPost :=
  emitEvent "invite.cancelled"
    (jsonObject
      (inviteMembers now inviteId fromProfileId toProfileId "invite.cancelled" "cancelled_at"))

/-- The events of `_expire_batch` -/
def inviteExpired : BusPost :=
  emitEvent "invite.expired"
    (jsonObject
      (inviteMembers now inviteId fromProfileId toProfileId "invite.expired" "expired_at"))

end

section

variable (now : String)

def matchMessage (profileAId profileBId inviteAId inviteBId : Uuid) : BusPost :=
  emitEvent "match.created"
    (jsonObject
      [("event", jsonText "match.created"), ("profile_a_id", jsonText profileAId.text),
        ("profile_b_id", jsonText profileBId.text), ("invite_a_id", jsonText inviteAId.text),
        ("invite_b_id", jsonText inviteBId.text), ("matched_at", jsonText now)])

def emitMatchCreated (profileAId profileBId inviteAId inviteBId : Uuid) : BusPost :=
  if profileBId.text < profileAId.text then
    matchMessage now profileBId profileAId inviteBId inviteAId
  else matchMessage now profileAId profileBId inviteAId inviteBId

theorem exchange_emitMatchCreated (profileAId profileBId inviteAId inviteBId : Uuid) :
    (emitMatchCreated now profileAId profileBId inviteAId inviteBId).exchange =
      "colab.events" := by
  unfold emitMatchCreated
  split <;> rfl

theorem key_emitMatchCreated (profileAId profileBId inviteAId inviteBId : Uuid) :
    (emitMatchCreated now profileAId profileBId inviteAId inviteBId).key = "match.created" := by
  unfold emitMatchCreated
  split <;> rfl

/-- The payload of `profile.blocked` -/
def blockMembers (blockerId blockedId : Uuid) : List (String × Json) :=
  [("blocker_id", jsonText blockerId.text), ("blocked_id", jsonText blockedId.text)]

def emitBlockCreated (blockerId blockedId : Uuid) : List BusPost :=
  [emitEvent "block.created"
      (jsonObject
        ([("event", jsonText "block.created")] ++ blockMembers blockerId blockedId ++
          [("type", jsonText "profile.blocked"),
            ("payload", jsonObject (blockMembers blockerId blockedId)),
            ("created_at", jsonText now)])),
    emitEvent "profile.blocked"
      (jsonObject
        [("type", jsonText "profile.blocked"),
          ("payload", jsonObject (blockMembers blockerId blockedId))])]

def emitBlockRemoved (blockerId blockedId : Uuid) : BusPost :=
  emitEvent "block.removed"
    (jsonObject
      ([("event", jsonText "block.removed")] ++ blockMembers blockerId blockedId ++
        [("removed_at", jsonText now)]))

/-- What invite-svc publishes for an event, one message after the other. -/
def invitePosts : InviteEvent → List BusPost
  | .inviteSent inviteId fromProfileId toProfileId =>
      [emitInviteSent now inviteId fromProfileId toProfileId]
  | .inviteAnswered status inviteId fromProfileId toProfileId =>
      match status with
      | .accepted => [emitInviteAccepted now inviteId fromProfileId toProfileId]
      | .rejected => [emitInviteRejected now inviteId fromProfileId toProfileId]
      | .cancelled => [emitInviteCancelled now inviteId fromProfileId toProfileId]
      | .expired => [inviteExpired now inviteId fromProfileId toProfileId]
      | .pending => []
  | .matchCreated profileAId profileBId inviteAId inviteBId =>
      [emitMatchCreated now profileAId profileBId inviteAId inviteBId]
  | .blockCreated blockerId blockedId => emitBlockCreated now blockerId blockedId
  | .blockRemoved blockerId blockedId => [emitBlockRemoved now blockerId blockedId]

end

/-! ## The other services -/

/-- `collab.nudge_due` of `_send_nudge_async` -/
def nudgeDue (collabId profileIdA profileIdB : Uuid) : BusPost :=
  emitEvent "collab.nudge_due"
    (jsonObject
      [("collab_id", jsonText collabId.text), ("profile_id_a", jsonText profileIdA.text),
        ("profile_id_b", jsonText profileIdB.text)])

/-- `meeting.transcript_ready` of `_process_recall_webhook_async` -/
def transcriptReady (meetingId collabId : Uuid) (scheduledAt : String) : BusPost :=
  emitEvent "meeting.transcript_ready"
    (jsonObject
      [("meeting_id", jsonText meetingId.text), ("collab_id", jsonText collabId.text),
        ("scheduled_at", jsonText scheduledAt)])

/-- The routing keys of the other calls of `emit_event`; no queue is bound for them. -/
def emittedKeys : List String :=
  ["collab.created", "collab.status_changed", "collab.feedback_submitted", "collab.archived",
    "collab.feedback_prompt_due", "collab.export_ready", "task.created", "tasks.rebalanced",
    "task.status_changed", "task.assigned", "task.deleted", "whiteboard.snapshot_saved",
    "whiteboard.export_ready", "meeting.scheduled", "meeting.cancelled", "meeting.bot_failed",
    "meeting.bot_consent_pending"]

/-- The routing keys that billing-svc publishes to the default exchange. -/
def billingKeys : List String :=
  ["entitlement.changed", "credits.granted", "credits.purchased", "subscription.activated",
    "subscription.canceled", "subscription.past_due", "refund.granted"]

/-- `publish_event` and `publish_entitlement_changed` -/
def publishEvent (routingKey : String) (payload : Json) : BusPost := ⟨"", routingKey, payload⟩

/-- `event_name.split(".")[0]` -/
def domainOf (eventName : String) : String :=
  String.ofList (eventName.toList.takeWhile (· ≠ '.'))

/-- `publish` of colab_common, `_emit_sync` of moderation-svc and support-svc, and what chat-svc
and media-svc publish: the exchange is the domain of the event. -/
def publishByDomain (eventName : String) (body : Json) : BusPost :=
  ⟨domainOf eventName, eventName, body⟩

/-- `publish_inapp_banner` -/
def publishInappBanner (userId : String) (body : Json) : BusPost :=
  ⟨"notifications", "notification.inapp." ++ userId, body⟩

/-- What some service publishes at once. -/
inductive Publication where
  | invite (event : InviteEvent) (now : String)
  | nudgeDue (collabId profileIdA profileIdB : Uuid)
  | transcriptReady (meetingId collabId : Uuid) (scheduledAt : String)
  | emit (routingKey : { key : String // key ∈ emittedKeys }) (payload : Json)
  | billing (routingKey : { key : String // key ∈ billingKeys }) (payload : Json)
  | byDomain (eventName : String) (body : Json)
  | inApp (userId : String) (body : Json)

def Publication.posts : Publication → List BusPost
  | invite event now => invitePosts now event
  | nudgeDue collabId profileIdA profileIdB => [Bus.nudgeDue collabId profileIdA profileIdB]
  | transcriptReady meetingId collabId scheduledAt =>
      [Bus.transcriptReady meetingId collabId scheduledAt]
  | emit routingKey payload => [emitEvent routingKey payload]
  | billing routingKey payload => [publishEvent routingKey payload]
  | byDomain eventName body => [publishByDomain eventName body]
  | inApp userId body => [publishInappBanner userId body]

/-! ## Queues -/

inductive Service where
  | chat
  | collab
  | discovery
  | invite
  | matching
  | meeting
  | notification
  | profile
  deriving DecidableEq, Repr

/-- A queue that a consumer declares, with the exchange and the keys that it binds it by. -/
structure Listener where
  queue : String
  exchange : String
  routingKeys : List String
  deriving DecidableEq, Repr

namespace Service

/-- `start_consumer` or `start_consumers` -/
def listeners : Service → List Listener
  | chat =>
      [⟨"chat-svc.match.created", "invite", ["match.created"]⟩,
        ⟨"chat-svc.block.created", "profile", ["block.created"]⟩,
        ⟨"chat-svc.block.removed", "profile", ["block.removed"]⟩]
  | collab =>
      ["match.created", "chat.message.sent", "block.created", "chat.media.scanned",
          "profile.display_name_changed"].map fun key =>
        ⟨"collab-svc." ++ key, "colab.events", [key]⟩
  | discovery =>
      [⟨"discovery-svc.events", "colab.events",
        ["profile.updated", "profile.blocked", "billing.entitlement_changed", "hide_3mo.created",
          "match.score_recomputed"]⟩]
  | invite => [⟨"invite-svc.events", "colab.events", ["entitlement.changed"]⟩]
  | matching =>
      [⟨"matching-svc.events", "colab.events", ["profile.updated", "profile.badge_granted"]⟩]
  | meeting =>
      [⟨"meeting-svc.meeting.transcript_ready", "colab.events", ["meeting.transcript_ready"]⟩]
  | notification =>
      [⟨"notification-svc.inbound", "colab.events",
        ["match.created", "invite.sent", "invite.accepted", "chat.message.sent", "chat.file.sent",
          "ai.mockup_generated", "collab.nudge_due", "collab.status_updated",
          "support.ticket_replied", "marketing.broadcast", "user.created"]⟩]
  | profile =>
      [⟨"profile-svc.events", "colab.events",
        ["user.created", "user.email_verified", "user.deleted", "identity.inquiry_started",
          "identity.verified", "identity.declined", "identity.needs_review", "moderation.cleared",
          "moderation.upheld", "moderation.appeal_upheld"]⟩]

/-- The default exchange binds every queue by its name. -/
def bindings (service : Service) : List (Binding String String String) :=
  service.listeners.flatMap fun listener =>
    ⟨"", listener.queue, listener.queue⟩ ::
      listener.routingKeys.map (⟨listener.exchange, ·, listener.queue⟩)

end Service

end ColabPlatform.Bus
