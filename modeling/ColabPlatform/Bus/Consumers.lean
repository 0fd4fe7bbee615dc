import ColabPlatform.Bus.Publishers
import ColabPlatform.Collabs.Consumers
import ColabPlatform.Notifications.Model

/-!
# The event bus: what arrives

A consumer that expects other fields than are published gives a message back, and one whose
queue is bound to another exchange or by another key never gets it.  The file says which
messages reach a queue at all, what the consumers do with them, and which of them stay in their
queue for ever.
-/

namespace ColabPlatform.Bus

open Foundation Common
open Billing (Uuid)
open Collabs (CollabTables Handling)
open Notifications (NotifEvent NotifTask)

/-! ## notification-svc -/

/-- The payload that a routing key asks for. -/
inductive EventSchema where
  | matchCreated
  | inviteSent
  | inviteAccepted
  | chatMessageSent
  | chatFileSent
  | aiMockupGenerated
  | collabNudgeDue
  | collabStatusUpdated
  | supportTicketReplied
  | marketingBroadcast
  | userCreated
  deriving DecidableEq, Repr

namespace EventSchema

def ofRoutingKey (routingKey : String) : Option EventSchema :=
  [("match.created", matchCreated), ("invite.sent", inviteSent),
    ("invite.accepted", inviteAccepted), ("chat.message.sent", chatMessageSent),
    ("chat.file.sent", chatFileSent), ("ai.mockup_generated", aiMockupGenerated),
    ("collab.nudge_due", collabNudgeDue), ("collab.status_updated", collabStatusUpdated),
    ("support.ticket_replied", supportTicketReplied),
    ("marketing.broadcast", marketingBroadcast), ("user.created", userCreated)].lookup routingKey

/-- The fields without a default. -/
def requiredFields : EventSchema → List String
  | matchCreated =>
      ["match_id", "user_id_a", "user_id_b", "collab_id", "user_a_display_name",
        "user_b_display_name"]
  | inviteSent =>
      ["invite_id", "sender_user_id", "recipient_user_id", "sender_display_name", "synopsis"]
  | inviteAccepted =>
      ["invite_id", "sender_user_id", "acceptor_user_id", "acceptor_display_name", "collab_id"]
  | chatMessageSent =>
      ["collab_id", "message_id", "sender_user_id", "recipient_user_id", "sender_display_name",
        "message_preview"]
  | chatFileSent =>
      ["collab_id", "message_id", "sender_user_id", "recipient_user_id", "sender_display_name",
        "file_name", "file_type", "file_size_bytes"]
  | aiMockupGenerated =>
      ["collab_id", "mockup_id", "user_id_a", "user_id_b", "mockup_type", "consent_set_id",
        "expires_at"]
  | collabNudgeDue =>
      ["collab_id", "user_id_a", "user_id_b", "user_a_display_name", "user_b_display_name",
        "inactive_days", "auto_archive_at", "nudge_cycle_date"]
  | collabStatusUpdated =>
      ["collab_id", "changed_by_user_id", "other_user_id", "other_user_display_name",
        "new_status"]
  | supportTicketReplied =>
      ["ticket_id", "user_id", "ticket_subject", "reply_preview", "replied_by"]
  | marketingBroadcast => ["campaign_id", "title", "body", "segment"]
  | userCreated => ["user_id", "email", "display_name"]

/-- `str(evt.name)` of an id -/
def idOf (data : Json) (name : String) : String :=
  (Collabs.readId data name).elim "" uuidText

def textOf (data : Json) (name : String) : String :=
  ((data.member name.toList).bind (·.text?)).elim "" String.ofList

def event (data : Json) : EventSchema → NotifEvent
  | matchCreated =>
      .matchCreated (idOf data "match_id") (idOf data "user_id_a") (idOf data "user_id_b")
  | inviteSent => .inviteSent (idOf data "recipient_user_id")
  | inviteAccepted => .inviteAccepted (idOf data "sender_user_id")
  | chatMessageSent => .chatMessageSent (idOf data "collab_id") (idOf data "recipient_user_id")
  | chatFileSent => .chatFileSent (idOf data "recipient_user_id")
  | aiMockupGenerated => .aiMockupGenerated (idOf data "user_id_a") (idOf data "user_id_b")
  | collabNudgeDue =>
      .collabNudgeDue (idOf data "collab_id") (idOf data "user_id_a") (idOf data "user_id_b")
        (textOf data "nudge_cycle_date")
  | collabStatusUpdated => .collabStatusUpdated (idOf data "other_user_id")
  | supportTicketReplied => .supportTicketReplied (idOf data "user_id")
  | marketingBroadcast => .marketingBroadcast
  | userCreated => .userCreated (idOf data "user_id")

end EventSchema

/-! ## The consumers -/

/-- What discovery-svc deletes from its cache. -/
inductive CacheEntry where
  | feed (userId : String)
  | recs (userId : String)
  | cap (userId : String)
  deriving DecidableEq, Repr

structure TranscriptMessage where
  collabId : UuidInt
  meetingId : UuidInt
  scheduledAt : UtcTime

/-- What the consumers have done; `elsewhere` belongs to those of chat-svc, invite-svc,
matching-svc and profile-svc. -/
structure Services (ρ : Type) where
  collabs : CollabTables
  queuedTasks : List NotifTask
  seeded : List String
  invalidated : List CacheEntry
  transcripts : List TranscriptMessage
  elsewhere : ρ

/-- What the stores and the other services do while a message is handled. -/
structure Outside where
  handling : Handling
  /-- how many calls of `.delay`, or commands of Redis, are carried out -/
  carriedOut : Nat
  /-- the preferences of a new user are stored, or the message is posted to chat-svc -/
  done : Bool
  /-- of the meeting -/
  scheduledAt : Option UtcTime

/-- The text of a member, `none` if it is missing or empty. -/
def nonEmpty (payload : Json) (name : String) : Option String :=
  ((payload.member name.toList).bind (·.text?)).bind fun text =>
    if text = [] then none else some (String.ofList text)

/-- The entries that `_handle_message` of discovery-svc deletes, in this order. -/
def invalidations (event : Json) : List CacheEntry :=
  let payload := (event.member "payload".toList).getD (.object [])
  match nonEmpty event "type" with
  | some "profile.updated" =>
      match nonEmpty payload "user_id" with
      | some userId =>
          .feed userId ::
            if (payload.member "embedding_changed".toList).any (· matches .bool true) then
              [.recs userId]
            else []
      | none => []
  | some "profile.blocked" =>
      (nonEmpty payload "blocker_id").toList.map .feed ++
        (nonEmpty payload "blocked_id").toList.map .feed
  | some "billing.entitlement_changed" => (nonEmpty payload "user_id").toList.map .cap
  | some "hide_3mo.created" => (nonEmpty payload "user_id").toList.map .feed
  | some "match.score_recomputed" => (nonEmpty payload "viewer_user_id").toList.map .feed
  | _ => []

/-- `_handle_transcript_ready`, up to the post to chat-svc -/
def readTranscript (outside : Outside) (payload : Json) : Option TranscriptMessage := do
  let meetingId ← Collabs.readId payload "meeting_id"
  let collabId ← Collabs.readId payload "collab_id"
  let scheduledAt ←
    match nonEmpty payload "scheduled_at" with
    | some text => fromisoformat text.toList
    | none => outside.scheduledAt
  return { collabId, meetingId, scheduledAt }

abbrev BusMessage := Queued String String String Json

section

variable {ρ : Type} (valid : EventSchema → Json → Bool)
  (others : Outside → BusMessage → ρ → ρ × Verdict)

namespace Services

/-- `message.process(requeue=True)` -/
def requeueing (s : Services ρ) (collabs : Option CollabTables) : Services ρ × Verdict :=
  match collabs with
  | some collabs => ({ s with collabs }, .ack)
  | none => (s, .requeue)

/-- `handle_message` of notification-svc; `valid` is what pydantic checks of the fields that
are there. -/
def handleMessage (s : Services ρ) (outside : Outside) (post : BusPost) : Services ρ × Verdict :=
  let data := (post.body.member "data".toList).getD post.body
  match EventSchema.ofRoutingKey post.key with
  | none => (s, .ack)
  | some schema =>
      if schema.requiredFields.all (fun name => (data.member name.toList).isSome) &&
          valid schema data then
        match schema.event data with
        | .userCreated userId =>
            if outside.done then ({ s with seeded := s.seeded ++ [userId] }, .ack)
            else (s, .requeue)
        | event =>
            let tasks := Notifications.route event
            ({ s with queuedTasks := s.queuedTasks ++ tasks.take outside.carriedOut },
              if tasks.length ≤ outside.carriedOut then .ack else .requeue)
      else (s, .requeue)

/-- The consumer of the queue that the message is in. -/
def handle (outside : Outside) (message : BusMessage) (s : Services ρ) : Services ρ × Verdict :=
  let body := message.post.body
  if message.queue = "collab-svc.match.created" then
    s.requeueing (s.collabs.handleMatchCreated outside.handling body)
  else if message.queue = "collab-svc.block.created" then
    s.requeueing (s.collabs.handleBlockCreated outside.handling body)
  else if message.queue = "notification-svc.inbound" then s.handleMessage valid outside message.post
  else if message.queue = "discovery-svc.events" then
    ({ s with invalidated := s.invalidated ++ (invalidations body).take outside.carriedOut }, .ack)
  else if message.queue = "meeting-svc.meeting.transcript_ready" then
    ({ s with
        transcripts :=
          s.transcripts ++
            if outside.done then (readTranscript outside body).toList else [] }, .ack)
  else
    let (elsewhere, verdict) := others outside message s.elsewhere
    ({ s with elsewhere }, verdict)

end Services

/-! ## Runs -/

inductive BusEvent where
  /-- The consumers of a service declare and bind their queues. -/
  | start (service : Service)
  /-- Some of the messages are published until one fails. -/
  | publish (publication : Publication) (count : Nat)
  | deliver (index : Nat) (outside : Outside) (answered : Bool)

def BusEvent.brokerEvents : BusEvent → List (BrokerEvent String String String Json Outside)
  | start service => service.bindings.map .bind
  | publish publication count => (publication.posts.take count).map .publish
  | deliver index outside answered => [.deliver index outside answered]

def Services.initial (elsewhere : ρ) : Services ρ := ⟨.empty, [], [], [], [], elsewhere⟩

def run (elsewhere : ρ) (events : List BusEvent) :
    Broker String String String Json (Services ρ) :=
  Broker.run (Services.handle valid others) (.initial elsewhere)
    (events.flatMap BusEvent.brokerEvents)

end

/-! ## What a message in a queue is -/

/-- Published in the run. -/
def SentIn (events : List BusEvent) (post : BusPost) : Prop :=
  ∃ publication count, .publish publication count ∈ events ∧ post ∈ publication.posts

def Bound (binding : Binding String String String) : Prop :=
  ∃ service : Service, binding ∈ service.bindings

theorem allowed_brokerEvents (events : List BusEvent) :
    ∀ e ∈ events.flatMap BusEvent.brokerEvents, Broker.Allowed (SentIn events) Bound e := by
  intro e mem
  obtain ⟨event, there, mem⟩ := List.mem_flatMap.1 mem
  cases event with
  | start service =>
      obtain ⟨binding, bound, rfl⟩ := List.mem_map.1 mem
      exact ⟨service, bound⟩
  | publish publication count =>
      obtain ⟨post, sent, rfl⟩ := List.mem_map.1 mem
      exact ⟨publication, count, there, List.mem_of_mem_take sent⟩
  | deliver index outside answered =>
      obtain rfl := List.mem_singleton.1 mem
      trivial

def everyService : List Service :=
  [.chat, .collab, .discovery, .invite, .matching, .meeting, .notification, .profile]

def everyBinding : List (Binding String String String) := everyService.flatMap Service.bindings

theorem bound_iff {binding : Binding String String String} :
    Bound binding ↔ binding ∈ everyBinding := by
  rw [everyBinding, List.mem_flatMap]
  constructor
  · rintro ⟨service, mem⟩
    exact ⟨service, by cases service <;> decide, mem⟩
  · rintro ⟨service, -, mem⟩
    exact ⟨service, mem⟩

/-- No queue is bound to an exchange by a key of the domain that the exchange is named after. -/
theorem exchange_ne_domainOf :
    ∀ binding ∈ everyBinding, binding.exchange ≠ domainOf binding.key := by decide

theorem not_mem_billingKeys : ∀ binding ∈ everyBinding, binding.exchange = "" →
    binding.key ∉ billingKeys := by decide

theorem exchange_ne_notifications :
    ∀ binding ∈ everyBinding, binding.exchange ≠ "notifications" := by decide

/-- The keys that are published with payloads that some queue is bound for, and those of the
other events of an invite or a block. -/
def publishedKeys : List String :=
  ["invite.sent", "invite.accepted", "invite.rejected", "invite.cancelled", "invite.expired",
    "match.created", "block.created", "profile.blocked", "block.removed", "collab.nudge_due",
    "meeting.transcript_ready"]

/-- The queues that messages come into, and by which keys. -/
def channels : List (String × String) :=
  [("collab-svc.match.created", "match.created"), ("collab-svc.block.created", "block.created"),
    ("discovery-svc.events", "profile.blocked"),
    ("meeting-svc.meeting.transcript_ready", "meeting.transcript_ready"),
    ("notification-svc.inbound", "match.created"), ("notification-svc.inbound", "invite.sent"),
    ("notification-svc.inbound", "invite.accepted"),
    ("notification-svc.inbound", "collab.nudge_due")]

theorem mem_channels_of_bound : ∀ binding ∈ everyBinding, binding.exchange = "colab.events" →
    binding.key ∈ publishedKeys ++ emittedKeys → (binding.queue, binding.key) ∈ channels := by
  decide

/-- Where something is published to. -/
inductive Destined (post : BusPost) : Prop where
  | colabEvents (exchange : post.exchange = "colab.events")
      (key : post.key ∈ publishedKeys ++ emittedKeys)
  | default (exchange : post.exchange = "") (key : post.key ∈ billingKeys)
  | domain (exchange : post.exchange = domainOf post.key)
  | notifications (exchange : post.exchange = "notifications")

theorem destined_of_mem_invitePosts {now : String} {event : Invites.InviteEvent} {post : BusPost}
    (mem : post ∈ invitePosts now event) : post.exchange = "colab.events" ∧
      post.key ∈ publishedKeys := by
  cases event with
  | inviteSent inviteId fromProfileId toProfileId =>
      obtain rfl := List.mem_singleton.1 mem
      exact ⟨rfl, by simp [emitInviteSent, emitEvent, publishedKeys]⟩
  | inviteAnswered status inviteId fromProfileId toProfileId =>
      cases status with
      | pending => cases mem
      | accepted | rejected | cancelled | expired =>
          obtain rfl := List.mem_singleton.1 mem
          exact ⟨rfl, by simp [emitInviteAccepted, emitInviteRejected, emitInviteCancelled,
            inviteExpired, emitEvent, publishedKeys]⟩
  | matchCreated profileAId profileBId inviteAId inviteBId =>
      obtain rfl := List.mem_singleton.1 mem
      rw [exchange_emitMatchCreated, key_emitMatchCreated]
      exact ⟨rfl, by simp [publishedKeys]⟩
  | blockCreated blockerId blockedId =>
      simp only [invitePosts, emitBlockCreated, List.mem_cons, List.not_mem_nil, or_false] at mem
      rcases mem with rfl | rfl <;> exact ⟨rfl, by simp [emitEvent, publishedKeys]⟩
  | blockRemoved blockerId blockedId =>
      obtain rfl := List.mem_singleton.1 mem
      exact ⟨rfl, by simp [emitBlockRemoved, emitEvent, publishedKeys]⟩

theorem destined_of_mem_posts {publication : Publication} {post : BusPost}
    (mem : post ∈ publication.posts) : Destined post := by
  cases publication with
  | invite event now =>
      obtain ⟨exchange, key⟩ := destined_of_mem_invitePosts mem
      exact .colabEvents exchange (List.mem_append_left _ key)
  | nudgeDue collabId profileIdA profileIdB =>
      obtain rfl := List.mem_singleton.1 mem
      exact .colabEvents rfl (by simp [Bus.nudgeDue, emitEvent, publishedKeys])
  | transcriptReady meetingId collabId scheduledAt =>
      obtain rfl := List.mem_singleton.1 mem
      exact .colabEvents rfl (by simp [Bus.transcriptReady, emitEvent, publishedKeys])
  | emit routingKey payload =>
      obtain rfl := List.mem_singleton.1 mem
      exact .colabEvents rfl (List.mem_append_right _ routingKey.2)
  | billing routingKey payload =>
      obtain rfl := List.mem_singleton.1 mem
      exact .default rfl routingKey.2
  | byDomain eventName body =>
      obtain rfl := List.mem_singleton.1 mem
      exact .domain rfl
  | inApp userId body =>
      obtain rfl := List.mem_singleton.1 mem
      exact .notifications rfl

/-- What is in a queue was published to `colab.events`, and has come by one of the channels. -/
theorem routable_channel {events : List BusEvent} {message : BusMessage}
    (routable : Broker.Routable (SentIn events) Bound message) :
    message.post.exchange = "colab.events" ∧ (message.queue, message.post.key) ∈ channels := by
  obtain ⟨⟨publication, count, -, mem⟩, bound⟩ := routable
  have binding := bound_iff.1 bound
  cases destined_of_mem_posts mem with
  | colabEvents exchange key =>
      exact ⟨exchange, mem_channels_of_bound _ binding exchange key⟩
  | default exchange key => exact absurd key (not_mem_billingKeys _ binding exchange)
  | domain exchange => exact absurd exchange (exchange_ne_domainOf _ binding)
  | notifications exchange => exact absurd exchange (exchange_ne_notifications _ binding)

section

variable {ρ : Type} {valid : EventSchema → Json → Bool}
  {others : Outside → BusMessage → ρ → ρ × Verdict}

theorem mem_queued_of_published (valid : EventSchema → Json → Bool)
    (others : Outside → BusMessage → ρ → ρ × Verdict) (elsewhere : ρ) {service : Service}
    {publication : Publication} {message : BusMessage} (bound : message.binding ∈ service.bindings)
    (sent : message.post ∈ publication.posts) :
    message ∈ (run valid others elsewhere
      [.start service, .publish publication publication.posts.length]).queued := by
  simp only [run, Broker.run, List.flatMap_cons, List.flatMap_nil, List.append_nil,
    BusEvent.brokerEvents, List.take_length, runFrom_append]
  exact Broker.mem_queued_publishes _ _ (Broker.mem_bindings_binds _ _ (Or.inl bound))
    (Or.inl sent)

/-- A queue can get a message by a routing key exactly if the two are one of the channels:
neither a match nor a block ever comes to chat-svc, no entitlement to invite-svc, nothing to
matching-svc or profile-svc. -/
theorem reached_iff (valid : EventSchema → Json → Bool)
    (others : Outside → BusMessage → ρ → ρ × Verdict) (elsewhere : ρ) (queue routingKey : String) :
    (∃ events, ∃ message ∈ (run valid others elsewhere events).queued,
        message.queue = queue ∧ message.post.key = routingKey) ↔
      (queue, routingKey) ∈ channels := by
  constructor
  · rintro ⟨events, message, mem, rfl, rfl⟩
    have confined : (run valid others elsewhere events).Confined (SentIn events) Bound :=
      Broker.confined_run _ (allowed_brokerEvents events)
    exact (routable_channel (confined.routable message (confined.sublist.subset mem))).2
  · intro channel
    have reached : ∀ (service : Service) (publication : Publication) (post : BusPost),
        (⟨post.exchange, post.key, queue⟩ : Binding String String String) ∈ service.bindings →
        post ∈ publication.posts → post.key = routingKey →
        ∃ events, ∃ message ∈ (run valid others elsewhere events).queued,
          message.queue = queue ∧ message.post.key = routingKey :=
      fun service publication post bound sent keyed =>
        ⟨_, ⟨queue, post⟩, mem_queued_of_published valid others elsewhere bound sent, rfl, keyed⟩
    let id : Uuid := ⟨"id"⟩
    let matched := Publication.invite (.matchCreated id id id id) "now"
    let blocked := Publication.invite (.blockCreated id id) "now"
    let answered := Publication.invite (.inviteAnswered .accepted id id id) "now"
    simp only [channels, List.mem_cons, List.not_mem_nil, or_false, Prod.mk.injEq] at channel
    rcases channel with ⟨rfl, rfl⟩ | ⟨rfl, rfl⟩ | ⟨rfl, rfl⟩ | ⟨rfl, rfl⟩ | ⟨rfl, rfl⟩ | ⟨rfl, rfl⟩ |
      ⟨rfl, rfl⟩ | ⟨rfl, rfl⟩
    · exact reached .collab matched _ (by decide) List.mem_cons_self
        (key_emitMatchCreated _ _ _ _ _)
    · exact reached .collab blocked _ (by decide) List.mem_cons_self rfl
    · exact reached .discovery blocked _ (by decide)
        (List.mem_cons_of_mem _ List.mem_cons_self) rfl
    · exact reached .meeting (.transcriptReady id id "now") _ (by decide) List.mem_cons_self rfl
    · exact reached .notification matched _ (by decide) List.mem_cons_self
        (key_emitMatchCreated _ _ _ _ _)
    · exact reached .notification (.invite (.inviteSent id id id) "now") _ (by decide)
        List.mem_cons_self rfl
    · exact reached .notification answered _ (by decide) List.mem_cons_self rfl
    · exact reached .notification (.nudgeDue id id id) _ (by decide) List.mem_cons_self rfl

end

/-! ## Messages that are given back -/

theorem member_jsonObject (members : List (String × Json)) (name : String) :
    (jsonObject members).member name.toList =
      (members.reverse.find? (·.1 = name)).map (·.2) := by
  simp only [jsonObject, Json.member, ← List.map_reverse, List.find?_map, Option.map_map,
    Function.comp_def, String.toList_inj]

theorem member_jsonObject_eq_none {members : List (String × Json)} {name : String}
    (absent : name ∉ members.map (·.1)) : (jsonObject members).member name.toList = none := by
  rw [member_jsonObject, Option.map_eq_none_iff, List.find?_eq_none]
  intro member mem same
  exact absent (List.mem_map.2 ⟨member, List.mem_reverse.1 mem, by simpa using same⟩)

theorem domainOf_ne_colabEvents (eventName : String) : domainOf eventName ≠ "colab.events" := by
  intro same
  have dot : '.' ∈ (domainOf eventName).toList := by
    rw [same]
    decide
  rw [domainOf, String.toList_ofList] at dot
  have apart := List.all_eq_true.1 List.all_takeWhile _ dot
  simp at apart

/-- What is published to `colab.events`. -/
inductive OnColabEvents (publication : Publication) (post : BusPost) : Prop where
  | invite (event : Invites.InviteEvent) (now : String) (same : publication = .invite event now)
      (mem : post ∈ invitePosts now event)
  | nudgeDue (collabId profileIdA profileIdB : Uuid)
      (same : post = Bus.nudgeDue collabId profileIdA profileIdB)
  | transcriptReady (meetingId collabId : Uuid) (scheduledAt : String)
      (same : post = Bus.transcriptReady meetingId collabId scheduledAt)
  | emitted (key : post.key ∈ emittedKeys)

theorem onColabEvents_of_mem {publication : Publication} {post : BusPost}
    (mem : post ∈ publication.posts) (exchange : post.exchange = "colab.events") :
    OnColabEvents publication post := by
  cases publication with
  | invite event now => exact .invite event now rfl mem
  | nudgeDue collabId profileIdA profileIdB => exact .nudgeDue _ _ _ (List.mem_singleton.1 mem)
  | transcriptReady meetingId collabId scheduledAt =>
      exact .transcriptReady _ _ _ (List.mem_singleton.1 mem)
  | emit routingKey payload =>
      obtain rfl := List.mem_singleton.1 mem
      exact .emitted routingKey.2
  | billing routingKey payload =>
      obtain rfl := List.mem_singleton.1 mem
      simp [publishEvent] at exchange
  | byDomain eventName body =>
      obtain rfl := List.mem_singleton.1 mem
      exact absurd exchange (domainOf_ne_colabEvents eventName)
  | inApp userId body =>
      obtain rfl := List.mem_singleton.1 mem
      simp [publishInappBanner] at exchange

/-- Fields that a consumer asks for and the message of this key does not have. -/
def lacking (routingKey : String) : List String :=
  ([("match.created", ["profile_id_a", "data", "match_id"]),
    ("block.created", ["blocker_profile_id"]), ("invite.sent", ["data", "sender_user_id"]),
    ("invite.accepted", ["data", "sender_user_id"]),
    ("collab.nudge_due", ["data", "user_id_a"])].lookup routingKey).getD []

theorem lacking_emittedKeys : ∀ key ∈ emittedKeys, lacking key = [] := by decide

theorem member_eq_none_of_invite {now : String} {event : Invites.InviteEvent} {post : BusPost}
    (mem : post ∈ invitePosts now event) {name : String} (lacks : name ∈ lacking post.key) :
    post.body.member name.toList = none := by
  cases event with
  | inviteSent inviteId fromProfileId toProfileId =>
      obtain rfl := List.mem_singleton.1 mem
      apply member_jsonObject_eq_none
      have which : name = "data" ∨ name = "sender_user_id" := by
        simpa [emitInviteSent, emitEvent, lacking, List.lookup_cons] using lacks
      rcases which with rfl | rfl <;> simp [inviteMembers]
  | inviteAnswered status inviteId fromProfileId toProfileId =>
      cases status with
      | pending => cases mem
      | accepted =>
          obtain rfl := List.mem_singleton.1 mem
          apply member_jsonObject_eq_none
          have which : name = "data" ∨ name = "sender_user_id" := by
            simpa [emitInviteAccepted, emitEvent, lacking, List.lookup_cons] using lacks
          rcases which with rfl | rfl <;> simp [inviteMembers]
      | rejected | cancelled | expired =>
          obtain rfl := List.mem_singleton.1 mem
          simp [emitInviteRejected, emitInviteCancelled, inviteExpired, emitEvent, lacking,
            List.lookup_cons] at lacks
  | matchCreated profileAId profileBId inviteAId inviteBId =>
      obtain rfl := List.mem_singleton.1 mem
      rw [key_emitMatchCreated] at lacks
      have which : name = "profile_id_a" ∨ name = "data" ∨ name = "match_id" := by
        simpa [lacking, List.lookup_cons] using lacks
      unfold emitMatchCreated
      split <;> apply member_jsonObject_eq_none <;> rcases which with rfl | rfl | rfl <;> simp
  | blockCreated blockerId blockedId =>
      simp only [invitePosts, emitBlockCreated, List.mem_cons, List.not_mem_nil, or_false] at mem
      rcases mem with rfl | rfl
      · apply member_jsonObject_eq_none
        obtain rfl : name = "blocker_profile_id" := by
          simpa [emitEvent, lacking, List.lookup_cons] using lacks
        simp [blockMembers]
      · simp [emitEvent, lacking, List.lookup_cons] at lacks
  | blockRemoved blockerId blockedId =>
      obtain rfl := List.mem_singleton.1 mem
      simp [emitBlockRemoved, emitEvent, lacking, List.lookup_cons] at lacks

/-- The fields are missing in whatever is published to `colab.events` by this key. -/
theorem member_eq_none_of_lacking {events : List BusEvent} {post : BusPost}
    (sent : SentIn events post) (exchange : post.exchange = "colab.events") {name : String}
    (lacks : name ∈ lacking post.key) : post.body.member name.toList = none := by
  obtain ⟨publication, count, -, mem⟩ := sent
  cases onColabEvents_of_mem mem exchange with
  | invite event now _ mem => exact member_eq_none_of_invite mem lacks
  | nudgeDue collabId profileIdA profileIdB same =>
      subst same
      apply member_jsonObject_eq_none
      have which : name = "data" ∨ name = "user_id_a" := by
        simpa [Bus.nudgeDue, emitEvent, lacking, List.lookup_cons] using lacks
      rcases which with rfl | rfl <;> simp
  | transcriptReady meetingId collabId scheduledAt same =>
      subst same
      simp [Bus.transcriptReady, emitEvent, lacking, List.lookup_cons] at lacks
  | emitted key =>
      rw [lacking_emittedKeys _ key] at lacks
      cases lacks

section

variable {ρ : Type} (valid : EventSchema → Json → Bool)
  (others : Outside → BusMessage → ρ → ρ × Verdict) (s : Services ρ)

/-- A payload without one of the required fields is given back. -/
theorem handleMessage_eq_requeue (outside : Outside) {post : BusPost} {schema : EventSchema}
    {name : String} (keyed : EventSchema.ofRoutingKey post.key = some schema)
    (required : name ∈ schema.requiredFields) (bare : post.body.member "data".toList = none)
    (absent : post.body.member name.toList = none) :
    s.handleMessage valid outside post = (s, .requeue) := by
  have refused : schema.requiredFields.all
      (fun name => (post.body.member name.toList).isSome) = false := by
    rw [List.all_eq_false]
    exact ⟨name, required, by simp [absent]⟩
  simp only [Services.handleMessage, keyed, bare, Option.getD_none, refused, Bool.false_and]
  rfl

/-- The queues whose consumers give everything back. -/
def givenBack : List String :=
  ["collab-svc.match.created", "collab-svc.block.created", "notification-svc.inbound"]

theorem handle_eq_requeue {events : List BusEvent} {message : BusMessage}
    (routable : Broker.Routable (SentIn events) Bound message)
    (back : message.queue ∈ givenBack) (outside : Outside) :
    s.handle valid others outside message = (s, .requeue) := by
  obtain ⟨exchange, channel⟩ := routable_channel routable
  have lacks : ∀ {name : String}, name ∈ lacking message.post.key →
      message.post.body.member name.toList = none :=
    fun lacks => member_eq_none_of_lacking routable.1 exchange lacks
  obtain ⟨queue, post⟩ := message
  -- of the messages of notification-svc
  have refused : ∀ (schema : EventSchema) (name : String), queue = "notification-svc.inbound" →
      EventSchema.ofRoutingKey post.key = some schema → name ∈ schema.requiredFields →
      "data" ∈ lacking post.key → name ∈ lacking post.key →
      s.handle valid others outside ⟨queue, post⟩ = (s, .requeue) := by
    rintro schema name rfl keyed required bare absent
    exact handleMessage_eq_requeue valid s outside keyed required (lacks bare) (lacks absent)
  simp only [channels, List.mem_cons, List.not_mem_nil, or_false, Prod.mk.injEq] at channel
  rcases channel with ⟨rfl, key⟩ | ⟨rfl, key⟩ | ⟨rfl, key⟩ | ⟨rfl, key⟩ | ⟨rfl, key⟩ | ⟨rfl, key⟩ |
    ⟨rfl, key⟩ | ⟨rfl, key⟩
  · have absent : Collabs.readId post.body "profile_id_a" = none :=
      Collabs.readId_eq_none (lacks (by rw [key]; decide))
    simp [Services.handle, CollabTables.handleMatchCreated_eq_none absent, Services.requeueing]
  · have absent : Collabs.readId post.body "blocker_profile_id" = none :=
      Collabs.readId_eq_none (lacks (by rw [key]; decide))
    simp [Services.handle, CollabTables.handleBlockCreated_eq_none absent, Services.requeueing]
  · simp [givenBack] at back
  · simp [givenBack] at back
  · exact refused .matchCreated "match_id" rfl (by rw [key]; decide) (by decide)
      (by rw [key]; decide) (by rw [key]; decide)
  · exact refused .inviteSent "sender_user_id" rfl (by rw [key]; decide) (by decide)
      (by rw [key]; decide) (by rw [key]; decide)
  · exact refused .inviteAccepted "sender_user_id" rfl (by rw [key]; decide) (by decide)
      (by rw [key]; decide) (by rw [key]; decide)
  · exact refused .collabNudgeDue "user_id_a" rfl (by rw [key]; decide) (by decide)
      (by rw [key]; decide) (by rw [key]; decide)

/-- No message about a match, an invite or a nudge, and none about a block in collab-svc, is ever
acknowledged: all that came into these queues is there after every run, in its order. -/
theorem kept_for_ever (elsewhere : ρ) (events : List BusEvent) :
    (run valid others elsewhere events).queued.filter (·.queue ∈ givenBack) =
      (run valid others elsewhere events).routed.filter (·.queue ∈ givenBack) := by
  refine Broker.filter_queued_eq _ (allowed_brokerEvents events) ?_
  intro message routable back outside s
  rw [handle_eq_requeue valid others s routable (by simpa using back) outside]

/-! ## What is done -/

/-- A block of the run is of the user whose feed is dropped. -/
def DropsFeed (events : List BusEvent) (entry : CacheEntry) : Prop :=
  ∃ blockerId blockedId now count,
    .publish (.invite (.blockCreated blockerId blockedId) now) count ∈ events ∧
      (entry = .feed blockerId.text ∨ entry = .feed blockedId.text)

theorem nonEmpty_eq {payload : Json} {name text : String}
    (found : payload.member name.toList = some (jsonText text)) :
    nonEmpty payload name = if text = "" then none else some text := by
  simp only [nonEmpty, found, jsonText, Option.bind_some, Json.text?, String.toList_eq_nil_iff,
    String.ofList_toList]

theorem mem_invalidations_blocked {blockerId blockedId : Uuid} {entry : CacheEntry}
    (mem : entry ∈ invalidations (jsonObject [("type", jsonText "profile.blocked"),
      ("payload", jsonObject (blockMembers blockerId blockedId))])) :
    entry = .feed blockerId.text ∨ entry = .feed blockedId.text := by
  generalize found : jsonObject [("type", jsonText "profile.blocked"),
    ("payload", jsonObject (blockMembers blockerId blockedId))] = event at mem
  have type : nonEmpty event "type" = some "profile.blocked" := by
    have text : event.member "type".toList = some (jsonText "profile.blocked") := by
      rw [← found, member_jsonObject]
      rfl
    rw [nonEmpty_eq text]
    rfl
  have payload : event.member "payload".toList =
      some (jsonObject (blockMembers blockerId blockedId)) := by
    rw [← found, member_jsonObject]
    rfl
  have blocker : (jsonObject (blockMembers blockerId blockedId)).member "blocker_id".toList =
      some (jsonText blockerId.text) := by
    rw [member_jsonObject]
    rfl
  have blocked : (jsonObject (blockMembers blockerId blockedId)).member "blocked_id".toList =
      some (jsonText blockedId.text) := by
    rw [member_jsonObject]
    rfl
  simp only [invalidations, type, payload, Option.getD_some, nonEmpty_eq blocker,
    nonEmpty_eq blocked] at mem
  rcases List.mem_append.1 mem with first | second
  · split at first <;> simp_all
  · split at second <;> simp_all

theorem dropsFeed_of_mem {events : List BusEvent} {post : BusPost} {entry : CacheEntry}
    (sent : SentIn events post) (exchange : post.exchange = "colab.events")
    (key : post.key = "profile.blocked") (mem : entry ∈ invalidations post.body) :
    DropsFeed events entry := by
  obtain ⟨publication, count, there, posted⟩ := sent
  cases onColabEvents_of_mem posted exchange with
  | nudgeDue collabId profileIdA profileIdB same =>
      subst same
      simp [Bus.nudgeDue, emitEvent] at key
  | transcriptReady meetingId collabId scheduledAt same =>
      subst same
      simp [Bus.transcriptReady, emitEvent] at key
  | emitted emitted =>
      rw [key] at emitted
      exact absurd emitted (by decide)
  | invite event now same ofInvite =>
      subst same
      cases event with
      | blockCreated blockerId blockedId =>
          refine ⟨blockerId, blockedId, now, count, there, ?_⟩
          simp only [invitePosts, emitBlockCreated, List.mem_cons, List.not_mem_nil,
            or_false] at ofInvite
          rcases ofInvite with rfl | rfl
          · simp [emitEvent] at key
          · exact mem_invalidations_blocked mem
      | inviteSent inviteId fromProfileId toProfileId =>
          obtain rfl := List.mem_singleton.1 ofInvite
          simp [emitInviteSent, emitEvent] at key
      | inviteAnswered status inviteId fromProfileId toProfileId =>
          cases status with
          | pending => cases ofInvite
          | accepted | rejected | cancelled | expired =>
              obtain rfl := List.mem_singleton.1 ofInvite
              simp [emitInviteAccepted, emitInviteRejected, emitInviteCancelled, inviteExpired,
                emitEvent] at key
      | matchCreated profileAId profileBId inviteAId inviteBId =>
          obtain rfl := List.mem_singleton.1 ofInvite
          simp [key_emitMatchCreated] at key
      | blockRemoved blockerId blockedId =>
          obtain rfl := List.mem_singleton.1 ofInvite
          simp [emitBlockRemoved, emitEvent] at key

/-- The consumers have done nothing but drop the feeds of those who block and are blocked, and
post transcripts. -/
structure Idle (elsewhere : ρ) (events : List BusEvent) (s : Services ρ) : Prop where
  collabs : s.collabs = .empty
  queuedTasks : s.queuedTasks = []
  seeded : s.seeded = []
  elsewhere : s.elsewhere = elsewhere
  invalidated : ∀ entry ∈ s.invalidated, DropsFeed events entry

theorem Idle.handle {elsewhere : ρ} {events : List BusEvent} (h : Idle elsewhere events s)
    {message : BusMessage} (routable : Broker.Routable (SentIn events) Bound message)
    (outside : Outside) : Idle elsewhere events (s.handle valid others outside message).1 := by
  by_cases back : message.queue ∈ givenBack
  · rw [handle_eq_requeue valid others s routable back outside]
    exact h
  · obtain ⟨exchange, channel⟩ := routable_channel routable
    obtain ⟨queue, post⟩ := message
    simp only [channels, List.mem_cons, List.not_mem_nil, or_false, Prod.mk.injEq] at channel
    rcases channel with ⟨rfl, key⟩ | ⟨rfl, key⟩ | ⟨rfl, key⟩ | ⟨rfl, key⟩ | ⟨rfl, key⟩ | ⟨rfl, key⟩ |
      ⟨rfl, key⟩ | ⟨rfl, key⟩
    · simp [givenBack] at back
    · simp [givenBack] at back
    · simp only [Services.handle, String.reduceEq, if_false, if_true]
      refine ⟨h.collabs, h.queuedTasks, h.seeded, h.elsewhere, fun entry mem => ?_⟩
      rcases List.mem_append.1 mem with before | dropped
      · exact h.invalidated entry before
      · exact dropsFeed_of_mem routable.1 exchange key (List.mem_of_mem_take dropped)
    · simp only [Services.handle, String.reduceEq, if_false, if_true]
      exact ⟨h.collabs, h.queuedTasks, h.seeded, h.elsewhere, h.invalidated⟩
    · simp [givenBack] at back
    · simp [givenBack] at back
    · simp [givenBack] at back
    · simp [givenBack] at back

/-- No match ever becomes a collaboration, no event a notification, and no other service hears
of anything: in every run the consumers only drop the feeds of those who block and are blocked,
and post transcripts. -/
theorem nothing_else_done (elsewhere : ρ) (events : List BusEvent) :
    Idle elsewhere events (run valid others elsewhere events).state := by
  have start : Idle elsewhere events (.initial elsewhere : Services ρ) := by
    constructor <;> simp [Services.initial]
  exact Broker.state_invariant (allowed_brokerEvents events) start
    fun message routable outside s h => h.handle valid others s routable outside

end

end ColabPlatform.Bus
