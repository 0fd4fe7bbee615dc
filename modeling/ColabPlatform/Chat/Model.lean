import ColabPlatform.Foundation.Table
import ColabPlatform.Moderation.Scan

/-!
# Chat service: rooms and messages

The tables of the chat, the schemas of its requests and the decision that a
moderation score leads to.  A connection scans the categories of the answer as
well, the REST endpoint reads the score alone.
-/

namespace ColabPlatform.Chat

open Foundation Common
open Moderation (HttpError Score checkLength required)

/-! ## Tables -/

inductive RoomState where
  | opened
  | readOnly
  | archived
  deriving DecidableEq, Repr

structure ChatRoom where
  id : String
  participantIds : List String
  state : RoomState
  deriving DecidableEq, Repr

inductive MessageType where
  | text
  | voice
  | image
  | video
  | audio
  | doc
  | link
  | system
  deriving DecidableEq, Repr

inductive ModerationStatus where
  | pending
  | allowed
  | softWarn
  | hidden
  | autoHidden
  deriving DecidableEq, Repr

/-- The statuses that every reader selects. -/
def ModerationStatus.visible : ModerationStatus → Bool
  | allowed | softWarn => true
  | pending | hidden | autoHidden => false

structure ChatMessage where
  id : String
  roomId : String
  senderProfileId : String
  type : MessageType
  body : Option String
  mediaKey : Option String
  mime : Option String
  sizeBytes : Option Nat
  durationMs : Option Nat
  replyTo : Option String
  clientNonce : Option String
  editedAt : Option Int
  deletedAt : Option Int
  moderationScore : Option Score
  moderationStatus : ModerationStatus
  createdAt : Int
  deriving DecidableEq, Repr

structure ChatMessageRevision where
  msgId : String
  version : Nat
  body : String
  editedAt : Int
  deriving DecidableEq, Repr

structure ReplyPreview where
  id : String
  senderProfileId : String
  type : MessageType
  body : Option String
  deriving DecidableEq, Repr

structure ChatMessageOut where
  id : String
  roomId : String
  senderProfileId : String
  type : MessageType
  body : Option String
  mediaKey : Option String
  mime : Option String
  sizeBytes : Option Nat
  durationMs : Option Nat
  replyTo : Option String
  replyPreview : Option ReplyPreview
  moderationStatus : ModerationStatus
  editedAt : Option Int
  createdAt : Int
  deriving DecidableEq, Repr

/-- `published` are the messages sent to the channels of the rooms, first one first. -/
structure ChatState where
  rooms : Table ChatRoom ChatRoom.id (noAlt ChatRoom)
  messages : Table ChatMessage ChatMessage.id (noAlt ChatMessage)
  revisions : Table ChatMessageRevision (fun revision => (revision.msgId, revision.version))
    (noAlt ChatMessageRevision)
  published : List (String × ChatMessageOut)

/-- `_msg_to_out` -/
def ChatMessage.toOut (message : ChatMessage) : ChatMessageOut where
  id := message.id
  roomId := message.roomId
  senderProfileId := message.senderProfileId
  type := message.type
  body := message.body
  mediaKey := message.mediaKey
  mime := message.mime
  sizeBytes := message.sizeBytes
  durationMs := message.durationMs
  replyTo := message.replyTo
  replyPreview := none
  moderationStatus := message.moderationStatus
  editedAt := message.editedAt
  createdAt := message.createdAt

def ChatMessage.preview (parent : ChatMessage) : ReplyPreview :=
  ⟨parent.id, parent.senderProfileId, parent.type, parent.body⟩

/-- `_build_message_out`: the parent is quoted whatever its status. -/
def ChatState.buildMessageOut (chat : ChatState) (message : ChatMessage) : ChatMessageOut :=
  { message.toOut with
    replyPreview :=
      (message.replyTo.bind fun parent => chat.messages.lookup parent).map ChatMessage.preview }

/-- The insert of a message; its room has to exist. -/
def ChatState.addMessage? (chat : ChatState) (message : ChatMessage) : Option ChatState :=
  if (chat.rooms.lookup message.roomId).isSome then
    (chat.messages.insert? message).map fun messages => { chat with messages := messages }
  else none

/-! ## Requests -/

/-- The JSON of a message to send. -/
structure SendJson where
  body : Option String
  replyTo : IdField
  clientNonce : IdField
  deriving DecidableEq, Repr

structure SendMessageBody where
  body : String
  replyTo : Option String
  clientNonce : String
  deriving DecidableEq, Repr

def uuidOf (field : String) : IdField → Except HttpError String
  | .uuid id => .ok id
  | .missing => .error ⟨422, field ++ ": Field required"⟩
  | .malformed _ => .error ⟨422, field ++ ": Input should be a valid UUID"⟩

def optionalUuidOf (field : String) : IdField → Except HttpError (Option String)
  | .missing => .ok none
  | given => some <$> uuidOf field given

/-- `SendMessageBody` and `WSSendPayload` have the same fields. -/
def sendMessageBody (json : SendJson) : Except HttpError SendMessageBody := do
  let body ← required "body" json.body
  checkLength "body" body 0 (some 4000)
  let replyTo ← optionalUuidOf "reply_to" json.replyTo
  let clientNonce ← uuidOf "client_nonce" json.clientNonce
  return ⟨body, replyTo, clientNonce⟩

def editMessageBody (body : Option String) : Except HttpError String := do
  let body ← required "body" body
  checkLength "body" body 0 (some 4000)
  return body

/-- `_get_profile_id` -/
def getProfileId : IdField → Except HttpError String
  | .missing => .error ⟨401, "Unauthorized"⟩
  | .malformed _ => .error ⟨401, "Invalid profile ID"⟩
  | .uuid id => .ok id

def ChatState.findRoom (chat : ChatState) (roomId profileId : String) :
    Except HttpError ChatRoom :=
  match chat.rooms.lookup roomId with
  | some room =>
      if profileId ∈ room.participantIds then .ok room else .error ⟨404, "Room not found"⟩
  | none => .error ⟨404, "Room not found"⟩

/-! ## Moderation -/

/-- The entries of the scan's answer that are read, as far as they are there. -/
structure ScanReply where
  score : Option Score
  categories : Option (List String)
  deriving DecidableEq, Repr

namespace ScanReply

/-- `scan.get("score", 0.0)` -/
def readScore (reply : ScanReply) : Score := reply.score.getD 0

/-- `scan.get("categories", [])` -/
def readCategories (reply : ScanReply) : List String := reply.categories.getD []

def hasEscalateCategories (reply : ScanReply) : Bool :=
  ["harassment_threat", "dmca"].any (· ∈ reply.readCategories)

end ScanReply

/-- The status of a score; `escalate` hides at once. -/
def statusOf (escalate : Bool) (score : Score) : ModerationStatus :=
  if score ≥ 9 / 10 ∨ escalate = true then .autoHidden
  else if 7 / 10 ≤ score ∧ score < 9 / 10 then .hidden
  else if 4 / 10 ≤ score ∧ score < 7 / 10 then .softWarn
  else .allowed

/-- The status that `_handle_send` stores. -/
def wsStatus (reply : ScanReply) : ModerationStatus :=
  statusOf reply.hasEscalateCategories reply.readScore

/-- The status that `send_message` stores. -/
def restStatus (reply : ScanReply) : ModerationStatus :=
  statusOf false reply.readScore

theorem visible_statusOf (escalate : Bool) (score : Score) :
    (statusOf escalate score).visible = true ↔ score < 7 / 10 ∧ escalate = false := by
  unfold statusOf
  by_cases high : score ≥ 9 / 10
  · have : ¬ score < 7 / 10 := by
      intro low
      exact absurd (lt_of_lt_of_le low (by norm_num)) (not_lt_of_ge high)
    simp [high, this, ModerationStatus.visible]
  · cases escalate with
    | true => simp [ModerationStatus.visible]
    | false =>
        have below : score < 9 / 10 := lt_of_not_ge high
        by_cases low : score < 7 / 10
        · by_cases warned : 4 / 10 ≤ score <;>
            simp [high, low, warned, not_le_of_gt low, ModerationStatus.visible]
        · simp [high, low, below, le_of_not_gt low, ModerationStatus.visible]

theorem visible_wsStatus (reply : ScanReply) :
    (wsStatus reply).visible = true ↔
      reply.readScore < 7 / 10 ∧ reply.hasEscalateCategories = false :=
  visible_statusOf ..

theorem visible_restStatus (reply : ScanReply) :
    (restStatus reply).visible = true ↔ reply.readScore < 7 / 10 := by
  simp [restStatus, visible_statusOf]

/-- Without an escalated category both routes store the same status. -/
theorem restStatus_eq_wsStatus {reply : ScanReply}
    (calm : reply.hasEscalateCategories = false) : restStatus reply = wsStatus reply := by
  rw [restStatus, wsStatus, calm]

end ColabPlatform.Chat
