import ColabPlatform.Chat.Model
import Mathlib.Data.List.Sort

/-!
# Chat service: sending, editing and reading messages

Three handlers write the text of a message: the `send` frame of a connection,
the REST endpoint next to it and the edit.  What they check comes first in each,
then what they write.  The readers select by the stored status.
-/

namespace ColabPlatform.Chat

open Foundation Common
open Moderation (HttpError internalError required)

structure ChatSettings where
  maxBodyLength : Nat := 4000
  replayPageSize : Nat := 200
  deriving DecidableEq, Repr

/-! ## The `send` frame -/

/-- What the server sends to the connection that a frame came from. -/
inductive WsFrame where
  | error (code message : String) (requestId : Option String)
  | messageAck (clientNonce msgId : String) (createdAt : Int)
  | softWarnAck (message : ChatMessageOut)
  | replay (messages : List ChatMessageOut) (hasMore : Bool)
  deriving DecidableEq, Repr

/-- A `send` frame: `room` is the row as the connection last read it, `id` and `now` are
drawn by the handler, and `withinRate` tells whether the connection's minute has room. -/
structure SendFrame where
  withinRate : Bool
  payload : SendJson
  room : ChatRoom
  profileId : String
  requestId : Option String
  id : String
  now : Int
  deriving DecidableEq, Repr

/-- The new row of a message. -/
def newMessage (id roomId profileId : String) (body : SendMessageBody) (reply : ScanReply)
    (status : ModerationStatus) (now : Int) : ChatMessage where
  id := id
  roomId := roomId
  senderProfileId := profileId
  type := .text
  body := some body.body
  mediaKey := none
  mime := none
  sizeBytes := none
  durationMs := none
  replyTo := body.replyTo
  clientNonce := some body.clientNonce
  editedAt := none
  deletedAt := none
  moderationScore := some reply.readScore
  moderationStatus := status
  createdAt := now

section Writing

variable (settings : ChatSettings) (moderation : String → ScanReply)

/-- What `_handle_send` checks before the scan; a frame that fails is answered at once. -/
def acceptFrame (chat : ChatState) (frame : SendFrame) :
    Except (List WsFrame) SendMessageBody :=
  if frame.withinRate = false then
    .error [.error "RATE_LIMITED" "Too many messages" frame.requestId]
  else
    match sendMessageBody frame.payload with
    | .error _ => .error [.error "INTERNAL_ERROR" "Invalid payload" frame.requestId]
    | .ok body =>
        if frame.room.state ≠ .opened then
          .error [.error "ROOM_READ_ONLY" "Room is read-only" frame.requestId]
        else if body.body.length > settings.maxBodyLength then
          .error [.error "MESSAGE_TOO_LONG" "Body exceeds 4000 characters" frame.requestId]
        else if chat.messages.rows.any (·.clientNonce = some body.clientNonce) then
          -- the result is read twice, so the acknowledgement is never sent
          .error []
        else .ok body

def ChatState.publish (chat : ChatState) (roomId : String) (message : ChatMessageOut) :
    ChatState :=
  { chat with published := chat.published ++ [(roomId, message)] }

/-- The row that `_handle_send` inserts. -/
def SendFrame.message (frame : SendFrame) (body : SendMessageBody) : ChatMessage :=
  newMessage frame.id frame.room.id frame.profileId body (moderation body.body)
    (wsStatus (moderation body.body)) frame.now

def SendFrame.answer (frame : SendFrame) (body : SendMessageBody) (sent : ChatMessageOut) :
    ModerationStatus → List WsFrame
  | .autoHidden =>
      [.error "MODERATION_REJECTED" "Message not delivered: community guidelines"
        frame.requestId]
  | .hidden => [.error "MODERATION_HOLD" "Message held for review" frame.requestId]
  | .softWarn => [.softWarnAck sent]
  | .allowed | .pending => [.messageAck body.clientNonce frame.id frame.now]

/-- `_handle_send`; an insert that is refused ends the connection. -/
def handleSend (chat : ChatState) (frame : SendFrame) : ChatState × List WsFrame :=
  match acceptFrame settings chat frame with
  | .error answer => (chat, answer)
  | .ok body =>
      let message := frame.message moderation body
      match chat.addMessage? message with
      | none => (chat, [])
      | some stored =>
          let sent := stored.buildMessageOut message
          (if message.moderationStatus.visible then stored.publish frame.room.id sent else stored,
            frame.answer body sent message.moderationStatus)

/-! ## The REST endpoint -/

structure SendRequest where
  roomId : String
  profile : IdField
  json : SendJson
  id : String
  now : Int
  deriving DecidableEq, Repr

/-- What `send_message` checks before the scan. -/
def acceptSend (chat : ChatState) (request : SendRequest) :
    Except HttpError (String × SendMessageBody) := do
  let body ← sendMessageBody request.json
  let profileId ← getProfileId request.profile
  let room ← chat.findRoom request.roomId profileId
  if room.state ≠ .opened then throw ⟨403, "Room is read-only"⟩
  return (profileId, body)

/-- The row that `send_message` inserts. -/
def SendRequest.message (request : SendRequest) (profileId : String) (body : SendMessageBody) :
    ChatMessage :=
  newMessage request.id request.roomId profileId body (moderation body.body)
    (restStatus (moderation body.body)) request.now

/-- `POST /chat/rooms/{room_id}/messages`: nothing is published to the room. -/
def sendMessage (chat : ChatState) (request : SendRequest) :
    Except HttpError (ChatState × ChatMessageOut) := do
  let (profileId, body) ← acceptSend chat request
  let message := request.message moderation profileId body
  match chat.addMessage? message with
  | none => throw internalError
  | some stored => return (stored, { message.toOut with replyTo := none })

end Writing

/-! ## Editing -/

structure EditRequest where
  roomId : String
  msgId : String
  profile : IdField
  body : Option String
  now : Int
  deriving DecidableEq, Repr

/-- What `edit_message` checks; the text is not scanned. -/
def acceptEdit (chat : ChatState) (request : EditRequest) :
    Except HttpError (ChatMessage × String) := do
  let body ← editMessageBody request.body
  let profileId ← getProfileId request.profile
  match chat.messages.lookup request.msgId with
  | none => throw ⟨404, "Message not found"⟩
  | some message =>
      if message.roomId ≠ request.roomId then throw ⟨404, "Message not found"⟩
      if message.senderProfileId ≠ profileId then
        throw ⟨403, "Cannot edit another user's message"⟩
      if message.type ≠ .text then throw ⟨400, "Only text messages can be edited"⟩
      if message.deletedAt.isSome then throw ⟨410, "Message deleted"⟩
      return (message, body)

/-- `COALESCE(MAX(version), 0)` -/
def maxVersion (revisions : List ChatMessageRevision) (msgId : String) : Nat :=
  ((revisions.filter (·.msgId = msgId)).map (·.version)).foldl max 0

/-- The revisions an edit adds; the first edit keeps the original text as well. -/
def newRevisions (revisions : List ChatMessageRevision) (message : ChatMessage) (body : String)
    (now : Int) : List ChatMessageRevision :=
  let latest := maxVersion revisions message.id
  let original : ChatMessageRevision :=
    ⟨message.id, 1, message.body.getD "", message.createdAt⟩
  (if latest = 0 then [original] else []) ++ [⟨message.id, max latest 1 + 1, body, now⟩]

/-- The inserts of revisions; the version is a `smallint`. -/
def addRevisions? (chat : ChatState) :
    List ChatMessageRevision → Option ChatState
  | [] => some chat
  | revision :: revisions =>
      if revision.version > 32767 then none
      else (chat.revisions.insert? revision).bind fun stored =>
        addRevisions? { chat with revisions := stored } revisions

def ChatMessage.edit (body : String) (now : Int) (message : ChatMessage) : ChatMessage :=
  { message with body := some body, editedAt := some now }

@[simp] theorem ChatMessage.edit_id (body : String) (now : Int) (message : ChatMessage) :
    (message.edit body now).id = message.id := rfl

/-- `UPDATE chat.chat_message SET body = :body, edited_at = :now` -/
def ChatState.updateBody (chat : ChatState) (msgId body : String) (now : Int) : ChatState :=
  { chat with
    messages := chat.messages.modify msgId (ChatMessage.edit body now)
      (ChatMessage.edit_id body now) (fun _ => rfl) }

/-- `POST /chat/rooms/{room_id}/messages/{msg_id}/edit`: the stored status is kept. -/
def editMessage (chat : ChatState) (request : EditRequest) :
    Except HttpError (ChatState × ChatMessageOut) := do
  let (message, body) ← acceptEdit chat request
  match addRevisions? chat (newRevisions chat.revisions.rows message body request.now) with
  | none => throw internalError
  | some revised =>
      return (revised.updateBody message.id body request.now,
        { message.toOut with
          body := some body
          mediaKey := none
          mime := none
          sizeBytes := none
          durationMs := none
          replyTo := none
          editedAt := some request.now })

/-! ## What is written -/

theorem addMessage_eq_some {chat stored : ChatState} {message : ChatMessage}
    (h : chat.addMessage? message = some stored) :
    chat.messages.insert? message = some stored.messages ∧
      stored.published = chat.published := by
  unfold ChatState.addMessage? at h
  split at h
  · obtain ⟨messages, inserted, rfl⟩ := Option.map_eq_some_iff.1 h
    exact ⟨inserted, rfl⟩
  · cases h

theorem addRevisions_keeps {revisions : List ChatMessageRevision} {chat revised : ChatState}
    (h : addRevisions? chat revisions = some revised) :
    revised.messages = chat.messages ∧ revised.published = chat.published := by
  induction revisions generalizing chat with
  | nil =>
      obtain rfl := Option.some.inj h
      exact ⟨rfl, rfl⟩
  | cons revision revisions ih =>
      unfold addRevisions? at h
      split at h
      · cases h
      · obtain ⟨stored, -, rest⟩ := Option.bind_eq_some_iff.1 h
        obtain ⟨messages, published⟩ := ih rest
        exact ⟨messages, published⟩

/-- An edit that is accepted is one of the message that is stored under the id. -/
theorem lookup_of_acceptEdit {chat : ChatState} {request : EditRequest} {message : ChatMessage}
    {body : String} (h : acceptEdit chat request = .ok (message, body)) :
    chat.messages.lookup request.msgId = some message := by
  unfold acceptEdit at h
  cases validated : editMessageBody request.body with
  | error raised => rw [validated] at h; cases h
  | ok text =>
      cases identified : getProfileId request.profile with
      | error raised => rw [validated, identified] at h; cases h
      | ok profileId =>
          cases found : chat.messages.lookup request.msgId with
          | none => rw [validated, identified, found] at h; cases h
          | some stored =>
              simp only [validated, identified, found, bind, Except.bind, pure, Except.pure] at h
              repeat' split at h
              all_goals first | (cases h; rfl) | cases h

theorem addMessage_keeps {chat stored : ChatState} {message : ChatMessage}
    (h : chat.addMessage? message = some stored) :
    stored.rooms = chat.rooms ∧ stored.revisions = chat.revisions := by
  unfold ChatState.addMessage? at h
  split at h
  · obtain ⟨messages, -, rfl⟩ := Option.map_eq_some_iff.1 h
    exact ⟨rfl, rfl⟩
  · cases h

theorem msgId_of_mem_newRevisions {revisions : List ChatMessageRevision} {message : ChatMessage}
    {body : String} {now : Int} :
    ∀ revision ∈ newRevisions revisions message body now, revision.msgId = message.id := by
  intro revision mem
  simp only [newRevisions, List.mem_append, List.mem_singleton] at mem
  rcases mem with original | rfl
  · split at original
    · obtain rfl := List.mem_singleton.1 original
      rfl
    · cases original
  · rfl

/-- The revisions of other messages stay. -/
theorem addRevisions_others {revisions : List ChatMessageRevision} {chat revised : ChatState}
    {msgId : String} (h : addRevisions? chat revisions = some revised)
    (others : ∀ revision ∈ revisions, revision.msgId ≠ msgId) :
    revised.revisions.rows.filter (·.msgId = msgId) =
      chat.revisions.rows.filter (·.msgId = msgId) := by
  induction revisions generalizing chat with
  | nil =>
      obtain rfl := Option.some.inj h
      rfl
  | cons revision revisions ih =>
      unfold addRevisions? at h
      split at h
      · cases h
      · obtain ⟨stored, inserted, rest⟩ := Option.bind_eq_some_iff.1 h
        have other := others revision List.mem_cons_self
        rw [ih rest fun later mem => others later (List.mem_cons_of_mem _ mem)]
        simp [(Table.insert?_eq_some inserted).2, other]

/-! ## Reading -/

/-- `moderation_status IN ('allowed', 'soft_warn') AND deleted_at IS NULL` -/
def ChatMessage.shown (message : ChatMessage) : Bool :=
  message.moderationStatus.visible && message.deletedAt.isNone

/-- The shown rows of a room that `keep` selects by their id, in the order of the ids. -/
def ChatState.shownIn (chat : ChatState) (roomId : String) (keep : String → Bool)
    (before : String → String → Bool) : List ChatMessage :=
  (chat.messages.rows.filter fun message =>
    message.roomId = roomId && keep message.id && message.shown).insertionSort
      fun message message' => before message.id message'.id = true

def ascending (id id' : String) : Bool := decide (id ≤ id')

def descending (id id' : String) : Bool := decide (id' ≤ id)

structure MessagePage where
  messages : List ChatMessageOut
  nextCursor : Option String
  deriving DecidableEq, Repr

/-- `GET /chat/rooms/{room_id}/messages` -/
def getMessages (chat : ChatState) (roomId : String) (profile : IdField)
    (cursor : Option String) (limit : Nat) (direction : String) :
    Except HttpError MessagePage := do
  if limit < 1 then throw ⟨422, "limit: Input should be greater than or equal to 1"⟩
  if 200 < limit then throw ⟨422, "limit: Input should be less than or equal to 200"⟩
  let profileId ← getProfileId profile
  let _ ← chat.findRoom roomId profileId
  let selected :=
    if direction = "after" then
      chat.shownIn roomId (fun id => cursor.all fun cursor => decide (cursor < id)) ascending
    else chat.shownIn roomId (fun id => cursor.all fun cursor => decide (id < cursor)) descending
  let fetched := selected.take (limit + 1)
  let rows := fetched.take limit
  return ⟨rows.map ChatMessage.toOut,
    if fetched.length > limit then rows.getLast?.map (·.id) else none⟩

/-- `_handle_reconnect` -/
def handleReconnect (settings : ChatSettings) (chat : ChatState) (withinRate : Bool)
    (roomId : String) (sinceMsgId : IdField) : List WsFrame :=
  if withinRate = false then [.error "RATE_LIMITED" "Too many reconnect frames" none]
  else
    match sinceMsgId with
    | .uuid since =>
        let fetched := (chat.shownIn roomId (fun id => decide (since < id)) ascending).take
          (settings.replayPageSize + 1)
        [.replay ((fetched.take settings.replayPageSize).map ChatMessage.toOut)
          (decide (fetched.length > settings.replayPageSize))]
    | .missing | .malformed _ => []

/-! ## Runs -/

/-- A call to the service; the last one is what the block events write to a room. -/
inductive Call where
  | send (frame : SendFrame)
  | sendMessage (request : SendRequest)
  | editMessage (request : EditRequest)
  | setRoomState (roomId : String) (state : RoomState)
  deriving DecidableEq, Repr

def ChatRoom.setState (state : RoomState) (room : ChatRoom) : ChatRoom :=
  { room with state := state }

@[simp] theorem ChatRoom.setState_id (state : RoomState) (room : ChatRoom) :
    (room.setState state).id = room.id := rfl

theorem ChatRoom.noAlt_setState (state : RoomState) (room : ChatRoom) :
    noAlt ChatRoom (room.setState state) = noAlt ChatRoom room := rfl

/-- A request that is refused changes nothing. -/
def afterRequest (chat : ChatState) :
    Except HttpError (ChatState × ChatMessageOut) → ChatState
  | .ok (next, _) => next
  | .error _ => chat

def step (settings : ChatSettings) (moderation : String → ScanReply) (chat : ChatState) :
    Call → ChatState
  | .send frame => (handleSend settings moderation chat frame).1
  | .sendMessage request => afterRequest chat (sendMessage moderation chat request)
  | .editMessage request => afterRequest chat (editMessage chat request)
  | .setRoomState roomId state =>
      { chat with
        rooms := chat.rooms.modify roomId (ChatRoom.setState state)
          (ChatRoom.setState_id state) (ChatRoom.noAlt_setState state) }

/-- A chat in which nothing was said yet. -/
def silent (rooms : Table ChatRoom ChatRoom.id (noAlt ChatRoom)) : ChatState :=
  ⟨rooms, .empty, .empty, []⟩

end ColabPlatform.Chat
