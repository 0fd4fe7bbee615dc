import ColabPlatform.Chat.Messages
import ColabPlatform.Foundation.Interleaving
import ColabPlatform.Foundation.Run

/-!
# Chat service: calls under way

Every handler waits between what it checks and what it writes.  A connection handles one
frame after the other; it keeps the row of its room as it last read it, and reads it again
after each frame.
-/

namespace ColabPlatform.Chat

open Foundation Common
open Moderation (HttpError)

/-! ## Read receipts -/

structure ChatReadReceipt where
  roomId : String
  profileId : String
  lastReadMsgId : Option String
  lastReadAt : Option Int
  deriving DecidableEq, Repr

abbrev ReadReceipts := Table ChatReadReceipt
  (fun receipt => (receipt.roomId, receipt.profileId)) (noAlt ChatReadReceipt)

/-- `DO UPDATE SET ... WHERE`: the pointer never moves backward. -/
def ChatReadReceipt.moveTo (msgId : String) (now : Int) (receipt : ChatReadReceipt) :
    ChatReadReceipt :=
  if receipt.lastReadMsgId.all (· < msgId) then
    { receipt with lastReadMsgId := some msgId, lastReadAt := some now }
  else receipt

theorem ChatReadReceipt.moveTo_key (msgId : String) (now : Int) (receipt : ChatReadReceipt) :
    ((receipt.moveTo msgId now).roomId, (receipt.moveTo msgId now).profileId) =
      (receipt.roomId, receipt.profileId) := by
  unfold moveTo
  split <;> rfl

/-- `INSERT ... ON CONFLICT (room_id, profile_id)` -/
def ReadReceipts.upsert (receipts : ReadReceipts) (roomId profileId msgId : String) (now : Int) :
    ReadReceipts :=
  match receipts.insert? ⟨roomId, profileId, some msgId, some now⟩ with
  | some inserted => inserted
  | none =>
      receipts.modify (roomId, profileId) (ChatReadReceipt.moveTo msgId now)
        (ChatReadReceipt.moveTo_key msgId now) (fun _ => rfl)

/-- What `mark_read` checks. -/
def acceptRead (chat : ChatState) (roomId : String) (profile upToMsgId : IdField) :
    Except HttpError (String × String) := do
  let msgId ← uuidOf "up_to_msg_id" upToMsgId
  let profileId ← getProfileId profile
  let _ ← chat.findRoom roomId profileId
  return (profileId, msgId)

/-! ## Connections and calls -/

/-- Where a message to send comes from: a frame of a connection, or a request. -/
inductive Origin where
  | frame (connection : Nat) (frame : SendFrame)
  | request (request : SendRequest) (profileId : String)
  deriving DecidableEq, Repr

namespace Origin

def roomId : Origin → String
  | .frame _ sent => sent.room.id
  | .request sent _ => sent.roomId

def senderProfileId : Origin → String
  | .frame _ sent => sent.profileId
  | .request _ profileId => profileId

def connection : Origin → Option Nat
  | .frame connection _ => some connection
  | .request _ _ => none

/-- The row that the handler inserts. -/
def message (body : SendMessageBody) (reply : ScanReply) : Origin → ChatMessage
  | .frame _ sent => sent.message (fun _ => reply) body
  | .request sent profileId => sent.message (fun _ => reply) profileId body

end Origin

/-- What a call does next. -/
inductive CallPhase where
  /-- `_call_moderation` -/
  | scan (origin : Origin) (body : SendMessageBody)
  | insert (origin : Origin) (body : SendMessageBody) (reply : ScanReply)
  /-- the upsert of a receipt, for a frame of a connection or a request -/
  | receipt (connection : Option Nat) (roomId profileId msgId : String) (now : Int)
  /-- `SELECT COALESCE(MAX(version), 0)` -/
  | version (request : EditRequest) (message : ChatMessage) (body : String)
  | write (request : EditRequest) (message : ChatMessage) (body : String)
      (revisions : List ChatMessageRevision)
  | done
  deriving DecidableEq, Repr

inductive FramePhase where
  | waiting
  | handling
  | refreshing
  | closed
  deriving DecidableEq, Repr

/-- `room` is the row as the connection last read it. -/
structure RoomConnection where
  profileId : String
  room : ChatRoom
  phase : FramePhase := .waiting
  sent : List WsFrame := []
  deriving DecidableEq, Repr

/-- The connections and the calls are numbered in the order in which they began. -/
structure ChatService where
  chat : ChatState
  receipts : ReadReceipts
  connections : List RoomConnection
  calls : List CallPhase

/-- A frame of a client; its room and profile are those of the connection. -/
inductive ClientFrame where
  | send (frame : SendFrame)
  | readAck (withinRate : Bool) (upToMsgId : IdField) (now : Int)
  | other
  deriving DecidableEq, Repr

structure ChatOutside where
  /-- the statements are carried out -/
  ok : Bool := true
  /-- the answer of moderation-svc -/
  reply : ScanReply := ⟨some 0, some []⟩

inductive ChatEvent where
  | connect (roomId profileId : String)
  | receive (index : Nat) (frame : ClientFrame)
  /-- `db.refresh(room)` -/
  | refresh (index : Nat)
  | disconnect (index : Nat)
  | sendMessage (request : SendRequest)
  | editMessage (request : EditRequest)
  | markRead (roomId : String) (profile upToMsgId : IdField) (now : Int)
  | advance (index : Nat) (outside : ChatOutside)
  | setRoomState (roomId : String) (state : RoomState)

/-! ## What a frame leads to -/

inductive Reaction where
  | answer (frames : List WsFrame)
  | raised
  | begun (call : CallPhase)
  deriving DecidableEq, Repr

/-- The frame with what the connection knows. -/
def RoomConnection.sendFrame (connection : RoomConnection) (frame : SendFrame) : SendFrame :=
  { frame with room := connection.room, profileId := connection.profileId }

/-- The frame that is handled, up to the first statement that writes. -/
def RoomConnection.react (settings : ChatSettings) (chat : ChatState) (index : Nat)
    (connection : RoomConnection) : ClientFrame → Reaction
  | .send frame =>
      match acceptFrame settings chat (connection.sendFrame frame) with
      | .error [] => .raised
      | .error frames => .answer frames
      | .ok body => .begun (.scan (.frame index (connection.sendFrame frame)) body)
  | .readAck withinRate upToMsgId now =>
      if withinRate = false ∨ connection.room.state = .readOnly then .answer []
      else
        match upToMsgId with
        | .uuid msgId =>
            .begun (.receipt (some index) connection.room.id connection.profileId msgId now)
        | .missing | .malformed _ => .answer []
  | .other => .answer []

namespace ChatService

/-- The call that an event begins. -/
def begins (settings : ChatSettings) (s : ChatService) : ChatEvent → Option CallPhase
  | .receive index frame =>
      match s.connections[index]? with
      | some connection =>
          if connection.phase = .waiting then
            match connection.react settings s.chat index frame with
            | .begun call => some call
            | .answer _ | .raised => none
          else none
      | none => none
  | .sendMessage request =>
      match acceptSend s.chat request with
      | .ok (profileId, body) => some (.scan (.request request profileId) body)
      | .error _ => none
  | .editMessage request =>
      match acceptEdit s.chat request with
      | .ok (message, body) => some (.version request message body)
      | .error _ => none
  | .markRead roomId profile upToMsgId now =>
      match acceptRead s.chat roomId profile upToMsgId with
      | .ok (profileId, msgId) => some (.receipt none roomId profileId msgId now)
      | .error _ => none
  | _ => none

def put (s : ChatService) (index : Nat) (call : CallPhase) : ChatService :=
  { s with calls := s.calls.set index call }

/-- The frame of a connection is handled. -/
def finish (s : ChatService) (phase : FramePhase) (frames : List WsFrame) :
    Option Nat → ChatService
  | some connection =>
      { s with
        connections := s.connections.modify connection fun connection =>
          { connection with phase, sent := connection.sent ++ frames } }
  | none => s

def receive (settings : ChatSettings) (s : ChatService) (index : Nat) (frame : ClientFrame)
    (connection : RoomConnection) : ChatService :=
  match connection.react settings s.chat index frame with
  | .answer frames => s.finish .refreshing frames (some index)
  | .raised => s.finish .closed [] (some index)
  | .begun call => { s.finish .handling [] (some index) with calls := s.calls ++ [call] }

/-- One step of a call; a statement that fails ends the connection of its frame. -/
def advance (s : ChatService) (index : Nat) (outside : ChatOutside) : CallPhase → ChatService
  | .scan origin body => s.put index (.insert origin body outside.reply)
  | .insert origin body reply =>
      let message := origin.message body reply
      match if outside.ok then s.chat.addMessage? message else none with
      | none => (s.put index .done).finish .closed [] origin.connection
      | some stored =>
          match origin with
          | .frame connection frame =>
              let sent := stored.buildMessageOut message
              let chat := if message.moderationStatus.visible then stored.publish frame.room.id sent
                else stored
              ({ s.put index .done with chat }).finish .refreshing
                (frame.answer body sent message.moderationStatus) (some connection)
          | .request _ _ => { s.put index .done with chat := stored }
  | .receipt connection roomId profileId msgId now =>
      if outside.ok then
        ({ s.put index .done with
          receipts := s.receipts.upsert roomId profileId msgId now }).finish .refreshing [] connection
      else (s.put index .done).finish .closed [] connection
  | .version request message body =>
      s.put index
        (.write request message body
          (newRevisions s.chat.revisions.rows message body request.now))
  | .write request message body revisions =>
      match if outside.ok then addRevisions? s.chat revisions else none with
      | none => s.put index .done
      | some revised =>
          { s.put index .done with chat := revised.updateBody message.id body request.now }
  | .done => s

def refresh (s : ChatService) (index : Nat) : ChatService :=
  { s with
    connections := s.connections.modify index fun connection =>
      if connection.phase = .refreshing then
        match s.chat.rooms.lookup connection.room.id with
        | some room => { connection with room, phase := .waiting }
        | none => { connection with phase := .closed }
      else connection }

def step (settings : ChatSettings) (s : ChatService) : ChatEvent → ChatService
  | .connect roomId profileId =>
      match s.chat.findRoom roomId profileId with
      | .ok room => { s with connections := s.connections ++ [{ profileId, room }] }
      | .error _ => s
  | .receive index frame =>
      match s.connections[index]? with
      | some connection =>
          if connection.phase = .waiting then s.receive settings index frame connection else s
      | none => s
  | .refresh index => s.refresh index
  | .disconnect index =>
      { s with
        connections := s.connections.modify index fun connection =>
          if connection.phase = .waiting then { connection with phase := .closed }
          else connection }
  | .advance index outside =>
      match s.calls[index]? with
      | some call => s.advance index outside call
      | none => s
  | .setRoomState roomId state =>
      { s with
        chat :=
          { s.chat with
            rooms := s.chat.rooms.modify roomId (ChatRoom.setState state)
              (ChatRoom.setState_id state) (ChatRoom.noAlt_setState state) } }
  | event =>
      match s.begins settings event with
      | some call => { s with calls := s.calls ++ [call] }
      | none => s

/-- Rooms in which nothing was said yet. -/
def quiet (rooms : Table ChatRoom ChatRoom.id (noAlt ChatRoom)) : ChatService :=
  ⟨silent rooms, .empty, [], []⟩

def run (settings : ChatSettings) (rooms : Table ChatRoom ChatRoom.id (noAlt ChatRoom))
    (events : List ChatEvent) : ChatService :=
  runFrom (step settings) (quiet rooms) events

/-! ## What a step changes -/

section

variable {settings : ChatSettings} {s : ChatService}

@[simp] theorem finish_chat (phase : FramePhase) (frames : List WsFrame)
    (connection : Option Nat) : (s.finish phase frames connection).chat = s.chat := by
  cases connection <;> rfl

@[simp] theorem finish_receipts (phase : FramePhase) (frames : List WsFrame)
    (connection : Option Nat) : (s.finish phase frames connection).receipts = s.receipts := by
  cases connection <;> rfl

@[simp] theorem finish_calls (phase : FramePhase) (frames : List WsFrame)
    (connection : Option Nat) : (s.finish phase frames connection).calls = s.calls := by
  cases connection <;> rfl

theorem react_of_begins {index : Nat} {frame : ClientFrame} {call : CallPhase}
    (h : s.begins settings (.receive index frame) = some call) :
    ∃ connection, s.connections[index]? = some connection ∧ connection.phase = .waiting ∧
      connection.react settings s.chat index frame = .begun call := by
  simp only [begins] at h
  split at h
  · rename_i connection found
    split at h
    · rename_i waiting
      split at h
      · rename_i call' reaction
        obtain rfl := Option.some.inj h
        exact ⟨connection, found, waiting, reaction⟩
      · cases h
      · cases h
    · cases h
  · cases h

/-- A call begins with a scan, with the upsert of a receipt, or with an edit that is accepted. -/
theorem begins_cases {event : ChatEvent} {call : CallPhase}
    (h : s.begins settings event = some call) :
    (∃ origin body, call = .scan origin body) ∨
    (∃ connection roomId profileId msgId now,
      call = .receipt connection roomId profileId msgId now) ∨
    ∃ request message body, call = .version request message body ∧
      acceptEdit s.chat request = .ok (message, body) := by
  cases event with
  | receive index frame =>
      obtain ⟨connection, -, -, reaction⟩ := react_of_begins h
      cases frame with
      | send frame =>
          simp only [RoomConnection.react] at reaction
          split at reaction
          · cases reaction
          · cases reaction
          · cases reaction
            exact Or.inl ⟨_, _, rfl⟩
      | readAck withinRate upToMsgId now =>
          simp only [RoomConnection.react] at reaction
          split at reaction
          · cases reaction
          · split at reaction
            · cases reaction
              exact Or.inr (Or.inl ⟨_, _, _, _, _, rfl⟩)
            · cases reaction
            · cases reaction
      | other => cases reaction
  | sendMessage request =>
      simp only [begins] at h
      split at h
      · exact Or.inl ⟨_, _, (Option.some.inj h).symm⟩
      · cases h
  | editMessage request =>
      simp only [begins] at h
      split at h
      · rename_i message body accepted
        exact Or.inr (Or.inr ⟨request, message, body, (Option.some.inj h).symm, accepted⟩)
      · cases h
  | markRead roomId profile upToMsgId now =>
      simp only [begins] at h
      split at h
      · exact Or.inr (Or.inl ⟨_, _, _, _, _, (Option.some.inj h).symm⟩)
      · cases h
  | _ => cases h

/-- What every event leaves alone that neither begins a call nor lets one go on. -/
structure Quiet (s s' : ChatService) : Prop where
  calls : s'.calls = s.calls
  receipts : s'.receipts = s.receipts
  messages : s'.chat.messages = s.chat.messages
  revisions : s'.chat.revisions = s.chat.revisions

/-- An event begins a call, lets one go on, or leaves calls and messages alone. -/
theorem step_cases (event : ChatEvent) :
    (∃ call, s.begins settings event = some call ∧ (s.step settings event).chat = s.chat ∧
      (s.step settings event).receipts = s.receipts ∧
      (s.step settings event).calls = s.calls ++ [call]) ∨
    (∃ index outside call, event = .advance index outside ∧ s.calls[index]? = some call ∧
      s.step settings event = s.advance index outside call) ∨
    s.begins settings event = none ∧ Quiet s (s.step settings event) := by
  have request : ∀ event : ChatEvent,
      s.step settings event = (match s.begins settings event with
        | some call => { s with calls := s.calls ++ [call] }
        | none => s) →
      (∃ call, s.begins settings event = some call ∧ (s.step settings event).chat = s.chat ∧
        (s.step settings event).receipts = s.receipts ∧
        (s.step settings event).calls = s.calls ++ [call]) ∨
      s.begins settings event = none ∧ Quiet s (s.step settings event) := by
    intro event same
    rw [same]
    cases begun : s.begins settings event with
    | some call => exact Or.inl ⟨call, rfl, rfl, rfl, rfl⟩
    | none => exact Or.inr ⟨rfl, rfl, rfl, rfl, rfl⟩
  cases event with
  | connect roomId profileId =>
      refine Or.inr (Or.inr ⟨rfl, ?_⟩)
      simp only [step]
      split <;> exact ⟨rfl, rfl, rfl, rfl⟩
  | receive index frame =>
      simp only [step]
      cases found : s.connections[index]? with
      | none =>
          refine Or.inr (Or.inr ⟨?_, rfl, rfl, rfl, rfl⟩)
          simp [begins, found]
      | some connection =>
          by_cases waiting : connection.phase = .waiting
          · simp only [begins, found, waiting, if_true, receive]
            cases connection.react settings s.chat index frame with
            | begun call =>
                left
                refine ⟨call, rfl, ?_, ?_, ?_⟩
                all_goals simp
            | answer frames =>
                refine Or.inr (Or.inr ⟨rfl, ?_⟩)
                constructor
                all_goals simp
            | raised =>
                refine Or.inr (Or.inr ⟨rfl, ?_⟩)
                constructor
                all_goals simp
          · simp only [begins, found, waiting, if_false]
            exact Or.inr (Or.inr ⟨trivial, rfl, rfl, rfl, rfl⟩)
  | refresh index => exact Or.inr (Or.inr ⟨rfl, rfl, rfl, rfl, rfl⟩)
  | disconnect index => exact Or.inr (Or.inr ⟨rfl, rfl, rfl, rfl, rfl⟩)
  | sendMessage sent => exact (request (.sendMessage sent) rfl).imp id Or.inr
  | editMessage edit => exact (request (.editMessage edit) rfl).imp id Or.inr
  | markRead roomId profile upToMsgId now =>
      exact (request (.markRead roomId profile upToMsgId now) rfl).imp id Or.inr
  | advance index outside =>
      right
      cases found : s.calls[index]? with
      | some call =>
          left
          refine ⟨index, outside, call, rfl, found, ?_⟩
          simp [step, found]
      | none =>
          right
          simp only [step, found]
          exact ⟨rfl, rfl, rfl, rfl, rfl⟩
  | setRoomState roomId state => exact Or.inr (Or.inr ⟨rfl, rfl, rfl, rfl, rfl⟩)

/-- A call goes on to its next phase, or is done. -/
theorem advance_calls {index : Nat} {call : CallPhase} (found : s.calls[index]? = some call)
    (outside : ChatOutside) :
    (∃ origin body, call = .scan origin body ∧
      s.advance index outside call = s.put index (.insert origin body outside.reply)) ∨
    (∃ request message body, call = .version request message body ∧
      s.advance index outside call = s.put index (.write request message body
        (newRevisions s.chat.revisions.rows message body request.now))) ∨
    (s.advance index outside call).calls = s.calls.set index .done := by
  cases call with
  | scan origin body => exact Or.inl ⟨origin, body, rfl, rfl⟩
  | version request message body => exact Or.inr (Or.inl ⟨request, message, body, rfl, rfl⟩)
  | insert origin body reply =>
      right
      right
      simp only [advance]
      split
      · simp [put]
      · cases origin with
        | frame connection frame => simp [put]
        | request request profileId => rfl
  | receipt connection roomId profileId msgId now =>
      right
      right
      simp only [advance]
      split <;> simp [put]
  | write request message body revisions =>
      right
      right
      simp only [advance]
      split <;> rfl
  | done => exact Or.inr (Or.inr (set_found found).symm)

theorem calls_of_begins {event : ChatEvent} {call : CallPhase}
    (begun : s.begins settings event = some call) :
    (s.step settings event).calls = s.calls ++ [call] := by
  rcases step_cases event with
    ⟨call', begun', -, -, calls⟩ | ⟨index, outside, call', rfl, -, -⟩ | ⟨idle, -⟩
  · obtain rfl := Option.some.inj (begun.symm.trans begun')
    exact calls
  · cases begun
  · rw [idle] at begun
    cases begun

end

/-! ## Two rooms -/

def duet : ChatRoom := ⟨"duet", ["anna", "ben"], .opened⟩

def trio : ChatRoom := ⟨"trio", ["anna", "ben", "cleo"], .opened⟩

def twoRooms : Table ChatRoom ChatRoom.id (noAlt ChatRoom) :=
  ⟨[duet, trio], by decide, by decide⟩

def greeting (nonce : String) : SendJson := ⟨some "hi", .missing, .uuid nonce⟩

/-- The frame as the connection of `profileId` completes it. -/
def greetingFrame (profileId nonce id : String) : SendFrame :=
  ⟨true, greeting nonce, duet, profileId, none, id, 0⟩

def greets (connection : Nat) (nonce id : String) : ChatEvent :=
  .receive connection (.send (greetingFrame "" nonce id))

def posts (profileId nonce id : String) : ChatEvent :=
  .sendMessage ⟨"duet", .uuid profileId, greeting nonce, id, 0⟩

/-- A call of a message, from its scan to its answer. -/
def goesOn (call : Nat) : List ChatEvent := List.replicate 2 (.advance call {})

end ChatService

end ColabPlatform.Chat
