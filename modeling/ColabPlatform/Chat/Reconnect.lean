import ColabPlatform.Chat.Runs
import ColabPlatform.Common.UuidV7

/-!
# Reconnecting to a room

The ids of messages are drawn by the clocks of several pods, a message is visible from its
commit on, and it is published later.  A client keeps the id of the last frame that had one,
and asks for what is newer whenever a connection opens.  The model follows one client of one
room; its frames come in the order in which they were sent, and get lost with the connection.
-/

namespace ColabPlatform.Chat

open Foundation Common

/-! ## Frames, connections and calls -/

/-- What a connection of the client receives. -/
inductive ServerFrame where
  | broadcast (message : ChatMessageOut)
  | answer (frame : WsFrame)
  deriving DecidableEq, Repr

namespace ServerFrame

/-- What `onMessage` or `onReplay` is called with. -/
def messages : ServerFrame → List ChatMessageOut
  | broadcast message => [message]
  | answer (.replay messages _) => messages
  | answer _ => []

/-- What `onmessage` saves; the payload of a soft warning has no `msg_id`. -/
def lastAck : ServerFrame → Option String
  | broadcast message => some message.id
  | answer (.messageAck _ msgId _) => some msgId
  | answer (.replay messages _) => messages.getLast?.map (·.id)
  | answer _ => none

def shows (id : String) (frame : ServerFrame) : Bool := frame.messages.any (·.id = id)

end ServerFrame

inductive LinkPhase where
  | connecting
  | accepted
  /-- the receive loop, before which the handler subscribes -/
  | receiving
  deriving DecidableEq, Repr

structure ClientLink where
  number : Nat
  phase : LinkPhase := .connecting
  /-- `since_msg_id` of the `reconnect` frame that is not handled -/
  request : Option String := none
  /-- what the subscription has received and the listener has not -/
  inbox : List ChatMessageOut := []
  wire : List ServerFrame := []
  deriving DecidableEq, Repr

/-- A message is on its way to the client. -/
def ClientLink.brings (id : String) (link : ClientLink) : Bool :=
  link.inbox.any (·.id = id) || link.wire.any (·.shows id)

/-- What a send does next. -/
inductive SendCall where
  | insert (origin : Origin) (body : SendMessageBody) (reply : ScanReply)
  | publish (connection : Nat) (frame : SendFrame) (body : SendMessageBody)
      (message : ChatMessage)
  | answer (connection : Nat) (frames : List WsFrame)
  | done
  deriving DecidableEq, Repr

def SendCall.publishes (id : String) : SendCall → Bool
  | publish _ _ _ message => message.id = id
  | _ => false

/-- An AsyncStorage call of the client that is awaited. -/
inductive AckTask where
  | getLastAck (link : Nat)
  | saveLastAck (msgId : String)
  | done
  deriving DecidableEq, Repr

/-- The connections to the room are numbered; `link` is the one of the client, and `shown` are
the ids that it was shown. -/
structure Reconnection where
  time : Nat
  chat : ChatState
  calls : List SendCall
  numbered : Nat
  link : Option ClientLink
  /-- `chat:last_ack` -/
  lastAck : Option String
  tasks : List AckTask
  shown : List String

/-- `skewMs` bounds how far the clock of a pod is from the time. -/
structure ReconnectionSettings where
  roomId : String
  skewMs : Nat
  chat : ChatSettings := {}

/-- What a handler reads to draw an id. -/
structure ClockReading where
  tsMs : Nat
  randA : Nat := 0
  randB : Nat := 0
  deriving DecidableEq, Repr

inductive ReconnectionEvent where
  | tick (ms : Nat)
  /-- another client connects -/
  | join
  | connect
  | opens
  | subscribe
  | closes
  /-- a message is scanned, and its id is drawn -/
  | send (origin : Origin) (body : SendMessageBody) (reply : ScanReply) (clock : ClockReading)
  | advance (index : Nat)
  /-- the listener takes the next message -/
  | hear
  /-- the listener of another connection of the pod broadcasts a message -/
  | relay (index : Nat)
  /-- the `reconnect` frame is handled -/
  | answer
  /-- `onmessage` -/
  | deliver
  | task (index : Nat)
  deriving DecidableEq, Repr

/-! ## Steps -/

/-- The id of the new row is drawn by the handler. -/
def Origin.draw (id : String) : Origin → Origin
  | frame connection sent => frame connection { sent with id }
  | request sent profileId => request { sent with id } profileId

namespace Reconnection

/-- A client with what an earlier run has left under `chat:last_ack`. -/
def mounted (history : ChatState) (lastAck : Option String) : Reconnection :=
  ⟨0, history, [], 0, none, lastAck, [], []⟩

variable (settings : ReconnectionSettings)

def draw (s : Reconnection) (clock : ClockReading) : Option UuidInt :=
  if clock.tsMs ≤ s.time + settings.skewMs ∧ s.time ≤ clock.tsMs + settings.skewMs then
    generateUuidv7 clock.tsMs clock.randA clock.randB
  else none

def put (s : Reconnection) (index : Nat) (call : SendCall) : Reconnection :=
  { s with calls := s.calls.set index call }

/-- Redis hands a publication to the subscription of the client's connection. -/
def notify (s : Reconnection) (roomId : String) (message : ChatMessageOut) : Reconnection :=
  { s with
    link := s.link.map fun link =>
      if roomId = settings.roomId ∧ link.phase = .receiving then
        { link with inbox := link.inbox ++ [message] }
      else link }

/-- One step of a send, after its scan. -/
def advance (s : Reconnection) (index : Nat) : SendCall → Reconnection
  | .insert origin body reply =>
      let message := origin.message body reply
      match s.chat.addMessage? message with
      | none => s.put index .done
      | some chat =>
          let next := match origin with
            | .frame connection frame =>
                if message.moderationStatus.visible then .publish connection frame body message
                else
                  .answer connection
                    (frame.answer body (chat.buildMessageOut message) message.moderationStatus)
            | .request _ _ => .done
          { s.put index next with chat }
  | .publish connection frame body message =>
      let sent := s.chat.buildMessageOut message
      let next := .answer connection (frame.answer body sent message.moderationStatus)
      { s.put index next with chat := s.chat.publish frame.room.id sent }.notify settings
        frame.room.id sent
  | .answer connection frames =>
      { s.put index .done with
        link := s.link.map fun link =>
          if link.number = connection then
            { link with wire := link.wire ++ frames.map .answer }
          else link }
  | .done => s

/-- The `reconnect` frame that the handler takes next. -/
def asked (s : Reconnection) : Option String :=
  s.link.bind fun link => if link.phase = .receiving then link.request else none

/-- `_handle_reconnect`; a connection has one such frame, so it is within the rate. -/
def replay (s : Reconnection) (since : String) : List ServerFrame :=
  (handleReconnect settings.chat s.chat true settings.roomId (.uuid since)).map .answer

def step (s : Reconnection) : ReconnectionEvent → Reconnection
  | .tick ms => { s with time := s.time + ms }
  | .join => { s with numbered := s.numbered + 1 }
  | .connect =>
      match s.link with
      | none => { s with numbered := s.numbered + 1, link := some { number := s.numbered } }
      | some _ => s
  | .opens =>
      match s.link with
      | some link =>
          if link.phase = .connecting then
            { s with
              link := some { link with phase := .accepted }
              tasks := s.tasks ++ [.getLastAck link.number] }
          else s
      | none => s
  | .subscribe =>
      { s with
        link := s.link.map fun link =>
          if link.phase = .accepted then { link with phase := .receiving } else link }
  | .closes => { s with link := none }
  | .send origin body reply clock =>
      if origin.connection.all (· < s.numbered) then
        match s.draw settings clock with
        | some id => { s with calls := s.calls ++ [.insert (origin.draw (uuidText id)) body reply] }
        | none => s
      else s
  | .advance index =>
      match s.calls[index]? with
      | some call => s.advance settings index call
      | none => s
  | .hear =>
      { s with
        link := s.link.map fun link =>
          match link.inbox with
          | message :: inbox => { link with inbox, wire := link.wire ++ [.broadcast message] }
          | [] => link }
  | .relay index =>
      match s.chat.published[index]? with
      | some (roomId, message) =>
          { s with
            link := s.link.map fun link =>
              if roomId = settings.roomId ∧ link.phase ≠ .connecting then
                { link with wire := link.wire ++ [.broadcast message] }
              else link }
      | none => s
  | .answer =>
      match s.asked with
      | some since =>
          { s with
            link := s.link.map fun link =>
              { link with request := none, wire := link.wire ++ s.replay settings since } }
      | none => s
  | .deliver =>
      match s.link with
      | some link =>
          match link.wire with
          | frame :: wire =>
              { s with
                link := some { link with wire }
                shown := s.shown ++ frame.messages.map (·.id)
                tasks := s.tasks ++ (frame.lastAck.map AckTask.saveLastAck).toList }
          | [] => s
      | none => s
  | .task index =>
      match s.tasks[index]? with
      | some (.getLastAck number) =>
          { s with
            tasks := s.tasks.set index .done
            link := s.link.map fun link =>
              if link.number = number then { link with request := s.lastAck } else link }
      | some (.saveLastAck msgId) =>
          { s with tasks := s.tasks.set index .done, lastAck := some msgId }
      | some .done | none => s

def run (history : ChatState) (lastAck : Option String) (events : List ReconnectionEvent) :
    Reconnection :=
  runFrom (step settings) (mounted history lastAck) events

/-! ## What is promised -/

/-- The `reconnect` exchange of the connection is finished, and nothing is on its way. -/
def exchanged (s : Reconnection) : Bool :=
  s.link.any fun link =>
    link.phase = .receiving && link.request.isNone && link.inbox.isEmpty && link.wire.isEmpty &&
      !s.tasks.contains (.getLastAck link.number)

/-- The handler is between the commit of the message and its publication. -/
def unpublished (s : Reconnection) (id : String) : Bool := s.calls.any (·.publishes id)

/-- A visible message of the room, newer than what the client started from. -/
def wants (start : Option String) (message : ChatMessage) : Bool :=
  message.roomId = settings.roomId && message.shown && start.any (· < message.id)

def Resumed (history : ChatState) (start : Option String) (events : List ReconnectionEvent) :
    Prop :=
  (run settings history start events).exchanged = true →
    ∀ message ∈ (run settings history start events).chat.messages.rows,
      wants settings start message = true →
      (run settings history start events).unpublished message.id = false →
      message.id ∈ (run settings history start events).shown

/-! ## The runs in which it is kept -/

/-- The message is to be published, or on its way to the client. -/
def coming (s : Reconnection) (id : String) : Bool :=
  s.unpublished id || s.link.any (·.brings id)

def missed (start : Option String) (s : Reconnection) : List ChatMessage :=
  s.chat.messages.rows.filter fun message =>
    wants settings start message && !s.shown.contains message.id && !s.coming message.id

/-- The `reconnect` frame is still to be sent, or on its way with a smaller pointer. -/
def asks (s : Reconnection) (id : String) : Bool :=
  match s.link with
  | none => true
  | some link =>
      link.phase = .connecting || s.tasks.contains (.getLastAck link.number) ||
        link.request.any (· < id)

/-- The pointer that is read when a connection opens is below every message that is missed;
the replay is not cut off before one; and what is committed without being published, or
published while the client is not subscribed, comes with the replay. -/
def resumesRight (start : Option String) (s : Reconnection) : ReconnectionEvent → Bool
  | .task index =>
      match s.tasks[index]? with
      | some (.getLastAck number) =>
          !s.link.any (·.number = number) ||
            (s.missed settings start).all fun message => s.lastAck.any (· < message.id)
      | _ => true
  | .answer =>
      match s.asked with
      | some since =>
          (s.missed settings start).all fun message =>
            (s.replay settings since).any (·.shows message.id)
      | none => true
  | .advance index =>
      match s.calls[index]? with
      | some (.insert (.request sent profileId) body reply) =>
          let message := sent.message (fun _ => reply) profileId body
          !wants settings start message || s.asks message.id ||
            (s.chat.addMessage? message).isNone
      | some (.publish _ _ _ message) =>
          !wants settings start message || s.link.any (·.phase = .receiving) || s.asks message.id
      | _ => true
  | _ => true

/-! ## What is missed is asked for -/

/-- Ids that are drawn further apart than the clocks can be are in the order of the draws. -/
theorem draw_lt {settings : ReconnectionSettings} {s s' : Reconnection}
    {clock clock' : ClockReading} {id id' : UuidInt} (drawn : s.draw settings clock = some id)
    (drawn' : s'.draw settings clock' = some id')
    (apart : s.time + 2 * settings.skewMs < s'.time) : uuidText id < uuidText id' := by
  unfold draw at drawn drawn'
  split at drawn
  · rename_i near
    split at drawn'
    · rename_i near'
      apply uuidText_lt_iff.2
      apply generateUuidv7_lt drawn drawn'
      omega
    · cases drawn'
  · cases drawn

structure Sound (start : Option String) (s : Reconnection) : Prop where
  asked : ∀ message ∈ s.missed settings start, s.asks message.id = true
  stored : ∀ connection frame body message, .publish connection frame body message ∈ s.calls →
    message ∈ s.chat.messages.rows ∧ message.roomId = frame.room.id

variable {settings} {start : Option String} {s s' : Reconnection}

theorem mem_missed {message : ChatMessage} :
    message ∈ s.missed settings start ↔
      message ∈ s.chat.messages.rows ∧ wants settings start message = true ∧
        message.id ∉ s.shown ∧ s.coming message.id = false := by
  simp [missed, and_assoc]

theorem mounted_sound (history : ChatState) :
    (mounted history start).Sound settings start where
  asked := fun _ _ => rfl
  stored := by
    intro connection frame body message mem
    cases mem

/-- No row is written, and what was coming is coming still, or shown. -/
theorem Sound.frame (h : s.Sound settings start)
    (messages : s'.chat.messages = s.chat.messages)
    (calls : ∀ connection frame body message,
      .publish connection frame body message ∈ s'.calls →
        .publish connection frame body message ∈ s.calls)
    (shown : ∀ id ∈ s.shown, id ∈ s'.shown)
    (coming : ∀ id, s.coming id = true → s'.coming id = true ∨ id ∈ s'.shown)
    (asks : ∀ message ∈ s'.missed settings start, message ∈ s.missed settings start →
      s.asks message.id = true → s'.asks message.id = true) :
    s'.Sound settings start where
  asked := by
    intro message mem
    obtain ⟨row, wanted, unseen, away⟩ := mem_missed.1 mem
    rw [messages] at row
    have before : message ∈ s.missed settings start := by
      refine mem_missed.2 ⟨row, wanted, fun seen => unseen (shown _ seen), ?_⟩
      by_contra near
      rcases coming message.id (by simpa using near) with still | seen
      · simp [away] at still
      · exact unseen seen
    exact asks message mem before (h.asked message before)
  stored := by
    intro connection frame body message mem
    rw [messages]
    exact h.stored connection frame body message (calls connection frame body message mem)

/-! ### Connections -/

theorem asks_map {f : ClientLink → ClientLink} {id : String}
    (keeps : ∀ link, (f link).number = link.number ∧ (f link).request = link.request ∧
      (link.phase = .connecting → (f link).phase = .connecting))
    (link : s'.link = s.link.map f) (tasks : s'.tasks = s.tasks) (h : s.asks id = true) :
    s'.asks id = true := by
  unfold asks at h ⊢
  rw [link, tasks]
  cases current : s.link with
  | none => rfl
  | some before =>
      obtain ⟨number, request, connecting⟩ := keeps before
      simp only [current, Bool.or_eq_true, decide_eq_true_eq] at h
      simp only [Option.map_some, number, request, Bool.or_eq_true, decide_eq_true_eq]
      exact h.imp_left fun either => either.imp_left connecting

theorem coming_map {f : ClientLink → ClientLink} {id : String}
    (brings : ∀ link, link.brings id = true → (f link).brings id = true)
    (link : s'.link = s.link.map f)
    (unpublished : s.unpublished id = true → s'.unpublished id = true)
    (h : s.coming id = true) : s'.coming id = true := by
  unfold coming at h ⊢
  rw [link]
  rcases Bool.or_eq_true_iff.1 h with inHand | near
  · simp [unpublished inHand]
  · obtain ⟨before, current, near⟩ := (Option.any_eq_true _ _).1 near
    simp [current, brings before near]

/-- The connection is changed, and brings what it brought. -/
theorem Sound.onLink (h : s.Sound settings start) {f : ClientLink → ClientLink}
    (keeps : ∀ link, (f link).number = link.number ∧ (f link).request = link.request ∧
      (link.phase = .connecting → (f link).phase = .connecting))
    (brings : ∀ link id, link.brings id = true → (f link).brings id = true)
    (link : s'.link = s.link.map f) (tasks : s'.tasks = s.tasks)
    (messages : s'.chat.messages = s.chat.messages) (shown : s'.shown = s.shown)
    (calls : ∀ connection frame body message,
      .publish connection frame body message ∈ s'.calls →
        .publish connection frame body message ∈ s.calls)
    (unpublished : ∀ id, s.unpublished id = true → s'.unpublished id = true) :
    s'.Sound settings start := by
  refine h.frame messages calls ?_ ?_ ?_
  · intro id seen
    rwa [shown]
  · intro id near
    exact Or.inl (coming_map (fun link => brings link id) link (unpublished id) near)
  · intro message _ _ asked
    exact asks_map keeps link tasks asked

theorem Sound.connect (h : s.Sound settings start) :
    (s.step settings .connect).Sound settings start := by
  simp only [step]
  split
  · rename_i none
    refine h.frame rfl (fun _ _ _ _ mem => mem) (fun _ seen => seen) ?_ ?_
    · intro id near
      left
      simpa [coming, unpublished, none, ClientLink.brings] using near
    · intro message _ _ _
      rfl
  · exact h

theorem Sound.opens (h : s.Sound settings start) :
    (s.step settings .opens).Sound settings start := by
  simp only [step]
  split
  · rename_i link current
    split
    · refine h.frame rfl (fun _ _ _ _ mem => mem) (fun _ seen => seen) ?_ ?_
      · intro id near
        left
        simpa [coming, unpublished, current, ClientLink.brings] using near
      · intro message _ _ _
        simp [asks]
    · exact h
  · exact h

theorem Sound.subscribe (h : s.Sound settings start) :
    (s.step settings .subscribe).Sound settings start := by
  refine h.onLink ?_ ?_ rfl rfl rfl rfl (fun _ _ _ _ mem => mem) (fun _ inHand => inHand)
  · intro link
    split
    · rename_i accepted
      simp [accepted]
    · exact ⟨rfl, rfl, id⟩
  · intro link id near
    split
    · exact near
    · exact near

/-- A connection that is closed is followed by one that asks. -/
theorem Sound.closes (h : s.Sound settings start) :
    (s.step settings .closes).Sound settings start where
  asked := fun _ _ => rfl
  stored := h.stored

theorem Sound.hear (h : s.Sound settings start) :
    (s.step settings .hear).Sound settings start := by
  refine h.onLink ?_ ?_ rfl rfl rfl rfl (fun _ _ _ _ mem => mem) (fun _ inHand => inHand)
  · intro link
    split
    · exact ⟨rfl, rfl, id⟩
    · exact ⟨rfl, rfl, id⟩
  · intro link id near
    split
    · rename_i message inbox first
      simp only [ClientLink.brings, first, List.any_cons, List.any_append, List.any_nil,
        Bool.or_eq_true] at near ⊢
      rcases near with (next | later) | wire
      · simp [ServerFrame.shows, ServerFrame.messages, next]
      · exact Or.inl later
      · exact Or.inr (Or.inl wire)
    · exact near

theorem brings_send (link : ClientLink) {id : String} (frames : List ServerFrame)
    (near : link.brings id = true) :
    ClientLink.brings id { link with wire := link.wire ++ frames } = true := by
  simp only [ClientLink.brings, List.any_append, Bool.or_eq_true] at near ⊢
  exact near.imp_right Or.inl

theorem Sound.relay (h : s.Sound settings start) (index : Nat) :
    (s.step settings (.relay index)).Sound settings start := by
  simp only [step]
  split
  · rename_i roomId message found
    refine h.onLink ?_ ?_ rfl rfl rfl rfl (fun _ _ _ _ mem => mem) (fun _ inHand => inHand)
    · intro link
      split
      · exact ⟨rfl, rfl, id⟩
      · exact ⟨rfl, rfl, id⟩
    · intro link id near
      split
      · exact brings_send link _ near
      · exact near
  · exact h

/-- What the client takes from the connection is shown. -/
theorem Sound.deliver (h : s.Sound settings start) :
    (s.step settings .deliver).Sound settings start := by
  simp only [step]
  split
  · rename_i link current
    split
    · rename_i frame wire first
      refine h.frame rfl (fun _ _ _ _ mem => mem) ?_ ?_ ?_
      · intro id seen
        exact List.mem_append_left _ seen
      · intro id near
        simp only [coming, current, unpublished, ClientLink.brings, first, Option.any_some,
          List.any_cons, Bool.or_eq_true] at near ⊢
        rcases near with inHand | inbox | now | later
        · exact Or.inl (Or.inl inHand)
        · exact Or.inl (Or.inr (Or.inl inbox))
        · right
          obtain ⟨message, mem, same⟩ := List.any_eq_true.1 now
          obtain rfl := of_decide_eq_true same
          exact List.mem_append_right _ (List.mem_map_of_mem mem)
        · exact Or.inl (Or.inr (Or.inr later))
      · intro message _ _ asked
        simp only [asks, current, Bool.or_eq_true, List.contains_iff_mem] at asked ⊢
        exact asked.imp_left fun either => either.imp_right (List.mem_append_left _)
    · exact h
  · exact h

/-- What is missed comes with the replay. -/
theorem Sound.answer (h : s.Sound settings start)
    (right : s.resumesRight settings start .answer = true) :
    (s.step settings .answer).Sound settings start := by
  simp only [step]
  split
  · rename_i since asked
    simp only [resumesRight, asked, List.all_eq_true] at right
    obtain ⟨link, current, -⟩ := Option.bind_eq_some_iff.1 asked
    refine h.frame rfl (fun _ _ _ _ mem => mem) (fun _ seen => seen) ?_ ?_
    · intro id near
      left
      exact coming_map (f := fun link => { link with
        request := none, wire := link.wire ++ s.replay settings since })
        (fun link near => brings_send { link with request := none } _ near) rfl
        (fun inHand => inHand) near
    · intro message after before _
      obtain ⟨-, -, -, away⟩ := mem_missed.1 after
      have shows := right message before
      simp [coming, current, ClientLink.brings, List.any_append, shows] at away
  · exact h

/-! ### The client -/

theorem Sound.saveLastAck (h : s.Sound settings start) {index : Nat} {msgId : String}
    (found : s.tasks[index]? = some (.saveLastAck msgId)) :
    (s.step settings (.task index)).Sound settings start := by
  simp only [step, found]
  refine h.frame rfl (fun _ _ _ _ mem => mem) (fun _ seen => seen) (fun _ near => Or.inl near) ?_
  intro message _ _ asked
  unfold asks at asked ⊢
  cases current : s.link with
  | none => rfl
  | some link =>
      simp only [current, Bool.or_eq_true, List.contains_iff_mem] at asked ⊢
      exact asked.imp_left fun either =>
        either.imp_right fun mem => mem_set_of_mem found mem nofun

/-- The pointer that is sent is below what is missed. -/
theorem Sound.getLastAck (h : s.Sound settings start) {index number : Nat}
    (found : s.tasks[index]? = some (.getLastAck number))
    (right : s.resumesRight settings start (.task index) = true) :
    (s.step settings (.task index)).Sound settings start := by
  simp only [resumesRight, found, Bool.or_eq_true, Bool.not_eq_true', List.all_eq_true] at right
  simp only [step, found]
  refine h.frame rfl (fun _ _ _ _ mem => mem) (fun _ seen => seen) ?_ ?_
  · intro id near
    left
    refine coming_map (f := fun link =>
      if link.number = number then { link with request := s.lastAck } else link) ?_ rfl
      (fun inHand => inHand) near
    intro link near
    split
    · exact near
    · exact near
  · intro message _ missed asked
    unfold asks at asked ⊢
    cases current : s.link with
    | none => rfl
    | some link =>
        simp only [current, Bool.or_eq_true, List.contains_iff_mem] at asked
        simp only [Option.map_some]
        split
        · rename_i own
          rcases right with other | below
          · simp [current, own] at other
          · simp only [Bool.or_eq_true]
            exact Or.inr (below message missed)
        · rename_i other
          simp only [Bool.or_eq_true, List.contains_iff_mem]
          refine asked.imp_left fun either => either.imp_right fun mem => ?_
          apply mem_set_of_mem found mem
          intro same
          exact other (AckTask.getLastAck.inj same).symm

/-! ### Sends -/

theorem Sound.send (h : s.Sound settings start) (origin : Origin) (body : SendMessageBody)
    (reply : ScanReply) (clock : ClockReading) :
    (s.step settings (.send origin body reply clock)).Sound settings start := by
  simp only [step]
  split
  · split
    · rename_i id drawn
      refine h.frame rfl ?_ (fun _ seen => seen) ?_ (fun _ _ _ asked => asked)
      · intro connection frame body message mem
        rcases List.mem_append.1 mem with old | new
        · exact old
        · cases List.mem_singleton.1 new
      · intro id near
        left
        simp only [coming, unpublished, List.any_append, Bool.or_eq_true] at near ⊢
        exact near.imp_left Or.inl
    · exact h
  · exact h

theorem unpublished_put {index : Nat} {call next : SendCall} {id : String}
    (found : s.calls[index]? = some call) (other : call.publishes id = false)
    (h : s.unpublished id = true) : (s.put index next).unpublished id = true := by
  obtain ⟨publishing, mem, publishes⟩ := List.any_eq_true.1 h
  refine List.any_eq_true.2 ⟨publishing, mem_set_of_mem found mem ?_, publishes⟩
  rintro rfl
  simp [other] at publishes

theorem publish_of_mem_put {index : Nat} {next : SendCall}
    (plain : ∀ id, next.publishes id = false)
    {connection : Nat} {frame : SendFrame} {body : SendMessageBody} {message : ChatMessage}
    (mem : .publish connection frame body message ∈ (s.put index next).calls) :
    .publish connection frame body message ∈ s.calls := by
  rcases mem_set_cases mem with same | ⟨j, -, atJ⟩
  · have publishes := plain message.id
    simp [← same, SendCall.publishes] at publishes
  · exact List.mem_of_getElem? atJ

theorem Sound.acknowledge (h : s.Sound settings start) {index connection : Nat}
    {frames : List WsFrame} (found : s.calls[index]? = some (.answer connection frames)) :
    (s.advance settings index (.answer connection frames)).Sound settings start := by
  simp only [advance]
  refine h.onLink ?_ ?_ rfl rfl rfl rfl ?_ ?_
  · intro link
    split
    · exact ⟨rfl, rfl, id⟩
    · exact ⟨rfl, rfl, id⟩
  · intro link id near
    split
    · exact brings_send link _ near
    · exact near
  · intro _ _ _ _ mem
    exact publish_of_mem_put (fun _ => rfl) mem
  · intro id inHand
    exact unpublished_put found rfl inHand

/-- What is published comes over the subscription, or with the replay. -/
theorem Sound.publish (h : s.Sound settings start) {index connection : Nat} {frame : SendFrame}
    {body : SendMessageBody} {message : ChatMessage}
    (found : s.calls[index]? = some (.publish connection frame body message))
    (right : s.resumesRight settings start (.advance index) = true) :
    (s.advance settings index (.publish connection frame body message)).Sound settings start := by
  obtain ⟨row, sameRoom⟩ := h.stored connection frame body message (List.mem_of_getElem? found)
  simp only [resumesRight, found, Bool.or_eq_true, Bool.not_eq_true'] at right
  have brings : ∀ (link : ClientLink) (id : String), link.brings id = true →
      (if frame.room.id = settings.roomId ∧ link.phase = .receiving then
        { link with inbox := link.inbox ++ [s.chat.buildMessageOut message] }
      else link : ClientLink).brings id = true := by
    intro link id near
    split
    · simp only [ClientLink.brings, List.any_append, Bool.or_eq_true] at near ⊢
      exact near.imp_left Or.inl
    · exact near
  have keeps : ∀ {id : String}, s.asks id = true →
      (s.advance settings index (.publish connection frame body message)).asks id = true := by
    intro id asked
    refine asks_map ?_ rfl rfl asked
    intro link
    split
    · exact ⟨rfl, rfl, fun connecting => connecting⟩
    · exact ⟨rfl, rfl, fun connecting => connecting⟩
  refine ⟨?_, ?_⟩
  · intro other mem
    obtain ⟨stored, wanted, unseen, away⟩ := mem_missed.1 mem
    by_cases same : other.id = message.id
    · obtain rfl : other = message := Table.eq_of_key_eq stored row same
      rcases right with (unwanted | receiving) | asked
      · simp [wanted] at unwanted
      · obtain ⟨link, current, receiving⟩ := (Option.any_eq_true _ _).1 receiving
        simp only [wants, Bool.and_eq_true, decide_eq_true_eq] at wanted
        have here : frame.room.id = settings.roomId := sameRoom.symm.trans wanted.1.1
        simp [coming, advance, notify, put, current, of_decide_eq_true receiving, here,
          ClientLink.brings, ChatState.buildMessageOut, ChatMessage.toOut] at away
      · exact keeps asked
    · refine keeps (h.asked other (mem_missed.2 ⟨stored, wanted, unseen, ?_⟩))
      by_contra near
      have still : (s.advance settings index
          (.publish connection frame body message)).coming other.id = true :=
        coming_map (s := s) (fun link => brings link other.id) rfl
          (unpublished_put found (decide_eq_false (Ne.symm same))) (by simpa using near)
      simp [still] at away
  · intro _ _ _ _ mem
    exact h.stored _ _ _ _ (publish_of_mem_put (fun _ => rfl) mem)

/-- A row that is written is published next, or comes with the replay. -/
theorem Sound.stores (h : s.Sound settings start) {index : Nat} {call next : SendCall}
    {message : ChatMessage} {chat : ChatState} (found : s.calls[index]? = some call)
    (plain : ∀ id, call.publishes id = false) (stored : s.chat.addMessage? message = some chat)
    (covered : wants settings start message = true →
      next.publishes message.id = true ∨ s.asks message.id = true)
    (publishes : ∀ connection frame body published,
      next = .publish connection frame body published →
        published = message ∧ message.roomId = frame.room.id) :
    ({ s.put index next with chat } : Reconnection).Sound settings start := by
  have rows : chat.messages.rows = message :: s.chat.messages.rows :=
    (Table.insert?_eq_some (addMessage_eq_some stored).1).2
  have inHand : ∀ {id : String}, s.unpublished id = true →
      (s.put index next).unpublished id = true := fun before =>
    unpublished_put found (plain _) before
  refine ⟨?_, ?_⟩
  · intro other mem
    obtain ⟨row, wanted, unseen, away⟩ := mem_missed.1 mem
    simp only [rows] at row
    rcases List.mem_cons.1 row with rfl | old
    · rcases covered wanted with published | asked
      · have now : (s.put index next).unpublished other.id = true :=
          List.any_eq_true.2 ⟨next, mem_set_of_found found, published⟩
        have coming : (s.put index next).coming other.id = true := by
          simp [coming, now]
        exact absurd (away.symm.trans coming) nofun
      · exact asked
    · refine h.asked other (mem_missed.2 ⟨old, wanted, unseen, ?_⟩)
      by_contra near
      have still : (s.put index next).coming other.id = true :=
        coming_map (f := id) (fun _ near => near) (by simp [put]) inHand (by simpa using near)
      exact absurd (away.symm.trans still) nofun
  · intro connection frame body published mem
    simp only [rows]
    rcases mem_set_cases mem with same | ⟨j, -, atJ⟩
    · obtain ⟨rfl, sameRoom⟩ := publishes connection frame body published same.symm
      exact ⟨List.mem_cons_self, sameRoom⟩
    · obtain ⟨row, sameRoom⟩ :=
        h.stored connection frame body published (List.mem_of_getElem? atJ)
      exact ⟨List.mem_cons_of_mem _ row, sameRoom⟩

theorem Sound.insert (h : s.Sound settings start) {index : Nat} {origin : Origin}
    {body : SendMessageBody} {reply : ScanReply}
    (found : s.calls[index]? = some (.insert origin body reply))
    (right : s.resumesRight settings start (.advance index) = true) :
    (s.advance settings index (.insert origin body reply)).Sound settings start := by
  simp only [advance]
  split
  · rename_i refused
    refine h.frame rfl ?_ (fun _ seen => seen) ?_ (fun _ _ _ asked => asked)
    · intro _ _ _ _ mem
      exact publish_of_mem_put (fun _ => rfl) mem
    · intro id near
      left
      exact coming_map (f := fun link => link) (fun _ near => near) (by simp [put])
        (unpublished_put found rfl) near
  · rename_i chat stored
    refine h.stores found (fun _ => rfl) stored ?_ ?_
    · intro wanted
      cases origin with
      | frame connection frame =>
          left
          have visible : (frame.message (fun _ => reply) body).moderationStatus.visible = true := by
            simp only [wants, ChatMessage.shown, Bool.and_eq_true] at wanted
            exact wanted.1.2.1
          simp only [Origin.message, visible, if_true]
          exact decide_eq_true rfl
      | request sent profileId =>
          right
          simp only [resumesRight, found, Bool.or_eq_true, Bool.not_eq_true'] at right
          rcases right with (unwanted | asked) | refused
          · cases unwanted.symm.trans wanted
          · exact asked
          · cases (Option.isNone_iff_eq_none.1 refused).symm.trans stored
    · intro connection frame body' published same
      cases origin with
      | frame connection' frame' =>
          dsimp only at same
          split at same
          · cases same
            exact ⟨rfl, rfl⟩
          · cases same
      | request sent profileId => cases same

/-! ### Runs -/

theorem Sound.step (h : s.Sound settings start) (event : ReconnectionEvent)
    (right : s.resumesRight settings start event = true) :
    (s.step settings event).Sound settings start := by
  have still : ∀ s' : Reconnection, s'.chat = s.chat → s'.calls = s.calls → s'.shown = s.shown →
      s'.link = s.link → s'.tasks = s.tasks → s'.Sound settings start := by
    intro s' chat calls shown link tasks
    refine h.onLink (f := id) (fun _ => ⟨rfl, rfl, fun connecting => connecting⟩)
      (fun _ _ near => near) (by simpa using link) tasks (by rw [chat]) shown ?_ ?_
    · intro _ _ _ _ mem
      rwa [calls] at mem
    · intro id inHand
      rwa [unpublished, calls]
  cases event with
  | tick ms => exact still _ rfl rfl rfl rfl rfl
  | join => exact still _ rfl rfl rfl rfl rfl
  | connect => exact h.connect
  | opens => exact h.opens
  | subscribe => exact h.subscribe
  | closes => exact h.closes
  | send origin body reply clock => exact h.send origin body reply clock
  | advance index =>
      simp only [Reconnection.step]
      split
      · rename_i call found
        cases call with
        | insert origin body reply => exact h.insert found right
        | publish connection frame body message => exact h.publish found right
        | answer connection frames => exact h.acknowledge found
        | done => exact h
      · exact h
  | hear => exact h.hear
  | relay index => exact h.relay index
  | answer => exact h.answer right
  | deliver => exact h.deliver
  | task index =>
      cases found : s.tasks[index]? with
      | none =>
          simp only [Reconnection.step, found]
          exact h
      | some task =>
          cases task with
          | getLastAck number => exact h.getLastAck found right
          | saveLastAck msgId => exact h.saveLastAck found
          | done =>
              simp only [Reconnection.step, found]
              exact h

/-- At the end of an exchange nothing is asked for, so nothing is missed. -/
theorem Sound.shown (h : s.Sound settings start) (exchanged : s.exchanged = true) :
    ∀ message ∈ s.chat.messages.rows, wants settings start message = true →
      s.unpublished message.id = false → message.id ∈ s.shown := by
  simp only [Reconnection.exchanged, Option.any_eq_true, Bool.and_eq_true, decide_eq_true_eq,
    Option.isNone_iff_eq_none, List.isEmpty_iff, Bool.not_eq_true'] at exchanged
  obtain ⟨link, current, ⟨⟨⟨receiving, answered⟩, heard⟩, delivered⟩, read⟩ := exchanged
  intro message row wanted published
  by_contra unseen
  have away : s.coming message.id = false := by
    simp [coming, published, current, ClientLink.brings, heard, delivered]
  have asked := h.asked message (mem_missed.2 ⟨row, wanted, unseen, away⟩)
  simp [asks, current, receiving, answered] at asked
  simp [asked] at read

def duetRoom : ReconnectionSettings := { roomId := "duet", skewMs := 5 }

def quietChat : ChatState := silent ChatService.twoRooms

def idAt (tsMs : Nat) : Option String := (generateUuidv7 tsMs 0 0).map uuidText

def bodyOf (nonce : String) : SendMessageBody := ⟨"hi", none, nonce⟩

/-- A message is sent over a connection, and its id is drawn. -/
def sendsAt (connection : Nat) (profileId nonce : String) (tsMs : Nat) : ReconnectionEvent :=
  .send (.frame connection (ChatService.greetingFrame profileId nonce "")) (bodyOf nonce)
    ⟨some 0, some []⟩ { tsMs }

def postsAt (nonce : String) (tsMs : Nat) : ReconnectionEvent :=
  .send (.request ⟨"duet", .uuid "anna", ChatService.greeting nonce, "", 0⟩ "anna")
    (bodyOf nonce) ⟨some 0, some []⟩ { tsMs }

/-- A message is committed and published. -/
def published (call : Nat) : List ReconnectionEvent := [.advance call, .advance call]

/-- A connection opens, and the exchange comes to its end. -/
def reopened (task : Nat) : List ReconnectionEvent :=
  [.connect, .opens, .subscribe, .task task, .answer, .deliver]

/-- A message comes over the subscription, and its id is saved. -/
def received (task : Nat) : List ReconnectionEvent := [.hear, .deliver, .task task]

/-- One message comes at once, and one with the replay. -/
def resumedOnce : List ReconnectionEvent :=
  [.join, .tick 2] ++ reopened 0 ++ [sendsAt 0 "anna" "n1" 2] ++ published 0 ++
    received 1 ++ [.closes, sendsAt 0 "anna" "n2" 3] ++ published 1 ++ reopened 2

/-- The acknowledgement of an own message comes before an older message of the other. -/
def ackedPast : List ReconnectionEvent :=
  [.join, .tick 2] ++ reopened 0 ++ [sendsAt 0 "anna" "n1" 2] ++ published 0 ++
    [sendsAt 1 "ben" "n2" 3] ++ published 1 ++ [.advance 1, .deliver, .task 1, .closes] ++
    reopened 2

/-- The clock of the other pod is behind. -/
def drawnBehind : List ReconnectionEvent :=
  [.join, .tick 10] ++ reopened 0 ++ [sendsAt 0 "anna" "n1" 10] ++ published 0 ++
    received 1 ++ [.closes, sendsAt 0 "anna" "n2" 8] ++ published 1 ++ reopened 2

/-- Two messages come with a replay of one. -/
def cutOff : List ReconnectionEvent :=
  [.tick 2, postsAt "n1" 2, postsAt "n2" 3, .advance 0, .advance 1] ++ reopened 0

/-- A message is posted while the client is connected. -/
def postedLive : List ReconnectionEvent := .tick 2 :: reopened 0 ++ [postsAt "n1" 2, .advance 0]

end Reconnection

end ColabPlatform.Chat
