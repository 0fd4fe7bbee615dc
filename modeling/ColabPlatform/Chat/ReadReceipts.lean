import ColabPlatform.Chat.RoomList
import ColabPlatform.Common.Auth
import ColabPlatform.Common.UuidV7
import ColabPlatform.Foundation.Maxima

/-!
# Chat service: read receipts

A receipt is moved by the `read_ack` frames of the sockets and by `mark_read`, and only
forward: it holds the greatest id of all acknowledgements that were carried out.  A frame
that exceeds the rate of its connection is dropped without an answer.
-/

namespace ColabPlatform.Chat

open Foundation Common
open Moderation (HttpError)

/-! ## Rates -/

structure RateSettings where
  sendRatePerMinute : Nat := 30
  readAckRatePerMinute : Nat := 60
  deriving DecidableEq, Repr

/-- `_rate_counters[ws_id]` -/
structure RateCounters where
  sends : Nat := 0
  readAcks : Nat := 0
  minute : Int := 0
  deriving DecidableEq, Repr

/-- `int(time.time() // 60)` -/
def minuteOf (now : Int) : Int := now / (60 * 1000000)

/-- The counters start again with each minute. -/
def RateCounters.atMinute (counters : RateCounters) (minute : Int) : RateCounters :=
  if counters.minute = minute then counters else { minute }

/-- `_rate_check_send` -/
def rateCheckSend (rates : RateSettings) (counters : RateCounters) (now : Int) :
    Bool × RateCounters :=
  let counters := counters.atMinute (minuteOf now)
  if rates.sendRatePerMinute ≤ counters.sends then (false, counters)
  else (true, { counters with sends := counters.sends + 1 })

/-- `_rate_check_read_ack` -/
def rateCheckReadAck (rates : RateSettings) (counters : RateCounters) (now : Int) :
    Bool × RateCounters :=
  let counters := counters.atMinute (minuteOf now)
  if rates.readAckRatePerMinute ≤ counters.readAcks then (false, counters)
  else (true, { counters with readAcks := counters.readAcks + 1 })

/-! ## The service with its counters -/

/-- `up_to_msg_id` of a frame or a request -/
inductive UpToMsgId where
  | missing
  | malformed (text : String)
  | uuid (id : UuidInt)
  deriving DecidableEq, Repr

def UpToMsgId.field : UpToMsgId → IdField
  | missing => .missing
  | malformed text => .malformed text
  | uuid id => .uuid (uuidText id)

structure RatedService where
  service : ChatService
  /-- of the connections, by their numbers -/
  counters : Nat → RateCounters

inductive RatedEvent where
  | send (index : Nat) (frame : SendFrame)
  | readAck (index : Nat) (upToMsgId : UpToMsgId) (now : Int)
  | markRead (roomId : String) (profile : IdField) (upToMsgId : UpToMsgId) (now : Int)
  /-- any other event of the service -/
  | other (event : ChatEvent)

/-- The events that have a form of their own. -/
def ChatEvent.rated : ChatEvent → Bool
  | .receive _ (.send _) | .receive _ (.readAck ..) | .markRead .. => true
  | _ => false

namespace RatedService

variable (settings : ChatSettings) (rates : RateSettings)

/-- What the service sees of an event. -/
def event (s : RatedService) : RatedEvent → Option ChatEvent
  | .send index frame =>
      let withinRate := (rateCheckSend rates (s.counters index) frame.now).1
      some (.receive index (.send { frame with withinRate }))
  | .readAck index upToMsgId now =>
      let withinRate := (rateCheckReadAck rates (s.counters index) now).1
      some (.receive index (.readAck withinRate upToMsgId.field now))
  | .markRead roomId profile upToMsgId now => some (.markRead roomId profile upToMsgId.field now)
  | .other event => if event.rated then none else some event

/-- A frame is counted when its connection takes it. -/
def count (s : RatedService) (index : Nat) (counters : RateCounters) : Nat → RateCounters :=
  if s.service.connections[index]?.any (·.phase = .waiting) then
    Function.update s.counters index counters
  else s.counters

def step (s : RatedService) (e : RatedEvent) : RatedService where
  service :=
    match s.event rates e with
    | some event => s.service.step settings event
    | none => s.service
  counters :=
    match e with
    | .send index frame => s.count index (rateCheckSend rates (s.counters index) frame.now).2
    | .readAck index _ now => s.count index (rateCheckReadAck rates (s.counters index) now).2
    | .markRead .. | .other _ => s.counters

/-- Nothing was said in the rooms yet, and no connection was counted. -/
def quiet (rooms : Table ChatRoom ChatRoom.id (noAlt ChatRoom)) : RatedService :=
  ⟨.quiet rooms, fun _ => {}⟩

def run (rooms : Table ChatRoom ChatRoom.id (noAlt ChatRoom)) (events : List RatedEvent) :
    RatedService :=
  runFrom (step settings rates) (quiet rooms) events

end RatedService

/-! ## What is acknowledged -/

namespace ChatService

/-- `last_read_msg_id` -/
def lastRead (s : ChatService) (roomId profileId : String) : Option String :=
  (s.receipts.lookup (roomId, profileId)).bind (·.lastReadMsgId)

/-- The unread count of a room, as `list_rooms` computes it. -/
def unread (s : ChatService) (rooms : Table RoomRow RoomRow.id (noAlt RoomRow))
    (roomId profileId : String) : Nat :=
  (RoomListState.mk rooms s.chat s.receipts).unreadCount roomId profileId

/-- The acknowledgement that an event carries out: its room, its profile and its id. -/
def acknowledges (s : ChatService) : ChatEvent → Option ((String × String) × String)
  | .advance index outside =>
      match s.calls[index]? with
      | some (.receipt _ roomId profileId msgId _) =>
          if outside.ok then some ((roomId, profileId), msgId) else none
      | _ => none
  | _ => none

end ChatService

namespace RatedService

variable (settings : ChatSettings) (rates : RateSettings)

def acknowledges (s : RatedService) (e : RatedEvent) : Option ((String × String) × String) :=
  (s.event rates e).bind s.service.acknowledges

/-- The acknowledgements that a run carries out, in their order. -/
def acknowledged : RatedService → List RatedEvent → List ((String × String) × String)
  | _, [] => []
  | s, e :: events =>
      (s.acknowledges rates e).toList ++ acknowledged (s.step settings rates e) events

end RatedService

/-- The ids that a profile has acknowledged in a room. -/
def idsOf (roomId profileId : String) (acks : List ((String × String) × String)) : List String :=
  (acks.filter (·.1 = (roomId, profileId))).map (·.2)

@[simp] theorem idsOf_nil (roomId profileId : String) : idsOf roomId profileId [] = [] := rfl

theorem idsOf_append (roomId profileId : String) (acks acks' : List ((String × String) × String)) :
    idsOf roomId profileId (acks ++ acks') =
      idsOf roomId profileId acks ++ idsOf roomId profileId acks' := by
  simp [idsOf]

theorem idsOf_singleton (roomId profileId : String) (ack : (String × String) × String) :
    idsOf roomId profileId [ack] = if ack.1 = (roomId, profileId) then [ack.2] else [] := by
  by_cases own : ack.1 = (roomId, profileId)
  · simp [idsOf, own]
  · simp [idsOf, own]

/-! ## One upsert -/

theorem ChatReadReceipt.lastReadMsgId_moveTo (msgId : String) (now : Int)
    (receipt : ChatReadReceipt) :
    (receipt.moveTo msgId now).lastReadMsgId = keepGreater receipt.lastReadMsgId msgId := by
  unfold moveTo keepGreater
  split
  all_goals rfl

theorem lastRead_upsert (receipts : ReadReceipts) (roomId profileId msgId : String) (now : Int)
    (key : String × String) :
    ((receipts.upsert roomId profileId msgId now).lookup key).bind (·.lastReadMsgId) =
      if (roomId, profileId) = key then
        keepGreater ((receipts.lookup key).bind (·.lastReadMsgId)) msgId
      else (receipts.lookup key).bind (·.lastReadMsgId) := by
  unfold ReadReceipts.upsert
  split
  · rename_i inserted added
    rw [Table.lookup_insert added]
    split
    · rename_i same
      have absent : receipts.lookup key = none := same ▸ Table.lookup_of_insert? added
      rw [absent]
      rfl
    · rfl
  · rw [Table.lookup_modify]
    split
    · rename_i refused same
      subst same
      have stored := (Table.insert?_eq_none_iff_of_null rfl).1 refused
      cases found : receipts.lookup (roomId, profileId) with
      | none => exact absurd found stored
      | some receipt => exact ChatReadReceipt.lastReadMsgId_moveTo msgId now receipt
    · rfl

namespace ChatService

variable {settings : ChatSettings} {s : ChatService}

/-- Only the upsert of a receipt writes receipts. -/
theorem receipts_advance {index : Nat} {call : CallPhase} (outside : ChatOutside)
    (other : ∀ connection roomId profileId msgId now,
      call ≠ .receipt connection roomId profileId msgId now) :
    (s.advance index outside call).receipts = s.receipts := by
  cases call with
  | scan | version | done => rfl
  | receipt connection roomId profileId msgId now => exact absurd rfl (other _ _ _ _ _)
  | insert origin body reply =>
      simp only [advance]
      split
      · simp [put]
      · cases origin with
        | frame connection frame => simp [put]
        | request request profileId => rfl
  | write request message body revisions =>
      simp only [advance]
      split
      all_goals rfl

theorem acknowledges_eq_some {event : ChatEvent} {ack : (String × String) × String}
    (h : s.acknowledges event = some ack) :
    ∃ index outside connection now, event = .advance index outside ∧
      s.calls[index]? = some (.receipt connection ack.1.1 ack.1.2 ack.2 now) ∧
      outside.ok = true := by
  cases event with
  | advance index outside =>
      simp only [acknowledges] at h
      split at h
      · rename_i connection roomId profileId msgId now found
        split at h
        · rename_i ok
          obtain rfl := Option.some.inj h
          exact ⟨index, outside, connection, now, rfl, found, ok⟩
        · cases h
      · cases h
  | _ => cases h

theorem receipts_step_of_none {event : ChatEvent} (h : s.acknowledges event = none) :
    (s.step settings event).receipts = s.receipts := by
  rcases step_cases event with
    ⟨call, begun, -, receipts, -⟩ | ⟨index, outside, call, rfl, found, stepped⟩ | ⟨-, quiet⟩
  · exact receipts
  · rw [stepped]
    cases call with
    | receipt connection roomId profileId msgId now =>
        have failed : ¬ outside.ok = true := by simpa [acknowledges, found] using h
        simp [advance, failed, put]
    | _ => exact receipts_advance outside (by simp)
  · exact quiet.receipts

/-- An upsert changes the receipts, and no message. -/
theorem step_of_acknowledges {event : ChatEvent} {ack : (String × String) × String}
    (h : s.acknowledges event = some ack) :
    (∃ now, (s.step settings event).receipts =
      s.receipts.upsert ack.1.1 ack.1.2 ack.2 now) ∧ (s.step settings event).chat = s.chat := by
  obtain ⟨index, outside, connection, now, rfl, found, ok⟩ := acknowledges_eq_some h
  refine ⟨⟨now, ?_⟩, ?_⟩
  all_goals simp [step, found, advance, ok, put]

/-- A step moves the receipt that it acknowledges, and no other. -/
theorem lastRead_step (event : ChatEvent) (roomId profileId : String) :
    (s.step settings event).lastRead roomId profileId =
      (idsOf roomId profileId (s.acknowledges event).toList).foldl keepGreater
        (s.lastRead roomId profileId) := by
  cases acked : s.acknowledges event with
  | none =>
      rw [lastRead, receipts_step_of_none acked, lastRead]
      rfl
  | some ack =>
      obtain ⟨⟨now, receipts⟩, -⟩ := step_of_acknowledges acked
      rw [lastRead, receipts, lastRead_upsert]
      rw [Option.toList_some, idsOf_singleton]
      by_cases own : ack.1 = (roomId, profileId)
      · simp [own, lastRead]
      · simp [own, lastRead]

/-! ## The ids of the calls -/

/-- Receipts that are under way have ids of messages. -/
def IdsWritten (s : ChatService) : Prop :=
  ∀ connection roomId profileId msgId now,
    CallPhase.receipt connection roomId profileId msgId now ∈ s.calls →
    ∃ id : UuidInt, msgId = uuidText id

theorem IdsWritten.set (h : s.IdsWritten) {s' : ChatService} {index : Nat} {call : CallPhase}
    (calls_eq : s'.calls = s.calls.set index call)
    (other : ∀ connection roomId profileId msgId now,
      call ≠ .receipt connection roomId profileId msgId now) : s'.IdsWritten := by
  intro connection roomId profileId msgId now mem
  rw [calls_eq] at mem
  rcases mem_set_cases mem with rfl | ⟨j, -, atJ⟩
  · exact absurd rfl (other _ _ _ _ _)
  · exact h _ _ _ _ _ (List.mem_of_getElem? atJ)

end ChatService

theorem UpToMsgId.field_eq_uuid {upToMsgId : UpToMsgId} {msgId : String}
    (h : upToMsgId.field = .uuid msgId) : ∃ id : UuidInt, msgId = uuidText id := by
  cases upToMsgId with
  | uuid id =>
      cases h
      exact ⟨id, rfl⟩
  | missing | malformed => cases h

theorem uuidOf_eq_ok {field : String} {given : IdField} {id : String}
    (h : uuidOf field given = .ok id) : given = .uuid id := by
  cases given with
  | uuid id' =>
      cases h
      rfl
  | missing | malformed => cases h

namespace RatedService

variable {settings : ChatSettings} {rates : RateSettings} {s : RatedService}

variable {connection : Option Nat} {roomId profileId msgId : String} {now : Int}

theorem id_of_readAck {index : Nat} {withinRate : Bool} {upToMsgId : UpToMsgId} {time : Int}
    (begun : s.service.begins settings
        (.receive index (.readAck withinRate upToMsgId.field time)) =
      some (.receipt connection roomId profileId msgId now)) :
    ∃ id : UuidInt, msgId = uuidText id := by
  obtain ⟨connection, -, -, reaction⟩ := ChatService.react_of_begins begun
  simp only [RoomConnection.react] at reaction
  split at reaction
  · cases reaction
  · split at reaction
    · rename_i field
      cases reaction
      exact UpToMsgId.field_eq_uuid field
    all_goals cases reaction

theorem id_of_markRead {room : String} {profile : IdField} {upToMsgId : UpToMsgId} {time : Int}
    (begun : s.service.begins settings (.markRead room profile upToMsgId.field time) =
      some (.receipt connection roomId profileId msgId now)) :
    ∃ id : UuidInt, msgId = uuidText id := by
  simp only [ChatService.begins] at begun
  split at begun
  · rename_i accepted
    cases begun
    simp only [acceptRead, Common.bind_eq_ok] at accepted
    obtain ⟨id, named, profile, -, room, -, same⟩ := accepted
    cases same
    exact UpToMsgId.field_eq_uuid (uuidOf_eq_ok named)
  · cases begun

/-- The id of an acknowledgement is written as the text of a UUID. -/
theorem id_of_begins {e : RatedEvent} {event : ChatEvent} (shown : s.event rates e = some event)
    (begun : s.service.begins settings event =
      some (.receipt connection roomId profileId msgId now)) :
    ∃ id : UuidInt, msgId = uuidText id := by
  cases e with
  | send index frame =>
      obtain rfl := Option.some.inj shown
      obtain ⟨connection, -, -, reaction⟩ := ChatService.react_of_begins begun
      simp only [RoomConnection.react] at reaction
      split at reaction
      all_goals cases reaction
  | readAck index upToMsgId time =>
      obtain rfl := Option.some.inj shown
      exact id_of_readAck begun
  | markRead room profile upToMsgId time =>
      obtain rfl := Option.some.inj shown
      exact id_of_markRead begun
  | other other =>
      simp only [RatedService.event] at shown
      split at shown
      · cases shown
      · rename_i unrated
        obtain rfl := Option.some.inj shown
        -- the other events begin no acknowledgement
        cases other with
        | receive index frame =>
            obtain ⟨connection, -, -, reaction⟩ := ChatService.react_of_begins begun
            cases frame with
            | send | readAck => exact absurd rfl unrated
            | other => cases reaction
        | markRead => exact absurd rfl unrated
        | sendMessage request =>
            simp only [ChatService.begins] at begun
            split at begun
            all_goals cases begun
        | editMessage request =>
            simp only [ChatService.begins] at begun
            split at begun
            all_goals cases begun
        | _ => cases begun

theorem idsWritten_step (h : s.service.IdsWritten) (e : RatedEvent) :
    (s.step settings rates e).service.IdsWritten := by
  simp only [step]
  split
  · rename_i event shown
    rcases @ChatService.step_cases settings s.service event with
      ⟨call, begun, -, -, calls⟩ | ⟨index, outside, call, rfl, found, stepped⟩ | ⟨-, quiet⟩
    · intro connection roomId profileId msgId now mem
      rw [calls] at mem
      rcases List.mem_append.1 mem with before | new
      · exact h _ _ _ _ _ before
      · obtain rfl := List.mem_singleton.1 new
        exact id_of_begins shown begun
    · rw [stepped]
      rcases ChatService.advance_calls found outside with
        ⟨origin, body, rfl, next⟩ | ⟨request, message, body, rfl, next⟩ | done
      · rw [next]
        exact h.set rfl nofun
      · rw [next]
        exact h.set rfl nofun
      · exact h.set done nofun
    · intro connection roomId profileId msgId now mem
      rw [quiet.calls] at mem
      exact h _ _ _ _ _ mem
  · exact h

/-- What a frame acknowledges: its connection waits for it, its rate is not exceeded, and its
room is open. -/
theorem begins_readAck_iff {index : Nat} {upToMsgId : UpToMsgId} {now : Int} {call : CallPhase} :
    ((s.event rates (.readAck index upToMsgId now)).bind (s.service.begins settings) = some call) ↔
      ∃ connection, s.service.connections[index]? = some connection ∧
        connection.phase = .waiting ∧ connection.room.state ≠ .readOnly ∧
        (rateCheckReadAck rates (s.counters index) now).1 = true ∧
        ∃ id, upToMsgId = .uuid id ∧ call =
          .receipt (some index) connection.room.id connection.profileId (uuidText id) now := by
  simp only [event, Option.bind_some, ChatService.begins]
  constructor
  · intro begun
    obtain ⟨connection, found, waiting, reaction⟩ := ChatService.react_of_begins begun
    simp only [RoomConnection.react] at reaction
    split at reaction
    · cases reaction
    · rename_i taken
      simp only [not_or, Bool.not_eq_false] at taken
      cases upToMsgId with
      | uuid id =>
          cases reaction
          exact ⟨connection, found, waiting, taken.2, taken.1, id, rfl, rfl⟩
      | missing | malformed => cases reaction
  · rintro ⟨connection, found, waiting, opened, within, id, rfl, rfl⟩
    simp [found, waiting, RoomConnection.react, opened, within, UpToMsgId.field]

/-! ## Runs -/

theorem lastRead_step (e : RatedEvent) (roomId profileId : String) :
    (s.step settings rates e).service.lastRead roomId profileId =
      (idsOf roomId profileId (s.acknowledges rates e).toList).foldl keepGreater
        (s.service.lastRead roomId profileId) := by
  simp only [step, acknowledges]
  cases s.event rates e with
  | none => rfl
  | some event => exact ChatService.lastRead_step event roomId profileId

/-- A receipt holds the greatest of what was there and what a run acknowledges. -/
theorem lastRead_run (events : List RatedEvent) (roomId profileId : String) :
    (runFrom (step settings rates) s events).service.lastRead roomId profileId =
      (idsOf roomId profileId (acknowledged settings rates s events)).foldl keepGreater
        (s.service.lastRead roomId profileId) := by
  induction events generalizing s with
  | nil => rfl
  | cons e events ih =>
      rw [runFrom_cons, ih, lastRead_step, acknowledged, idsOf_append, List.foldl_append]

theorem id_of_acknowledges {e : RatedEvent} {ack : (String × String) × String}
    (h : s.service.IdsWritten) (acked : s.acknowledges rates e = some ack) :
    ∃ id : UuidInt, ack.2 = uuidText id := by
  obtain ⟨event, -, carried⟩ := Option.bind_eq_some_iff.1 acked
  obtain ⟨index, outside, connection, now, -, found, -⟩ :=
    ChatService.acknowledges_eq_some carried
  exact h _ _ _ _ _ (List.mem_of_getElem? found)

theorem ids_of_run (h : s.service.IdsWritten) (events : List RatedEvent)
    (roomId profileId : String) :
    ∃ ids : List UuidInt,
      idsOf roomId profileId (acknowledged settings rates s events) = ids.map uuidText := by
  induction events generalizing s with
  | nil => exact ⟨[], rfl⟩
  | cons e events ih =>
      obtain ⟨ids, same⟩ := ih (idsWritten_step h e)
      rw [acknowledged, idsOf_append, same]
      cases acked : s.acknowledges rates e with
      | none => exact ⟨ids, rfl⟩
      | some ack =>
          obtain ⟨id, written⟩ := id_of_acknowledges h acked
          rw [Option.toList_some, idsOf_singleton, written]
          split
          · exact ⟨id :: ids, rfl⟩
          · exact ⟨ids, rfl⟩

theorem quiet_idsWritten (rooms : Table ChatRoom ChatRoom.id (noAlt ChatRoom)) :
    (quiet rooms).service.IdsWritten := by
  intro connection roomId profileId msgId now mem
  cases mem

theorem idsWritten_run (rooms : Table ChatRoom ChatRoom.id (noAlt ChatRoom))
    (events : List RatedEvent) : (run settings rates rooms events).service.IdsWritten := by
  have keeps : ∀ (s : RatedService) (e : RatedEvent), s.service.IdsWritten →
      (s.step settings rates e).service.IdsWritten := fun s e h => idsWritten_step h e
  exact runFrom_invariant keeps (quiet_idsWritten rooms) events

/-! ## Unread messages -/

theorem uuidText_zero_le (id : UuidInt) :
    "00000000-0000-0000-0000-000000000000" ≤ uuidText id := by
  have zero : uuidText 0 = "00000000-0000-0000-0000-000000000000" := by decide
  rw [← zero]
  by_contra less
  exact absurd (uuidText_lt_iff.1 (not_le.1 less)) (Fin.not_lt_zero id)

/-- Where a profile has read to only moves forward. -/
theorem since_le_step (h : s.service.IdsWritten) (e : RatedEvent) (roomId profileId : String) :
    (s.service.lastRead roomId profileId).getD "00000000-0000-0000-0000-000000000000" ≤
      ((s.step settings rates e).service.lastRead roomId profileId).getD
        "00000000-0000-0000-0000-000000000000" := by
  rw [lastRead_step]
  cases acked : s.acknowledges rates e with
  | none => exact le_refl _
  | some ack =>
      obtain ⟨id, written⟩ := id_of_acknowledges h acked
      rw [Option.toList_some, idsOf_singleton, written]
      split
      · rw [List.foldl_cons, List.foldl_nil]
        cases s.service.lastRead roomId profileId with
        | none => exact uuidText_zero_le id
        | some stored =>
            rw [keepGreater_some]
            exact le_max_left _ _
      · exact le_refl _

theorem unread_step_le (h : s.service.IdsWritten) {e : RatedEvent}
    (acked : s.acknowledges rates e ≠ none) (list : Table RoomRow RoomRow.id (noAlt RoomRow))
    (roomId profileId : String) :
    (s.step settings rates e).service.unread list roomId profileId ≤
      s.service.unread list roomId profileId := by
  obtain ⟨ack, carried⟩ := Option.ne_none_iff_exists'.1 acked
  obtain ⟨event, shown, carries⟩ := Option.bind_eq_some_iff.1 carried
  have chat : (s.step settings rates e).service.chat = s.service.chat := by
    simp only [step, shown]
    exact (ChatService.step_of_acknowledges carries).2
  have later := @since_le_step settings rates s h e roomId profileId
  simp only [ChatService.unread, RoomListState.unreadCount, chat]
  apply List.countP_mono_left
  intro message mem unread
  simp only [Bool.and_eq_true, decide_eq_true_eq] at unread ⊢
  refine ⟨⟨⟨unread.1.1.1, ?_⟩, unread.1.2⟩, unread.2⟩
  exact lt_of_le_of_lt later unread.1.1.2

/-- `anna` acknowledges by a frame and twice by a request, the later message first. -/
def outOfOrder : List RatedEvent :=
  [.other (.connect "duet" "anna"), .readAck 0 (.uuid 7) 0,
    .markRead "duet" (.uuid "anna") (.uuid 9) 0, .markRead "duet" (.uuid "anna") (.uuid 8) 0,
    .other (.advance 1 {}), .other (.advance 2 {}), .other (.advance 0 {})]

/-- What a frame or a request asks to acknowledge. -/
def RatedEvent.ackId : RatedEvent → Option UuidInt
  | .readAck _ (.uuid id) _ | .markRead _ _ (.uuid id) _ => some id
  | _ => none

/-- `anna` opens a socket, and acknowledges sixty-one messages in a minute. -/
def burst : List RatedEvent :=
  .other (.connect "duet" "anna") :: (List.range 61).flatMap fun n =>
    [.readAck 0 (.uuid (Fin.ofNat _ (n + 1))) 0, .other (.advance n {}), .other (.refresh 0)]

/-- The ids of the first sixty. -/
def burstIds : List UuidInt := (List.range 60).map fun n => Fin.ofNat _ (n + 1)

set_option maxRecDepth 4000 in
theorem acknowledged_burst : acknowledged {} {} (quiet ChatService.twoRooms) burst =
    burstIds.map fun id => (("duet", "anna"), uuidText id) := by
  rfl

end RatedService

end ColabPlatform.Chat
