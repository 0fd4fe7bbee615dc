import ColabPlatform.Chat.Runs

/-!
# Sending with a client nonce

A frame looks for its nonce among all messages before the scan, and stores its message
after it; a request does not look.  The result of the query is read twice, so a frame that
finds its message is never acknowledged.
-/

namespace ColabPlatform.Chat

open Foundation Common

/-- The profile sent the message in the room, with the nonce. -/
def ChatMessage.isFor (roomId profileId nonce : String) (message : ChatMessage) : Bool :=
  message.roomId = roomId && message.senderProfileId = profileId &&
    message.clientNonce = some nonce

/-- The call is to store a message of the profile in the room, with the nonce. -/
def CallPhase.sends (roomId profileId nonce : String) : CallPhase → Bool
  | .scan origin body | .insert origin body _ =>
      origin.roomId = roomId && origin.senderProfileId = profileId && body.clientNonce = nonce
  | _ => false

namespace ChatService

/-! ## What is promised -/

/-- What the event is to send once its checks are passed, the one for the nonce apart. -/
def asks (settings : ChatSettings) (s : ChatService) : ChatEvent → Option (Origin × SendMessageBody)
  | .receive index (.send frame) =>
      match s.connections[index]? with
      | some connection =>
          if connection.phase = .waiting then
            match acceptFrame settings (silent s.chat.rooms) (connection.sendFrame frame) with
            | .ok body => some (.frame index (connection.sendFrame frame), body)
            | .error _ => none
          else none
      | none => none
  | .sendMessage request =>
      match acceptSend s.chat request with
      | .ok (profileId, body) => some (.request request profileId, body)
      | .error _ => none
  | _ => none

def sentTo (s : ChatService) (index : Nat) : List WsFrame :=
  (s.connections[index]?.map (·.sent)).getD []

/-- How many messages the profile sent in the room with the nonce. -/
def stored (s : ChatService) (roomId profileId nonce : String) : Nat :=
  s.chat.messages.rows.countP (·.isFor roomId profileId nonce)

/-- At most one message is stored for a room, a profile and a nonce; a frame that finds it
is acknowledged with it, and nothing else keeps a message from going on. -/
structure Idempotent (settings : ChatSettings)
    (rooms : Table ChatRoom ChatRoom.id (noAlt ChatRoom)) (events : List ChatEvent) : Prop where
  once : ∀ roomId profileId nonce,
    (run settings rooms events).stored roomId profileId nonce ≤ 1
  acked : ∀ first event rest index frame body message, events = first ++ event :: rest →
    (run settings rooms first).asks settings event = some (.frame index frame, body) →
    message ∈ (run settings rooms first).chat.messages.rows →
    message.isFor frame.room.id frame.profileId body.clientNonce = true →
    message.shown = true →
    (run settings rooms (first ++ [event])).sentTo index =
      (run settings rooms first).sentTo index ++
        [.messageAck body.clientNonce message.id message.createdAt]
  passed : ∀ first event rest origin body, events = first ++ event :: rest →
    (run settings rooms first).asks settings event = some (origin, body) →
    (run settings rooms first).stored origin.roomId origin.senderProfileId body.clientNonce = 0 →
    (run settings rooms (first ++ [event])).calls =
      (run settings rooms first).calls ++ [.scan origin body]

/-- No call that would store the same message is under way when one begins, a frame finds its
nonce unused or finds a hidden message of its own, and a request finds none of its own. -/
def sendsOnce (settings : ChatSettings) (s : ChatService) (event : ChatEvent) : Bool :=
  match s.asks settings event with
  | none => true
  | some (origin, body) =>
      let own := ChatMessage.isFor origin.roomId origin.senderProfileId body.clientNonce
      let used := s.chat.messages.rows.filter (·.clientNonce = some body.clientNonce)
      let alone := s.calls.all
        (!·.sends origin.roomId origin.senderProfileId body.clientNonce)
      match origin with
      | .frame _ _ =>
          if used.isEmpty then alone
          else used.any own && used.all fun message => !(own message && message.shown)
      | .request _ _ => alone && !used.any own

/-! ## Messages and calls under way -/

structure Unique (s : ChatService) : Prop where
  once : ∀ roomId profileId nonce, s.stored roomId profileId nonce ≤ 1
  unsent : ∀ call ∈ s.calls, ∀ roomId profileId nonce,
    call.sends roomId profileId nonce = true → s.stored roomId profileId nonce = 0
  alone : ∀ roomId profileId nonce, AtMostOne (·.sends roomId profileId nonce) s.calls

theorem quiet_unique (rooms : Table ChatRoom ChatRoom.id (noAlt ChatRoom)) :
    (quiet rooms).Unique where
  once := by
    intro roomId profileId nonce
    exact Nat.zero_le 1
  unsent := by
    intro call mem
    cases mem
  alone := fun _ _ _ => .nil

variable {settings : ChatSettings} {s s' : ChatService}

/-! ### The check for the nonce -/

/-- The check comes after all others. -/
theorem acceptFrame_eq (chat : ChatState) (frame : SendFrame) :
    acceptFrame settings chat frame =
      match acceptFrame settings (silent chat.rooms) frame with
      | .error answer => .error answer
      | .ok body =>
          if chat.messages.rows.any (·.clientNonce = some body.clientNonce) then .error []
          else .ok body := by
  unfold acceptFrame
  cases frame.withinRate with
  | false => rfl
  | true =>
      cases sendMessageBody frame.payload with
      | error raised => rfl
      | ok body =>
          by_cases opened : frame.room.state = .opened
          · by_cases long : body.body.length > settings.maxBodyLength
            · simp [opened, long]
            · simp [opened, long, silent]
          · simp [opened]

theorem begins_of_asks {event : ChatEvent} {origin : Origin} {body : SendMessageBody}
    (h : s.asks settings event = some (origin, body)) :
    s.begins settings event =
      match origin with
      | .frame _ _ =>
          if s.chat.messages.rows.any (·.clientNonce = some body.clientNonce) then none
          else some (.scan origin body)
      | .request _ _ => some (.scan origin body) := by
  cases event with
  | receive index frame =>
      cases frame with
      | send frame =>
          simp only [asks] at h
          simp only [begins]
          cases found : s.connections[index]? with
          | none => simp [found] at h
          | some connection =>
              rw [found] at h
              by_cases waiting : connection.phase = .waiting
              · simp only [waiting, if_true] at h ⊢
                rw [RoomConnection.react, acceptFrame_eq]
                cases accepted : acceptFrame settings (silent s.chat.rooms)
                    (connection.sendFrame frame) with
                | error answer => simp [accepted] at h
                | ok body' =>
                    rw [accepted] at h
                    obtain ⟨rfl, rfl⟩ := Prod.mk.inj (Option.some.inj h)
                    by_cases used : s.chat.messages.rows.any
                        (·.clientNonce = some body'.clientNonce) = true
                    · simp [used]
                    · simp [used]
              · simp [waiting] at h
      | _ => cases h
  | sendMessage request =>
      cases accepted : acceptSend s.chat request with
      | error refused => simp [asks, accepted] at h
      | ok sent =>
          simp only [asks, accepted, Option.some.injEq, Prod.mk.injEq] at h
          obtain ⟨rfl, rfl⟩ := h
          simp only [begins, accepted]
  | _ => cases h

/-- A message that goes on to the scan was asked for. -/
theorem asks_of_begins {event : ChatEvent} {origin : Origin} {body : SendMessageBody}
    (h : s.begins settings event = some (.scan origin body)) :
    s.asks settings event = some (origin, body) := by
  cases event with
  | receive index frame =>
      obtain ⟨connection, found, waiting, reaction⟩ := react_of_begins h
      cases frame with
      | send frame =>
          simp only [RoomConnection.react] at reaction
          rw [acceptFrame_eq] at reaction
          simp only [asks, found, waiting, if_true]
          cases accepted : acceptFrame settings (silent s.chat.rooms)
              (connection.sendFrame frame) with
          | error answer =>
              rw [accepted] at reaction
              cases answer <;> cases reaction
          | ok body' =>
              rw [accepted] at reaction
              dsimp only at reaction
              split at reaction
              all_goals try cases reaction
              rename_i used
              split at used
              · cases used
              · cases used
                rfl
      | readAck withinRate upToMsgId now =>
          simp only [RoomConnection.react] at reaction
          split at reaction
          · cases reaction
          · split at reaction <;> cases reaction
      | other => cases reaction
  | sendMessage request =>
      cases accepted : acceptSend s.chat request with
      | error refused => simp [begins, accepted] at h
      | ok sent =>
          simp only [begins, accepted, Option.some.injEq] at h
          cases h
          simp only [asks, accepted]
  | editMessage request =>
      simp only [begins] at h
      split at h <;> cases h
  | markRead roomId profile upToMsgId now =>
      simp only [begins] at h
      split at h <;> cases h
  | _ => cases h

theorem stored_eq_zero_iff {roomId profileId nonce : String} :
    s.stored roomId profileId nonce = 0 ↔
      ∀ message ∈ s.chat.messages.rows, message.isFor roomId profileId nonce = false := by
  simp [stored, List.countP_eq_zero]

/-- A call of a message begins only when no other is under way and none is stored. -/
theorem free_of_sendsOnce {event : ChatEvent} {origin : Origin} {body : SendMessageBody}
    (right : s.sendsOnce settings event = true)
    (begun : s.begins settings event = some (.scan origin body)) :
    (∀ call ∈ s.calls,
        call.sends origin.roomId origin.senderProfileId body.clientNonce = false) ∧
      s.stored origin.roomId origin.senderProfileId body.clientNonce = 0 := by
  have asked := asks_of_begins begun
  rw [begins_of_asks asked] at begun
  simp only [sendsOnce, asked] at right
  cases origin with
  | frame index frame =>
      have unused : ∀ message ∈ s.chat.messages.rows,
          message.clientNonce ≠ some body.clientNonce := by
        intro message mem same
        have used : s.chat.messages.rows.any (·.clientNonce = some body.clientNonce) = true :=
          List.any_eq_true.2 ⟨message, mem, decide_eq_true same⟩
        simp [used] at begun
      have none : s.chat.messages.rows.filter (·.clientNonce = some body.clientNonce) = [] := by
        apply List.filter_eq_nil_iff.2
        intro message mem
        simpa using unused message mem
      simp only [none, List.isEmpty_nil, if_true, List.all_eq_true, Bool.not_eq_true'] at right
      refine ⟨right, stored_eq_zero_iff.2 ?_⟩
      intro message mem
      simp [ChatMessage.isFor, unused message mem]
  | request request profileId =>
      simp only [Bool.and_eq_true, List.all_eq_true, Bool.not_eq_true', List.any_eq_false,
        List.mem_filter, decide_eq_true_eq] at right
      refine ⟨right.1, stored_eq_zero_iff.2 ?_⟩
      intro message mem
      by_cases used : message.clientNonce = some body.clientNonce
      · simpa using right.2 message ⟨mem, used⟩
      · simp [ChatMessage.isFor, used]

/-! ### One step -/

theorem Unique.begin (h : s.Unique) {call : CallPhase} (chat : s'.chat = s.chat)
    (calls : s'.calls = s.calls ++ [call])
    (free : ∀ roomId profileId nonce, call.sends roomId profileId nonce = true →
      (∀ call ∈ s.calls, call.sends roomId profileId nonce = false) ∧
        s.stored roomId profileId nonce = 0) : s'.Unique where
  once := by
    intro roomId profileId nonce
    rw [stored, chat]
    exact h.once roomId profileId nonce
  unsent := by
    intro call' mem roomId profileId nonce sends
    rw [stored, chat]
    rw [calls] at mem
    rcases List.mem_append.1 mem with old | new
    · exact h.unsent call' old roomId profileId nonce sends
    · obtain rfl := List.mem_singleton.1 new
      exact (free roomId profileId nonce sends).2
  alone := by
    intro roomId profileId nonce
    rw [calls]
    cases sends : call.sends roomId profileId nonce with
    | true => exact .concat_first (free roomId profileId nonce sends).1
    | false => exact (h.alone roomId profileId nonce).concat sends

/-- A call goes on that stores no message. -/
theorem Unique.turn (h : s.Unique) (call' : CallPhase) {index : Nat} {call : CallPhase}
    (found : s.calls[index]? = some call) (calls : s'.calls = s.calls.set index call')
    (sends : ∀ roomId profileId nonce, call'.sends roomId profileId nonce = true →
      call.sends roomId profileId nonce = true)
    (same : ∀ roomId profileId nonce,
      s'.stored roomId profileId nonce = s.stored roomId profileId nonce) : s'.Unique where
  once := by
    intro roomId profileId nonce
    rw [same]
    exact h.once roomId profileId nonce
  unsent := by
    intro other mem roomId profileId nonce toSend
    rw [same]
    rw [calls] at mem
    rcases mem_set_cases mem with rfl | ⟨j, -, atJ⟩
    · exact h.unsent call (List.mem_of_getElem? found) roomId profileId nonce
        (sends roomId profileId nonce toSend)
    · exact h.unsent other (List.mem_of_getElem? atJ) roomId profileId nonce toSend
  alone := by
    intro roomId profileId nonce
    rw [calls]
    exact (h.alone roomId profileId nonce).set found fun now =>
      Or.inl (sends roomId profileId nonce now)

theorem isFor_message {origin : Origin} {body : SendMessageBody} {reply : ScanReply}
    {roomId profileId nonce : String} :
    (origin.message body reply).isFor roomId profileId nonce =
      (CallPhase.insert origin body reply).sends roomId profileId nonce := by
  rw [Bool.eq_iff_iff]
  simp only [ChatMessage.isFor, CallPhase.sends, Bool.and_eq_true, decide_eq_true_eq]
  cases origin <;> simp [Origin.message, SendFrame.message, SendRequest.message, newMessage,
    Origin.roomId, Origin.senderProfileId]

/-- A message is stored, the first one that any call was to store for its nonce. -/
theorem Unique.insert (h : s.Unique) {index : Nat} {origin : Origin} {body : SendMessageBody}
    {reply : ScanReply} (found : s.calls[index]? = some (.insert origin body reply))
    (calls : s'.calls = s.calls.set index .done)
    (rows : s'.chat.messages.rows = origin.message body reply :: s.chat.messages.rows) :
    s'.Unique := by
  have counts : ∀ roomId profileId nonce, s'.stored roomId profileId nonce =
      s.stored roomId profileId nonce +
        if (CallPhase.insert origin body reply).sends roomId profileId nonce then 1 else 0 := by
    intro roomId profileId nonce
    rw [stored, rows, List.countP_cons, isFor_message]
    rfl
  have mem := List.mem_of_getElem? found
  exact
    { once := by
        intro roomId profileId nonce
        rw [counts]
        split
        · rename_i sends
          rw [h.unsent _ mem roomId profileId nonce sends]
        · exact h.once roomId profileId nonce
      unsent := by
        intro other memOther roomId profileId nonce sends
        rw [calls] at memOther
        rcases mem_set_cases memOther with rfl | ⟨j, apart, atJ⟩
        · cases sends
        · rw [counts, h.unsent other (List.mem_of_getElem? atJ) roomId profileId nonce sends]
          split
          · rename_i own
            have idle := (h.alone roomId profileId nonce).others found own apart atJ
            simp [sends] at idle
          · rfl
      alone := by
        intro roomId profileId nonce
        rw [calls]
        exact (h.alone roomId profileId nonce).set found nofun }

theorem stored_updateBody {chat : ChatState} {msgId body : String} {now : Int}
    {roomId profileId nonce : String} :
    (chat.updateBody msgId body now).messages.rows.countP (·.isFor roomId profileId nonce) =
      chat.messages.rows.countP (·.isFor roomId profileId nonce) := by
  rw [ChatState.updateBody, Table.rows_modify, List.countP_map]
  congr 1
  funext message
  by_cases edited : message.id = msgId
  · simp [edited, ChatMessage.edit, ChatMessage.isFor]
  · simp [edited]

theorem Unique.advance (h : s.Unique) {index : Nat} {outside : ChatOutside} {call : CallPhase}
    (found : s.calls[index]? = some call) : (s.advance index outside call).Unique := by
  cases call with
  | scan origin body => exact h.turn _ found rfl (fun _ _ _ => id) fun _ _ _ => rfl
  | insert origin body reply =>
      simp only [ChatService.advance]
      split
      · refine h.turn .done found ?_ (by rintro _ _ _ ⟨⟩) ?_
        · simp [put]
        · intro roomId profileId nonce
          simp [stored, put]
      · rename_i stored added
        split at added
        · have rows := (Table.insert?_eq_some (addMessage_eq_some added).1).2
          cases origin with
          | frame connection frame =>
              refine h.insert found ?_ ?_
              · simp [put]
              · dsimp only
                simp only [finish_chat]
                split <;> exact rows
          | request request profileId => exact h.insert found rfl rows
        · cases added
  | receipt connection roomId profileId msgId now =>
      simp only [ChatService.advance]
      split
      all_goals
        refine h.turn .done found ?_ (by rintro _ _ _ ⟨⟩) ?_
        · simp [put]
        · intro roomId profileId nonce
          simp [stored, put]
  | version request message body =>
      exact h.turn _ found rfl (by rintro _ _ _ ⟨⟩) fun _ _ _ => rfl
  | write request message body revisions =>
      simp only [ChatService.advance]
      split
      · exact h.turn _ found rfl (by rintro _ _ _ ⟨⟩) fun _ _ _ => rfl
      · rename_i revised added
        split at added
        · refine h.turn .done found rfl (by rintro _ _ _ ⟨⟩) ?_
          intro roomId profileId nonce
          rw [stored, stored_updateBody, (addRevisions_keeps added).1]
          rfl
        · cases added
  | done => exact h

theorem step_unique (h : s.Unique) (event : ChatEvent)
    (right : s.sendsOnce settings event = true) : (s.step settings event).Unique := by
  rcases step_cases event with
    ⟨call, begun, chat, -, calls⟩ | ⟨index, outside, call, rfl, found, same⟩ | ⟨-, quiet⟩
  · apply h.begin chat calls
    intro roomId profileId nonce sends
    rcases begins_cases begun with ⟨origin, body, rfl⟩ | receipt | edit
    · simp only [CallPhase.sends, Bool.and_eq_true, decide_eq_true_eq] at sends
      obtain ⟨⟨rfl, rfl⟩, rfl⟩ := sends
      exact free_of_sendsOnce right begun
    · obtain ⟨connection, roomId, profileId, msgId, now, rfl⟩ := receipt
      cases sends
    · obtain ⟨request, message, body, rfl, -⟩ := edit
      cases sends
  · rw [same]
    exact h.advance found
  · have stored : ∀ roomId profileId nonce, (s.step settings event).stored roomId profileId nonce =
        s.stored roomId profileId nonce := by
      intro roomId profileId nonce
      rw [ChatService.stored, quiet.messages]
      rfl
    exact
      { once := by
          intro roomId profileId nonce
          rw [stored]
          exact h.once roomId profileId nonce
        unsent := by
          intro call mem roomId profileId nonce sends
          rw [quiet.calls] at mem
          rw [stored]
          exact h.unsent call mem roomId profileId nonce sends
        alone := by
          intro roomId profileId nonce
          rw [quiet.calls]
          exact h.alone roomId profileId nonce }

/-! ## Runs -/

/-- A frame that finds its message is not let pass. -/
theorem not_found_of_sendsOnce {event : ChatEvent} {index : Nat} {frame : SendFrame}
    {body : SendMessageBody} {message : ChatMessage}
    (right : s.sendsOnce settings event = true)
    (asked : s.asks settings event = some (.frame index frame, body))
    (mem : message ∈ s.chat.messages.rows)
    (own : message.isFor frame.room.id frame.profileId body.clientNonce = true) :
    message.shown = false := by
  have nonce : message.clientNonce = some body.clientNonce := by
    simp only [ChatMessage.isFor, Bool.and_eq_true, decide_eq_true_eq] at own
    exact own.2
  have used : message ∈ s.chat.messages.rows.filter (·.clientNonce = some body.clientNonce) :=
    List.mem_filter.2 ⟨mem, decide_eq_true nonce⟩
  have some : ¬ (s.chat.messages.rows.filter
      (·.clientNonce = some body.clientNonce)).isEmpty = true := by
    intro none
    rw [List.isEmpty_iff.1 none] at used
    cases used
  simp only [sendsOnce, asked, Origin.roomId, Origin.senderProfileId, if_neg some,
    Bool.and_eq_true, List.all_eq_true] at right
  simpa [own] using right.2 message used

/-- What is asked for goes on if no message of its own is stored. -/
theorem passed_of_sendsOnce {event : ChatEvent} {origin : Origin} {body : SendMessageBody}
    (right : s.sendsOnce settings event = true)
    (asked : s.asks settings event = some (origin, body))
    (unsent : s.stored origin.roomId origin.senderProfileId body.clientNonce = 0) :
    s.begins settings event = some (.scan origin body) := by
  rw [begins_of_asks asked]
  cases origin with
  | request request profileId => rfl
  | frame index frame =>
      have free : ∀ message ∈ s.chat.messages.rows,
          message.clientNonce ≠ some body.clientNonce := by
        intro message mem same
        have used : message ∈ s.chat.messages.rows.filter
            (·.clientNonce = some body.clientNonce) :=
          List.mem_filter.2 ⟨mem, decide_eq_true same⟩
        have some : ¬ (s.chat.messages.rows.filter
            (·.clientNonce = some body.clientNonce)).isEmpty = true := by
          intro none
          rw [List.isEmpty_iff.1 none] at used
          cases used
        simp only [sendsOnce, asked, if_neg some, Bool.and_eq_true, List.any_eq_true] at right
        obtain ⟨⟨own, memOwn, isOwn⟩, -⟩ := right
        have other := stored_eq_zero_iff.1 unsent own (List.mem_filter.1 memOwn).1
        rw [isOwn] at other
        cases other
      have unused : ¬ s.chat.messages.rows.any
          (·.clientNonce = some body.clientNonce) = true := by
        intro used
        obtain ⟨message, mem, same⟩ := List.any_eq_true.1 used
        exact free message mem (of_decide_eq_true same)
      dsimp only
      rw [if_neg unused]

/-- Both send in the room, over a connection and over REST. -/
def greeted : List ChatEvent :=
  [.connect "duet" "anna", greets 0 "n" "m1"] ++ goesOn 0 ++
    [.refresh 0, posts "ben" "n2" "m2", greets 0 "n3" "m3"] ++ goesOn 1 ++ goesOn 2

/-- Anna's connection is lost before the answer, and she sends the frame again. -/
def sentBefore : List ChatEvent :=
  [.connect "duet" "anna", greets 0 "n" "m1"] ++ goesOn 0 ++ [.connect "duet" "anna"]

def together : List ChatEvent :=
  [.connect "duet" "anna", .connect "duet" "anna", greets 0 "n" "m1", greets 1 "n" "m2"] ++
    goesOn 0 ++ goesOn 1

def repeated : List ChatEvent :=
  posts "anna" "n" "m1" :: goesOn 0 ++ posts "anna" "n" "m2" :: goesOn 1

/-- Cleo uses the nonce first, in the other room. -/
def foreign : List ChatEvent :=
  [.connect "trio" "cleo", .connect "duet" "anna", greets 0 "n" "m1"] ++ goesOn 0

end ChatService

end ColabPlatform.Chat
