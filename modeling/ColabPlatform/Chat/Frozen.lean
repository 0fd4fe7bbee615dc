import ColabPlatform.Chat.Runs

/-!
# Read-only rooms

While a room is read-only, calls that begin are to leave its messages, revisions and read
receipts alone.  A request to send looks at the stored row, a frame at the row as its
connection last read it, and an edit and `mark_read` at none.
-/

namespace ColabPlatform.Chat

open Foundation Common

/-- The room that a call still writes to. -/
def CallPhase.writesTo : CallPhase → Option String
  | .scan origin _ | .insert origin _ _ => some origin.roomId
  | .receipt _ roomId _ _ _ => some roomId
  | .version _ message _ | .write _ message _ _ => some message.roomId
  | .done => none

namespace ChatService

/-! ## What is promised -/

def isReadOnly (s : ChatService) (roomId : String) : Bool :=
  (s.chat.rooms.lookup roomId).any (·.state = .readOnly)

/-- The messages of a room with their texts and revisions, and its receipts, are the same. -/
structure SameRoom (roomId : String) (s s' : ChatService) : Prop where
  messages : s'.chat.messages.rows.filter (·.roomId = roomId) =
    s.chat.messages.rows.filter (·.roomId = roomId)
  revisions : ∀ message ∈ s.chat.messages.rows, message.roomId = roomId →
    s'.chat.revisions.rows.filter (·.msgId = message.id) =
      s.chat.revisions.rows.filter (·.msgId = message.id)
  receipts : s'.receipts.rows.filter (·.roomId = roomId) =
    s.receipts.rows.filter (·.roomId = roomId)

/-- As long as a room stays read-only, it is changed only by calls that were under way when
it became read-only. -/
def Frozen (settings : ChatSettings) (rooms : Table ChatRoom ChatRoom.id (noAlt ChatRoom))
    (events : List ChatEvent) : Prop :=
  ∀ first second event rest roomId, events = first ++ (second ++ event :: rest) →
    (∀ before, before <+: second →
      (run settings rooms (first ++ before)).isReadOnly roomId = true) →
    SameRoom roomId (run settings rooms (first ++ second))
        (run settings rooms (first ++ second ++ [event])) ∨
      ∃ index outside, event = .advance index outside ∧
        index < (run settings rooms first).calls.length

/-- No frame passes the check of its connection's row, and no edit or `mark_read` is
accepted, when the room is read-only. -/
def keepsFrozen (settings : ChatSettings) (s : ChatService) : ChatEvent → Bool
  | .sendMessage _ => true
  | event =>
      (s.begins settings event).all fun call => call.writesTo.all fun roomId => !s.isReadOnly roomId

variable {settings : ChatSettings} {s s' : ChatService} {roomId : String}

/-! ## Calls of other rooms -/

theorem sameRoom_of_eq (messages : s'.chat.messages = s.chat.messages)
    (revisions : s'.chat.revisions = s.chat.revisions) (receipts : s'.receipts = s.receipts) :
    SameRoom roomId s s' where
  messages := by rw [messages]
  revisions := by
    intro message mem own
    rw [revisions]
  receipts := by rw [receipts]

theorem filter_upsert_of_ne {receipts : ReadReceipts} {other profileId msgId : String} {now : Int}
    (apart : other ≠ roomId) :
    (receipts.upsert other profileId msgId now).rows.filter (·.roomId = roomId) =
      receipts.rows.filter (·.roomId = roomId) := by
  unfold ReadReceipts.upsert
  split
  · rename_i inserted added
    simp [(Table.insert?_eq_some added).2, apart]
  · apply Table.filter_modify_of_not
    · intro receipt
      rw [(Prod.mk.inj (ChatReadReceipt.moveTo_key msgId now receipt)).1]
    · intro receipt mem key
      simp [(Prod.mk.inj key).1, apart]

theorem roomId_message {origin : Origin} {body : SendMessageBody} {reply : ScanReply} :
    (origin.message body reply).roomId = origin.roomId := by
  cases origin <;> rfl

/-! ### Edits under way -/

/-- The message that a call edits is stored, and its new revisions are its own. -/
structure Located (s : ChatService) : Prop where
  version : ∀ request message body, .version request message body ∈ s.calls →
    ∃ row ∈ s.chat.messages.rows, row.id = message.id ∧ row.roomId = message.roomId
  write : ∀ request message body revisions, .write request message body revisions ∈ s.calls →
    (∃ row ∈ s.chat.messages.rows, row.id = message.id ∧ row.roomId = message.roomId) ∧
      ∀ revision ∈ revisions, revision.msgId = message.id

/-- Every stored message is still there, in its room. -/
def Keeps (s s' : ChatService) : Prop :=
  ∀ row ∈ s.chat.messages.rows, ∃ row' ∈ s'.chat.messages.rows,
    row'.id = row.id ∧ row'.roomId = row.roomId

theorem keeps_of_eq (same : s'.chat.messages = s.chat.messages) : Keeps s s' := by
  intro row mem
  refine ⟨row, ?_, rfl, rfl⟩
  rw [same]
  exact mem

/-- Each call was there before, or is new and about a stored message. -/
theorem Located.step (h : s.Located) (keeps : Keeps s s')
    (version : ∀ request message body, .version request message body ∈ s'.calls →
      .version request message body ∈ s.calls ∨ message ∈ s.chat.messages.rows)
    (write : ∀ request message body revisions, .write request message body revisions ∈ s'.calls →
      .write request message body revisions ∈ s.calls ∨
        .version request message body ∈ s.calls ∧
          ∀ revision ∈ revisions, revision.msgId = message.id) : s'.Located where
  version := by
    intro request message body mem
    rcases version request message body mem with old | new
    · obtain ⟨row, stored, id, room⟩ := h.version request message body old
      obtain ⟨row', stored', id', room'⟩ := keeps row stored
      exact ⟨row', stored', id'.trans id, room'.trans room⟩
    · exact keeps message new
  write := by
    intro request message body revisions mem
    rcases write request message body revisions mem with old | ⟨old, own⟩
    · obtain ⟨⟨row, stored, id, room⟩, own⟩ := h.write request message body revisions old
      obtain ⟨row', stored', id', room'⟩ := keeps row stored
      exact ⟨⟨row', stored', id'.trans id, room'.trans room⟩, own⟩
    · obtain ⟨row, stored, id, room⟩ := h.version request message body old
      obtain ⟨row', stored', id', room'⟩ := keeps row stored
      exact ⟨⟨row', stored', id'.trans id, room'.trans room⟩, own⟩

theorem keeps_updateBody {msgId body : String} {now : Int} {revised : ChatState}
    (messages : revised.messages = s.chat.messages)
    (chat : s'.chat = revised.updateBody msgId body now) : Keeps s s' := by
  intro row mem
  rw [chat]
  refine ⟨if row.id = msgId then row.edit body now else row, ?_, ?_, ?_⟩
  · rw [ChatState.updateBody, Table.rows_modify, messages]
    exact List.mem_map_of_mem mem
  · split <;> rfl
  · split <;> rfl

theorem keeps_advance {index : Nat} {outside : ChatOutside} {call : CallPhase} :
    Keeps s (s.advance index outside call) := by
  cases call with
  | insert origin body reply =>
      simp only [advance]
      split
      · apply keeps_of_eq
        simp [put]
      · rename_i stored added
        split at added
        · have rows := (Table.insert?_eq_some (addMessage_eq_some added).1).2
          intro row mem
          have mem' : row ∈ stored.messages.rows := by
            rw [rows]
            exact List.mem_cons_of_mem _ mem
          cases origin with
          | frame connection frame =>
              refine ⟨row, ?_, rfl, rfl⟩
              dsimp only
              rw [finish_chat]
              dsimp only
              split <;> exact mem'
          | request request profileId => exact ⟨row, mem', rfl, rfl⟩
        · cases added
  | receipt connection roomId profileId msgId now =>
      apply keeps_of_eq
      simp only [advance]
      split <;> simp [put]
  | write request message body revisions =>
      simp only [advance]
      split
      · exact keeps_of_eq rfl
      · rename_i revised added
        split at added
        · exact keeps_updateBody (addRevisions_keeps added).1 rfl
        · cases added
  | _ => exact keeps_of_eq rfl

theorem Located.advance (h : s.Located) {index : Nat} {outside : ChatOutside} {call : CallPhase}
    (found : s.calls[index]? = some call) : (s.advance index outside call).Located := by
  have old : ∀ {next other : CallPhase}, other ∈ s.calls.set index next → other ≠ next →
      other ∈ s.calls := by
    intro next other mem apart
    rcases mem_set_cases mem with same | ⟨j, -, atJ⟩
    · exact absurd same apart
    · exact List.mem_of_getElem? atJ
  rcases advance_calls found outside with
    ⟨origin, body, rfl, same⟩ | ⟨request, message, body, rfl, same⟩ | calls
  · apply h.step keeps_advance
    · intro request message body' mem
      rw [same] at mem
      exact Or.inl (old mem nofun)
    · intro request message body' revisions mem
      rw [same] at mem
      exact Or.inl (old mem nofun)
  · apply h.step keeps_advance
    · intro request' message' body' mem
      rw [same] at mem
      exact Or.inl (old mem nofun)
    · intro request' message' body' revisions mem
      rw [same] at mem
      rcases mem_set_cases mem with new | ⟨j, -, atJ⟩
      · cases new
        exact Or.inr ⟨List.mem_of_getElem? found, msgId_of_mem_newRevisions⟩
      · exact Or.inl (List.mem_of_getElem? atJ)
  · apply h.step keeps_advance
    · intro request message body mem
      rw [calls] at mem
      exact Or.inl (old mem nofun)
    · intro request message body revisions mem
      rw [calls] at mem
      exact Or.inl (old mem nofun)

theorem located_step (h : s.Located) (event : ChatEvent) : (s.step settings event).Located := by
  rcases step_cases event with
    ⟨call, begun, chat, -, calls⟩ | ⟨index, outside, call, rfl, found, same⟩ | ⟨-, quiet⟩
  · have old : ∀ {other : CallPhase}, other ∈ (s.step settings event).calls → other ≠ call →
        other ∈ s.calls := by
      intro other mem apart
      rw [calls] at mem
      exact (List.mem_append.1 mem).resolve_right fun new => apart (List.mem_singleton.1 new)
    apply h.step (keeps_of_eq (congrArg ChatState.messages chat))
    · intro request message body mem
      by_cases same : CallPhase.version request message body = call
      · right
        rcases begins_cases begun with ⟨origin, body, rfl⟩ | receipt | ⟨_, _, _, rfl, accepted⟩
        · cases same
        · obtain ⟨connection, roomId, profileId, msgId, now, rfl⟩ := receipt
          cases same
        · cases same
          exact Table.mem_of_lookup (lookup_of_acceptEdit accepted)
      · exact Or.inl (old mem same)
    · intro request message body revisions mem
      refine Or.inl (old mem ?_)
      rintro rfl
      rcases begins_cases begun with ⟨origin, body, same⟩ | receipt | ⟨_, _, _, same, -⟩
      · cases same
      · obtain ⟨connection, roomId, profileId, msgId, now, same⟩ := receipt
        cases same
      · cases same
  · rw [same]
    exact h.advance found
  · apply h.step (keeps_of_eq quiet.messages)
    · intro request message body mem
      rw [quiet.calls] at mem
      exact Or.inl mem
    · intro request message body revisions mem
      rw [quiet.calls] at mem
      exact Or.inl mem

/-! ### A call goes on -/

/-- An edit of a message in another room. -/
theorem sameRoom_updateBody {message : ChatMessage} {body : String} {now : Int}
    {revisions : List ChatMessageRevision} {revised : ChatState}
    (added : addRevisions? s.chat revisions = some revised)
    (own : ∀ revision ∈ revisions, revision.msgId = message.id)
    (located : ∃ row ∈ s.chat.messages.rows, row.id = message.id ∧ row.roomId = message.roomId)
    (apart : message.roomId ≠ roomId) (chat : s'.chat = revised.updateBody message.id body now)
    (receipts : s'.receipts = s.receipts) : SameRoom roomId s s' := by
  have elsewhere : ∀ row ∈ s.chat.messages.rows, row.id = message.id → row.roomId ≠ roomId := by
    intro row mem id
    obtain ⟨stored, memStored, id', room⟩ := located
    rw [Table.eq_of_key_eq mem memStored (id.trans id'.symm), room]
    exact apart
  have messages := (addRevisions_keeps added).1
  exact
    { messages := by
        rw [chat, ChatState.updateBody, ← messages]
        dsimp only
        refine Table.filter_modify_of_not (fun _ => rfl) ?_
        intro row mem id
        rw [messages] at mem
        simpa using elsewhere row mem id
      revisions := by
        intro row mem room
        rw [chat]
        apply addRevisions_others added
        intro revision memRevision same
        exact elsewhere row mem (same.symm.trans (own revision memRevision)) room
      receipts := by rw [receipts] }

theorem sameRoom_advance (h : s.Located) {index : Nat} {outside : ChatOutside} {call : CallPhase}
    (found : s.calls[index]? = some call) (apart : call.writesTo ≠ some roomId) :
    SameRoom roomId s (s.advance index outside call) := by
  have mem := List.mem_of_getElem? found
  cases call with
  | insert origin body reply =>
      have other : (origin.message body reply).roomId ≠ roomId := by
        rw [roomId_message]
        exact fun same => apart (congrArg some same)
      simp only [advance]
      split
      · apply sameRoom_of_eq
        all_goals simp [put]
      · rename_i stored added
        split at added
        · have rows := (Table.insert?_eq_some (addMessage_eq_some added).1).2
          have revisions := (addMessage_keeps added).2
          have grown : ∀ s' : ChatService, s'.chat.messages = stored.messages →
              s'.chat.revisions = stored.revisions → s'.receipts = s.receipts →
              SameRoom roomId s s' := by
            intro s' messages' revisions' receipts
            refine ⟨?_, ?_, ?_⟩
            · simp [messages', rows, other]
            · intro message _ _
              rw [revisions', revisions]
            · rw [receipts]
          cases origin with
          | frame connection frame =>
              apply grown
              · dsimp only
                rw [finish_chat]
                dsimp only
                split <;> rfl
              · dsimp only
                rw [finish_chat]
                dsimp only
                split <;> rfl
              · simp [put]
          | request request profileId => exact grown _ rfl rfl rfl
        · cases added
  | receipt connection other profileId msgId now =>
      simp only [advance]
      split
      · refine ⟨?_, ?_, ?_⟩
        · simp [put]
        · simp [put]
        · rw [finish_receipts]
          exact filter_upsert_of_ne fun same => apart (congrArg some same)
      · apply sameRoom_of_eq
        all_goals simp [put]
  | write request message body revisions =>
      obtain ⟨located, own⟩ := h.write request message body revisions mem
      simp only [advance]
      split
      · exact sameRoom_of_eq rfl rfl rfl
      · rename_i revised added
        split at added
        · exact sameRoom_updateBody added own located
            (fun same => apart (congrArg some same)) rfl rfl
        · cases added
  | _ => exact sameRoom_of_eq rfl rfl rfl

/-! ## Calls that begin -/

theorem opened_of_acceptSend {chat : ChatState} {request : SendRequest} {profileId : String}
    {body : SendMessageBody} (h : acceptSend chat request = .ok (profileId, body)) :
    ∃ room, chat.rooms.lookup request.roomId = some room ∧ room.state = .opened := by
  unfold acceptSend at h
  cases sent : sendMessageBody request.json with
  | error raised => simp [sent, bind, Except.bind] at h
  | ok body' =>
      cases identified : getProfileId request.profile with
      | error raised => simp [sent, identified, bind, Except.bind] at h
      | ok profileId' =>
          cases found : chat.rooms.lookup request.roomId with
          | none => simp [sent, identified, ChatState.findRoom, found, bind, Except.bind] at h
          | some room =>
              refine ⟨room, rfl, ?_⟩
              by_contra closed
              simp only [sent, identified, ChatState.findRoom, found, bind, Except.bind] at h
              split at h
              · cases h
              · rename_i room' found'
                split at found'
                · obtain rfl := Except.ok.inj found'
                  simp [closed, throw, throwThe, MonadExceptOf.throw] at h
                · cases found'

/-- No call begins that writes to a read-only room. -/
theorem writesTo_of_begins {event : ChatEvent} {call : CallPhase}
    (right : s.keepsFrozen settings event = true) (begun : s.begins settings event = some call)
    (readOnly : s.isReadOnly roomId = true) : call.writesTo ≠ some roomId := by
  intro writes
  cases event with
  | sendMessage request =>
      simp only [begins] at begun
      split at begun
      · rename_i profileId body accepted
        obtain rfl := Option.some.inj begun
        obtain rfl : request.roomId = roomId := Option.some.inj writes
        obtain ⟨room, found, opened⟩ := opened_of_acceptSend accepted
        simp [isReadOnly, found, opened] at readOnly
      · cases begun
  | _ =>
      unfold keepsFrozen at right
      simp [begun, writes, readOnly] at right

/-- The calls from the `count`-th on do not write to the room. -/
def Elsewhere (roomId : String) (count : Nat) (s : ChatService) : Prop :=
  count ≤ s.calls.length ∧
    ∀ (i : Nat) (call : CallPhase), count ≤ i → s.calls[i]? = some call →
      call.writesTo ≠ some roomId

theorem Elsewhere.step {count : Nat} (h : s.Elsewhere roomId count) (event : ChatEvent)
    (right : s.keepsFrozen settings event = true) (readOnly : s.isReadOnly roomId = true) :
    (s.step settings event).Elsewhere roomId count := by
  obtain ⟨most, elsewhere⟩ := h
  rcases step_cases event with
    ⟨call, begun, -, -, calls⟩ | ⟨index, outside, call, rfl, found, same⟩ | ⟨-, quiet⟩
  · refine ⟨?_, fun i other later atI => ?_⟩
    · rw [calls, List.length_append]
      omega
    · rw [calls] at atI
      rcases getElem?_concat_cases atI with old | ⟨-, rfl⟩
      · exact elsewhere i other later old
      · exact writesTo_of_begins right begun readOnly
  · rw [same]
    have turned : ∀ call', (s.advance index outside call).calls = s.calls.set index call' →
        (call.writesTo ≠ some roomId → call'.writesTo ≠ some roomId) →
        (s.advance index outside call).Elsewhere roomId count := by
      intro call' calls goesOn
      refine ⟨?_, fun i other later atI => ?_⟩
      · rw [calls, List.length_set]
        exact most
      · rw [calls] at atI
        rcases getElem?_set_cases atI with ⟨rfl, rfl⟩ | ⟨-, still⟩
        · exact goesOn (elsewhere index call later found)
        · exact elsewhere i other later still
    rcases advance_calls found outside with
      ⟨origin, body, rfl, same'⟩ | ⟨request, message, body, rfl, same'⟩ | calls
    · exact turned _ (congrArg calls same') id
    · exact turned _ (congrArg calls same') id
    · exact turned .done calls nofun
  · refine ⟨?_, fun i other later atI => ?_⟩
    · rw [quiet.calls]
      exact most
    · rw [quiet.calls] at atI
      exact elsewhere i other later atI

/-! ## Runs -/

theorem quiet_located (rooms : Table ChatRoom ChatRoom.id (noAlt ChatRoom)) :
    (quiet rooms).Located where
  version := by
    intro request message body mem
    cases mem
  write := by
    intro request message body revisions mem
    cases mem

/-- Ben blocks Anna while her first frame is scanned, and unblocks her later. -/
def blockedBetween : List ChatEvent :=
  [.connect "duet" "anna", greets 0 "n" "m1", .setRoomState "duet" .readOnly] ++ goesOn 0 ++
    [.refresh 0, greets 0 "n2" "m2", .refresh 0, posts "ben" "n3" "m3",
      .setRoomState "duet" .opened, posts "ben" "n3" "m3"] ++ goesOn 1

/-- The room becomes read-only when Anna's message is stored and her connection waits. -/
def blocked : List ChatEvent :=
  [.connect "duet" "anna", greets 0 "n" "m1"] ++ goesOn 0 ++
    [.refresh 0, .setRoomState "duet" .readOnly]

theorem Frozen.sameRoom {first second : List ChatEvent} {index : Nat} {outside : ChatOutside}
    {rooms : Table ChatRoom ChatRoom.id (noAlt ChatRoom)}
    (h : Frozen settings rooms (first ++ (second ++ [.advance index outside]))) (roomId : String)
    (readOnly : (second.inits.all fun before =>
      (run settings rooms (first ++ before)).isReadOnly roomId) = true)
    (later : (run settings rooms first).calls.length ≤ index) :
    SameRoom roomId (run settings rooms (first ++ second))
      (run settings rooms (first ++ second ++ [.advance index outside])) := by
  rcases h first second (.advance index outside) [] roomId rfl (fun before isPrefix =>
      List.all_eq_true.1 readOnly before ((List.mem_inits _ _).2 isPrefix)) with
    same | ⟨index', outside', event, earlier⟩
  · exact same
  · obtain ⟨rfl, -⟩ := ChatEvent.advance.inj event
    omega

end ChatService

end ColabPlatform.Chat
