import ColabPlatform.Chat.Model
import ColabPlatform.Foundation.Interleaving
import ColabPlatform.Foundation.Run

/-!
# Rooms of blocked pairs

The consumers of chat-svc open a room for a match, close it when one of its participants
blocks the other, and open it again when a block is removed.  Events arrive in any order
and more than once.  A room has one state for the blocks of both participants, and each
handler writes to one room that it has selected before.
-/

namespace ColabPlatform.Chat

open Foundation Common

-- named, so that membership is decided alike under any import
local instance pairLawfulBEq : LawfulBEq (String × String) := Prod.instLawfulBEq

/-! ## Rooms, blocks and events -/

/-- `participantIds` are the two profiles of the match. -/
structure MatchedRoom extends ChatRoom where
  collaborationId : String
  createdAt : Int
  deriving DecidableEq, Repr

namespace MatchedRoom

/-- `:profile_a = ANY(participant_ids) AND :profile_b = ANY(participant_ids)` -/
def hasBoth (profileA profileB : String) (room : MatchedRoom) : Bool :=
  room.participantIds.contains profileA && room.participantIds.contains profileB

def setState (state : RoomState) (room : MatchedRoom) : MatchedRoom :=
  { room with state := state }

@[simp] theorem setState_id (state : RoomState) (room : MatchedRoom) :
    (room.setState state).id = room.id := rfl

end MatchedRoom

/-- What the handlers read of an event. -/
inductive RoomEvent where
  | matchCreated (collaborationId profileIdA profileIdB : String)
  | blockCreated (blockerProfileId blockedProfileId : String)
  | blockRemoved (blockerProfileId blockedProfileId : String)
  deriving DecidableEq, Repr

inductive HandlerPhase where
  | select
  | insert
  | update (roomId : String)
  | done
  deriving DecidableEq, Repr

structure Handler where
  event : RoomEvent
  phase : HandlerPhase := .select
  deriving DecidableEq, Repr

/-- The blocks of invite-svc with their events, and the consumers of chat-svc. -/
structure Consumers where
  rooms : Table MatchedRoom (fun room => room.id) (noAlt MatchedRoom)
  /-- who has blocked whom -/
  blocks : List (String × String)
  /-- committed with a block, and not published yet -/
  outbox : List RoomEvent
  queue : List RoomEvent
  handlers : List Handler

structure HandlerOutside where
  /-- the statement is carried out; what is raised is logged -/
  ok : Bool := true
  /-- which row `LIMIT 1` returns -/
  row : Nat := 0
  id : String := ""
  now : Int := 0

inductive ConsumerEvent where
  | block (blockerId blockedId : String)
  | unblock (blockerId blockedId : String)
  /-- the event of a block reaches the queues of chat-svc, or is lost -/
  | publish (index : Nat) (ok : Bool)
  | announce (collaborationId profileIdA profileIdB : String)
  | duplicate (index : Nat)
  | deliver (index : Nat)
  /-- the process ends before it acknowledges the event of a handler -/
  | crash (index : Nat)
  | advance (index : Nat) (outside : HandlerOutside)

def thirtyDays : Int := 30 * 86400

def limitOne (rooms : List MatchedRoom) (row : Nat) : Option MatchedRoom :=
  rooms[row % rooms.length]?

namespace Consumers

def empty : Consumers := ⟨.empty, [], [], [], []⟩

def selectRooms (s : Consumers) (state : RoomState) (profileA profileB : String) :
    List MatchedRoom :=
  s.rooms.rows.filter fun room => room.hasBoth profileA profileB && room.state = state

def put (s : Consumers) (index : Nat) (handler : Handler) (phase : HandlerPhase) : Consumers :=
  { s with handlers := s.handlers.set index { handler with phase } }

/-- `UPDATE chat.chat_room SET state = ... WHERE id = :id` -/
def setState (s : Consumers) (roomId : String) (state : RoomState) : Consumers :=
  { s with
    rooms := s.rooms.modify roomId (MatchedRoom.setState state)
      (MatchedRoom.setState_id state) (fun _ => rfl) }

/-- The room of a match. -/
def newRoom (outside : HandlerOutside) (collaborationId profileA profileB : String) : MatchedRoom :=
  ⟨⟨outside.id, [profileA, profileB], .opened⟩, collaborationId, outside.now⟩

/-- One step of `_handle_match_created`, `_handle_block_created` or `_handle_block_removed`. -/
def advance (s : Consumers) (index : Nat) (outside : HandlerOutside) (handler : Handler) :
    Consumers :=
  match handler.event, handler.phase with
  | .matchCreated collaborationId _ _, .select =>
      if outside.ok && !s.rooms.rows.any (·.collaborationId = collaborationId) then
        s.put index handler .insert
      else s.put index handler .done
  | .matchCreated collaborationId profileA profileB, .insert =>
      match if outside.ok then
          s.rooms.insert? (newRoom outside collaborationId profileA profileB) else none with
      | some rooms => { s.put index handler .done with rooms }
      | none => s.put index handler .done
  | .blockCreated profileA profileB, .select =>
      match if outside.ok then limitOne (s.selectRooms .opened profileA profileB) outside.row
        else none with
      | some room => s.put index handler (.update room.id)
      | none => s.put index handler .done
  | .blockCreated _ _, .update roomId =>
      if outside.ok then (s.put index handler .done).setState roomId .readOnly
      else s.put index handler .done
  | .blockRemoved profileA profileB, .select =>
      match if outside.ok then limitOne (s.selectRooms .readOnly profileA profileB) outside.row
        else none with
      | some room =>
          if outside.now - thirtyDays ≤ room.createdAt then s.put index handler (.update room.id)
          else s.put index handler .done
      | none => s.put index handler .done
  | .blockRemoved _ _, .update roomId =>
      if outside.ok then (s.put index handler .done).setState roomId .opened
      else s.put index handler .done
  | _, _ => s

def step (s : Consumers) : ConsumerEvent → Consumers
  | .block blockerId blockedId =>
      if blockerId = blockedId ∨ (blockerId, blockedId) ∈ s.blocks then s
      else
        { s with
          blocks := s.blocks ++ [(blockerId, blockedId)]
          outbox := s.outbox ++ [.blockCreated blockerId blockedId] }
  | .unblock blockerId blockedId =>
      if (blockerId, blockedId) ∈ s.blocks then
        { s with
          blocks := s.blocks.filter (· ≠ (blockerId, blockedId))
          outbox := s.outbox ++ [.blockRemoved blockerId blockedId] }
      else s
  | .publish index ok =>
      match s.outbox[index]? with
      | some event =>
          { s with
            outbox := s.outbox.eraseIdx index
            queue := if ok then s.queue ++ [event] else s.queue }
      | none => s
  | .announce collaborationId profileIdA profileIdB =>
      { s with queue := s.queue ++ [.matchCreated collaborationId profileIdA profileIdB] }
  | .duplicate index =>
      match s.queue[index]? with
      | some event => { s with queue := s.queue ++ [event] }
      | none => s
  | .deliver index =>
      match s.queue[index]? with
      | some event =>
          { s with queue := s.queue.eraseIdx index, handlers := s.handlers ++ [{ event }] }
      | none => s
  | .crash index =>
      match s.handlers[index]? with
      | some handler =>
          if handler.phase = .done then s
          else { s.put index handler .done with queue := s.queue ++ [handler.event] }
      | none => s
  | .advance index outside =>
      match s.handlers[index]? with
      | some handler => s.advance index outside handler
      | none => s

def run (events : List ConsumerEvent) : Consumers := runFrom step empty events

/-! ## What is promised -/

/-- All events have been processed. -/
def settled (s : Consumers) : Bool :=
  s.outbox.isEmpty && s.queue.isEmpty && s.handlers.all (·.phase = .done)

def roomsOf (s : Consumers) (collaborationId : String) : Nat :=
  s.rooms.rows.countP (·.collaborationId = collaborationId)

structure BlockAware (s : Consumers) : Prop where
  closed : s.settled = true → ∀ room ∈ s.rooms.rows, room.state = .opened →
    ∀ profileA profileB, room.hasBoth profileA profileB = true →
      (profileA, profileB) ∉ s.blocks
  single : ∀ collaborationId, s.roomsOf collaborationId ≤ 1

end Consumers

/-! ## The runs in which it is kept -/

/-- The event is a block between participants of the room. -/
def RoomEvent.touches (room : MatchedRoom) : RoomEvent → Bool
  | .blockCreated profileA profileB => room.hasBoth profileA profileB
  | _ => false

namespace Handler

/-- The handler has still to select an open room, or to close this one. -/
def closes (room : MatchedRoom) (handler : Handler) : Bool :=
  handler.event.touches room &&
    match handler.phase with
    | .select => true
    | .update roomId => roomId = room.id
    | .insert | .done => false

/-- The handler inserts a room of the collaboration. -/
def makes (collaborationId : String) (handler : Handler) : Bool :=
  match handler.event, handler.phase with
  | .matchCreated id _ _, .insert => id = collaborationId
  | _, _ => false

end Handler

namespace Consumers

/-- The room is open, and a block between its participants is in force. -/
def exposed (s : Consumers) (room : MatchedRoom) : Bool :=
  room.state = .opened && s.blocks.any fun block => room.hasBoth block.1 block.2

/-- A block between its participants is still to be processed. -/
def attended (outbox queue : List RoomEvent) (handlers : List Handler) (room : MatchedRoom) :
    Bool :=
  outbox.any (·.touches room) || queue.any (·.touches room) || handlers.any (·.closes room)

/-- A room opens, and a handler of a block leaves a room open or its event is lost, only
while no block between the participants is in force or another one is to be processed; no
two handlers insert a room of one collaboration. -/
def keepsShut (s : Consumers) : ConsumerEvent → Bool
  | .publish index ok =>
      ok || s.rooms.rows.all fun room =>
        !s.exposed room || attended (s.outbox.eraseIdx index) s.queue s.handlers room
  | .advance index outside =>
      match s.handlers[index]? with
      | some handler =>
          let others := s.handlers.set index { handler with phase := .done }
          let safe := fun room => !s.exposed room || attended s.outbox s.queue others room
          match handler.event, handler.phase with
          | .matchCreated collaborationId _ _, .select =>
              !outside.ok || s.rooms.rows.any (·.collaborationId = collaborationId) ||
                s.handlers.all (!·.makes collaborationId)
          | .matchCreated collaborationId profileA profileB, .insert =>
              !outside.ok || safe (newRoom outside collaborationId profileA profileB)
          | .blockCreated profileA profileB, .select =>
              s.rooms.rows.all fun room => safe room ||
                outside.ok && (limitOne (s.selectRooms .opened profileA profileB) outside.row).any
                  (·.id = room.id)
          | .blockCreated _ _, .update _ => outside.ok || s.rooms.rows.all safe
          | .blockRemoved _ _, .update roomId =>
              !outside.ok || (s.rooms.lookup roomId).all fun room => safe (room.setState .opened)
          | _, _ => true
      | none => true
  | _ => true

/-! ## Open rooms of blocked pairs -/

/-- Every open room of a blocked pair has an event of a block to come. -/
def Watched (s : Consumers) : Prop :=
  ∀ room ∈ s.rooms.rows, s.exposed room = true →
    attended s.outbox s.queue s.handlers room = true

variable {s : Consumers} {room : MatchedRoom}

theorem attended_iff {outbox queue : List RoomEvent} {handlers : List Handler} :
    attended outbox queue handlers room = true ↔
      (∃ event ∈ outbox, event.touches room = true) ∨
        (∃ event ∈ queue, event.touches room = true) ∨
        ∃ handler ∈ handlers, handler.closes room = true := by
  simp [attended, or_assoc]

theorem exposed_iff :
    s.exposed room = true ↔ room.state = .opened ∧
      ∃ block ∈ s.blocks, room.hasBoth block.1 block.2 = true := by
  simp [exposed]

theorem attended_of_safe {attended : Bool} (safe : (!s.exposed room || attended) = true)
    (exposed : s.exposed room = true) : attended = true := by
  simpa [exposed] using safe

/-- What attends to a room without the handler still does when the handler goes on. -/
theorem attended_put {index : Nat} {old next : Handler}
    (h : attended s.outbox s.queue (s.handlers.set index old) room = true)
    (idle : old.closes room = false) :
    attended s.outbox s.queue (s.handlers.set index next) room = true := by
  rcases attended_iff.1 h with outbox | queue | ⟨other, mem, closes⟩
  · exact attended_iff.2 (Or.inl outbox)
  · exact attended_iff.2 (Or.inr (Or.inl queue))
  · rcases mem_set_cases mem with rfl | ⟨j, apart, atJ⟩
    · rw [idle] at closes
      cases closes
    · refine attended_iff.2 (Or.inr (Or.inr ⟨other, ?_, closes⟩))
      exact List.mem_of_getElem? ((List.getElem?_set_ne apart).trans atJ)

theorem attended_next {index : Nat} {handler next : Handler}
    (found : s.handlers[index]? = some handler) (closes : next.closes room = true) :
    attended s.outbox s.queue (s.handlers.set index next) room = true :=
  attended_iff.2 (Or.inr (Or.inr ⟨next, mem_set_of_found found, closes⟩))

/-- A handler that closes nothing is not needed. -/
theorem attended_others {index : Nat} {handler next : Handler}
    (found : s.handlers[index]? = some handler) (idle : handler.closes room = false)
    (h : attended s.outbox s.queue s.handlers room = true) :
    attended s.outbox s.queue (s.handlers.set index next) room = true := by
  rcases attended_iff.1 h with outbox | queue | ⟨other, mem, closes⟩
  · exact attended_iff.2 (Or.inl outbox)
  · exact attended_iff.2 (Or.inr (Or.inl queue))
  · refine attended_iff.2 (Or.inr (Or.inr ⟨other, ?_, closes⟩))
    apply mem_set_of_mem found mem
    rintro rfl
    rw [idle] at closes
    cases closes

/-! ### Events on their way -/

theorem Watched.block (h : s.Watched) (blockerId blockedId : String) :
    (s.step (.block blockerId blockedId)).Watched := by
  simp only [step]
  split
  · exact h
  · intro room mem exposed
    obtain ⟨opened, block, memBlock, both⟩ := exposed_iff.1 exposed
    rcases List.mem_append.1 memBlock with old | new
    · have before := h room mem (exposed_iff.2 ⟨opened, block, old, both⟩)
      rcases attended_iff.1 before with ⟨event, memEvent, touches⟩ | later
      · exact attended_iff.2 (Or.inl ⟨event, List.mem_append_left _ memEvent, touches⟩)
      · exact attended_iff.2 (Or.inr later)
    · obtain rfl := List.mem_singleton.1 new
      exact attended_iff.2 (Or.inl ⟨.blockCreated blockerId blockedId,
        List.mem_append_right _ List.mem_cons_self, both⟩)

theorem Watched.unblock (h : s.Watched) (blockerId blockedId : String) :
    (s.step (.unblock blockerId blockedId)).Watched := by
  simp only [step]
  split
  · intro room mem exposed
    obtain ⟨opened, block, memBlock, both⟩ := exposed_iff.1 exposed
    have before := h room mem (exposed_iff.2 ⟨opened, block, (List.mem_filter.1 memBlock).1, both⟩)
    rcases attended_iff.1 before with ⟨event, memEvent, touches⟩ | later
    · exact attended_iff.2 (Or.inl ⟨event, List.mem_append_left _ memEvent, touches⟩)
    · exact attended_iff.2 (Or.inr later)
  · exact h

theorem Watched.publish (h : s.Watched) {index : Nat} {ok : Bool}
    (right : s.keepsShut (.publish index ok) = true) :
    (s.step (.publish index ok)).Watched := by
  simp only [step]
  split
  · rename_i event found
    intro room mem exposed
    cases ok with
    | false =>
        simp only [keepsShut, Bool.false_or, List.all_eq_true] at right
        exact attended_of_safe (right room mem) exposed
    | true =>
        rcases attended_iff.1 (h room mem exposed) with ⟨other, memOther, touches⟩ | queued | handled
        · rcases mem_eraseIdx_or memOther with same | stays
          · obtain rfl := Option.some.inj (found.symm.trans same)
            exact attended_iff.2 (Or.inr (Or.inl
              ⟨event, List.mem_append_right _ List.mem_cons_self, touches⟩))
          · exact attended_iff.2 (Or.inl ⟨other, stays, touches⟩)
        · obtain ⟨other, memOther, touches⟩ := queued
          exact attended_iff.2 (Or.inr (Or.inl ⟨other, List.mem_append_left _ memOther, touches⟩))
        · exact attended_iff.2 (Or.inr (Or.inr handled))
  · exact h

/-- Events join the queue. -/
theorem Watched.enqueue (h : s.Watched) (event : RoomEvent) :
    ({ s with queue := s.queue ++ [event] } : Consumers).Watched := by
  intro room mem exposed
  rcases attended_iff.1 (h room mem exposed) with outbox | ⟨other, memOther, touches⟩ | handled
  · exact attended_iff.2 (Or.inl outbox)
  · exact attended_iff.2 (Or.inr (Or.inl ⟨other, List.mem_append_left _ memOther, touches⟩))
  · exact attended_iff.2 (Or.inr (Or.inr handled))

theorem Watched.deliver (h : s.Watched) (index : Nat) : (s.step (.deliver index)).Watched := by
  simp only [step]
  split
  · rename_i event found
    intro room mem exposed
    rcases attended_iff.1 (h room mem exposed) with outbox | ⟨other, memOther, touches⟩ | handled
    · exact attended_iff.2 (Or.inl outbox)
    · rcases mem_eraseIdx_or memOther with same | stays
      · obtain rfl := Option.some.inj (found.symm.trans same)
        refine attended_iff.2 (Or.inr (Or.inr
          ⟨{ event }, List.mem_append_right _ List.mem_cons_self, ?_⟩))
        simp [Handler.closes, touches]
      · exact attended_iff.2 (Or.inr (Or.inl ⟨other, stays, touches⟩))
    · obtain ⟨handler, memHandler, closes⟩ := handled
      exact attended_iff.2 (Or.inr (Or.inr
        ⟨handler, List.mem_append_left _ memHandler, closes⟩))
  · exact h

theorem Watched.crash (h : s.Watched) (index : Nat) : (s.step (.crash index)).Watched := by
  simp only [step]
  split
  · rename_i handler found
    split
    · exact h
    · intro room mem exposed
      rcases attended_iff.1 (h room mem exposed) with outbox | queued | ⟨other, memOther, closes⟩
      · exact attended_iff.2 (Or.inl outbox)
      · obtain ⟨event, memEvent, touches⟩ := queued
        exact attended_iff.2 (Or.inr (Or.inl ⟨event, List.mem_append_left _ memEvent, touches⟩))
      · by_cases same : handler = other
        · subst same
          have touches : handler.event.touches room = true := by
            simp only [Handler.closes, Bool.and_eq_true] at closes
            exact closes.1
          exact attended_iff.2 (Or.inr (Or.inl
            ⟨handler.event, List.mem_append_right _ List.mem_cons_self, touches⟩))
        · exact attended_iff.2 (Or.inr (Or.inr
            ⟨other, mem_set_of_mem found memOther same, closes⟩))
  · exact h

/-! ### Handlers -/

/-- The state of one room is written, while a handler goes on. -/
theorem watched_write {index : Nat} {handler : Handler} {roomId : String} {state : RoomState}
    (others : ∀ room ∈ s.rooms.rows, room.id ≠ roomId → s.exposed room = true →
      attended s.outbox s.queue (s.handlers.set index { handler with phase := .done }) room = true)
    (written : ∀ room ∈ s.rooms.rows, room.id = roomId → s.exposed (room.setState state) = true →
      attended s.outbox s.queue (s.handlers.set index { handler with phase := .done })
        (room.setState state) = true) :
    ((s.put index handler .done).setState roomId state).Watched := by
  intro room mem exposed
  rcases Table.mem_updated mem with ⟨old, memOld, same, rfl⟩ | ⟨stays, other⟩
  · exact written old memOld same exposed
  · exact others room stays other exposed

/-- Nothing is written, and the handler closed nothing. -/
theorem Watched.pass (h : s.Watched) {index : Nat} {handler : Handler} (phase : HandlerPhase)
    (found : s.handlers[index]? = some handler)
    (idle : ∀ room ∈ s.rooms.rows, handler.closes room = false) :
    (s.put index handler phase).Watched := by
  intro room mem exposed
  exact attended_others found (idle room mem) (h room mem exposed)

theorem Watched.matchCreated (h : s.Watched) {index : Nat} {phase : HandlerPhase}
    {outside : HandlerOutside} {collaborationId profileA profileB : String}
    (found : s.handlers[index]? = some ⟨.matchCreated collaborationId profileA profileB, phase⟩)
    (right : s.keepsShut (.advance index outside) = true) :
    (s.advance index outside
      ⟨.matchCreated collaborationId profileA profileB, phase⟩).Watched := by
  have idle : ∀ room ∈ s.rooms.rows, Handler.closes room
      ⟨.matchCreated collaborationId profileA profileB, phase⟩ = false := by
    intro room mem
    rfl
  cases phase with
  | select =>
      simp only [advance]
      split
      · exact h.pass _ found idle
      · exact h.pass _ found idle
  | insert =>
      simp only [keepsShut, found] at right
      simp only [advance]
      split
      · rename_i rooms inserted
        split at inserted
        · rename_i carried
          rw [carried, Bool.not_true, Bool.false_or] at right
          intro room mem exposed
          have mem' : room ∈ rooms.rows := mem
          rw [(Table.insert?_eq_some inserted).2] at mem'
          rcases List.mem_cons.1 mem' with rfl | old
          · exact attended_of_safe right exposed
          · exact attended_others found (idle room old) (h room old exposed)
        · cases inserted
      · exact h.pass _ found idle
  | update roomId => exact h
  | done => exact h

/-- A row that is selected is one of an open room of both. -/
theorem mem_of_limitOne {state : RoomState} {profileA profileB : String} {row : Nat}
    (selected : limitOne (s.selectRooms state profileA profileB) row = some room) :
    room ∈ s.rooms.rows ∧ room.hasBoth profileA profileB = true ∧ room.state = state := by
  have mem := List.mem_of_getElem? selected
  simpa [selectRooms] using mem

theorem Watched.blockCreated (h : s.Watched) {index : Nat} {phase : HandlerPhase}
    {outside : HandlerOutside} {profileA profileB : String}
    (found : s.handlers[index]? = some ⟨.blockCreated profileA profileB, phase⟩)
    (right : s.keepsShut (.advance index outside) = true) :
    (s.advance index outside ⟨.blockCreated profileA profileB, phase⟩).Watched := by
  cases phase with
  | select =>
      simp only [keepsShut, found, List.all_eq_true] at right
      simp only [advance]
      split
      · rename_i chosen selected
        split at selected
        · rename_i carried
          intro room mem exposed
          have exposed : s.exposed room = true := exposed
          rcases Bool.or_eq_true_iff.1 (right room mem) with safe | picked
          · exact attended_put (attended_of_safe safe exposed) (Bool.and_false _)
          · apply attended_next found
            rw [carried, Bool.true_and, selected, Option.any_some] at picked
            have same : chosen.id = room.id := of_decide_eq_true picked
            have row := mem_of_limitOne selected
            obtain rfl := Table.eq_of_key_eq row.1 mem same
            simp [Handler.closes, RoomEvent.touches, row.2.1]
        · cases selected
      · rename_i none
        intro room mem exposed
        have exposed : s.exposed room = true := exposed
        rcases Bool.or_eq_true_iff.1 (right room mem) with safe | picked
        · exact attended_put (attended_of_safe safe exposed) (Bool.and_false _)
        · obtain ⟨carried, some⟩ := Bool.and_eq_true_iff.1 picked
          rw [if_pos carried] at none
          simp [none] at some
  | insert => exact h
  | update roomId =>
      simp only [keepsShut, found] at right
      simp only [advance]
      split
      · apply watched_write
        · intro room mem other exposed
          refine attended_others found ?_ (h room mem exposed)
          simp [Handler.closes, other.symm]
        · intro room mem same exposed
          simp [Consumers.exposed, MatchedRoom.setState] at exposed
      · rename_i failed
        intro room mem exposed
        have exposed : s.exposed room = true := exposed
        rcases Bool.or_eq_true_iff.1 right with carried | safe
        · exact absurd carried failed
        · have attended := attended_of_safe (List.all_eq_true.1 safe room mem) exposed
          exact attended_put attended (Bool.and_false _)
  | done => exact h

theorem Watched.blockRemoved (h : s.Watched) {index : Nat} {phase : HandlerPhase}
    {outside : HandlerOutside} {profileA profileB : String}
    (found : s.handlers[index]? = some ⟨.blockRemoved profileA profileB, phase⟩)
    (right : s.keepsShut (.advance index outside) = true) :
    (s.advance index outside ⟨.blockRemoved profileA profileB, phase⟩).Watched := by
  have idle : ∀ room ∈ s.rooms.rows,
      Handler.closes room ⟨.blockRemoved profileA profileB, phase⟩ = false := by
    intro room mem
    rfl
  cases phase with
  | select =>
      simp only [advance]
      split
      · split
        · exact h.pass _ found idle
        · exact h.pass _ found idle
      · exact h.pass _ found idle
  | insert => exact h
  | update roomId =>
      simp only [keepsShut, found] at right
      simp only [advance]
      split
      · rename_i carried
        rw [carried, Bool.not_true, Bool.false_or] at right
        apply watched_write
        · intro room mem other exposed
          exact attended_others found (idle room mem) (h room mem exposed)
        · intro room mem same exposed
          have stored : s.rooms.lookup roomId = some room := by
            rw [← same]
            exact Table.lookup_of_mem mem
          rw [stored, Option.all_some] at right
          exact attended_of_safe right exposed
      · exact h.pass _ found idle
  | done => exact h

theorem Watched.step (h : s.Watched) (event : ConsumerEvent)
    (right : s.keepsShut event = true) : (s.step event).Watched := by
  cases event with
  | block blockerId blockedId => exact h.block blockerId blockedId
  | unblock blockerId blockedId => exact h.unblock blockerId blockedId
  | publish index ok => exact h.publish right
  | announce collaborationId profileIdA profileIdB => exact h.enqueue _
  | duplicate index =>
      simp only [Consumers.step]
      split
      · exact h.enqueue _
      · exact h
  | deliver index => exact h.deliver index
  | crash index => exact h.crash index
  | advance index outside =>
      simp only [Consumers.step]
      split
      · rename_i handler found
        obtain ⟨event, phase⟩ := handler
        cases event with
        | matchCreated collaborationId profileA profileB => exact h.matchCreated found right
        | blockCreated profileA profileB => exact h.blockCreated found right
        | blockRemoved profileA profileB => exact h.blockRemoved found right
      · exact h

/-! ## One room for a collaboration -/

structure Single (s : Consumers) : Prop where
  single : ∀ collaborationId, s.roomsOf collaborationId ≤ 1
  unmade : ∀ handler ∈ s.handlers, ∀ collaborationId, handler.makes collaborationId = true →
    s.roomsOf collaborationId = 0
  alone : ∀ collaborationId, AtMostOne (·.makes collaborationId) s.handlers

variable {s' : Consumers}

theorem roomsOf_eq_zero_iff {collaborationId : String} :
    s.roomsOf collaborationId = 0 ↔
      s.rooms.rows.any (·.collaborationId = collaborationId) = false := by
  simp [roomsOf, List.countP_eq_zero]

theorem roomsOf_setState {roomId collaborationId : String} {state : RoomState} :
    (s.setState roomId state).roomsOf collaborationId = s.roomsOf collaborationId := by
  simp only [roomsOf, setState, Table.rows_modify, List.countP_map]
  congr 1
  funext room
  by_cases same : room.id = roomId
  · simp [same, MatchedRoom.setState]
  · simp [same]

theorem makes_eq_false {handler : Handler} {collaborationId : String}
    (other : handler.phase ≠ .insert) : handler.makes collaborationId = false := by
  unfold Handler.makes
  split
  · rename_i inserts
    exact absurd inserts other
  · rfl

/-- A handler goes on that inserts no room; the rooms of every collaboration are as many. -/
theorem Single.turn (h : s.Single) {index : Nat} {handler next : Handler}
    (found : s.handlers[index]? = some handler) (handlers : s'.handlers = s.handlers.set index next)
    (same : ∀ collaborationId, s'.roomsOf collaborationId = s.roomsOf collaborationId)
    (makes : ∀ collaborationId, next.makes collaborationId = true →
      s.roomsOf collaborationId = 0 ∧ ∀ other ∈ s.handlers, other.makes collaborationId = false) :
    s'.Single where
  single := by
    intro collaborationId
    rw [same]
    exact h.single collaborationId
  unmade := by
    intro other mem collaborationId made
    rw [same]
    rw [handlers] at mem
    rcases mem_set_cases mem with rfl | ⟨j, -, atJ⟩
    · exact (makes collaborationId made).1
    · exact h.unmade other (List.mem_of_getElem? atJ) collaborationId made
  alone := by
    intro collaborationId
    rw [handlers]
    exact (h.alone collaborationId).set found fun now => Or.inr (makes collaborationId now).2

/-- The handlers stay, or one begins. -/
theorem Single.frame (h : s.Single) (rooms : s'.rooms = s.rooms)
    (handlers : s'.handlers = s.handlers ∨ ∃ event, s'.handlers = s.handlers ++ [⟨event, .select⟩]) :
    s'.Single := by
  have same : ∀ collaborationId, s'.roomsOf collaborationId = s.roomsOf collaborationId := by
    intro collaborationId
    rw [roomsOf, rooms]
    rfl
  have idle : ∀ (event : RoomEvent) (collaborationId : String),
      Handler.makes collaborationId { event } = false := by
    intro event collaborationId
    cases event <;> rfl
  rcases handlers with handlers | ⟨event, handlers⟩
  · refine ⟨?_, ?_, ?_⟩
    · intro collaborationId
      rw [same]
      exact h.single collaborationId
    · intro handler mem collaborationId made
      rw [handlers] at mem
      rw [same]
      exact h.unmade handler mem collaborationId made
    · intro collaborationId
      rw [handlers]
      exact h.alone collaborationId
  · refine ⟨?_, ?_, ?_⟩
    · intro collaborationId
      rw [same]
      exact h.single collaborationId
    · intro handler mem collaborationId made
      rw [handlers] at mem
      rw [same]
      rcases List.mem_append.1 mem with old | new
      · exact h.unmade handler old collaborationId made
      · obtain rfl := List.mem_singleton.1 new
        rw [idle] at made
        cases made
    · intro collaborationId
      rw [handlers]
      exact (h.alone collaborationId).concat (idle event collaborationId)

/-- The room of a match is inserted. -/
theorem Single.insert (h : s.Single) {index : Nat} {outside : HandlerOutside}
    {collaborationId profileA profileB : String}
    (found : s.handlers[index]? =
      some ⟨.matchCreated collaborationId profileA profileB, .insert⟩)
    (handlers : s'.handlers =
      s.handlers.set index ⟨.matchCreated collaborationId profileA profileB, .done⟩)
    (rooms : s'.rooms.rows =
      newRoom outside collaborationId profileA profileB :: s.rooms.rows) : s'.Single := by
  have counts : ∀ id, s'.roomsOf id =
      s.roomsOf id + if collaborationId = id then 1 else 0 := by
    intro id
    rw [roomsOf, rooms, List.countP_cons]
    by_cases same : collaborationId = id
    · simp [newRoom, roomsOf, same]
    · simp [newRoom, roomsOf, same]
  have makes : Handler.makes collaborationId
      ⟨.matchCreated collaborationId profileA profileB, .insert⟩ = true := decide_eq_true rfl
  have none := h.unmade _ (List.mem_of_getElem? found) collaborationId makes
  exact
    { single := by
        intro id
        rw [counts]
        split
        · rename_i same
          rw [← same, none]
        · exact h.single id
      unmade := by
        intro other mem id made
        rw [handlers] at mem
        rcases mem_set_cases mem with rfl | ⟨j, apart, atJ⟩
        · cases made
        · rw [counts, h.unmade other (List.mem_of_getElem? atJ) id made]
          split
          · rename_i same
            subst same
            have idle := (h.alone collaborationId).others found makes apart atJ
            simp [made] at idle
          · rfl
      alone := by
        intro id
        rw [handlers]
        exact (h.alone id).set found nofun }

theorem Single.put (h : s.Single) {index : Nat} {handler : Handler} {phase : HandlerPhase}
    (found : s.handlers[index]? = some handler) (other : phase ≠ .insert) :
    (s.put index handler phase).Single := by
  refine h.turn found rfl (fun _ => rfl) ?_
  intro collaborationId made
  rw [makes_eq_false other] at made
  cases made

theorem Single.matchCreated (h : s.Single) {index : Nat} {phase : HandlerPhase}
    {outside : HandlerOutside} {collaborationId profileA profileB : String}
    (found : s.handlers[index]? = some ⟨.matchCreated collaborationId profileA profileB, phase⟩)
    (right : s.keepsShut (.advance index outside) = true) :
    (s.advance index outside
      ⟨.matchCreated collaborationId profileA profileB, phase⟩).Single := by
  cases phase with
  | select =>
      simp only [keepsShut, found] at right
      simp only [advance]
      split
      · rename_i free
        obtain ⟨carried, unmade⟩ := Bool.and_eq_true_iff.1 free
        have none := Bool.not_eq_true' _ ▸ unmade
        rw [carried, none] at right
        refine h.turn found rfl (fun _ => rfl) ?_
        intro id made
        obtain rfl : collaborationId = id := of_decide_eq_true made
        refine ⟨roomsOf_eq_zero_iff.2 none, fun other mem => ?_⟩
        simpa using List.all_eq_true.1 right other mem
      · exact h.put found nofun
  | insert =>
      simp only [advance]
      split
      · rename_i rooms inserted
        split at inserted
        · exact h.insert found rfl (Table.insert?_eq_some inserted).2
        · cases inserted
      · exact h.put found nofun
  | update roomId => exact h
  | done => exact h

theorem Single.advance (h : s.Single) {index : Nat} {handler : Handler}
    {outside : HandlerOutside} (found : s.handlers[index]? = some handler)
    (right : s.keepsShut (.advance index outside) = true) :
    (s.advance index outside handler).Single := by
  have written : ∀ (roomId : String) (state : RoomState),
      ((s.put index handler .done).setState roomId state).Single := by
    intro roomId state
    refine h.turn found rfl (fun collaborationId => roomsOf_setState) ?_
    intro collaborationId made
    have idle : Handler.makes collaborationId { handler with phase := .done } = false :=
      makes_eq_false nofun
    rw [idle] at made
    cases made
  obtain ⟨event, phase⟩ := handler
  cases event with
  | matchCreated collaborationId profileA profileB => exact h.matchCreated found right
  | blockCreated profileA profileB =>
      cases phase with
      | select =>
          simp only [Consumers.advance]
          split
          · exact h.put found nofun
          · exact h.put found nofun
      | update roomId =>
          simp only [Consumers.advance]
          split
          · exact written roomId .readOnly
          · exact h.put found nofun
      | _ => exact h
  | blockRemoved profileA profileB =>
      cases phase with
      | select =>
          simp only [Consumers.advance]
          split
          · split
            · exact h.put found nofun
            · exact h.put found nofun
          · exact h.put found nofun
      | update roomId =>
          simp only [Consumers.advance]
          split
          · exact written roomId .opened
          · exact h.put found nofun
      | _ => exact h

theorem Single.step (h : s.Single) (event : ConsumerEvent)
    (right : s.keepsShut event = true) : (s.step event).Single := by
  cases event with
  | block blockerId blockedId =>
      simp only [Consumers.step]
      split
      · exact h
      · exact h.frame rfl (Or.inl rfl)
  | unblock blockerId blockedId =>
      simp only [Consumers.step]
      split
      · exact h.frame rfl (Or.inl rfl)
      · exact h
  | publish index ok =>
      simp only [Consumers.step]
      split
      · exact h.frame rfl (Or.inl rfl)
      · exact h
  | announce collaborationId profileIdA profileIdB => exact h.frame rfl (Or.inl rfl)
  | duplicate index =>
      simp only [Consumers.step]
      split
      · exact h.frame rfl (Or.inl rfl)
      · exact h
  | deliver index =>
      simp only [Consumers.step]
      split
      · rename_i event found
        exact h.frame rfl (Or.inr ⟨event, rfl⟩)
      · exact h
  | crash index =>
      simp only [Consumers.step]
      split
      · rename_i handler found
        split
        · exact h
        · have done : (s.put index handler .done).Single := h.put found nofun
          exact done.frame rfl (Or.inl rfl)
      · exact h
  | advance index outside =>
      simp only [Consumers.step]
      split
      · rename_i handler found
        exact h.advance found right
      · exact h

/-! ## Runs -/

theorem empty_watched : empty.Watched := by
  intro room mem
  cases mem

theorem empty_single : empty.Single where
  single := fun _ => Nat.zero_le 1
  unmade := by
    intro handler mem
    cases mem
  alone := fun _ => .nil

theorem attended_eq_false_of_settled (settled : s.settled = true) :
    attended s.outbox s.queue s.handlers room = false := by
  simp only [Consumers.settled, Bool.and_eq_true, List.isEmpty_iff, List.all_eq_true,
    decide_eq_true_eq] at settled
  obtain ⟨⟨outbox, queue⟩, idle⟩ := settled
  have closed : s.handlers.any (·.closes room) = false := by
    apply List.any_eq_false.2
    intro handler mem
    simp [Handler.closes, idle handler mem]
  simp [attended, outbox, queue, closed]

/-- A handler's steps, from its selection to its end. -/
def handled (index : Nat) : List ConsumerEvent := List.replicate 2 (.advance index {})

/-- The match of Anna and Ben, with the id of its room. -/
def matched (handler : Nat) (id : String) : List ConsumerEvent :=
  [.announce "collab" "anna" "ben", .deliver 0, .advance handler {}, .advance handler { id }]

/-- An event of a block is published and handled. -/
def processed (handler : Nat) : List ConsumerEvent :=
  .publish 0 true :: .deliver 0 :: handled handler

/-- Anna blocks Ben and unblocks him, and the event of the block arrives twice. -/
def blockedOnce : List ConsumerEvent :=
  matched 0 "room" ++ [.block "anna" "ben", .publish 0 true, .duplicate 0, .deliver 0] ++
    handled 1 ++ [.deliver 0] ++ handled 2 ++ .unblock "anna" "ben" :: processed 3

/-- Both block each other, and one of the blocks is removed. -/
def oneRemoved : List ConsumerEvent :=
  matched 0 "room" ++ .block "anna" "ben" :: processed 1 ++ .block "ben" "anna" :: processed 2 ++
    .unblock "anna" "ben" :: processed 3

/-- The match is handled after the block. -/
def matchedLater : List ConsumerEvent :=
  .block "anna" "ben" :: processed 0 ++ matched 1 "room"

/-- Two collaborations of a pair, one of whose rooms is closed. -/
def twice : List ConsumerEvent :=
  matched 0 "room" ++
    [.announce "other" "anna" "ben", .deliver 0, .advance 1 {}, .advance 1 { id := "room2" }] ++
    .block "anna" "ben" :: processed 2

/-- Anna blocks Ben again while the removal of her first block is handled. -/
def overtaken : List ConsumerEvent :=
  matched 0 "room" ++ .block "anna" "ben" :: processed 1 ++
    [.unblock "anna" "ben", .publish 0 true, .deliver 0, .advance 2 {}] ++
    .block "anna" "ben" :: processed 3 ++ [.advance 2 {}]

/-- The event of the match is handled twice at once. -/
def doubled : List ConsumerEvent :=
  [.announce "collab" "anna" "ben", .duplicate 0, .deliver 0, .deliver 0, .advance 0 {},
    .advance 1 {}, .advance 0 { id := "room" }, .advance 1 { id := "room2" }]

end Consumers

end ColabPlatform.Chat
