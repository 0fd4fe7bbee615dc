import ColabPlatform.Chat.Runs
import ColabPlatform.Foundation.Paging

/-!
# Chat service: the rooms of a profile

`list_rooms` sorts by the creation time and selects by the id: the cursor is the id of
the last room of a page, and the next page holds rooms with larger ids.  The pages are
right exactly when the ids happen to grow from page to page.
-/

namespace ColabPlatform.Chat

open Foundation Common
open Moderation (HttpError)

/-! ## Rows and summaries -/

/-- A row of `chat_room` as the list reads it. -/
structure RoomRow where
  id : String
  collaborationId : String
  participantIds : List String
  state : RoomState
  createdAt : Int
  deriving DecidableEq, Repr

structure RoomListState where
  rooms : Table RoomRow RoomRow.id (noAlt RoomRow)
  chat : ChatState
  receipts : ReadReceipts

structure ChatRoomSummary where
  id : String
  collaborationId : String
  state : RoomState
  participants : List String
  lastMessage : Option ChatMessageOut
  unreadCount : Nat
  createdAt : Int
  deriving DecidableEq, Repr

structure RoomPage where
  rooms : List ChatRoomSummary
  nextCursor : Option String
  deriving DecidableEq, Repr

/-- Where a profile has read to; the nil UUID is before every message. -/
def RoomListState.sinceId (s : RoomListState) (roomId profileId : String) : String :=
  ((s.receipts.lookup (roomId, profileId)).bind (·.lastReadMsgId)).getD
    "00000000-0000-0000-0000-000000000000"

def RoomListState.unreadCount (s : RoomListState) (roomId profileId : String) : Nat :=
  s.chat.messages.rows.countP fun message =>
    message.roomId = roomId && s.sinceId roomId profileId < message.id &&
      message.senderProfileId ≠ profileId && message.shown

def RoomListState.summary (s : RoomListState) (profileId : String) (row : RoomRow) :
    ChatRoomSummary where
  id := row.id
  collaborationId := row.collaborationId
  state := row.state
  participants := row.participantIds
  lastMessage := (s.chat.shownIn row.id (fun _ => true) descending).head?.map ChatMessage.toOut
  unreadCount := s.unreadCount row.id profileId
  createdAt := row.createdAt

/-! ## The list -/

def RoomListState.roomsOf (s : RoomListState) (profileId : String) : List RoomRow :=
  s.rooms.rows.filter fun row => decide (profileId ∈ row.participantIds)

/-- `ORDER BY created_at DESC`, which leaves the order of equal times open. -/
def NewestFirst (row row' : RoomRow) : Prop := row'.createdAt ≤ row.createdAt

/-- `rows` are what the database answers for each cursor, without the `LIMIT`. -/
def RoomListState.Answers (s : RoomListState) (profileId : String)
    (rows : Option String → List RoomRow) : Prop :=
  Lists NewestFirst (s.roomsOf profileId) (rows none) ∧
    ∀ cursor, Lists NewestFirst ((s.roomsOf profileId).filter fun row => cursor < row.id)
      (rows (some cursor))

/-- `GET /chat/rooms`, with what the database answers to each cursor of the profile. -/
def listRooms (s : RoomListState) (rows : String → Option String → List RoomRow)
    (profile : IdField) (cursor : Option String) (limit : Nat) : Except HttpError RoomPage := do
  if limit < 1 then throw ⟨422, "limit: Input should be greater than or equal to 1"⟩
  if 100 < limit then throw ⟨422, "limit: Input should be less than or equal to 100"⟩
  let profileId ← getProfileId profile
  let fetched := (rows profileId cursor).take (limit + 1)
  let rows := fetched.take limit
  return ⟨rows.map (s.summary profileId),
    if fetched.length > limit then rows.getLast?.map (·.id) else none⟩

/-- A request for a page that is served. -/
def servesRooms (s : RoomListState) (rows : String → Option String → List RoomRow)
    (profile : IdField) (limit : Nat) (cursor : Option String) (rooms : List ChatRoomSummary)
    (next : Option String) : Prop :=
  listRooms s rows profile cursor limit = .ok ⟨rooms, next⟩

/-- The summaries of all rooms of the profile, each once and newest first. -/
def RoomListState.AllRooms (s : RoomListState) (profileId : String)
    (found : List ChatRoomSummary) : Prop :=
  Lists (fun room room' => room'.createdAt ≤ room.createdAt)
    ((s.roomsOf profileId).map (s.summary profileId)) found

section Rooms

variable {s : RoomListState} {profile : IdField} {profileId : String} {limit : Nat}

theorem summary_injective : Function.Injective (s.summary profileId) := by
  intro row row' same
  cases row with
  | mk =>
      cases row' with
      | mk => simp_all [RoomListState.summary]

theorem allRooms_map {listing : List RoomRow} :
    s.AllRooms profileId (listing.map (s.summary profileId)) ↔
      Lists NewestFirst (s.roomsOf profileId) listing := by
  constructor
  · rintro ⟨perm, sorted⟩
    rw [List.pairwise_map] at sorted
    exact ⟨(List.map_perm_map_iff summary_injective).1 perm, sorted⟩
  · rintro ⟨perm, sorted⟩
    exact ⟨perm.map _, List.pairwise_map.2 sorted⟩

theorem servesRooms_iff (one : 1 ≤ limit) (most : limit ≤ 100)
    (known : getProfileId profile = .ok profileId)
    (rows : String → Option String → List RoomRow) (cursor : Option String)
    (rooms : List ChatRoomSummary) (next : Option String) :
    servesRooms s rows profile limit cursor rooms next ↔
      ∃ items, rooms = items.map (s.summary profileId) ∧
        servePage limit RoomRow.id (rows profileId) cursor items next := by
  unfold servesRooms listRooms servePage probe
  rw [if_neg (Nat.not_lt.2 one), if_neg (Nat.not_lt.2 most), known]
  simp only [bind, Except.bind, pure, Except.pure, Except.ok.injEq, RoomPage.mk.injEq,
    Prod.mk.injEq]
  constructor
  · rintro ⟨rfl, rfl⟩
    exact ⟨_, rfl, rfl, rfl⟩
  · rintro ⟨items, rfl, rfl, rfl⟩
    exact ⟨rfl, rfl⟩

variable (s profile profileId limit)

end Rooms

/-! ## Two rooms, the newer one with the larger id -/

def listedRoom (id : String) (createdAt : Int) : RoomRow :=
  ⟨id, "c" ++ id, ["ana", "bo"], .opened, createdAt⟩

def listedRooms : RoomListState where
  rooms := ⟨[listedRoom "2" 20, listedRoom "1" 10], by decide, by decide⟩
  chat := silent .empty
  receipts := .empty

/-- The times differ, so the database has no choice. -/
def listedRows (profileId : String) (cursor : Option String) : List RoomRow :=
  (listedRooms.roomsOf profileId).filter fun row => cursor.all fun cursor => cursor < row.id

theorem listedRows_answers : listedRooms.Answers "ana" (listedRows "ana") := by
  have newest : (listedRooms.roomsOf "ana").Pairwise NewestFirst := by
    unfold NewestFirst
    decide +kernel
  exact ⟨⟨.of_eq (by decide +kernel), newest.filter _⟩, fun cursor => ⟨.rfl, newest.filter _⟩⟩

end ColabPlatform.Chat
