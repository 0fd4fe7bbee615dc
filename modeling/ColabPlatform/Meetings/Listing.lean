import ColabPlatform.Invites.BlockList
import ColabPlatform.Meetings.Model
import ColabPlatform.Moderation.Cases

/-!
# The meetings of a collaboration

The list is sorted by the start alone, and a cursor is the start of the last meeting of a
page.  Cancelled meetings may start together with others, so that a page can end between
two of one start; the blocks of a user are listed in the same way.
-/

namespace ColabPlatform.Meetings

open Foundation Common
open Moderation (HttpError)

/-! ## Rows and answers -/

structure MeetingConsent where
  profileId : UuidInt
  revokedAt : Option UtcTime
  deriving DecidableEq

/-- A row of `meeting` as the list reads it, with its consents. -/
structure MeetingRow where
  id : UuidInt
  collabId : UuidInt
  organizerProfileId : UuidInt
  scheduledAt : UtcTime
  durationMin : Int
  joinUrl : String
  icsS3Key : Option String
  status : MeetingStatus
  botEnabled : Bool
  botStatus : BotStatus
  recallBotId : Option String
  consents : List MeetingConsent
  createdAt : UtcTime
  updatedAt : UtcTime
  deriving DecidableEq

abbrev MeetingTable := Table MeetingRow MeetingRow.id (noAlt MeetingRow)

structure BotConsentStatus where
  participantA : Bool
  participantB : Bool
  deriving DecidableEq, Repr

structure MeetingOut where
  id : UuidInt
  collabId : UuidInt
  organizerProfileId : UuidInt
  scheduledAt : UtcTime
  durationMin : Int
  joinUrl : String
  icsUrl : Option String
  status : MeetingStatus
  botEnabled : Bool
  botStatus : BotStatus
  recallBotId : Option String
  botConsent : BotConsentStatus
  createdAt : UtcTime
  updatedAt : UtcTime
  deriving DecidableEq, Repr

structure MeetingListResponse where
  items : List MeetingOut
  cursor : Option String
  hasMore : Bool
  deriving DecidableEq, Repr

namespace MeetingRow

/-- `_bot_consent_status` -/
def botConsentStatus (meeting : MeetingRow) : BotConsentStatus :=
  let active := meeting.consents.filter (·.revokedAt = none)
  ⟨1 ≤ active.length, 2 ≤ active.length⟩

/-- `_meeting_to_out`, with the links that are signed for keys. -/
def toOut (signedUrl : String → Option String) (meeting : MeetingRow) : MeetingOut where
  id := meeting.id
  collabId := meeting.collabId
  organizerProfileId := meeting.organizerProfileId
  scheduledAt := meeting.scheduledAt
  durationMin := meeting.durationMin
  joinUrl := meeting.joinUrl
  icsUrl := (meeting.icsS3Key.filter (· ≠ "")).bind signedUrl
  status := meeting.status
  botEnabled := meeting.botEnabled
  botStatus := meeting.botStatus
  recallBotId := meeting.recallBotId
  botConsent := meeting.botConsentStatus
  createdAt := meeting.createdAt
  updatedAt := meeting.updatedAt

end MeetingRow

/-! ## Cursors -/

def encodeStart (scheduledAt : UtcTime) : String :=
  String.ofList (standardBase64.encode (utf8 (isoformat scheduledAt)))

/-- A text that is not in ASCII is refused before it is decoded. -/
def decodeStart (cursor : String) : Option UtcTime := do
  if cursor.toList.any fun c => 128 ≤ c.toNat then none
  let bytes ← standardBase64.decode cursor.toList
  fromisoformat (← ofUtf8 bytes)

/-- The cursor of a request; one that is empty or cannot be decoded is ignored. -/
def readStart (cursor : Option String) : Option UtcTime :=
  (cursor.filter (· ≠ "")).bind decodeStart

theorem decodeStart_encodeStart (scheduledAt : UtcTime) :
    decodeStart (encodeStart scheduledAt) = some scheduledAt := by
  have ascii : (standardBase64.encode (utf8 (isoformat scheduledAt))).any
      (fun c => 128 ≤ c.toNat) = false := by
    rw [List.any_eq_false]
    intro c mem
    have digits : ∀ n < 64, (standardBase64.digit n).toNat < 128 := by decide +kernel
    rcases standardBase64.mem_encode mem with rfl | ⟨n, small, rfl⟩
    · decide
    · simpa using digits n small
  simp [decodeStart, encodeStart, ascii, Base64.decode_encode, ofUtf8_utf8,
    fromisoformat_isoformat]

theorem readStart_map (cursor : Option UtcTime) : readStart (cursor.map encodeStart) = cursor := by
  cases cursor with
  | none => rfl
  | some scheduledAt =>
      have filled : encodeStart scheduledAt ≠ "" := by
        intro empty
        have round := decodeStart_encodeStart scheduledAt
        rw [empty] at round
        cases round
      simp [readStart, Option.filter, filled, decodeStart_encodeStart]

/-! ## The list -/

/-- `get_current_profile_id` -/
def getCurrentProfileId : Option String → Except HttpError UuidInt
  | none | some "" => throw ⟨401, "Missing X-Profile-Id"⟩
  | some text =>
      match parseUuid text.toList with
      | some profileId => return profileId
      | none => throw ⟨401, "Invalid X-Profile-Id"⟩

def MeetingStatus.text : MeetingStatus → String
  | .scheduled => "scheduled"
  | .started => "started"
  | .ended => "ended"
  | .cancelled => "cancelled"

/-- The condition of the status parameter; the database refuses what its enumeration lacks. -/
def statusCond (status : Option String) : Except HttpError (MeetingStatus → Bool) :=
  let asked := status.getD ""
  if asked = "" then return fun _ => true
  else
    match [MeetingStatus.scheduled, .started, .ended, .cancelled].find? (·.text = asked) with
    | some status => return fun found => found = status
    | none => throw ⟨500, "Internal Server Error"⟩

/-- What the status parameter asks for. -/
def asks (status : Option String) (found : MeetingStatus) : Bool :=
  status.getD "" = "" || found.text = status.getD ""

/-- The status parameter is absent, empty or a status. -/
def Accepted (status : Option String) : Prop :=
  status.getD "" = "" ∨ ∃ found : MeetingStatus, found.text = status.getD ""

/-- `GET /v1/collabs/{collab_id}/meetings`, with what the database answers to the statement
of a collaboration, a condition and a cursor, before it is cut off at the `LIMIT`. -/
def listMeetings
    (rows : UuidInt → (MeetingStatus → Bool) → Option UtcTime → List MeetingRow)
    (signedUrl : String → Option String) (collabId : UuidInt)
    (profile status cursor : Option String) (limit : Nat) :
    Except HttpError MeetingListResponse := do
  if limit < 1 then throw ⟨422, "limit: Input should be greater than or equal to 1"⟩
  if 100 < limit then throw ⟨422, "limit: Input should be less than or equal to 100"⟩
  let _ ← getCurrentProfileId profile
  let cond ← statusCond status
  let fetched := (rows collabId cond (readStart cursor)).take (limit + 1)
  let meetings := fetched.take limit
  return {
    items := meetings.map (MeetingRow.toOut signedUrl)
    cursor :=
      if limit < fetched.length then
        meetings.getLast?.map fun last => encodeStart last.scheduledAt
      else none
    hasMore := limit < fetched.length }

/-- A request for a page that is served. -/
def servesMeetings
    (rows : UuidInt → (MeetingStatus → Bool) → Option UtcTime → List MeetingRow)
    (signedUrl : String → Option String) (collabId : UuidInt) (profile status : Option String)
    (limit : Nat) (cursor : Option String) (items : List MeetingOut) (next : Option String) :
    Prop :=
  ∃ hasMore, listMeetings rows signedUrl collabId profile status cursor limit =
    .ok ⟨items, next, hasMore⟩

namespace MeetingTable

variable (meetings : MeetingTable) (collabId : UuidInt)

def matching (cond : MeetingStatus → Bool) : List MeetingRow :=
  meetings.rows.filter fun meeting => meeting.collabId = collabId && cond meeting.status

/-- `ORDER BY scheduled_at DESC`, which leaves the order of equal starts open. -/
def Answers (cond : MeetingStatus → Bool) (rows : Option UtcTime → List MeetingRow) : Prop :=
  Lists (fun meeting meeting' => meeting'.scheduledAt ≤ meeting.scheduledAt)
      (meetings.matching collabId cond) (rows none) ∧
    ∀ cursor, Lists (fun meeting meeting' => meeting'.scheduledAt ≤ meeting.scheduledAt)
      ((meetings.matching collabId cond).filter fun meeting => meeting.scheduledAt < cursor)
      (rows (some cursor))

/-- All meetings that are asked for, each once and newest first. -/
def AllMeetings (signedUrl : String → Option String) (cond : MeetingStatus → Bool)
    (found : List MeetingOut) : Prop :=
  Lists (fun meeting meeting' => meeting'.scheduledAt ≤ meeting.scheduledAt)
    ((meetings.matching collabId cond).map (MeetingRow.toOut signedUrl)) found

end MeetingTable

section Meetings

variable {meetings : MeetingTable} {collabId profileId : UuidInt} {profile status : Option String}
  {signedUrl : String → Option String} {limit : Nat}

theorem statusCond_of_accepted (accepted : Accepted status) :
    statusCond status = .ok (asks status) := by
  unfold statusCond asks
  rcases accepted with empty | ⟨found, text⟩
  · simp [empty]
    rfl
  · have same : ∀ other : MeetingStatus, decide (other = found) =
        (decide (found.text = "") || decide (other.text = found.text)) := by
      intro other
      cases found <;> cases other <;> decide
    rw [← text]
    simp only [← same]
    cases found <;> rfl

/-- A cursor that was encoded selects as its time does. -/
theorem servesMeetings_iff (one : 1 ≤ limit) (most : limit ≤ 100)
    (known : getCurrentProfileId profile = .ok profileId) (accepted : Accepted status)
    (rows : UuidInt → (MeetingStatus → Bool) → Option UtcTime → List MeetingRow)
    (cursor : Option UtcTime) (items : List MeetingOut) (next : Option String) :
    servesMeetings rows signedUrl collabId profile status limit (cursor.map encodeStart) items
        next ↔
      ∃ next', next = next'.map encodeStart ∧
        ∃ found, items = found.map (MeetingRow.toOut signedUrl) ∧
          servePage limit MeetingRow.scheduledAt (rows collabId (asks status)) cursor found
            next' := by
  have page := written_iff_probe limit MeetingRow.scheduledAt encodeStart
    (MeetingRow.toOut signedUrl) (rows collabId (asks status) cursor) items next
  unfold servesMeetings servePage
  rw [← page, listMeetings, if_neg (Nat.not_lt.2 one), if_neg (Nat.not_lt.2 most), known,
    statusCond_of_accepted accepted]
  simp only [bind, Except.bind, pure, Except.pure, readStart_map, Except.ok.injEq,
    MeetingListResponse.mk.injEq]
  constructor
  · rintro ⟨hasMore, shown, following, -⟩
    exact ⟨shown, following⟩
  · rintro ⟨shown, following⟩
    exact ⟨_, shown, following, rfl⟩

theorem list_meetings_exact_iff (one : 1 ≤ limit) (most : limit ≤ 100)
    (known : getCurrentProfileId profile = .ok profileId) (accepted : Accepted status) :
    (∀ rows : UuidInt → (MeetingStatus → Bool) → Option UtcTime → List MeetingRow,
        meetings.Answers collabId (asks status) (rows collabId (asks status)) →
          Yields (servesMeetings rows signedUrl collabId profile status limit) none
            (meetings.AllMeetings collabId signedUrl (asks status))) ↔
      EndsApart limit
        (latestFirst MeetingRow.scheduledAt (meetings.matching collabId (asks status))) := by
  refine serves_iff_endsApart one (fun rows => ⟨fun _ _ => rows, rfl⟩)
    (servesMeetings_iff one most known accepted) (fun _ _ => rfl) (fun _ => rfl)
    ((meetings.keys_nodup.of_map _).filter _) fun meeting mem meeting' mem' same => ?_
  have ids : meeting.id = meeting'.id := congrArg MeetingOut.id same
  exact Table.eq_of_key_eq (List.mem_of_mem_filter mem) (List.mem_of_mem_filter mem') ids

end Meetings

/-! ## Both lists -/

open Invites (InviteBook BlockRow ProfileData requireUser servesBlocks newYear)

/-- Whatever order the database gives to rows of one time, the pages of the blocks of a user
and those of the meetings of a collaboration hold each row once and newest first exactly when
no page ends between two rows of one time. -/
theorem time_pages_exact_iff (book : InviteBook) (caller : UuidInt) (user : Option String)
    (profiles : UuidInt → Option ProfileData) (meetings : MeetingTable)
    (collabId profileId : UuidInt) (profile status : Option String)
    (signedUrl : String → Option String) (limit : Nat) (one : 1 ≤ limit) (most : limit ≤ 100)
    (blocker : requireUser user = .ok caller)
    (participant : getCurrentProfileId profile = .ok profileId) (accepted : Accepted status) :
    ((∀ rows : UuidInt → Option (UtcTime × UuidInt) → List BlockRow,
        book.AnswersBlocks caller (rows caller) →
          Yields (servesBlocks rows profiles user limit) none (book.AllBlocks caller profiles)) ↔
      EndsApart limit (latestFirst BlockRow.createdAt (book.blocksOf caller))) ∧
    ((∀ rows : UuidInt → (MeetingStatus → Bool) → Option UtcTime → List MeetingRow,
        meetings.Answers collabId (asks status) (rows collabId (asks status)) →
          Yields (servesMeetings rows signedUrl collabId profile status limit) none
            (meetings.AllMeetings collabId signedUrl (asks status))) ↔
      EndsApart limit
        (latestFirst MeetingRow.scheduledAt (meetings.matching collabId (asks status)))) :=
  ⟨InviteBook.list_blocks_exact_iff one most blocker,
    list_meetings_exact_iff one most participant accepted⟩

/-! ## Two rows of one time -/

/-- Two profiles are blocked at once. -/
def twoBlocks : InviteBook where
  invites := .empty
  blocks := ⟨[⟨0, 1, newYear, by decide⟩, ⟨0, 2, newYear, by decide⟩], by decide, by decide⟩

def cancelledMeeting (id : UuidInt) : MeetingRow where
  id := id
  collabId := 7
  organizerProfileId := 0
  scheduledAt := newYear
  durationMin := 60
  joinUrl := "https://meet.example"
  icsS3Key := none
  status := .cancelled
  botEnabled := false
  botStatus := .none
  recallBotId := none
  consents := []
  createdAt := newYear
  updatedAt := newYear

/-- The first of the two meetings was cancelled before the second was made. -/
def twoMeetings : MeetingTable :=
  ⟨[cancelledMeeting 1, { cancelledMeeting 2 with status := .scheduled }], by decide, by decide⟩

def nilId : Option String := some "00000000-0000-0000-0000-000000000000"

theorem time_pages_exact_iff_one_a_page :
    ((∀ rows : UuidInt → Option (UtcTime × UuidInt) → List BlockRow,
        twoBlocks.AnswersBlocks 0 (rows 0) →
          Yields (servesBlocks rows (fun _ => none) nilId 1) none
            (twoBlocks.AllBlocks 0 fun _ => none)) ↔
      EndsApart 1 (latestFirst BlockRow.createdAt (twoBlocks.blocksOf 0))) ∧
    ((∀ rows : UuidInt → (MeetingStatus → Bool) → Option UtcTime → List MeetingRow,
        twoMeetings.Answers 7 (asks none) (rows 7 (asks none)) →
          Yields (servesMeetings rows (fun _ => none) 7 nilId none 1) none
            (twoMeetings.AllMeetings 7 (fun _ => none) (asks none))) ↔
      EndsApart 1 (latestFirst MeetingRow.scheduledAt (twoMeetings.matching 7 (asks none)))) :=
  time_pages_exact_iff twoBlocks 0 nilId (fun _ => none) twoMeetings 7 0 nilId none
    (fun _ => none) 1 (by decide) (by decide) (by decide +kernel) (by decide +kernel) (.inl rfl)

/-- The rows in the order in which they are stored. -/
def storedBlocks (book : InviteBook) (caller : UuidInt) :
    Option (UtcTime × UuidInt) → List BlockRow
  | none => book.blocksOf caller
  | some cursor => (book.blocksOf caller).filter (BlockRow.behind cursor)

def storedMeetings (meetings : MeetingTable) (collabId : UuidInt) (cond : MeetingStatus → Bool) :
    Option UtcTime → List MeetingRow
  | none => meetings.matching collabId cond
  | some cursor =>
      (meetings.matching collabId cond).filter fun meeting => meeting.scheduledAt < cursor

theorem storedBlocks_answers {book : InviteBook} {caller : UuidInt}
    (newest : (book.blocksOf caller).Pairwise
      fun block block' => block'.createdAt ≤ block.createdAt) :
    book.AnswersBlocks caller (storedBlocks book caller) :=
  ⟨⟨.refl _, newest⟩, fun _ => ⟨.refl _, newest.filter _⟩⟩

theorem storedMeetings_answers {meetings : MeetingTable} {collabId : UuidInt}
    {cond : MeetingStatus → Bool}
    (newest : (meetings.matching collabId cond).Pairwise
      fun meeting meeting' => meeting'.scheduledAt ≤ meeting.scheduledAt) :
    meetings.Answers collabId cond (storedMeetings meetings collabId cond) :=
  ⟨⟨.refl _, newest⟩, fun _ => ⟨.refl _, newest.filter _⟩⟩

/-- The second of two blocks, and of two meetings, is on no page. -/
theorem tied_rows_are_lost :
    (twoBlocks.AnswersBlocks 0 (storedBlocks twoBlocks 0) ∧
      ¬ Yields (servesBlocks (storedBlocks twoBlocks) (fun _ => none) nilId 1) none
        (twoBlocks.AllBlocks 0 fun _ => none)) ∧
    (twoMeetings.Answers 7 (asks none) (storedMeetings twoMeetings 7 (asks none)) ∧
      ¬ Yields (servesMeetings (storedMeetings twoMeetings) (fun _ => none) 7 nilId none 1) none
        (twoMeetings.AllMeetings 7 (fun _ => none) (asks none))) := by
  have known : requireUser nilId = .ok 0 := by decide +kernel
  have present : getCurrentProfileId nilId = .ok 0 := by decide +kernel
  refine ⟨⟨storedBlocks_answers (by decide +kernel), ?_⟩,
    storedMeetings_answers (by decide +kernel), ?_⟩
  · rintro ⟨-, right⟩
    have serves := @InviteBook.servesBlocks_iff 0 (fun _ => none) nilId 1 (by decide) (by decide)
      known (storedBlocks twoBlocks)
    have first := (serves none _ _).2
      ⟨some (newYear, 1), rfl, [⟨0, 1, newYear, by decide⟩], rfl, by unfold servePage; decide +kernel⟩
    have last := (serves (some (newYear, 1)) _ _).2
      ⟨none, rfl, [], rfl, by unfold servePage; decide +kernel⟩
    have all := (right _ (.next first (.last last))).perm.length_eq
    exact absurd all (by decide +kernel)
  · rintro ⟨-, right⟩
    have serves := @servesMeetings_iff 7 0 nilId none (fun _ => none) 1 (by decide) (by decide)
      present (.inl rfl) (storedMeetings twoMeetings)
    have first := (serves none _ _).2
      ⟨some newYear, rfl, [cancelledMeeting 1], rfl, by unfold servePage; decide +kernel⟩
    have last := (serves (some newYear) _ _).2
      ⟨none, rfl, [], rfl, by unfold servePage; decide +kernel⟩
    have all := (right _ (.next first (.last last))).perm.length_eq
    exact absurd all (by decide +kernel)

end ColabPlatform.Meetings
