import ColabPlatform.Common.PageCursor
import ColabPlatform.Foundation.Paging
import ColabPlatform.Invites.Model
import Mathlib.Data.Prod.Lex

/-!
# The inbox and the sent invites

Both lists are sorted by the creation time and the id, and a cursor is these two of the
last row of a page.  Following the cursors yields the invites that are asked for and whose
other party is in no block with the caller, whatever times coincide.
-/

namespace ColabPlatform.Invites

open Foundation Common

/-! ## Rows and cards -/

/-- A row of `collab_invite` as the lists read it. -/
structure InviteRow where
  id : UuidInt
  fromProfileId : UuidInt
  toProfileId : UuidInt
  synopsis : Synopsis
  status : InviteStatus
  /-- in ten-thousandths -/
  aiMatchScore : Option (Fin 10001)
  createdAt : UtcTime
  respondedAt : Option UtcTime
  archiveAt : UtcTime
  apart : fromProfileId ≠ toProfileId
  deriving DecidableEq

/-- A row of `block` as the lists read it. -/
structure BlockRow where
  blockerId : UuidInt
  blockedId : UuidInt
  createdAt : UtcTime
  apart : blockerId ≠ blockedId
  deriving DecidableEq

namespace BlockRow

def key (block : BlockRow) : UuidInt × UuidInt := (block.blockerId, block.blockedId)

/-- The block is between the two, in either direction. -/
def Links (block : BlockRow) (a b : UuidInt) : Prop :=
  (block.blockerId = a ∧ block.blockedId = b) ∨ (block.blockerId = b ∧ block.blockedId = a)

end BlockRow

structure InviteBook where
  invites : Table InviteRow InviteRow.id (noAlt InviteRow)
  blocks : Table BlockRow BlockRow.key (noAlt BlockRow)

/-- What profile-svc tells of a profile. -/
structure ProfileData where
  displayName : Option String
  avatarUrl : Option String
  locationCity : Option String
  topVocation : Option String
  deriving DecidableEq, Repr

structure ProfileCard where
  profileId : UuidInt
  displayName : Option String
  avatarUrl : Option String
  city : Option String
  topVocation : Option String
  deriving DecidableEq, Repr

/-- `fetch_profile_card`, with the answer of profile-svc if there is one. -/
def fetchProfileCard (profiles : UuidInt → Option ProfileData) (profileId : UuidInt) :
    ProfileCard :=
  match profiles profileId with
  | some data => ⟨profileId, data.displayName, data.avatarUrl, data.locationCity, data.topVocation⟩
  | none => ⟨profileId, none, none, none, none⟩

structure InviteCard where
  inviteId : UuidInt
  fromProfile : Option ProfileCard
  toProfile : Option ProfileCard
  synopsis : Synopsis
  status : InviteStatus
  createdAt : UtcTime
  archiveAt : UtcTime
  aiMatchScore : Option (Fin 10001)
  respondedAt : Option UtcTime
  deriving DecidableEq

structure InviteListResponse where
  items : List InviteCard
  nextCursor : Option String
  totalPending : Nat
  deriving DecidableEq

/-- `_require_user`; a text that is no UUID raises. -/
def requireUser : Option String → Except Failure UuidInt
  | none | some "" => throw (.http 401 (.text "Authentication required"))
  | some userId =>
      match parseUuid userId.toList with
      | some id => return id
      | none => throw .raised

/-- `Query(ge=1, le=100)` -/
def checkLimit (limit : Nat) : Except Failure Unit := do
  if limit < 1 then
    throw (.http 422 (.text "limit: Input should be greater than or equal to 1"))
  if 100 < limit then
    throw (.http 422 (.text "limit: Input should be less than or equal to 100"))

theorem checkLimit_ok {limit : Nat} (one : 1 ≤ limit) (most : limit ≤ 100) :
    checkLimit limit = .ok () := by
  rw [checkLimit, if_neg (Nat.not_lt.2 one), if_neg (Nat.not_lt.2 most)]
  rfl

/-! ## The two lists -/

inductive Box where
  | inbox
  | sent
  deriving DecidableEq, Repr

namespace Box

/-- The column that is the caller. -/
def mine : Box → InviteRow → UuidInt
  | inbox, row => row.toProfileId
  | sent, row => row.fromProfileId

def other : Box → InviteRow → UuidInt
  | inbox, row => row.fromProfileId
  | sent, row => row.toProfileId

/-- The card shows the other party only; a score of zero is left out. -/
def card (box : Box) (profiles : UuidInt → Option ProfileData) (row : InviteRow) : InviteCard where
  inviteId := row.id
  fromProfile := if box = inbox then some (fetchProfileCard profiles row.fromProfileId) else none
  toProfile := if box = sent then some (fetchProfileCard profiles row.toProfileId) else none
  synopsis := row.synopsis
  status := row.status
  createdAt := row.createdAt
  archiveAt := row.archiveAt
  aiMatchScore := row.aiMatchScore.filter (· ≠ 0)
  respondedAt := row.respondedAt

def validStatuses : List InviteStatus := [.pending, .accepted, .rejected, .expired, .cancelled]

/-- The condition of the status parameter; without one the inbox shows what is pending. -/
def statusCond (box : Box) (statusFilter : Option String) :
    Except Failure (InviteStatus → Bool) :=
  let asked := statusFilter.getD ""
  if asked ≠ "" ∧ asked ≠ "all" then
    match validStatuses.find? (·.text = asked) with
    | some status => return fun found => found = status
    | none => throw (.http 400 (.text ("Invalid status: " ++ asked)))
  else if box = inbox ∧ asked = "" then return fun found => found = .pending
  else return fun _ => true

/-- The status parameter asks for invites of this status. -/
def Asks (box : Box) (statusFilter : Option String) (status : InviteStatus) : Prop :=
  let asked := statusFilter.getD ""
  if asked = "all" then True
  else if asked = "" then box = inbox → status = .pending
  else status.text = asked

end Box

namespace InviteRow

/-- What the cursor of a page is made of. -/
def place (row : InviteRow) : UtcTime × UuidInt := (row.createdAt, row.id)

/-- `ORDER BY created_at DESC, id DESC` -/
def Newer (row row' : InviteRow) : Prop :=
  row'.createdAt < row.createdAt ∨ row'.createdAt = row.createdAt ∧ row'.id ≤ row.id

instance : DecidableRel Newer := fun _ _ => inferInstanceAs (Decidable (_ ∨ _))

/-- The rows behind a cursor. -/
def behind (cursor : UtcTime × UuidInt) (row : InviteRow) : Bool :=
  row.createdAt < cursor.1 || (row.createdAt = cursor.1 && row.id < cursor.2)

end InviteRow

namespace InviteBook

variable (book : InviteBook) (box : Box) (caller : UuidInt)

/-- `blocked_senders_sq` and `blocked_recipients_sq` -/
def blockedProfiles : List UuidInt :=
  (book.blocks.rows.filter (·.blockedId = caller)).map (·.blockerId) ++
    (book.blocks.rows.filter (·.blockerId = caller)).map (·.blockedId)

def matching (cond : InviteStatus → Bool) : List InviteRow :=
  book.invites.rows.filter fun row =>
    box.mine row = caller && box.other row ∉ book.blockedProfiles caller && cond row.status

/-- What is selected for a cursor, without the `LIMIT`. -/
def selected (cond : InviteStatus → Bool) (cursor : Option (UtcTime × UuidInt)) :
    List InviteRow :=
  ((book.matching box caller cond).filter fun row =>
    cursor.all (InviteRow.behind · row)).insertionSort InviteRow.Newer

/-- The pending ones; those that were sent count also where there is a block. -/
def totalPending : Nat :=
  book.invites.rows.countP fun row =>
    box.mine row = caller && row.status = .pending &&
      (box = .sent || box.other row ∉ book.blockedProfiles caller)

def listInvites (profiles : UuidInt → Option ProfileData) (user statusFilter cursor : Option String)
    (limit : Nat) : Except Failure InviteListResponse := do
  checkLimit limit
  let caller ← requireUser user
  let cond ← box.statusCond statusFilter
  let fetched := (book.selected box caller cond (readCursor cursor)).take (limit + 1)
  let items := fetched.take limit
  return {
    items := items.map (box.card profiles)
    nextCursor :=
      if limit < fetched.length then
        items.getLast?.map fun last => encodeCursor last.createdAt last.id
      else none
    totalPending := book.totalPending box caller }

/-- `GET /invites/inbox` -/
def getInbox := book.listInvites .inbox

/-- `GET /invites/sent` -/
def getSent := book.listInvites .sent

def endpoint : Box → (UuidInt → Option ProfileData) → Option String → Option String →
    Option String → Nat → Except Failure InviteListResponse
  | .inbox => book.getInbox
  | .sent => book.getSent

/-! ## What is to be listed -/

/-- What the caller is to see in a list. -/
structure Shows (statusFilter : Option String) (row : InviteRow) : Prop where
  stored : row ∈ book.invites.rows
  mine : box.mine row = caller
  unblocked : ∀ block ∈ book.blocks.rows, ¬ block.Links caller (box.other row)
  asked : box.Asks statusFilter row.status

/-- The cards of all invites that are to be seen, the newest first; of one time the one of
the largest id is first. -/
def AllInvites (profiles : UuidInt → Option ProfileData) (statusFilter : Option String)
    (cards : List InviteCard) : Prop :=
  ∃ rows : List InviteRow, cards = rows.map (box.card profiles) ∧
    (∀ row, row ∈ rows ↔ book.Shows box caller statusFilter row) ∧
      rows.Pairwise fun row row' =>
        row'.createdAt < row.createdAt ∨ row'.createdAt = row.createdAt ∧ row'.id < row.id

/-- A request for a page that is served. -/
def servesInvites (profiles : UuidInt → Option ProfileData) (user statusFilter : Option String)
    (limit : Nat) (cursor : Option String) (items : List InviteCard) (next : Option String) :
    Prop :=
  ∃ totalPending, book.endpoint box profiles user statusFilter cursor limit =
    .ok ⟨items, next, totalPending⟩

/-! ## The pages -/

variable {book box caller}

theorem mem_blockedProfiles {profileId : UuidInt} :
    profileId ∈ book.blockedProfiles caller ↔
      ∃ block ∈ book.blocks.rows, block.Links caller profileId := by
  simp only [blockedProfiles, BlockRow.Links, List.mem_append, List.mem_map, List.mem_filter,
    decide_eq_true_eq]
  constructor
  · rintro (⟨block, ⟨mem, blocked⟩, blocker⟩ | ⟨block, ⟨mem, blocker⟩, blocked⟩)
    · exact ⟨block, mem, .inr ⟨blocker, blocked⟩⟩
    · exact ⟨block, mem, .inl ⟨blocker, blocked⟩⟩
  · rintro ⟨block, mem, ⟨blocker, blocked⟩ | ⟨blocker, blocked⟩⟩
    · exact .inr ⟨block, ⟨mem, blocker⟩, blocked⟩
    · exact .inl ⟨block, ⟨mem, blocked⟩, blocker⟩

variable {statusFilter : Option String} {cond : InviteStatus → Bool}

/-- The condition that is made of the status parameter is what it asks for. -/
theorem statusCond_eq (valid : box.statusCond statusFilter = .ok cond) (status : InviteStatus) :
    cond status = true ↔ box.Asks statusFilter status := by
  have texts : ∀ a b : InviteStatus, a.text = b.text → a = b := by
    intro a b
    cases a <;> cases b <;> decide
  unfold Box.statusCond at valid
  unfold Box.Asks
  generalize statusFilter.getD "" = asked at valid ⊢
  dsimp only at valid ⊢
  split at valid
  · rename_i given
    rw [if_neg given.2, if_neg given.1]
    split at valid
    · rename_i found hit
      cases valid
      have text : found.text = asked := by simpa using List.find?_some hit
      rw [decide_eq_true_eq, ← text]
      exact ⟨fun same => same ▸ rfl, texts _ _⟩
    · cases valid
  · rename_i unasked
    split at valid
    · rename_i pending
      cases valid
      rw [pending.2, if_neg (by decide), if_pos rfl, decide_eq_true_eq]
      exact ⟨fun same _ => same, fun shown => shown pending.1⟩
    · rename_i every
      cases valid
      split
      · simp
      · rename_i some
        have empty : asked = "" := by
          by_contra given
          exact unasked ⟨given, some⟩
        have sent : box ≠ .inbox := fun inbox => every ⟨inbox, empty⟩
        simp [empty, sent]

theorem mem_matching (valid : box.statusCond statusFilter = .ok cond) (row : InviteRow) :
    row ∈ book.matching box caller cond ↔ book.Shows box caller statusFilter row := by
  have linked := @mem_blockedProfiles book caller (box.other row)
  simp only [matching, List.mem_filter, Bool.and_eq_true, decide_eq_true_eq, linked,
    statusCond_eq valid]
  constructor
  · rintro ⟨stored, ⟨mine, unblocked⟩, asked⟩
    exact ⟨stored, mine, fun block mem links => unblocked ⟨block, mem, links⟩, asked⟩
  · rintro ⟨stored, mine, unblocked, asked⟩
    exact ⟨stored, ⟨mine, fun ⟨block, mem, links⟩ => unblocked block mem links⟩, asked⟩

/-- The order of the lists is that of the time and the id, from the largest on. -/
theorem newer_iff (row row' : InviteRow) :
    row.Newer row' ↔ toLex row'.place ≤ toLex row.place := by
  rw [Prod.Lex.toLex_le_toLex]
  rfl

theorem behind_iff (row row' : InviteRow) :
    row'.behind row.place = true ↔ toLex row'.place < toLex row.place := by
  rw [Prod.Lex.toLex_lt_toLex, InviteRow.behind, Bool.or_eq_true, Bool.and_eq_true,
    decide_eq_true_eq, decide_eq_true_eq, decide_eq_true_eq]
  rfl

/-- The cursors of times and ids yield the rows that match. -/
theorem selected_yields {limit : Nat} (one : 1 ≤ limit) :
    Yields (servePage limit InviteRow.place (book.selected box caller cond)) none
      (Lists (fun row row' => toLex row'.place < toLex row.place)
        (book.matching box caller cond)) := by
  refine yields_insertionSort one newer_iff ((book.invites.keys_nodup.of_map _).filter _) ?_
    behind_iff
  intro row mem row' mem' same
  have ids : row.id = row'.id := (Prod.mk.inj (toLex.injective same)).2
  exact Table.eq_of_key_eq (List.mem_of_mem_filter mem) (List.mem_of_mem_filter mem') ids

variable {profiles : UuidInt → Option ProfileData} {user : Option String} {limit : Nat}

/-- A cursor that was encoded selects as its time and its id do. -/
theorem servesInvites_iff (one : 1 ≤ limit) (most : limit ≤ 100)
    (known : requireUser user = .ok caller) (valid : box.statusCond statusFilter = .ok cond)
    (cursor : Option (UtcTime × UuidInt)) (items : List InviteCard) (next : Option String) :
    book.servesInvites box profiles user statusFilter limit
        (cursor.map fun place => encodeCursor place.1 place.2) items next ↔
      ∃ next', next = next'.map (fun place => encodeCursor place.1 place.2) ∧
        ∃ rows, items = rows.map (box.card profiles) ∧
          servePage limit InviteRow.place (book.selected box caller cond) cursor rows next' := by
  have endpoint : book.endpoint box = book.listInvites box := by cases box <;> rfl
  have page := written_iff_probe limit InviteRow.place
    (fun place => encodeCursor place.1 place.2) (box.card profiles)
    (book.selected box caller cond cursor) items next
  unfold servesInvites servePage
  rw [endpoint, ← page, listInvites, checkLimit_ok one most, known, valid]
  simp only [bind, Except.bind, pure, Except.pure, readCursor_map, Except.ok.injEq,
    InviteListResponse.mk.injEq]
  constructor
  · rintro ⟨totalPending, shown, following, -⟩
    exact ⟨shown, following⟩
  · rintro ⟨shown, following⟩
    exact ⟨_, shown, following, rfl⟩

/-- What matches, in the order of the lists, is what is to be seen. -/
theorem allInvites_of_lists (valid : box.statusCond statusFilter = .ok cond) {rows : List InviteRow}
    (lists : Lists (fun row row' => toLex row'.place < toLex row.place)
      (book.matching box caller cond) rows) :
    book.AllInvites box caller profiles statusFilter (rows.map (box.card profiles)) := by
  refine ⟨rows, rfl, fun row => ?_, lists.sorted.imp fun newer => ?_⟩
  · rw [lists.perm.mem_iff, mem_matching valid]
  · exact Prod.Lex.toLex_lt_toLex.1 newer

variable (book box profiles user statusFilter caller limit cond)

/-- Following the cursors of either list yields exactly the invites that are to be seen, each
once and in order; and a cursor that is encoded is decoded to its time and its id. -/
theorem invite_pages_exact (one : 1 ≤ limit) (most : limit ≤ 100)
    (known : requireUser user = .ok caller) (valid : box.statusCond statusFilter = .ok cond) :
    Yields (book.servesInvites box profiles user statusFilter limit) none
        (book.AllInvites box caller profiles statusFilter) ∧
      ∀ createdAt id, decodeCursor (encodeCursor createdAt id) = some (createdAt, id) := by
  refine ⟨?_, decodeCursor_encodeCursor⟩
  rw [yields_write (servesInvites_iff one most known valid), yields_map fun _ _ _ => Iff.rfl]
  have pages := @selected_yields book box caller cond limit one
  exact ⟨pages.1, fun found follows => allInvites_of_lists valid (pages.2 found follows)⟩

end InviteBook

/-! ## Three invites of one time -/

/-- The beginning of the year 2026. -/
def newYear : UtcTime := ⟨⟨2026, 1, 1, 0, 0, 0, 0⟩, by decide⟩

def invite (id sender : UuidInt) (apart : sender ≠ 0) : InviteRow where
  id := id
  fromProfileId := sender
  toProfileId := 0
  synopsis := ⟨"Let us make a record.", by decide⟩
  status := .pending
  aiMatchScore := none
  createdAt := newYear
  respondedAt := none
  archiveAt := newYear
  apart := apart

/-- The second of the senders has blocked the recipient. -/
def fullInbox : InviteBook where
  invites := ⟨[invite 1 7 (by decide), invite 2 8 (by decide), invite 3 9 (by decide)],
    by decide, by decide⟩
  blocks := ⟨[⟨8, 0, newYear, by decide⟩], by decide, by decide⟩

theorem invite_pages_exact_of_one_time :
    Yields (fullInbox.servesInvites .inbox (fun _ => none)
          (some "00000000-0000-0000-0000-000000000000") none 1) none
        (fullInbox.AllInvites .inbox 0 (fun _ => none) none) ∧
      ∀ createdAt id, decodeCursor (encodeCursor createdAt id) = some (createdAt, id) :=
  fullInbox.invite_pages_exact .inbox 0 none (· = .pending) (fun _ => none)
    (some "00000000-0000-0000-0000-000000000000") 1 (by decide) (by decide)
    (by decide +kernel) rfl

example : (fullInbox.getInbox (fun _ => none) (some "00000000-0000-0000-0000-000000000000") none
    none 1).map (fun page => (page.items.map (·.inviteId), page.totalPending)) =
    .ok ([3], 2) := by decide +kernel

end ColabPlatform.Invites
