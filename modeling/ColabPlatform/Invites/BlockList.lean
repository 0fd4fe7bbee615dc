import ColabPlatform.Invites.Listing

/-!
# The blocks of a user

The list is sorted by the creation time alone.  Its cursor holds the id of the last row as
well, but only the time of it selects the next page, so a row is lost where a page ends
between two blocks of one time.
-/

namespace ColabPlatform.Invites

open Foundation Common

structure BlockCard where
  profileId : UuidInt
  displayName : Option String
  avatarUrl : Option String
  blockedAt : UtcTime
  deriving DecidableEq, Repr

structure BlockListResponse where
  items : List BlockCard
  nextCursor : Option String
  deriving DecidableEq, Repr

namespace BlockRow

/-- What the cursor of a page is made of. -/
def place (block : BlockRow) : UtcTime × UuidInt := (block.createdAt, block.blockedId)

/-- The rows behind a cursor. -/
def behind (cursor : UtcTime × UuidInt) (block : BlockRow) : Bool := block.createdAt < cursor.1

def card (profiles : UuidInt → Option ProfileData) (block : BlockRow) : BlockCard where
  profileId := block.blockedId
  displayName := (fetchProfileCard profiles block.blockedId).displayName
  avatarUrl := (fetchProfileCard profiles block.blockedId).avatarUrl
  blockedAt := block.createdAt

end BlockRow

/-- `GET /blocks`, with what the database answers to the statement of a user and a cursor,
before it is cut off at the `LIMIT`. -/
def listBlocks (rows : UuidInt → Option (UtcTime × UuidInt) → List BlockRow)
    (profiles : UuidInt → Option ProfileData) (user cursor : Option String) (limit : Nat) :
    Except Failure BlockListResponse := do
  checkLimit limit
  let caller ← requireUser user
  let fetched := (rows caller (readCursor cursor)).take (limit + 1)
  let items := fetched.take limit
  return {
    items := items.map (BlockRow.card profiles)
    nextCursor :=
      if limit < fetched.length then
        items.getLast?.map fun last => encodeCursor last.createdAt last.blockedId
      else none }

/-- A request for a page that is served. -/
def servesBlocks (rows : UuidInt → Option (UtcTime × UuidInt) → List BlockRow)
    (profiles : UuidInt → Option ProfileData) (user : Option String) (limit : Nat)
    (cursor : Option String) (items : List BlockCard) (next : Option String) : Prop :=
  listBlocks rows profiles user cursor limit = .ok ⟨items, next⟩

namespace InviteBook

variable (book : InviteBook) (caller : UuidInt)

def blocksOf : List BlockRow := book.blocks.rows.filter (·.blockerId = caller)

/-- `ORDER BY created_at DESC`, which leaves the order of equal times open. -/
def AnswersBlocks (rows : Option (UtcTime × UuidInt) → List BlockRow) : Prop :=
  Lists (fun block block' => block'.createdAt ≤ block.createdAt) (book.blocksOf caller)
      (rows none) ∧
    ∀ cursor, Lists (fun block block' => block'.createdAt ≤ block.createdAt)
      ((book.blocksOf caller).filter (BlockRow.behind cursor)) (rows (some cursor))

/-- The cards of all blocks of the user, each once and newest first. -/
def AllBlocks (profiles : UuidInt → Option ProfileData) (cards : List BlockCard) : Prop :=
  Lists (fun card card' => card'.blockedAt ≤ card.blockedAt)
    ((book.blocksOf caller).map (BlockRow.card profiles)) cards

variable {book caller} {profiles : UuidInt → Option ProfileData} {user : Option String}
  {limit : Nat}

/-- A cursor that was encoded selects as its time does. -/
theorem servesBlocks_iff (one : 1 ≤ limit) (most : limit ≤ 100)
    (known : requireUser user = .ok caller)
    (rows : UuidInt → Option (UtcTime × UuidInt) → List BlockRow)
    (cursor : Option (UtcTime × UuidInt)) (items : List BlockCard) (next : Option String) :
    servesBlocks rows profiles user limit
        (cursor.map fun place => encodeCursor place.1 place.2) items next ↔
      ∃ next', next = next'.map (fun place => encodeCursor place.1 place.2) ∧
        ∃ found, items = found.map (BlockRow.card profiles) ∧
          servePage limit BlockRow.place (rows caller) cursor found next' := by
  unfold servesBlocks
  rw [listBlocks, checkLimit_ok one most, known]
  simp only [bind, Except.bind, pure, Except.pure, readCursor_map, Except.ok.injEq,
    BlockListResponse.mk.injEq]
  exact written_iff_probe limit BlockRow.place (fun place => encodeCursor place.1 place.2)
    (BlockRow.card profiles) (rows caller cursor) items next

/-- Of one user's blocks the profiles differ. -/
theorem eq_of_card_eq {block block' : BlockRow} (mem : block ∈ book.blocksOf caller)
    (mem' : block' ∈ book.blocksOf caller)
    (same : block.card profiles = block'.card profiles) : block = block' := by
  obtain ⟨stored, mine⟩ := List.mem_filter.1 mem
  obtain ⟨stored', mine'⟩ := List.mem_filter.1 mem'
  have blocked : block.blockedId = block'.blockedId := congrArg BlockCard.profileId same
  have blocker : block.blockerId = block'.blockerId :=
    (of_decide_eq_true mine).trans (of_decide_eq_true mine').symm
  exact Table.eq_of_key_eq stored stored' (Prod.ext blocker blocked)

/-- Whatever order the database gives to blocks of one time, the pages hold each block once
exactly when no page ends between two of them. -/
theorem list_blocks_exact_iff (one : 1 ≤ limit) (most : limit ≤ 100)
    (known : requireUser user = .ok caller) :
    (∀ rows : UuidInt → Option (UtcTime × UuidInt) → List BlockRow,
        book.AnswersBlocks caller (rows caller) →
          Yields (servesBlocks rows profiles user limit) none (book.AllBlocks caller profiles)) ↔
      EndsApart limit (latestFirst BlockRow.createdAt (book.blocksOf caller)) :=
  serves_iff_endsApart one (fun rows => ⟨fun _ => rows, rfl⟩) (servesBlocks_iff one most known)
    (fun _ _ => rfl) (fun _ => rfl) ((book.blocks.keys_nodup.of_map _).filter _)
    fun _ mem _ mem' => eq_of_card_eq mem mem'

end InviteBook

end ColabPlatform.Invites
