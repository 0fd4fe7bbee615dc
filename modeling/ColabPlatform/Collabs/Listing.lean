import ColabPlatform.Collabs.Model
import ColabPlatform.Foundation.Paging
import Mathlib.Data.Prod.Lex
import Mathlib.Data.String.Basic
import Mathlib.Algebra.Order.Ring.Rat

/-!
# Collab service: the list of a profile's collaborations

`list_collabs` sorts by rank, last activity and id, while its cursor holds the last two
only.  The pages are those of the unlimited query exactly when, wherever one ends, the
rank plays no part in what comes behind it.
-/

namespace ColabPlatform.Collabs

open Foundation
open Billing (Uuid Timestamp)

/-- The `collaboration` table. -/
abbrev CollabTable := Table Collaboration Collaboration.id (noAlt Collaboration)

/-! ## The query -/

/-- The text search of the database, by the query of the request. -/
structure TextSearch where
  /-- `search_vector @@ plainto_tsquery('english', q)` -/
  selects : String → Collaboration → Bool
  /-- `ts_rank_cd(search_vector, plainto_tsquery('english', q))` -/
  rank : String → Collaboration → Rat

/-- A request for the list, apart from its cursor. -/
structure ListRequest where
  profileId : Uuid
  statusFilter : Option String
  q : Option String
  includeArchived : Bool
  limit : Nat
  deriving DecidableEq, Repr

/-- A cursor: the base64 of a JSON payload, or a text that does not decode. -/
inductive CursorText where
  | payload (lastActivityAt : Timestamp) (id : Uuid)
  | other (text : String)
  deriving DecidableEq, Repr

/-- `status_cond` -/
def statusCond (statusFilter : Option String) (includeArchived : Bool)
    (collab : Collaboration) : Bool :=
  if statusFilter = some "active" then
    (collab.status = .stillDeciding || collab.status = .inProgress) && collab.archivedAt.isNone
  else if statusFilter = some "past" then
    (collab.status = .completed || collab.status = .didntWorkOut) || collab.archivedAt.isSome
  else includeArchived || collab.archivedAt.isNone

/-- `cursor_filter`; a cursor that does not decode filters nothing. -/
def cursorFilter : Option CursorText → Collaboration → Bool
  | some (.payload cursorTs cursorId), collab =>
      collab.lastActivityAt < cursorTs ||
        (collab.lastActivityAt = cursorTs && collab.id.text < cursorId.text)
  | some (.other _), _ | none, _ => true

/-- The query, unless it is empty. -/
def ListRequest.query (request : ListRequest) : Option String :=
  request.q.filter (· ≠ "")

section Listing

variable (search : TextSearch) (request : ListRequest)

/-- `fts_cond` -/
def ListRequest.ftsCond (collab : Collaboration) : Bool :=
  request.query.all fun q => search.selects q collab

/-- `rank_col` -/
def ListRequest.rankCol (collab : Collaboration) : Rat :=
  (request.query.map fun q => search.rank q collab).getD 0

/-- `base_where`, `status_cond` and `fts_cond` -/
def ListRequest.selects (collab : Collaboration) : Bool :=
  (collab.profileIdA = request.profileId || collab.profileIdB = request.profileId) &&
    statusCond request.statusFilter request.includeArchived collab &&
    request.ftsCond search collab

/-- `ORDER BY rank DESC, last_activity_at DESC, id DESC` -/
def ListRequest.Ranked (a b : Collaboration) : Prop :=
  request.rankCol search b < request.rankCol search a ∨
    request.rankCol search a = request.rankCol search b ∧
      (b.lastActivityAt < a.lastActivityAt ∨
        a.lastActivityAt = b.lastActivityAt ∧ b.id.text ≤ a.id.text)

instance : DecidableRel (request.Ranked search) :=
  fun _ _ => inferInstanceAs (Decidable (_ ∨ _))

/-- The rows that the statement selects without its `LIMIT`. -/
def ListRequest.rows (table : CollabTable) (cursor : Option CursorText) : List Collaboration :=
  (table.rows.filter fun collab =>
    request.selects search collab && cursorFilter cursor collab).insertionSort
      (request.Ranked search)

/-- `list_collabs`, unless it raises.  Without a query the rank is a labelled text clause,
which takes a library that can label one. -/
def listCollabs (labelsText : Bool) (table : CollabTable) (cursor : Option CursorText) :
    Option (List Collaboration × Option CursorText) :=
  let limit := min request.limit 50
  if request.query = none ∧ labelsText = false then none
  else
    let collabs := (request.rows search table cursor).take (limit + 1)
    if limit < collabs.length then
      let collabs := collabs.take limit
      collabs.getLast?.map fun last =>
        (collabs, some (.payload last.lastActivityAt last.id))
    else some (collabs, none)

/-! ## The order -/

/-- What the statement sorts by, from the largest on. -/
def ListRequest.sortKey (collab : Collaboration) : Rat ×ₗ Int ×ₗ String :=
  toLex (request.rankCol search collab, toLex (collab.lastActivityAt, collab.id.text))

variable {search request}

theorem ranked_iff {a b : Collaboration} :
    request.Ranked search a b ↔ request.sortKey search b ≤ request.sortKey search a := by
  simp only [ListRequest.Ranked, ListRequest.sortKey, Prod.Lex.toLex_le_toLex, eq_comm]

/-- `a` comes before `b` in every listing. -/
def ListRequest.Precedes (search : TextSearch) (request : ListRequest) (a b : Collaboration) :
    Prop :=
  request.sortKey search b < request.sortKey search a

theorem rows_lists (search : TextSearch) (request : ListRequest) (table : CollabTable)
    (cursor : Option CursorText) :
    Lists (request.Precedes search)
      (table.rows.filter fun collab => request.selects search collab && cursorFilter cursor collab)
      (request.rows search table cursor) := by
  refine lists_insertionSort (fun a b => ranked_iff) ((table.keys_nodup.of_map _).filter _) ?_
  intro a mem b mem' same
  simp only [ListRequest.sortKey, EmbeddingLike.apply_eq_iff_eq, Prod.mk.injEq] at same
  refine Table.eq_of_key_eq (List.mem_of_mem_filter mem) (List.mem_of_mem_filter mem') ?_
  cases ida : a.id with
  | mk text =>
      cases idb : b.id with
      | mk text' => simp_all

theorem precedes_antisymm {a b : Collaboration} (ab : request.Precedes search a b)
    (ba : request.Precedes search b a) : a = b :=
  absurd ab (lt_asymm ba)

/-- What a cursor selects is what a longer listing holds behind it. -/
theorem rows_of_cursor (table : CollabTable) (cursor : CursorText) :
    request.rows search table (some cursor) =
      (request.rows search table none).filter (cursorFilter (some cursor)) := by
  have selected := rows_lists search request table (some cursor)
  have first := rows_lists search request table none
  refine selected.unique (fun a _ b _ => precedes_antisymm) ⟨?_, first.sorted.filter _⟩
  refine (first.perm.filter _).trans (.of_eq ?_)
  rw [List.filter_filter]
  refine List.filter_congr fun collab _ => ?_
  rw [cursorFilter, Bool.and_true, Bool.and_comm]

end Listing

/-! ## The pages -/

/-- The cursor of a page whose last row is `collab`. -/
def cursorOf (collab : Collaboration) : CursorText :=
  .payload collab.lastActivityAt collab.id

theorem cursorFilter_cursorOf {a b : Collaboration} :
    cursorFilter (some (cursorOf a)) b = true ↔
      toLex (b.lastActivityAt, b.id.text) < toLex (a.lastActivityAt, a.id.text) := by
  simp only [cursorFilter, cursorOf, Prod.Lex.toLex_lt_toLex, Bool.or_eq_true, Bool.and_eq_true,
    decide_eq_true_eq]

theorem cursorFilter_trans (a b c : Collaboration) (ab : cursorFilter (some (cursorOf a)) b = true)
    (bc : cursorFilter (some (cursorOf b)) c = true) :
    cursorFilter (some (cursorOf a)) c = true :=
  cursorFilter_cursorOf.2 (lt_trans (cursorFilter_cursorOf.1 bc) (cursorFilter_cursorOf.1 ab))

/-- A request for a page that is served. -/
def servesCollabs (search : TextSearch) (labelsText : Bool) (table : CollabTable)
    (request : ListRequest) (cursor : Option CursorText) (items : List Collaboration)
    (next : Option CursorText) : Prop :=
  listCollabs search request labelsText table cursor = some (items, next)

section Pages

variable {search : TextSearch} {labelsText : Bool} {table : CollabTable} {request : ListRequest}

theorem servesCollabs_eq (pos : 0 < request.limit)
    (works : ¬(request.query = none ∧ labelsText = false)) :
    servesCollabs search labelsText table request =
      servePage (min request.limit 50) cursorOf (request.rows search table) := by
  funext cursor items next
  unfold servesCollabs listCollabs servePage probe
  rw [if_neg works]
  dsimp only
  split
  · cases last : (((request.rows search table cursor).take (min request.limit 50 + 1)).take
        (min request.limit 50)).getLast? with
    | none =>
        have none := congrArg List.length (List.getLast?_eq_none_iff.1 last)
        rw [List.length_take, List.length_nil] at none
        omega
    | some collab => simp only [Option.map_some, Option.some.injEq]; rfl
  · rename_i few
    rw [List.take_of_length_le (Nat.not_lt.1 few), Option.some.injEq]

/-- Following the cursors yields the unlimited listing exactly when the request can be answered
at all and, wherever a page ends, the rows that were active less recently than its last one are
those that the listing has behind it. -/
theorem list_collabs_exact_iff (search : TextSearch) (labelsText : Bool) (table : CollabTable)
    (request : ListRequest) (pos : 0 < request.limit) :
    Yields (servesCollabs search labelsText table request) none
        (· = request.rows search table none) ↔
      ¬(request.query = none ∧ labelsText = false) ∧
        Splits (min request.limit 50) cursorOf (fun cursor => cursorFilter (some cursor))
          (request.rows search table none) := by
  by_cases raises : request.query = none ∧ labelsText = false
  · refine iff_of_false ?_ fun h => h.1 raises
    rintro ⟨⟨pages, follows⟩, -⟩
    have served : ∃ items next, servesCollabs search labelsText table request none items next := by
      cases follows with
      | last served => exact ⟨_, _, served⟩
      | next served _ => exact ⟨_, _, served⟩
    obtain ⟨items, next, served⟩ := served
    rw [servesCollabs, listCollabs, if_pos raises] at served
    cases served
  · rw [servesCollabs_eq pos raises, and_iff_right raises]
    have all := rows_lists search request table none
    refine yields_iff_splits (by omega) ((table.keys_nodup.of_map _).filter _)
      (fun a _ b _ => precedes_antisymm)
      cursorFilter_trans ⟨all, fun a _ => ?_⟩ fun a => rows_of_cursor table (cursorOf a)
    convert rows_lists search request table (some (cursorOf a)) using 1
    rw [List.filter_filter]
    refine List.filter_congr fun collab _ => ?_
    rw [cursorFilter, Bool.and_true, Bool.and_comm]

/-- Without a query all ranks are the same, and the pages end where they may. -/
theorem splits_of_no_query (plain : request.query = none) :
    Splits (min request.limit 50) cursorOf (fun cursor => cursorFilter (some cursor))
      (request.rows search table none) := by
  refine (rows_lists search request table none).splits (fun a b => ?_) fun a b => lt_asymm
  have same : request.rankCol search a = request.rankCol search b := by
    simp only [ListRequest.rankCol, plain, Option.map_none]
  refine cursorFilter_cursorOf.trans ?_
  unfold ListRequest.sortKey
  rw [same]
  constructor
  · exact fun older => Prod.Lex.toLex_lt_toLex.2 (.inr ⟨rfl, older⟩)
  · exact fun later => ((Prod.Lex.toLex_lt_toLex.1 later).resolve_left (lt_irrefl _)).2

end Pages

/-! ## A search whose best match is the oldest row -/

def listedCollab (id : String) (lastActivityAt : Timestamp) : Collaboration where
  id := ⟨id⟩
  profileIdA := ⟨"ana"⟩
  profileIdB := ⟨"bo"⟩
  title := some id
  description := none
  status := .inProgress
  isReadOnly := false
  lastActivityAt := lastActivityAt
  nudgeSentAt := none
  archiveAt := none
  archivedAt := none
  completedAt := none

def listedTable : CollabTable :=
  ⟨[listedCollab "old song" 1, listedCollab "song and dance" 2], by decide, by decide⟩

/-- The first row is the better match of `song`. -/
def songSearch : TextSearch :=
  ⟨fun _ _ => true, fun _ collab => if collab.id.text = "old song" then 1 else 1 / 2⟩

def songRequest : ListRequest := ⟨⟨"ana"⟩, none, some "song", false, 1⟩

theorem list_collabs_exact_iff_browsing :
    Yields (servesCollabs songSearch true listedTable { songRequest with q := none }) none
      (· = ({ songRequest with q := none } : ListRequest).rows songSearch listedTable none) :=
  (list_collabs_exact_iff songSearch true listedTable { songRequest with q := none }
    (by decide)).2 ⟨by decide, splits_of_no_query rfl⟩

/-- The second row is on no page. -/
theorem newer_match_is_skipped :
    songRequest.rows songSearch listedTable none =
        [listedCollab "old song" 1, listedCollab "song and dance" 2] ∧
      ¬ Yields (servesCollabs songSearch true listedTable songRequest) none
        (· = songRequest.rows songSearch listedTable none) := by
  have listing : songRequest.rows songSearch listedTable none =
      [listedCollab "old song" 1, listedCollab "song and dance" 2] := by decide +kernel
  refine ⟨listing, ?_⟩
  rintro ⟨-, right⟩
  have first : servesCollabs songSearch true listedTable songRequest none
      [listedCollab "old song" 1] (some (.payload 1 ⟨"old song"⟩)) := by
    unfold servesCollabs
    decide +kernel
  have last : servesCollabs songSearch true listedTable songRequest
      (some (.payload 1 ⟨"old song"⟩)) [] none := by
    unfold servesCollabs
    decide +kernel
  have same := right _ (.next first (.last last))
  rw [listing] at same
  exact absurd same (by decide)

end ColabPlatform.Collabs
