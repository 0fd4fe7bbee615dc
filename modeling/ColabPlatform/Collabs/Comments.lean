import ColabPlatform.Collabs.Model
import ColabPlatform.Foundation.Paging

/-!
# Collab service: the comments of a task

The cursor of a page of comments is the first comment that the page does not hold, and
the next page starts strictly after it.  That comment is on no page.
-/

namespace ColabPlatform.Collabs

open Foundation
open Billing (Uuid Timestamp)

/-- A row of `task_comment` as the list reads it. -/
structure CommentRow where
  id : Uuid
  taskId : Uuid
  authorProfileId : Uuid
  body : String
  createdAt : Timestamp
  deletedAt : Option Timestamp
  deriving DecidableEq, Repr

abbrev CommentTable := Table CommentRow CommentRow.id (noAlt CommentRow)

/-- `ref_ts`: the time of the cursor's comment; a cursor of no comment has none. -/
def refTs (comments : CommentTable) (cursor : Option Uuid) : Option Timestamp :=
  cursor.bind fun id => (comments.lookup id).map (·.createdAt)

/-- The rows that the statement selects. -/
def commentsOf (comments : CommentTable) (taskId : Uuid) (cursor : Option Uuid) :
    List CommentRow :=
  comments.rows.filter fun comment =>
    comment.taskId = taskId && comment.deletedAt.isNone &&
      (refTs comments cursor).all fun refTs => refTs < comment.createdAt

/-- `ORDER BY created_at ASC`, which leaves the order of equal times open. -/
def OldestFirst (comment comment' : CommentRow) : Prop :=
  comment.createdAt ≤ comment'.createdAt

/-- `rows` are what the database answers for each cursor, without the `LIMIT`. -/
def AnswersComments (comments : CommentTable) (taskId : Uuid)
    (rows : Option Uuid → List CommentRow) : Prop :=
  ∀ cursor, Lists OldestFirst (commentsOf comments taskId cursor) (rows cursor)

/-- `list_comments`, with what the database answers to each cursor. -/
def listComments (rows : Option Uuid → List CommentRow) (cursor : Option Uuid) (limit : Nat) :
    List CommentRow × Option Uuid :=
  let fetched := (rows cursor).take (limit + 1)
  if limit < fetched.length then (fetched.take limit, fetched[limit]?.map (·.id))
  else (fetched, none)

/-- A request for a page. -/
def servesComments (rows : Option Uuid → List CommentRow) (limit : Nat) (cursor : Option Uuid)
    (items : List CommentRow) (next : Option Uuid) : Prop :=
  listComments rows cursor limit = (items, next)

section Comments

variable {comments : CommentTable} {taskId : Uuid} {rows : Option Uuid → List CommentRow}
  {limit : Nat}

/-- All rows are on the page, or the first row that is not gives the cursor. -/
theorem servesComments_cases {cursor : Option Uuid} {items : List CommentRow}
    {next : Option Uuid} (served : servesComments rows limit cursor items next) :
    ((rows cursor).length ≤ limit ∧ items = rows cursor ∧ next = none) ∨
      ∃ skipped rest, rows cursor = items ++ skipped :: rest ∧ next = some skipped.id := by
  by_cases few : (rows cursor).length ≤ limit
  · have whole : (rows cursor).take (limit + 1) = rows cursor :=
      List.take_of_length_le (by omega)
    unfold servesComments listComments at served
    simp only [whole, if_neg (Nat.not_lt.2 few), Prod.mk.injEq] at served
    exact .inl ⟨few, served.1.symm, served.2.symm⟩
  · have inside : limit < (rows cursor).length := Nat.not_le.1 few
    have length : limit < ((rows cursor).take (limit + 1)).length := by
      rw [List.length_take]
      omega
    unfold servesComments listComments at served
    simp only [if_pos length, List.take_take, Nat.min_eq_left (Nat.le_succ limit),
      List.getElem?_take_of_lt (Nat.lt_succ_self limit), List.getElem?_eq_getElem inside,
      Option.map_some, Prod.mk.injEq] at served
    refine .inr ⟨(rows cursor).get ⟨limit, inside⟩, (rows cursor).drop (limit + 1), ?_,
      served.2.symm⟩
    rw [← served.1, List.get_eq_getElem, ← List.drop_eq_getElem_cons inside,
      List.take_append_drop]

/-- What the cursor of a comment selects was written after it. -/
theorem createdAt_of_mem (answers : AnswersComments comments taskId rows) {comment later : CommentRow}
    (stored : comment ∈ comments.rows) (mem : later ∈ rows (some comment.id)) :
    later ∈ comments.rows ∧ comment.createdAt < later.createdAt := by
  have selected := (answers (some comment.id)).perm.subset mem
  obtain ⟨stored', conditions⟩ := List.mem_filter.1 selected
  have time : refTs comments (some comment.id) = some comment.createdAt := by
    rw [refTs, Option.bind_some, Table.lookup_of_mem stored, Option.map_some]
  rw [time] at conditions
  simp only [Option.all_some, Bool.and_eq_true, decide_eq_true_eq] at conditions
  exact ⟨stored', conditions.2⟩

/-- So is everything on the pages that follow. -/
theorem Follows.createdAt_lt (answers : AnswersComments comments taskId rows)
    {cursor : Option Uuid} {pages : List (List CommentRow)}
    (follows : Follows (servesComments rows limit) cursor pages) {comment : CommentRow}
    (stored : comment ∈ comments.rows) (start : cursor = some comment.id) {later : CommentRow}
    (mem : later ∈ pages.flatten) : comment.createdAt < later.createdAt := by
  induction follows generalizing comment with
  | last served =>
      rw [List.flatten_singleton] at mem
      subst start
      rcases servesComments_cases served with ⟨-, rfl, -⟩ | ⟨_, _, _, none⟩
      · exact (createdAt_of_mem answers stored mem).2
      · cases none
  | next served _ ih =>
      subst start
      rcases servesComments_cases served with ⟨-, -, none⟩ | ⟨skipped, rest, listed, next⟩
      · cases none
      · have inside : ∀ row ∈ _ ++ skipped :: rest,
            row ∈ comments.rows ∧ comment.createdAt < row.createdAt :=
          fun row mem => createdAt_of_mem answers stored (listed ▸ mem)
        rw [List.flatten_cons, List.mem_append] at mem
        rcases mem with here | behind
        · exact (inside later (List.mem_append_left _ here)).2
        · have skipped' := inside skipped (List.mem_append_right _ List.mem_cons_self)
          exact lt_trans skipped'.2 (ih skipped'.1 next behind)

/-- However the database orders comments of one time, the pages hold every comment once and
in order exactly when there is a single page. -/
theorem list_comments_exact_iff (comments : CommentTable) (taskId : Uuid)
    (rows : Option Uuid → List CommentRow) (limit : Nat)
    (answers : AnswersComments comments taskId rows) :
    Yields (servesComments rows limit) none
        (Lists OldestFirst (commentsOf comments taskId none)) ↔
      (commentsOf comments taskId none).length ≤ limit := by
  have first := answers none
  rw [← first.perm.length_eq]
  constructor
  · rintro ⟨⟨pages, follows⟩, right⟩
    have all := right pages follows
    cases follows with
    | last served =>
        rcases servesComments_cases served with ⟨few, -, -⟩ | ⟨_, _, _, none⟩
        · exact few
        · cases none
    | next served behind =>
        rcases servesComments_cases served with ⟨-, -, none⟩ | ⟨skipped, rest, listed, next⟩
        · cases none
        · obtain rfl := Option.some.inj next
          have nodup : (rows none).Nodup :=
            first.perm.nodup_iff.2 ((comments.keys_nodup.of_map _).filter _)
          have selected : skipped ∈ rows none := by simp [listed]
          have stored := List.mem_of_mem_filter (first.perm.subset selected)
          have somewhere := all.perm.symm.subset (first.perm.subset selected)
          rw [List.flatten_cons, List.mem_append] at somewhere
          rcases somewhere with here | later
          · rw [listed] at nodup
            exact absurd rfl ((List.nodup_append.1 nodup).2.2 _ here _ List.mem_cons_self)
          · exact absurd (Follows.createdAt_lt answers behind stored rfl later) (lt_irrefl _)
  · intro few
    have determined : Determined (servesComments rows limit) :=
      fun _ _ _ _ _ served served' => Prod.mk.inj (served.symm.trans served')
    have whole : servesComments rows limit none (rows none) none := by
      unfold servesComments listComments
      simp only [List.take_of_length_le (Nat.le_succ_of_le few), if_neg (Nat.not_lt.2 few)]
    refine (yields_iff determined).2 ⟨_, .last whole, ?_⟩
    rw [List.flatten_singleton]
    exact first

end Comments

/-! ## Two comments -/

def listedComment (id : String) (createdAt : Timestamp) : CommentRow :=
  ⟨⟨id⟩, ⟨"task"⟩, ⟨"ana"⟩, id, createdAt, none⟩

def listedComments : CommentTable :=
  ⟨[listedComment "first" 1, listedComment "second" 2], by decide, by decide⟩

theorem listedComments_answers :
    AnswersComments listedComments ⟨"task"⟩ (commentsOf listedComments ⟨"task"⟩) := by
  have sorted : listedComments.rows.Pairwise OldestFirst := by
    unfold OldestFirst
    decide
  exact fun cursor => ⟨.rfl, sorted.filter _⟩

theorem list_comments_exact_iff_two_a_page :
    Yields (servesComments (commentsOf listedComments ⟨"task"⟩) 2) none
      (Lists OldestFirst (commentsOf listedComments ⟨"task"⟩ none)) :=
  (list_comments_exact_iff listedComments ⟨"task"⟩ _ 2 listedComments_answers).2
    (by decide +kernel)

/-- One a page, the second comment is on none. -/
theorem second_comment_is_skipped :
    AnswersComments listedComments ⟨"task"⟩ (commentsOf listedComments ⟨"task"⟩) ∧
      ¬ Yields (servesComments (commentsOf listedComments ⟨"task"⟩) 1) none
        (Lists OldestFirst (commentsOf listedComments ⟨"task"⟩ none)) := by
  refine ⟨listedComments_answers, ?_⟩
  rintro ⟨-, right⟩
  have first : servesComments (commentsOf listedComments ⟨"task"⟩) 1 none
      [listedComment "first" 1] (some ⟨"second"⟩) := by
    unfold servesComments
    decide +kernel
  have last : servesComments (commentsOf listedComments ⟨"task"⟩) 1 (some ⟨"second"⟩) []
      none := by
    unfold servesComments
    decide +kernel
  have all := (right _ (.next first (.last last))).perm.length_eq
  exact absurd all (by decide +kernel)

end ColabPlatform.Collabs
