import ColabPlatform.Invites.Model
import Mathlib.Data.List.Sort

/-!
# Answers, archival and blocks

The other writers of the schema: the three endpoints that take an invite out of
`pending`, each of which holds the lock of its row from its first step to its commit,
the batches of the archival, which hold the locks of all their rows, and the endpoints
for blocks.
-/

namespace ColabPlatform.Invites

open Foundation Common
open Billing (Uuid Timestamp)

/-! ## Accept, reject and cancel -/

/-- `accept_invite`, `reject_invite` and `cancel_invite` -/
inductive AnswerKind where
  | accept
  | reject
  | cancel
  deriving DecidableEq, Repr

namespace AnswerKind

def status : AnswerKind → InviteStatus
  | .accept => .accepted
  | .reject => .rejected
  | .cancel => .cancelled

/-- The profile whose call it must be. -/
def party : AnswerKind → CollabInvite → Uuid
  | .accept, row | .reject, row => row.toProfileId
  | .cancel, row => row.fromProfileId

@[simp] theorem party_turn (kind : AnswerKind) (row : CollabInvite) (status : InviteStatus)
    (at_ : Timestamp) : kind.party (row.turn status at_) = kind.party row := by
  cases kind <;> rfl

def wrongParty : AnswerKind → String
  | .accept | .reject => "Not the recipient"
  | .cancel => "Not the sender"

def terminal (kind : AnswerKind) (status : InviteStatus) : String :=
  match kind with
  | .accept => "Invite already in terminal state: " ++ status.text
  | .reject => "Invite in terminal state: " ++ status.text
  | .cancel => "Cannot cancel invite in state: " ++ status.text

end AnswerKind

structure Answer where
  kind : AnswerKind
  inviteId : Uuid
  callerId : Uuid
  deriving DecidableEq, Repr

/-- Where a call is; `row` is the invite as it was loaded, `at_` the time of the answer. -/
inductive AnswerPhase where
  | lock
  | mirror (row : CollabInvite) (at_ : Timestamp)
  | commit (row : CollabInvite) (at_ : Timestamp) (mirrorId : Option Uuid)
  | publish (row : CollabInvite) (mirrorId : Option Uuid)
  | publishMatch (row : CollabInvite) (mirrorId : Uuid)
  /-- whether the answer made a match -/
  | done (result : Except Failure Bool)
  deriving DecidableEq

/-- The invite of an id with the status of an answer. -/
def World.turn (w : World) (inviteId : Uuid) (status : InviteStatus) (at_ : Timestamp) : World :=
  { w with invites := w.invites.modify inviteId fun row => row.turn status at_ }

@[simp] theorem World.rows_turn (w : World) (inviteId : Uuid) (status : InviteStatus)
    (at_ : Timestamp) :
    (w.turn inviteId status at_).invites.rows =
      w.invites.rows.map fun row => if row.id = inviteId then row.turn status at_ else row := rfl

/-- One step of an answer; `locked` when another call holds the lock of its invite. -/
def answerStep (outside : Outside) (locked : Bool) (answer : Answer) :
    AnswerPhase → World → AnswerPhase × World
  | .lock, w =>
      if locked then (.lock, w)
      else if outside.db then
        match w.invites.lookup answer.inviteId with
        | none => (.done (.error (.http 404 (.text "Invite not found"))), w)
        | some row =>
            if answer.kind.party row ≠ answer.callerId then
              (.done (.error (.http 403 (.text answer.kind.wrongParty))), w)
            else if row.status ≠ .pending then
              (.done (.error (.http 409 (.text (answer.kind.terminal row.status)))), w)
            else if answer.kind = .accept then (.mirror row w.now, w)
            else (.commit row w.now none, w)
      else (.done (.error .raised), w)
  | .mirror row at_, w =>
      if outside.db then
        match w.acceptedFrom row.toProfileId row.fromProfileId with
        | [] => (.commit row at_ none, w)
        | [mirror] => (.commit row at_ (some mirror.id), w)
        | _ => (.done (.error .multipleResultsFound), w)
      else (.done (.error .raised), w)
  | .commit row at_ mirrorId, w =>
      if outside.db then (.publish row mirrorId, w.turn answer.inviteId answer.kind.status at_)
      else (.done (.error .raised), w)
  | .publish row mirrorId, w =>
      -- an error of the publisher is logged, and no more events follow
      if outside.published then
        (match mirrorId with
          | none => .done (.ok false)
          | some id => .publishMatch row id,
          w.publish (.inviteAnswered answer.kind.status answer.inviteId row.fromProfileId
            row.toProfileId))
      else (.done (.ok mirrorId.isSome), w)
  | .publishMatch row mirrorId, w =>
      (.done (.ok true),
        if outside.published then
          w.publish (matchCreated row.fromProfileId row.toProfileId answer.inviteId mirrorId)
        else w)
  | .done result, w => (.done result, w)

section

variable (outside : Outside) (locked : Bool) (w : World) (answer : Answer)

theorem answerStep_frame (phase : AnswerPhase) : ∃ invites published,
    (answerStep outside locked answer phase w).2 = { w with invites, published } := by
  cases phase with
  | commit row at_ mirrorId =>
      simp only [answerStep]
      split
      · exact ⟨_, _, rfl⟩
      · exact ⟨w.invites, w.published, rfl⟩
  | publish row mirrorId =>
      simp only [answerStep]
      split
      · exact ⟨_, _, rfl⟩
      · exact ⟨w.invites, w.published, rfl⟩
  | publishMatch row mirrorId =>
      simp only [answerStep]
      split
      · exact ⟨_, _, rfl⟩
      · exact ⟨w.invites, w.published, rfl⟩
  | _ =>
      simp only [answerStep]
      repeat' split
      all_goals exact ⟨w.invites, w.published, rfl⟩

/-- An answer goes on from its lock only with a pending invite of its caller. -/
theorem answerStep_lock :
    (answerStep outside locked answer .lock w).2 = w ∧
      ((answerStep outside locked answer .lock w).1 = .lock ∨
        (∃ failure, (answerStep outside locked answer .lock w).1 = .done (.error failure) ∧
          failure ≠ .multipleResultsFound) ∨
        ∃ row, locked = false ∧ outside.db = true ∧ w.invites.lookup answer.inviteId = some row ∧
          answer.kind.party row = answer.callerId ∧ row.status = .pending ∧
          (answerStep outside locked answer .lock w).1 =
            if answer.kind = .accept then .mirror row w.now else .commit row w.now none) := by
  simp only [answerStep]
  split
  · exact ⟨rfl, Or.inl rfl⟩
  · rename_i free
    split
    · rename_i reads
      cases found : w.invites.lookup answer.inviteId with
      | none => exact ⟨rfl, Or.inr (Or.inl ⟨_, rfl, by simp⟩)⟩
      | some row =>
          dsimp only
          split
          · exact ⟨rfl, Or.inr (Or.inl ⟨_, rfl, by simp⟩)⟩
          · rename_i own
            split
            · exact ⟨rfl, Or.inr (Or.inl ⟨_, rfl, by simp⟩)⟩
            · rename_i pending
              have taken : locked = false := by simpa using free
              split <;> exact ⟨rfl, Or.inr (Or.inr
                ⟨row, taken, reads, rfl, by simpa using own, by simpa using pending, rfl⟩)⟩
    · exact ⟨rfl, Or.inr (Or.inl ⟨_, rfl, by simp⟩)⟩

/-- An accept goes on from its look for mirrors unless there are several. -/
theorem answerStep_mirror (row : CollabInvite) (at_ : Timestamp) :
    (answerStep outside locked answer (.mirror row at_) w).2 = w ∧
      ((∃ failure, (answerStep outside locked answer (.mirror row at_) w).1 =
            .done (.error failure) ∧
          (failure = .multipleResultsFound → outside.db = true ∧
            2 ≤ (w.acceptedFrom row.toProfileId row.fromProfileId).length)) ∨
        outside.db = true ∧ ∃ mirrorId,
          (answerStep outside locked answer (.mirror row at_) w).1 = .commit row at_ mirrorId ∧
          mirrorId.isSome = !(w.acceptedFrom row.toProfileId row.fromProfileId).isEmpty) := by
  simp only [answerStep]
  split
  · rename_i reads
    split
    · rename_i empty
      exact ⟨rfl, Or.inr ⟨reads, none, rfl, by simp [empty]⟩⟩
    · rename_i mirror one
      exact ⟨rfl, Or.inr ⟨reads, some mirror.id, rfl, by simp [one]⟩⟩
    · rename_i empty single
      refine ⟨rfl, Or.inl ⟨_, rfl, fun _ => ⟨reads, ?_⟩⟩⟩
      cases mirrors : w.acceptedFrom row.toProfileId row.fromProfileId with
      | nil => exact absurd mirrors empty
      | cons mirror rest =>
          cases rest with
          | nil => exact absurd mirrors (single mirror)
          | cons second rest =>
              simp only [List.length_cons]
              omega
  · exact ⟨rfl, Or.inl ⟨_, rfl, by simp⟩⟩

end

/-! ## The archival -/

/-- `_BATCH_SIZE` -/
def batchSize : Nat := 500

/-- Where a batch is; `rows` are the invites that it took. -/
inductive ExpirePhase where
  | select
  | update (rows : List CollabInvite) (at_ : Timestamp)
  | publish (left rows : List CollabInvite)
  | done (rows : List CollabInvite) (result : Except Failure Nat)
  deriving DecidableEq

/-- The pending invites whose time is over and that nobody has locked. -/
def World.stale (w : World) (locked : Uuid → Bool) : List CollabInvite :=
  w.invites.rows.filter fun row =>
    row.status = .pending ∧ row.archiveAt ≤ w.now ∧ locked row.id = false

/-- The bulk update, one row after the other. -/
def World.expireAll (w : World) (rows : List CollabInvite) (at_ : Timestamp) : World :=
  rows.foldl (fun w row => w.turn row.id .expired at_) w

theorem World.rows_expireAll (w : World) (rows : List CollabInvite) (at_ : Timestamp) :
    (w.expireAll rows at_).invites.rows = w.invites.rows.map fun row =>
      if row.id ∈ rows.map CollabInvite.id then row.turn .expired at_ else row := by
  induction rows generalizing w with
  | nil => simp [expireAll]
  | cons first rest ih =>
      have unfolded : w.expireAll (first :: rest) at_ =
          (w.turn first.id .expired at_).expireAll rest at_ := rfl
      rw [unfolded, ih, rows_turn, List.map_map]
      refine List.map_congr_left fun row _ => ?_
      have again : (row.turn .expired at_).turn .expired at_ = row.turn .expired at_ := rfl
      by_cases here : row.id = first.id
      · simp [here, again]
      · simp [here]

theorem World.expireAll_frame (w : World) (rows : List CollabInvite) (at_ : Timestamp) :
    ∃ invites, w.expireAll rows at_ = { w with invites } := by
  induction rows generalizing w with
  | nil => exact ⟨w.invites, rfl⟩
  | cons first rest ih =>
      obtain ⟨invites, same⟩ := ih (w.turn first.id .expired at_)
      exact ⟨invites, same⟩

/-- One step of `_expire_batch` -/
def expireStep (outside : Outside) (locked : Uuid → Bool) :
    ExpirePhase → World → ExpirePhase × World
  | .select, w =>
      if outside.db then
        match ((w.stale locked).insertionSort fun row row' =>
            outside.rank row.id ≤ outside.rank row'.id).take batchSize with
        | [] => (.done [] (.ok 0), w)
        | rows => (.update rows w.now, w)
      else (.done [] (.error .raised), w)
  | .update rows at_, w =>
      if outside.db then (.publish rows rows, w.expireAll rows at_)
      else (.done [] (.error .raised), w)
  | .publish [] rows, w => (.done rows (.ok rows.length), w)
  | .publish (row :: left) rows, w =>
      if outside.published then
        (.publish left rows,
          w.publish (.inviteAnswered .expired row.id row.fromProfileId row.toProfileId))
      else (.done rows (.error .raised), w)
  | .done rows result, w => (.done rows result, w)

/-! ## Blocks -/

structure Blocking where
  callerId : Uuid
  profileId : Uuid
  reason : Option BlockReason := none
  deriving DecidableEq, Repr

inductive BlockPhase where
  | find
  | insert
  | publish (row : Block)
  | done (result : Except Failure Block)
  deriving DecidableEq

def BlockPhase.start (blocking : Blocking) : BlockPhase :=
  if blocking.callerId = blocking.profileId then
    .done (.error (.http 400 (.text "Cannot block yourself")))
  else .find

/-- The row that is inserted, unless a profile blocks itself. -/
def Blocking.row (blocking : Blocking) (now : Timestamp) : Option Block :=
  if apart : blocking.callerId ≠ blocking.profileId then
    some
      { blockerId := blocking.callerId
        blockedId := blocking.profileId
        createdAt := now
        reason := blocking.reason
        apart }
  else none

/-- One step of `create_block` -/
def blockStep (outside : Outside) (blocking : Blocking) :
    BlockPhase → World → BlockPhase × World
  | .find, w =>
      if outside.db then
        match w.blocks.lookup (blocking.callerId, blocking.profileId) with
        | some row => (.done (.ok row), w)
        | none => (.insert, w)
      else (.done (.error .raised), w)
  | .insert, w =>
      if outside.db then
        match blocking.row w.now with
        | some row =>
            match w.blocks.insert? row with
            | some blocks => (.publish row, { w with blocks })
            | none => (.done (.error .raised), w)
        | none => (.done (.error .raised), w)
      else (.done (.error .raised), w)
  | .publish row, w =>
      (.done (.ok row),
        if outside.published then
          w.publish (.blockCreated blocking.callerId blocking.profileId)
        else w)
  | .done result, w => (.done result, w)

inductive UnblockPhase where
  | find
  | delete
  | publish
  | done (result : Except Failure Unit)
  deriving DecidableEq

/-- One step of `remove_block` -/
def unblockStep (outside : Outside) (callerId profileId : Uuid) :
    UnblockPhase → World → UnblockPhase × World
  | .find, w =>
      if outside.db then
        match w.blocks.lookup (callerId, profileId) with
        | none => (.done (.error (.http 404 (.text "Block not found"))), w)
        | some _ => (.delete, w)
      else (.done (.error .raised), w)
  | .delete, w =>
      if outside.db then (.publish, { w with blocks := w.blocks.delete (callerId, profileId) })
      else (.done (.error .raised), w)
  | .publish, w =>
      (.done (.ok ()),
        if outside.published then w.publish (.blockRemoved callerId profileId) else w)
  | .done result, w => (.done result, w)

end ColabPlatform.Invites
