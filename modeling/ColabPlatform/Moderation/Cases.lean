import ColabPlatform.Foundation.Interleaving
import ColabPlatform.Foundation.Run

/-!
# Moderation service: moderators at work on a case

The four endpoints by which moderators claim, release, decide and escalate one
case.  A call loads the row, checks what it has loaded and commits; nothing
locks the row, and the commit writes only the columns whose value differs from
the loaded one.
-/

namespace ColabPlatform.Moderation

open Foundation

inductive CaseStatus where
  | opened
  | inReview
  | actioned
  | dismissed
  | escalated
  deriving DecidableEq, Repr

def CaseStatus.text : CaseStatus → String
  | opened => "open"
  | inReview => "in_review"
  | actioned => "actioned"
  | dismissed => "dismissed"
  | escalated => "escalated"

def CaseStatus.terminal : CaseStatus → Bool
  | actioned | dismissed => true
  | opened | inReview | escalated => false

inductive ActionType where
  | warn
  | hide
  | restore
  | tempMute1h
  | tempMute24h
  | tempMute7d
  | permanentBan
  | deleteAccount
  | dismiss
  | escalateToLegal
  deriving DecidableEq, Repr

def ActionType.text : ActionType → String
  | warn => "warn"
  | hide => "hide"
  | restore => "restore"
  | tempMute1h => "temp_mute_1h"
  | tempMute24h => "temp_mute_24h"
  | tempMute7d => "temp_mute_7d"
  | permanentBan => "permanent_ban"
  | deleteAccount => "delete_account"
  | dismiss => "dismiss"
  | escalateToLegal => "escalate_to_legal"

/-- `_DUAL_REVIEW_ACTIONS` -/
def dualReviewActions : List ActionType := [.permanentBan, .deleteAccount]

structure ModerationCase where
  status : CaseStatus
  claimedBy : Option String
  claimedAt : Option Int
  actionedAt : Option Int
  actionedBy : Option String
  actionType : Option ActionType
  secondReviewerId : Option String
  forcedHuman : Bool
  subjectOwnerUserId : String
  deriving DecidableEq, Repr

structure CaseActionRequest where
  actionType : ActionType
  reason : String
  evidenceRefs : List String
  secondReviewerId : Option String
  deriving DecidableEq, Repr

structure ModerationAction where
  actionType : ActionType
  reviewerId : String
  reason : String
  evidenceRefs : List String
  targetUserId : String
  deriving DecidableEq, Repr

inductive Operation where
  | claim
  | release
  | takeAction (body : CaseActionRequest)
  | escalate
  deriving DecidableEq, Repr

structure Request where
  role : String
  userId : Option String
  operation : Operation
  deriving DecidableEq, Repr

structure HttpError where
  status : Nat
  detail : String
  deriving DecidableEq, Repr

/-- `userId` is the UUID of the header, if it holds one. -/
def requireModRole (role : String) (userId : Option String) : Except HttpError String :=
  if role ∈ ["mod", "super_admin", "admin"] then
    match userId with
    | some moderator => .ok moderator
    | none => .error ⟨401, "Invalid moderator identity"⟩
  else .error ⟨403, "Moderator role required"⟩

def requireSuperAdmin (role : String) (userId : Option String) : Except HttpError String :=
  if role = "super_admin" then
    match userId with
    | some moderator => .ok moderator
    | none => .error ⟨401, "Invalid identity"⟩
  else .error ⟨403, "Super-admin role required"⟩

/-- The bounds of a text in a request schema. -/
def checkLength (field text : String) (least : Nat) (most : Option Nat) :
    Except HttpError Unit :=
  if text.length < least then
    .error ⟨422, field ++ ": String should have at least " ++ toString least ++ " characters"⟩
  else
    match most with
    | none => .ok ()
    | some most =>
        if text.length > most then
          .error ⟨422, field ++ ": String should have at most " ++ toString most ++ " characters"⟩
        else .ok ()

/-- A validator of a request schema. -/
def checkThat (holds : Bool) (message : String) : Except HttpError Unit :=
  if holds then .ok () else .error ⟨422, message⟩

theorem holds_of_checkThat {holds : Bool} {message : String}
    (h : checkThat holds message = .ok ()) : holds = true := by
  by_contra fails
  simp [checkThat, fails] at h

theorem le_of_checkLength {field text : String} {least : Nat} {most : Option Nat}
    (h : checkLength field text least most = .ok ()) : least ≤ text.length := by
  by_contra short
  simp [checkLength, Nat.lt_of_not_le short] at h

def CaseActionRequest.validate (body : CaseActionRequest) : Except HttpError Unit :=
  checkLength "reason" body.reason 12 (some 2000)

def Operation.validate : Operation → Except HttpError Unit
  | takeAction body => body.validate
  | claim | release | escalate => .ok ()

def checkSecondReviewer (body : CaseActionRequest) (moderator : String) : Except HttpError Unit :=
  if body.actionType ∈ dualReviewActions then
    match body.secondReviewerId with
    | none => .error ⟨422, "'" ++ body.actionType.text ++ "' requires second_reviewer_id"⟩
    | some second =>
        if second = moderator then
          .error ⟨422, "second_reviewer_id must differ from the primary reviewer"⟩
        else .ok ()
  else .ok ()

/-- What an endpoint checks of the case it has loaded. -/
def Operation.check (moderator : String) (case : ModerationCase) :
    Operation → Except HttpError Unit
  | claim =>
      if case.status = .opened then .ok ()
      else .error ⟨409, "Case status is '" ++ case.status.text ++ "', cannot claim"⟩
  | release =>
      if case.claimedBy = some moderator then .ok ()
      else .error ⟨403, "You did not claim this case"⟩
  | takeAction body =>
      if case.status ∉ [.inReview, .escalated] then
        .error ⟨409, "Case must be in_review or escalated to take action"⟩
      else
        match checkSecondReviewer body moderator with
        | .error refused => .error refused
        | .ok () =>
            if body.actionType = .dismiss ∧ case.forcedHuman then
              .error ⟨422, "Forced-human cases cannot be auto-dismissed"⟩
            else .ok ()
  | escalate => .ok ()

/-- What an endpoint assigns to the case it has loaded. -/
def Operation.assign (moderator : String) (now : Int) (case : ModerationCase) :
    Operation → ModerationCase
  | claim =>
      { case with status := .inReview, claimedBy := some moderator, claimedAt := some now }
  | release => { case with status := .opened, claimedBy := none, claimedAt := none }
  | takeAction body =>
      { case with
        actionedAt := some now
        actionedBy := some moderator
        actionType := some body.actionType
        secondReviewerId := body.secondReviewerId
        status := if body.actionType = .dismiss then .dismissed else .actioned }
  | escalate => { case with status := .escalated }

/-- A column in the row after an update: written if assigned another value than loaded. -/
def written {α : Type} [DecidableEq α] (loaded assigned stored : α) : α :=
  if assigned = loaded then stored else assigned

theorem written_of_ne {α : Type} [DecidableEq α] {loaded assigned : α}
    (other : assigned ≠ loaded) (stored : α) : written loaded assigned stored = assigned :=
  if_neg other

/-- The update that a commit sends for the assigned row. -/
def ModerationCase.update (loaded assigned stored : ModerationCase) : ModerationCase where
  status := written loaded.status assigned.status stored.status
  claimedBy := written loaded.claimedBy assigned.claimedBy stored.claimedBy
  claimedAt := written loaded.claimedAt assigned.claimedAt stored.claimedAt
  actionedAt := written loaded.actionedAt assigned.actionedAt stored.actionedAt
  actionedBy := written loaded.actionedBy assigned.actionedBy stored.actionedBy
  actionType := written loaded.actionType assigned.actionType stored.actionType
  secondReviewerId :=
    written loaded.secondReviewerId assigned.secondReviewerId stored.secondReviewerId
  forcedHuman := stored.forcedHuman
  subjectOwnerUserId := stored.subjectOwnerUserId

/-! ## Calls in progress -/

inductive Phase where
  | received
  | loaded (moderator : String) (case : ModerationCase)
  | checked (moderator : String) (case : ModerationCase)
  | dispatching (action : Nat)
  | finished (result : Except HttpError Unit)
  | raised
  deriving DecidableEq, Repr

/-- Something that the call awaits raises. -/
def Phase.failed : Phase → Phase
  | finished result => finished result
  | _ => raised

structure Call where
  request : Request
  phase : Phase
  deriving DecidableEq, Repr

/-- A recorded action; `byHolder` and `onEscalated` say who recorded it when. -/
structure Recorded where
  action : ModerationAction
  byHolder : Bool
  onEscalated : Bool
  deriving DecidableEq, Repr

/--
`holders` are the moderators whose claim was committed and who have not released
the case since, `dispatched` the actions that were handed to propagation.
-/
structure CaseState where
  row : ModerationCase
  recorded : List Recorded
  dispatched : List Nat
  calls : List Call
  holders : List String
  deriving DecidableEq, Repr

/-- A case as it is opened. -/
def CaseState.initial (forcedHuman : Bool) (subjectOwnerUserId : String) : CaseState where
  row := ⟨.opened, none, none, none, none, none, none, forcedHuman, subjectOwnerUserId⟩
  recorded := []
  dispatched := []
  calls := []
  holders := []

/-- The action row that `take_action` adds. -/
def CaseActionRequest.action (body : CaseActionRequest) (moderator : String)
    (case : ModerationCase) : ModerationAction :=
  ⟨body.actionType, moderator, body.reason, body.evidenceRefs, case.subjectOwnerUserId⟩

def commit (moderator : String) (case : ModerationCase) (now : Int) (s : CaseState)
    (operation : Operation) : Phase × CaseState :=
  let row := case.update (operation.assign moderator now case) s.row
  match operation with
  | .claim => (.finished (.ok ()), { s with row := row, holders := s.holders.insert moderator })
  | .release =>
      (.finished (.ok ()), { s with row := row, holders := s.holders.filter (· ≠ moderator) })
  | .takeAction body =>
      (.dispatching s.recorded.length, { s with
        row := row
        recorded := s.recorded ++
          [⟨body.action moderator case, moderator ∈ s.holders, s.row.status = .escalated⟩] })
  | .escalate => (.finished (.ok ()), { s with row := row })

def advance (now : Int) (call : Call) (s : CaseState) : Phase × CaseState :=
  match call.phase with
  | .received =>
      match call.request.operation.validate with
      | .error refused => (.finished (.error refused), s)
      | .ok () =>
          match requireModRole call.request.role call.request.userId with
          | .error refused => (.finished (.error refused), s)
          | .ok moderator => (.loaded moderator s.row, s)
  | .loaded moderator case =>
      match call.request.operation.check moderator case with
      | .error refused => (.finished (.error refused), s)
      | .ok () => (.checked moderator case, s)
  | .checked moderator case => commit moderator case now s call.request.operation
  | .dispatching action =>
      (.finished (.ok ()), { s with dispatched := s.dispatched ++ [action] })
  | .finished result => (.finished result, s)
  | .raised => (.raised, s)

/-- `fail` is what a call awaits raising: nothing that it has not committed stays. -/
inductive Event where
  | arrive (request : Request)
  | advance (index : Nat) (now : Int)
  | fail (index : Nat)
  deriving DecidableEq, Repr

def step (s : CaseState) : Event → CaseState
  | .arrive request => { s with calls := s.calls ++ [⟨request, .received⟩] }
  | .advance index now =>
      match s.calls[index]? with
      | none => s
      | some call =>
          let (phase, s) := Moderation.advance now call s
          { s with calls := s.calls.set index { call with phase } }
  | .fail index =>
      match s.calls[index]? with
      | none => s
      | some call => { s with calls := s.calls.set index { call with phase := call.phase.failed } }

end ColabPlatform.Moderation
