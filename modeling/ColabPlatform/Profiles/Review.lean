import ColabPlatform.Common.Text
import ColabPlatform.Foundation.Process
import ColabPlatform.Profiles.AiReview

/-!
# Profile service: edits, portfolio and AI review

The requests and tasks that touch the badge of one profile, as programs that
call the database and the services around it one operation at a time.
-/

namespace ColabPlatform.Profiles

open Foundation Common

def BadgeState.value : BadgeState → String
  | unverified => "unverified"
  | emailVerified => "email_verified"
  | identityPending => "identity_pending"
  | identityApproved => "identity_approved"
  | aiReviewPending => "ai_review_pending"
  | badgeGranted => "badge_granted"
  | badgeHeld => "badge_held"
  | badgeRevoked => "badge_revoked"

def BadgeEvent.value : BadgeEvent → String
  | userEmailVerified => "user.email_verified"
  | identityInquiryStarted => "identity.inquiry_started"
  | identityVerified => "identity.verified"
  | identityDeclined => "identity.declined"
  | identityNeedsReview => "identity.needs_review"
  | moderationCleared => "moderation.cleared"
  | moderationUpheld => "moderation.upheld"
  | moderationAppealUpheld => "moderation.appeal_upheld"
  | userDeleted => "user.deleted"
  | aiReviewStarted => "ai.review.started"
  | profileReviewCompletedPass => "profile.review_completed.pass"
  | profileReviewCompletedSoftWarn => "profile.review_completed.soft_warn"
  | profileReviewCompletedHide => "profile.review_completed.hide"
  | profileReviewCompletedSevere => "profile.review_completed.severe"
  | profileUpdatedMaterial => "profile.updated.material"
  | badgeRecheckRequested => "badge.recheck.requested"

namespace Review

/-- `{text!r}` of a text that has nothing to escape -/
def quoted (text : String) : String := "'" ++ text ++ "'"

/-- The columns of a profile that are scanned or that hold its badge. -/
structure ProfileRow where
  displayName : Option String
  bio : Option String
  obsessedWith : Option String
  badgeState : BadgeState
  badgeHeldReason : Option String
  badgeGrantedAt : Option Int
  deriving DecidableEq, Repr

/-- The text that is scanned: what is not empty of the three columns. -/
def ProfileRow.textParts (profile : ProfileRow) : String :=
  join " " (([profile.displayName, profile.bio, profile.obsessedWith].filterMap id).filter
    (· ≠ ""))

inductive AiReviewStatus where
  | pending | passed | flagged | hidden
  deriving DecidableEq, Repr

structure PortfolioItem where
  id : String
  position : Nat
  type : PortfolioType
  mime : String
  sizeBytes : Nat
  caption : Option String
  phash : Option Int
  ahash : Option Int
  aiReviewStatus : AiReviewStatus
  aiReviewScore : Option Score
  deriving DecidableEq, Repr

/-- The columns that an `UPDATE` of the profile sets. -/
structure ProfileChanges where
  displayName : Option (Option String) := none
  bio : Option (Option String) := none
  obsessedWith : Option (Option String) := none
  badgeState : Option BadgeState := none
  badgeHeldReason : Option (Option String) := none
  badgeGrantedAt : Option (Option Int) := none
  deriving DecidableEq, Repr

/-- An attribute that is set to the value it has is not written. -/
def changed {α : Type} [DecidableEq α] (old new : α) : Option α :=
  if new = old then none else some new

inductive Write where
  | profile (changes : ProfileChanges)
  | insertItem (item : PortfolioItem)
  | updateItem (id : String) (sizeBytes : Nat) (mime : String) (caption : Option String)
      (position : Option Nat)
  | reviewItem (id : String) (score : Score) (status : AiReviewStatus)
  | deleteItem (id : String)
  deriving DecidableEq, Repr

/-- What a transaction is committed for; a review says its aggregate score and whether a
category was for humans in any case, neither of which it stores. -/
inductive Reason where
  | request
  | event (event : BadgeEvent)
  | review (aggregate : Score) (alwaysHuman : Bool)
  deriving DecidableEq, Repr

/-- The `ContentLength` and `ContentType` of an object. -/
structure Head where
  contentLength : Nat
  contentType : String
  deriving DecidableEq, Repr

inductive Op where
  | getProfile
  | portfolioItems
  | portfolioItem (id : String)
  | nameTaken (displayName : String)
  | otherHashes
  | commit (writes : List Write) (reason : Reason)
  | scanText (text : String)
  | scanImage (id : String)
  | headObject (id : String)
  | deleteObject (id : String)
  | enqueueReview (triggeredBy : String)
  | submit (score : Score) (routing : RoutingDecision)
  deriving DecidableEq

/-- A commit says whether it was carried out, a scan that raises has no answer. -/
def Op.Reply : Op → Type
  | getProfile => ProfileRow
  | portfolioItems => List PortfolioItem
  | portfolioItem _ => Option PortfolioItem
  | nameTaken _ => Bool
  | otherHashes => List (Option Int × Option Int)
  | commit .. => Bool
  | scanText _ => Option OpenaiResponse
  | scanImage _ => Option RekognitionResponse
  | headObject _ => Option Head
  | deleteObject _ => Bool
  | enqueueReview _ | submit .. => Unit

/-- An error response, or an exception that ends a task. -/
inductive Failure where
  | http (status : Nat) (detail : String)
  | raised
  deriving DecidableEq, Repr

abbrev ReviewM := Process Op.Reply Failure

/-! ## Calls -/

def getProfile : ReviewM ProfileRow := .perform Op.getProfile

def portfolioItems : ReviewM (List PortfolioItem) := .perform Op.portfolioItems

def portfolioItem (id : String) : ReviewM (Option PortfolioItem) := .perform (Op.portfolioItem id)

def nameTaken (displayName : String) : ReviewM Bool := .perform (Op.nameTaken displayName)

def otherHashes : ReviewM (List (Option Int × Option Int)) := .perform Op.otherHashes

def commit (writes : List Write) (reason : Reason) : ReviewM Bool :=
  .perform (Op.commit writes reason)

def scanTextOpenai (text : String) : ReviewM (Option OpenaiResponse) := .perform (Op.scanText text)

def scanImageRekognition (id : String) : ReviewM (Option RekognitionResponse) :=
  .perform (Op.scanImage id)

def headObject (id : String) : ReviewM (Option Head) := .perform (Op.headObject id)

def deleteObject (id : String) : ReviewM Bool := .perform (Op.deleteObject id)

def enqueueReview (triggeredBy : String) : ReviewM Unit := .perform (Op.enqueueReview triggeredBy)

def submitToModQueue (score : Score) (routing : RoutingDecision) : ReviewM Unit :=
  .perform (Op.submit score routing)

/-- `session.commit()`, where its exception is not caught -/
def commitOrRaise (writes : List Write) (reason : Reason) : ReviewM Unit := do
  if ← commit writes reason then pure () else throw .raised

/-- What a transition writes. -/
def changesOf (profile : ProfileRow) (result : TransitionResult) (now : Int) : ProfileChanges :=
  if result.newState = .badgeGranted then
    { badgeState := changed profile.badgeState result.newState
      badgeHeldReason := changed profile.badgeHeldReason none
      badgeGrantedAt := changed profile.badgeGrantedAt (some now) }
  else
    { badgeState := changed profile.badgeState result.newState
      badgeHeldReason := result.badgeHeldReason.bind fun reason =>
        changed profile.badgeHeldReason (some reason) }

/-! ## Requests -/

structure ProfilePatch where
  displayName : Option String
  bio : Option String
  obsessedWith : Option String
  deriving DecidableEq, Repr

/-- The new display name, if it is one. -/
def patchDisplayName (profile : ProfileRow) :
    Option String → ReviewM (Option (Option String))
  | none => pure none
  | some displayName => do
      if some displayName = profile.displayName then return none
      if ← nameTaken displayName then throw (.http 409 "Display name already taken")
      return some (some displayName)

/-- A text column with a longest length. -/
def patchText (current : Option String) (longest : Nat) (detail : String) :
    Option String → ReviewM (Option (Option String))
  | none => pure none
  | some text => do
      if longest < text.length then throw (.http 422 detail)
      return changed current (some text)

def patchOwnProfile (body : ProfilePatch) : ReviewM Unit := do
  let profile ← getProfile
  let displayName ← patchDisplayName profile body.displayName
  let bio ← patchText profile.bio 280 "Bio must be ≤280 characters" body.bio
  let obsessedWith ← patchText profile.obsessedWith 140
    "Obsessed-with must be ≤140 characters" body.obsessedWith
  let materialChange := displayName.isSome || bio.isSome || obsessedWith.isSome
  commitOrRaise [.profile { displayName, bio, obsessedWith }] .request
  if materialChange ∧ profile.badgeState = .badgeGranted then
    match transition profile.badgeState .profileUpdatedMaterial with
    | .ok result =>
        -- an exception of this commit is passed over
        let _ ← commit [.profile { badgeState := changed profile.badgeState result.newState }]
          .request
    | .error _ => pure ()
    enqueueReview "profile.updated"

def portfolioItemLimit : Nat := 12

structure PortfolioUploadRequest where
  type : PortfolioType
  mime : String
  sizeBytes : Nat
  deriving DecidableEq, Repr

/-- `itemId` is the `uuid4` of the new row. -/
def requestUploadUrl (body : PortfolioUploadRequest) (itemId : String) : ReviewM Unit := do
  let _ ← getProfile
  if body.mime ∉ body.type.allowedMimes then
    throw (.http 415
      ("MIME " ++ quoted body.mime ++ " not allowed for type " ++ quoted body.type.value))
  if body.type.sizeCap < body.sizeBytes then
    throw (.http 413 ("File exceeds " ++ body.type.value ++ " size cap of " ++
      toString (body.type.sizeCap / (1024 * 1024)) ++ "MB"))
  let items ← portfolioItems
  if portfolioItemLimit ≤ items.length then
    throw (.http 409 "Portfolio already at maximum of 12 items")
  commitOrRaise [.insertItem ⟨itemId, items.length, body.type, body.mime, body.sizeBytes, none,
    none, none, .pending, none⟩] .request

structure PortfolioFinalizeRequest where
  caption : Option String
  position : Option Nat
  deriving DecidableEq, Repr

def finalizeUpload (itemId : String) (body : PortfolioFinalizeRequest) : ReviewM Unit := do
  let _ ← getProfile
  match ← portfolioItem itemId with
  | none => throw (.http 404 "Portfolio item not found")
  | some item =>
      match ← headObject itemId with
      | none => throw (.http 400 "S3 object not found; upload first")
      | some head =>
          if item.type.sizeCap < head.contentLength then
            throw (.http 413 "Uploaded file exceeds size cap")
          commitOrRaise [.updateItem itemId head.contentLength head.contentType body.caption
            body.position] .request
          -- the task that this enqueues enqueues the review of the profile
          enqueueReview "portfolio.added"

def deletePortfolioItem (itemId : String) : ReviewM Unit := do
  let _ ← getProfile
  match ← portfolioItem itemId with
  | none => throw (.http 404 "Portfolio item not found")
  | some _ =>
      let _ ← deleteObject itemId
      commitOrRaise [.deleteItem itemId] .request

/-- `recheck_badge`, when the rate limit lets it through -/
def recheckBadge : ReviewM Unit := do
  let profile ← getProfile
  match transition profile.badgeState .badgeRecheckRequested with
  | .error _ => throw (.http 400
      ("Badge recheck not available in state " ++ quoted profile.badgeState.value))
  | .ok result =>
      commitOrRaise [.profile { badgeState := changed profile.badgeState result.newState }]
        .request
      enqueueReview "badge.recheck"

/-! ## Events -/

/-- The badge events of `event_map`. -/
def consumedEvents : List BadgeEvent :=
  [.userEmailVerified, .identityInquiryStarted, .identityVerified, .identityDeclined,
    .identityNeedsReview, .moderationCleared, .moderationUpheld, .moderationAppealUpheld,
    .userDeleted]

/-- `_handle_event` for an event of the profile's user; its exceptions are logged. -/
def handleEvent (event : BadgeEvent) (now : Int) : ReviewM Unit := do
  if event ∈ consumedEvents then
    let profile ← getProfile
    match transition profile.badgeState event with
    | .error _ => pure ()
    | .ok result =>
        if ← commit [.profile (changesOf profile result now)] (.event event) then
          if "ai.review.fire" ∈ result.sideEffects then enqueueReview event.value

/-! ## The review -/

structure ReviewSettings where
  openaiApiKey : String
  weights : AiWeights
  deriving DecidableEq, Repr

/-- The badge moves to `ai_review_pending` before the scans. -/
def startReview (profile : ProfileRow) : ReviewM BadgeState :=
  if profile.badgeState = .identityApproved then
    match transition profile.badgeState .aiReviewStarted with
    | .ok result => do
        -- a session whose commit failed raises at its next use
        commitOrRaise [.profile { badgeState := changed profile.badgeState result.newState }]
          .request
        return result.newState
    | .error _ => return profile.badgeState
  else return profile.badgeState

/-- `openai_score` and `always_human`; a scan that raises is logged. -/
def reviewText (settings : ReviewSettings) (textParts : String) : ReviewM (Score × Bool) :=
  if strip textParts ≠ "" ∧ settings.openaiApiKey ≠ "" then do
    match ← scanTextOpenai textParts with
    | some raw => return extractOpenaiMaxScore raw
    | none => return (0, false)
  else return (0, false)

/-- The scores of the images so far, and what is to be written of them. -/
structure ImageScores where
  rekognitionScore : Score := 0
  dupSignal : Score := 0
  writes : List Write := []

/-- `max(dup_signal, dup)`, with the hashes of other profiles if the item has one -/
def dupSignalOf (dupSignal : Score) (item : PortfolioItem) : ReviewM Score :=
  if item.phash ≠ none then do
    let existing ← otherHashes
    return max dupSignal (computePhashDupSignal item.phash item.ahash existing)
  else return dupSignal

/-- The images that are scanned. -/
def PortfolioItem.due (item : PortfolioItem) : Bool :=
  decide (item.type = .image ∧ item.aiReviewStatus = .pending)

def reviewImage (openaiScore : Score) (scores : ImageScores) (item : PortfolioItem) :
    ReviewM ImageScores :=
  if item.due then do
    match ← scanImageRekognition item.id with
    | none => return scores
    | some raw =>
        let rekScore := extractRekognitionMaxScore raw
        let dupSignal ← dupSignalOf scores.dupSignal item
        let itemScore := aggregateRisk openaiScore rekScore dupSignal 0 {}
        return {
          rekognitionScore := max scores.rekognitionScore rekScore
          dupSignal := dupSignal
          writes := scores.writes ++ [.reviewItem item.id itemScore
            (if 40 / 100 ≤ itemScore then .flagged else .passed)] }
  else return scores

def reviewImages (openaiScore : Score) : ImageScores → List PortfolioItem → ReviewM ImageScores
  | scores, [] => pure scores
  | scores, item :: items => do
      let scores ← reviewImage openaiScore scores item
      reviewImages openaiScore scores items

/-- What the aggregate score does to the badge. -/
def badgeWrites (profile : ProfileRow) (aggregate : Score) (now : Int) : List Write :=
  if profile.badgeState = .aiReviewPending then
    match transition profile.badgeState (scoreToEvent aggregate) with
    | .ok result => [.profile (changesOf profile result now)]
    | .error _ => []
  else []

/-- The part of `_async_orchestrate_profile_review` from the text review on. -/
def reviewContent (settings : ReviewSettings) (now : Int) (profile : ProfileRow)
    (textParts : String) (items : List PortfolioItem) : ReviewM Unit := do
  let (openaiScore, alwaysHuman) ← reviewText settings textParts
  let scores ← reviewImages openaiScore {} items
  let aggregate := aggregateRisk openaiScore scores.rekognitionScore scores.dupSignal 0
    settings.weights
  let routing := routingDecision aggregate alwaysHuman
  commitOrRaise (scores.writes ++ badgeWrites profile aggregate now)
    (.review aggregate alwaysHuman)
  if routing.action ≠ .autoAllow then submitToModQueue aggregate routing

/-- `_async_orchestrate_profile_review` -/
def orchestrateProfileReview (settings : ReviewSettings) (now : Int) : ReviewM Unit := do
  let profile ← getProfile
  let items ← portfolioItems
  let badgeState ← startReview profile
  reviewContent settings now { profile with badgeState } profile.textParts items

end Review

end ColabPlatform.Profiles
