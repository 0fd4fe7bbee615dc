import ColabPlatform.Common.Ids
import ColabPlatform.Moderation.Cases
import ColabPlatform.Moderation.Scoring

/-!
# Moderation service: the internal scans

The scanning tools with what replaces the result of one that fails, the routing
that is built from their results, and the two endpoints that scan and answer at
once.  The audio and video endpoints only queue a tool; nothing routes what it
reports.
-/

namespace ColabPlatform.Moderation

open Foundation Common

/-! ## Tools -/

/-- How a tool ended: with a result, or by raising or timing out. -/
inductive ToolRun (α : Type) where
  | completed (result : α)
  | failed (error : String)
  deriving DecidableEq, Repr

def ToolRun.isCompleted {α : Type} : ToolRun α → Bool
  | completed _ => true
  | failed _ => false

/-- What a tool's task returns. -/
structure Reported (α : Type) where
  result : α
  error : Option String
  deriving DecidableEq, Repr

/-- The task of a tool: what it makes of a result, and what stands for a failure. -/
def ToolRun.report {α β : Type} (run : ToolRun α) (read : α → β) (default : β) : Reported β :=
  match run with
  | completed result => ⟨read result, none⟩
  | failed error => ⟨default, some error⟩

def syntheticModeration : OpenAIModResult where
  flagged := false
  categoryScores := [("__synthetic__", 1 / 2)]
  flaggedCategories := []

def scanOpenaiText (run : ToolRun OpenAIModResult) : Reported OpenAIModResult :=
  run.report id syntheticModeration

def scanRekognitionImage (run : ToolRun (List Label)) : Reported (List Label) :=
  run.report id []

structure Fingerprint where
  hex : Option String
  isMatch : Bool
  deriving DecidableEq, Repr

/-- The hash is not looked up: a match is never reported. -/
def scanPhash (run : ToolRun String) : Reported Fingerprint :=
  run.report (fun hex => ⟨some hex, false⟩) ⟨none, false⟩

def scanChromaprint (run : ToolRun String) : Reported Fingerprint :=
  run.report (fun hex => ⟨some hex, false⟩) ⟨none, false⟩

/-- The text was seen within a day, or it was embedded in so many dimensions. -/
inductive SemdupRun where
  | seen
  | embedded (dimension : Nat)
  deriving DecidableEq, Repr

structure SemdupResult where
  embeddingDim : Nat
  isMatch : Bool
  deriving DecidableEq, Repr

def SemdupRun.result : SemdupRun → SemdupResult
  | seen => ⟨3072, true⟩
  | embedded dimension => ⟨dimension, false⟩

def scanSemdup (run : ToolRun SemdupRun) : Reported SemdupResult :=
  run.report SemdupRun.result ⟨0, false⟩

/-- The id of the job that was started. -/
def startRekognitionVideo (run : ToolRun String) : Reported (Option String) :=
  run.report some none

/-! ## Routing -/

structure RoutingResult where
  score : Score
  breakdown : Breakdown
  action : Action
  tier : Tier
  slaHours : Option Nat
  forcedHuman : Bool
  forcedReason : Option String
  isCsam : Bool
  deriving DecidableEq, Repr

/-- A tool that did not run is `none`. -/
def buildRoutingResult (settings : ModerationSettings) (openai : OpenAIModResult)
    (rekognition : Option (List Label)) (phash chromaprint : Option Fingerprint)
    (semdup : Option SemdupResult) (hasIpClaim : Bool) : RoutingResult :=
  let labels := rekognition.getD []
  let dup : DupResult :=
    ⟨phash.any (·.isMatch), chromaprint.any (·.isMatch), semdup.any (·.isMatch)⟩
  let score := combinedScore settings openai labels dup
  let decision := route settings score openai labels hasIpClaim
  { score := round4 score
    breakdown := breakdown settings openai labels dup
    action := decision.action
    tier := decision.tier
    slaHours := decision.slaHours
    forcedHuman := decision.forcedHuman
    forcedReason := decision.forcedReason
    isCsam := decision.isCsam }

def routeText (settings : ModerationSettings) (openai : ToolRun OpenAIModResult)
    (semdup : ToolRun SemdupRun) : RoutingResult :=
  buildRoutingResult settings (scanOpenaiText openai).result none none none
    (some (scanSemdup semdup).result) false

def cleanModeration : OpenAIModResult := ⟨false, [], []⟩

def routeImage (settings : ModerationSettings) (rekognition : ToolRun (List Label))
    (phash : ToolRun String) : RoutingResult :=
  buildRoutingResult settings cleanModeration (some (scanRekognitionImage rekognition).result)
    (some (scanPhash phash).result) none none false

/-! ## Requests -/

/-- The entries of `ctx` that the endpoints read. -/
structure ScanContext where
  subjectType : Option String
  subjectId : IdField
  ownerUserId : IdField
  idempotencyKey : Option String
  deriving DecidableEq, Repr

/-- The keys of a JSON body that the schemas name; `none` is an absent key. -/
structure ScanJson where
  text : Option String
  s3Key : Option String
  ctx : Option ScanContext
  deriving DecidableEq, Repr

/-- A body with another content type than JSON is not parsed. -/
inductive RequestBody where
  | json (body : ScanJson)
  | other (contentType : String)
  deriving DecidableEq, Repr

def required {α : Type} (field : String) : Option α → Except HttpError α
  | some value => .ok value
  | none => .error ⟨422, field ++ ": Field required"⟩

def parsed : RequestBody → Except HttpError ScanJson
  | .json body => .ok body
  | .other _ => .error ⟨422, "body: Input should be a valid dictionary or object to extract fields from"⟩

/-- `TextScanRequest` -/
def textScanRequest (body : RequestBody) : Except HttpError (String × ScanContext) := do
  let body ← parsed body
  let text ← required "text" body.text
  checkLength "text" text 1 (some 10000)
  let ctx ← required "ctx" body.ctx
  return (text, ctx)

/-- `ImageScanRequest` -/
def imageScanRequest (body : RequestBody) : Except HttpError (String × ScanContext) := do
  let body ← parsed body
  let s3Key ← required "s3_key" body.s3Key
  let ctx ← required "ctx" body.ctx
  return (s3Key, ctx)

/-- `service` is the header that names the calling service. -/
def requireInternal (env service : String) : Except HttpError Unit :=
  if service = "" ∧ env ∉ ["local", "dev"] then .error ⟨403, "Internal endpoint"⟩ else .ok ()

/-! ## Answers -/

/-- `SubjectTypeEnum` -/
def subjectTypes : List String :=
  ["msg", "profile_field", "portfolio_item", "invite_synopsis", "mockup", "user"]

/-- A case that a scan opens; the columns of its subject are not null. -/
structure AutoCase where
  id : String
  subjectType : String
  subjectId : Option String
  subjectOwnerUserId : Option String
  score : Score
  breakdown : Breakdown
  forcedHuman : Bool
  forcedReason : Option String
  priorityTier : Tier
  slaDueAt : Int
  openedAt : Int
  idempotencyKey : Option String
  deriving DecidableEq, Repr

structure ScanResponse where
  score : Score
  breakdown : Breakdown
  decision : String
  caseId : Option String
  action : Action
  tier : Tier
  forcedHuman : Bool
  deriving DecidableEq, Repr

def decisionLabel : Action → String
  | .allowLog => "allow"
  | .softWarnUserQueue => "soft_warn"
  | .hideContentQueue => "hide"
  | .autoHideTempMuteQueue => "auto_hide_mute"

def internalError : HttpError := ⟨500, "Internal Server Error"⟩

def readId : IdField → Except HttpError (Option String)
  | .missing => .ok none
  | .malformed _ => .error internalError
  | .uuid id => .ok (some id)

def newCase (settings : ModerationSettings) (routing : RoutingResult) (ctx : ScanContext)
    (defaultSubjectType id : String) (subjectId ownerUserId : Option String) (now : Int) :
    AutoCase where
  id := id
  subjectType := ctx.subjectType.getD defaultSubjectType
  subjectId := subjectId
  subjectOwnerUserId := ownerUserId
  score := routing.score
  breakdown := routing.breakdown
  forcedHuman := routing.forcedHuman
  forcedReason := routing.forcedReason
  priorityTier := routing.tier
  slaDueAt := now + 3600 * ((routing.slaHours.filter (· ≠ 0)).getD settings.tier1SlaHours : Nat)
  openedAt := now
  idempotencyKey := ctx.idempotencyKey.filter (· ≠ "")

/-- The constraints of the row that a commit meets. -/
def AutoCase.storable (case : AutoCase) : Bool :=
  case.subjectId.isSome && case.subjectOwnerUserId.isSome && case.subjectType ∈ subjectTypes

/-- The case of a routing, new or already there for the idempotency key; none for an allow. -/
def createCaseFromRouting (settings : ModerationSettings) (routing : RoutingResult)
    (ctx : ScanContext) (id : String) (now : Int) (cases : List AutoCase) :
    Except HttpError (Option AutoCase) :=
  if routing.tier = .tier0Allow ∧ routing.forcedHuman = false then .ok none
  else
    match (ctx.idempotencyKey.filter (· ≠ "")).bind fun key =>
        cases.find? (·.idempotencyKey = some key) with
    | some existing => .ok (some existing)
    | none => do
        let subjectId ← readId ctx.subjectId
        let ownerUserId ← readId ctx.ownerUserId
        return some (newCase settings routing ctx "msg" id subjectId ownerUserId now)

/-- The log row, the case and the answer; what cannot be committed is answered by 500. -/
def answer (settings : ModerationSettings) (routing : RoutingResult) (ctx : ScanContext)
    (defaultSubjectType caseId : String) (now : Int) (cases : List AutoCase) :
    Except HttpError (ScanResponse × List AutoCase) := do
  let _ ← readId ctx.subjectId
  let case ← createCaseFromRouting settings routing ctx caseId now cases
  let opened := (case.filter (· ∉ cases)).toList
  if ctx.subjectType.getD defaultSubjectType ∈ subjectTypes ∧ opened.all (·.storable) then
    return (⟨routing.score, routing.breakdown, decisionLabel routing.action, case.map (·.id),
      routing.action, routing.tier, routing.forcedHuman⟩, opened ++ cases)
  else throw internalError

/-- Where the service runs and what its database draws. -/
structure Deployment where
  settings : ModerationSettings
  env : String
  caseId : String
  now : Int
  cases : List AutoCase

/-- `POST /internal/scan/text` -/
def scanText (deployment : Deployment) (service : String) (body : RequestBody)
    (openai : ToolRun OpenAIModResult) (semdup : ToolRun SemdupRun) :
    Except HttpError (ScanResponse × List AutoCase) := do
  let (_, ctx) ← textScanRequest body
  requireInternal deployment.env service
  answer deployment.settings (routeText deployment.settings openai semdup) ctx "msg"
    deployment.caseId deployment.now deployment.cases

/-- `POST /internal/scan/image` -/
def scanImage (deployment : Deployment) (service : String) (body : RequestBody)
    (rekognition : ToolRun (List Label)) (phash : ToolRun String) :
    Except HttpError (ScanResponse × List AutoCase) := do
  let (_, ctx) ← imageScanRequest body
  requireInternal deployment.env service
  answer deployment.settings (routeImage deployment.settings rekognition phash)
    { ctx with idempotencyKey := none } "portfolio_item" deployment.caseId deployment.now
    deployment.cases

end ColabPlatform.Moderation
