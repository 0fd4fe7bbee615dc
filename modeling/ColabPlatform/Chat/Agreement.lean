import ColabPlatform.Chat.Visibility

/-!
# Chat service: what the moderation service is asked

The chat service names neither the subject of the text nor its owner when it
asks for a scan.  A case cannot be stored without them, so the scan of a text
that needs a case is answered by an error, and the chat service reads an error as
a score of zero.  The message that had to be hidden is delivered.
-/

namespace ColabPlatform.Chat

open Foundation Common
open Moderation

/-! ## The call -/

/-- `{"text": body, "ctx": {"context": "chat_message"}}`; the endpoint reads no `context`. -/
def scanRequest (body : String) : RequestBody :=
  .json ⟨some body, none, some ⟨none, .missing, .missing, none⟩⟩

/-- The answer as `_handle_send` reads it: `ScanResponse` has no field `categories`, and an
error status is raised and caught. -/
def readAnswer : Except HttpError (ScanResponse × List AutoCase) → ScanReply
  | .ok (response, _) => ⟨some response.score, none⟩
  | .error _ => ⟨some 0, some []⟩

/-- `_call_moderation`, of a service whose tools end as given. -/
def callModeration (deployment : Deployment) (openai : ToolRun OpenAIModResult)
    (semdup : ToolRun SemdupRun) (body : String) : ScanReply :=
  readAnswer (scanText deployment "chat-svc" (scanRequest body) openai semdup)

/-- The routing of a text that the moderation service scans; an empty one is refused. -/
def scannedRouting (deployment : Deployment) (openai : ToolRun OpenAIModResult)
    (semdup : ToolRun SemdupRun) (body : String) : Option RoutingResult :=
  (textScanRequest (scanRequest body)).toOption.map fun _ =>
    routeText deployment.settings openai semdup

/-- Content that is to be hidden, or that a human has to see for its category. -/
def mustHide (routing : RoutingResult) : Bool :=
  decide (routing.action = .hideContentQueue) ||
    decide (routing.action = .autoHideTempMuteQueue) ||
    (routing.forcedHuman && (decide (routing.forcedReason = some "csam_path") ||
      decide (routing.forcedReason = some "harassment/threatening")))

/-- A new row holds the text with a status that hides it, and nothing was published. -/
def StoredHidden (chat next : ChatState) (body : String) : Prop :=
  (∃ message ∈ next.messages.rows, message ∉ chat.messages.rows ∧ message.body = some body ∧
    (message.moderationStatus = .hidden ∨ message.moderationStatus = .autoHidden)) ∧
  next.published = chat.published

/-- What the moderation service routes to be hidden is hidden by an accepted frame. -/
def Agrees (settings : ChatSettings) (deployment : Deployment)
    (openai : ToolRun OpenAIModResult) (semdup : ToolRun SemdupRun) (chat : ChatState)
    (frame : SendFrame) : Prop :=
  ∀ body, acceptFrame settings chat frame = .ok body →
    (∃ routing ∈ scannedRouting deployment openai semdup body.body, mustHide routing = true) →
      StoredHidden chat
        (handleSend settings (callModeration deployment openai semdup) chat frame).1 body.body

/-! ## The answer -/

/-- A routing that lets pass has the action of one. -/
theorem allowLog_of_allow (settings : ModerationSettings) (score : Score)
    (openai : OpenAIModResult) (labels : List Label) (hasIpClaim : Bool)
    (allow : (route settings score openai labels hasIpClaim).tier = .tier0Allow) :
    (route settings score openai labels hasIpClaim).action = .allowLog := by
  obtain ⟨low, csam, reason⟩ := (route_allow_iff ..).1 allow
  simp [route, csam, reason, thresholdRouting, low]

/-- What must be hidden needs a case. -/
theorem needs_case_of_mustHide {settings : ModerationSettings}
    {openai : ToolRun OpenAIModResult} {semdup : ToolRun SemdupRun}
    (hide : mustHide (routeText settings openai semdup) = true) :
    ¬ ((routeText settings openai semdup).tier = .tier0Allow ∧
      (routeText settings openai semdup).forcedHuman = false) := by
  rintro ⟨allow, unforced⟩
  have action : (routeText settings openai semdup).action = .allowLog :=
    allowLog_of_allow _ _ _ _ _ allow
  simp [mustHide, action, unforced] at hide

/-- A case of which the chat service asks cannot be stored. -/
theorem createCase_not_storable (deployment : Deployment) {routing : RoutingResult}
    (needed : ¬ (routing.tier = .tier0Allow ∧ routing.forcedHuman = false)) :
    ∃ case, createCaseFromRouting deployment.settings routing ⟨none, .missing, .missing, none⟩
        deployment.caseId deployment.now deployment.cases = .ok (some case) ∧
      case.storable = false := by
  refine ⟨newCase deployment.settings routing ⟨none, .missing, .missing, none⟩ "msg"
    deployment.caseId none none deployment.now, ?_, rfl⟩
  rw [createCaseFromRouting, if_neg needed]
  rfl

/-- Cases that are stored meet the constraints of the table. -/
def Consistent (deployment : Deployment) : Prop :=
  ∀ case ∈ deployment.cases, case.storable = true

/-- The scan of a text that must be hidden is answered by an error. -/
theorem scanText_fails {deployment : Deployment} (consistent : Consistent deployment)
    {openai : ToolRun OpenAIModResult} {semdup : ToolRun SemdupRun}
    (hide : mustHide (routeText deployment.settings openai semdup) = true) (body : String) :
    ∃ error, scanText deployment "chat-svc" (scanRequest body) openai semdup = .error error := by
  unfold scanText
  cases scanned : textScanRequest (scanRequest body) with
  | error error => exact ⟨error, rfl⟩
  | ok text =>
      obtain ⟨text, ctx⟩ := text
      have context : ctx = ⟨none, .missing, .missing, none⟩ := by
        simp only [textScanRequest, scanRequest, parsed, required, bind, Except.bind, pure,
          Except.pure] at scanned
        split at scanned
        · cases scanned
        · cases scanned; rfl
      subst context
      obtain ⟨case, created, unstorable⟩ :=
        createCase_not_storable deployment (needs_case_of_mustHide hide)
      have fresh : case ∉ deployment.cases := fun stored =>
        absurd (consistent case stored) (by simp [unstorable])
      refine ⟨internalError, ?_⟩
      simp [requireInternal, answer, readId, created, fresh, unstorable, bind, Except.bind,
        throw, throwThe, MonadExceptOf.throw]

/-! ## What becomes of the message -/

theorem routing_of_scanned {deployment : Deployment} {openai : ToolRun OpenAIModResult}
    {semdup : ToolRun SemdupRun} {body : String} {routing : RoutingResult}
    (scanned : routing ∈ scannedRouting deployment openai semdup body) :
    routing = routeText deployment.settings openai semdup := by
  obtain ⟨_, -, same⟩ := Option.map_eq_some_iff.1 scanned
  exact same.symm

/-- The failed scan is read as one that found nothing. -/
theorem allowed_of_mustHide {deployment : Deployment} (consistent : Consistent deployment)
    {openai : ToolRun OpenAIModResult} {semdup : ToolRun SemdupRun} {body : String}
    {routing : RoutingResult}
    (scanned : routing ∈ scannedRouting deployment openai semdup body)
    (hide : mustHide routing = true) :
    wsStatus (callModeration deployment openai semdup body) = .allowed := by
  obtain rfl := routing_of_scanned scanned
  obtain ⟨error, failed⟩ := scanText_fails consistent hide body
  rw [callModeration, failed]
  change wsStatus ⟨some 0, some []⟩ = .allowed
  decide +kernel

/-- A text that must be hidden is never stored as hidden. -/
theorem not_storedHidden {settings : ChatSettings} {deployment : Deployment}
    (consistent : Consistent deployment) {openai : ToolRun OpenAIModResult}
    {semdup : ToolRun SemdupRun} {chat : ChatState} {frame : SendFrame} {body : SendMessageBody}
    (accepted : acceptFrame settings chat frame = .ok body) {routing : RoutingResult}
    (scanned : routing ∈ scannedRouting deployment openai semdup body.body)
    (hide : mustHide routing = true) :
    ¬ StoredHidden chat
      (handleSend settings (callModeration deployment openai semdup) chat frame).1 body.body := by
  have status := allowed_of_mustHide consistent scanned hide
  rintro ⟨⟨message, mem, new, -, hidden⟩, unpublished⟩
  rcases handleSend_cases settings (callModeration deployment openai semdup) chat frame with
    same | ⟨body', stored, accepted', added, next⟩
  · rw [same] at mem
    exact new mem
  · obtain rfl := Except.ok.inj (accepted.symm.trans accepted')
    have published := (addMessage_eq_some added).2
    rw [next, status, if_pos (by rfl)] at unpublished
    have longer := congrArg List.length unpublished
    simp [ChatState.publish, published] at longer

def demoDeployment : Deployment := ⟨{}, "prod", "case", 0, []⟩

def demoOpenai : ToolRun OpenAIModResult :=
  .completed ⟨true, [("harassment/threatening", 95 / 100)], ["harassment/threatening"]⟩

def demoSemdup : ToolRun SemdupRun := .completed (.embedded 3072)

def demoThreat : SendFrame :=
  ⟨true, ⟨some "threat", .missing, .uuid "n"⟩, demoRoom, "ana", none, "m", 0⟩

end ColabPlatform.Chat
