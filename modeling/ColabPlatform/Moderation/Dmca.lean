import ColabPlatform.Common.Ids
import ColabPlatform.Common.Text
import ColabPlatform.Foundation.Run
import ColabPlatform.Foundation.Table
import ColabPlatform.Moderation.Cases

/-!
# Moderation service: DMCA notices

Notices and counter-notices, the two manual marks and the two beat tasks.  The
columns of a claimant that are only stored are left out.  Times are in seconds.
-/

namespace ColabPlatform.Moderation.Dmca

open Foundation Common

inductive DmcaState where
  | received
  | hidden
  | counterPending
  | restored
  | permanent
  | rejectedDefective
  deriving DecidableEq, Repr

def DmcaState.text : DmcaState → String
  | received => "received"
  | hidden => "hidden"
  | counterPending => "counter_pending"
  | restored => "restored"
  | permanent => "permanent"
  | rejectedDefective => "rejected_defective"

inductive CounterNoticeState where
  | received
  | awaitingWindow
  | restored
  | permanentTakenDown
  deriving DecidableEq, Repr

structure DmcaNotice where
  id : String
  targetUserId : String
  receivedAt : Int
  hideAt : Option Int
  hiddenAt : Option Int
  state : DmcaState
  rejectionReason : Option String
  caseId : Option String
  deriving DecidableEq, Repr

structure CounterNotice where
  id : String
  dmcaId : String
  counterClaimantUserId : String
  receivedAt : Int
  statutoryWindowEnd : Option Int
  suitFiledNoticeReceivedAt : Option Int
  restoredAt : Option Int
  state : CounterNoticeState
  deriving DecidableEq, Repr

/-- The timestamp columns of `DMCANotice` by name; there are no others. -/
def DmcaNotice.timestamp? : String → Option (DmcaNotice → Option Int)
  | "received_at" => some fun notice => some notice.receivedAt
  | "hide_at" => some fun notice => notice.hideAt
  | "hidden_at" => some fun notice => notice.hiddenAt
  | _ => none

structure DmcaCase where
  id : String
  status : CaseStatus
  actionType : Option ActionType
  actionedAt : Option Int
  deriving DecidableEq, Repr

structure DmcaAction where
  caseId : String
  actionType : ActionType
  reviewerId : String
  reason : String
  targetUserId : String
  deriving DecidableEq, Repr

/-- Something that happened to a notice at a time. -/
structure Occurrence where
  notice : String
  time : Int
  deriving DecidableEq, Repr

/--
`suits` and `restorations` are the suits that were marked and the contents that
were restored, `overdue` the notices that were due at some tick of the hide task.
-/
structure Registry where
  notices : Table DmcaNotice DmcaNotice.id (noAlt DmcaNotice)
  counters : Table CounterNotice CounterNotice.id fun counter => some counter.dmcaId
  cases : Table DmcaCase DmcaCase.id (noAlt DmcaCase)
  actions : List DmcaAction
  suits : List Occurrence
  restorations : List Occurrence
  overdue : List String

def Registry.initial : Registry := ⟨.empty, .empty, .empty, [], [], [], []⟩

structure ModSettings where
  dmcaPerIpPerDay : Nat := 5
  dmcaPerEmailPerDay : Nat := 10
  dmcaStatutoryWindowDays : Int := 14
  deriving DecidableEq, Repr

def hours (count : Int) : Int := count * 3600

def days (count : Int) : Int := hours (24 * count)

/-! ## Filing a notice -/

structure DmcaNoticeCreate where
  claimantName : String
  claimantAddress : String
  claimantPhone : String
  claimantEmail : String
  isAuthorizedAgent : Bool
  swornStatementText : String
  signatureFullName : String
  copyrightedWorkDescription : String
  copyrightedWorkUrlOrRegistration : Option String
  targetSubjectId : String
  targetUrlOnColab : String
  deriving DecidableEq, Repr

/-- The request schema. -/
def DmcaNoticeCreate.validate (body : DmcaNoticeCreate) : Except HttpError Unit := do
  checkLength "claimant_name" body.claimantName 2 (some 200)
  checkLength "claimant_address" body.claimantAddress 10 none
  checkLength "claimant_phone" body.claimantPhone 7 (some 40)
  checkLength "claimant_email" body.claimantEmail 6 (some 320)
  checkThat body.isAuthorizedAgent
    ("is_authorized_agent: Value error, " ++
      "Claimant must be authorized to act on behalf of the rights holder")
  checkLength "sworn_statement_text" body.swornStatementText 50 none
  checkThat (isSubstring "penalty of perjury" (lower body.swornStatementText))
    ("sworn_statement_text: Value error, " ++
      "Sworn statement must include 'under penalty of perjury' attestation")
  checkLength "signature_full_name" body.signatureFullName 2 (some 200)
  checkLength "copyrighted_work_description" body.copyrightedWorkDescription 10 none
  checkLength "target_url_on_colab" body.targetUrlOnColab 10 none

/-- The defects of a notice under §512(c)(3). -/
def validateDmcaFields (body : DmcaNoticeCreate) : List String :=
  (if body.isAuthorizedAgent = false then
    ["Field 1: Physical/electronic signature and authorization — " ++
      "'is_authorized_agent' must be true"] else []) ++
  (if body.copyrightedWorkDescription = "" ∧
      body.copyrightedWorkUrlOrRegistration.getD "" = "" then
    ["Field 2: Identification of the copyrighted work — " ++
      "description or URL/registration required"] else []) ++
  (if body.targetUrlOnColab = "" then
    ["Field 3: Identification of the allegedly infringing material — URL required"] else []) ++
  (if body.claimantName = "" ∨ body.claimantAddress = "" ∨ body.claimantPhone = "" ∨
      body.claimantEmail = "" then
    ["Field 4: Contact information — name, address, phone, and email required"] else []) ++
  (if isSubstring "penalty of perjury" (lower body.swornStatementText) = false then
    ["Field 5: Good-faith statement — must include 'under penalty of perjury'"] else []) ++
  (if body.signatureFullName = "" then
    ["Field 6: Statement of accuracy and authorization — signature required"] else [])

/-- `counts` is what the two counters were incremented to; Redis may be unavailable. -/
def checkDmcaRateLimit (settings : ModSettings) (counts : Option (Nat × Nat)) :
    Except HttpError Unit :=
  match counts with
  | none => .ok ()
  | some (ipCount, emailCount) =>
      if ipCount > settings.dmcaPerIpPerDay then
        .error ⟨429, "Too many DMCA notices from this IP (" ++
          toString settings.dmcaPerIpPerDay ++ "/day limit)"⟩
      else if emailCount > settings.dmcaPerEmailPerDay then
        .error ⟨429, "Too many DMCA notices from this email (" ++
          toString settings.dmcaPerEmailPerDay ++ "/day limit)"⟩
      else .ok ()

/-- What a request leaves and answers. -/
abbrev Outcome := Registry × Except HttpError Unit

def serverError : HttpError := ⟨500, "Internal Server Error"⟩

/-- The ids are those that the database draws. -/
structure Filing where
  body : DmcaNoticeCreate
  counts : Option (Nat × Nat)
  noticeId : String
  caseId : String
  deriving DecidableEq, Repr

def defectiveNotice (filing : Filing) (now : Int) (defects : List String) : DmcaNotice where
  id := filing.noticeId
  targetUserId := filing.body.targetSubjectId
  receivedAt := now
  hideAt := none
  hiddenAt := none
  state := .rejectedDefective
  rejectionReason := some (join "; " defects)
  caseId := none

def receivedNotice (filing : Filing) (now : Int) : DmcaNotice where
  id := filing.noticeId
  targetUserId := filing.body.targetSubjectId
  receivedAt := now
  hideAt := some (now + hours 24)
  hiddenAt := none
  state := .received
  rejectionReason := none
  caseId := some filing.caseId

def fileDmcaNotice (settings : ModSettings) (filing : Filing) (now : Int) (s : Registry) :
    Outcome :=
  match filing.body.validate with
  | .error refused => (s, .error refused)
  | .ok () =>
      match checkDmcaRateLimit settings filing.counts with
      | .error refused => (s, .error refused)
      | .ok () =>
          match validateDmcaFields filing.body with
          | defect :: defects =>
              match s.notices.insert? (defectiveNotice filing now (defect :: defects)) with
              | none => (s, .error serverError)
              | some notices =>
                  ({ s with notices := notices }, .error ⟨422, "Your DMCA notice was " ++
                    "statutorily defective for the following reasons:"⟩)
          | [] =>
              match s.cases.insert? ⟨filing.caseId, .opened, none, none⟩,
                  s.notices.insert? (receivedNotice filing now) with
              | some cases, some notices =>
                  ({ s with cases := cases, notices := notices }, .ok ())
              | _, _ => (s, .error serverError)

/-! ## Counter-notices and marks -/

structure CounterNoticeCreate where
  counterClaimantLegalName : String
  counterClaimantAddress : String
  counterClaimantPhone : String
  counterStatementText : String
  consentToJurisdiction : Bool
  consentToServiceOfProcess : Bool
  signatureFullName : String
  counterToken : String
  deriving DecidableEq, Repr

/-- The request schema. -/
def CounterNoticeCreate.validate (body : CounterNoticeCreate) : Except HttpError Unit := do
  checkLength "counter_claimant_legal_name" body.counterClaimantLegalName 2 (some 200)
  checkLength "counter_claimant_address" body.counterClaimantAddress 10 none
  checkLength "counter_claimant_phone" body.counterClaimantPhone 7 (some 40)
  checkLength "counter_statement_text" body.counterStatementText 50 none
  checkThat body.consentToJurisdiction
    "consent_to_jurisdiction: Value error, Consent is required to file a counter-notice"
  checkThat body.consentToServiceOfProcess
    "consent_to_service_of_process: Value error, Consent is required to file a counter-notice"
  checkLength "signature_full_name" body.signatureFullName 2 (some 200)

/-- `sender` is the id in the gateway's header. -/
structure CounterFiling where
  dmcaId : String
  body : CounterNoticeCreate
  sender : IdField
  counterId : String
  deriving DecidableEq, Repr

/-- What `file_counter_notice` checks before it writes. -/
def checkCounterNotice (filing : CounterFiling) (s : Registry) :
    Except HttpError (DmcaNotice × String) :=
  match filing.body.validate, filing.sender with
  | .error refused, _ => .error refused
  | .ok (), .missing => .error ⟨401, "Authentication required"⟩
  | .ok (), .malformed _ => .error ⟨401, "Invalid user identity"⟩
  | .ok (), .uuid sender =>
      match s.notices.lookup filing.dmcaId with
      | none => .error ⟨404, "DMCA notice not found"⟩
      | some notice =>
          if notice.targetUserId ≠ sender then
            .error ⟨403, "Only the target user may file a counter-notice"⟩
          else if notice.state ∉ [.hidden, .received] then
            .error ⟨409, "Counter-notice cannot be filed when DMCA notice is in state '" ++
              notice.state.text ++ "'"⟩
          else if (s.counters.lookupAlt filing.dmcaId).isSome then
            .error ⟨409, "A counter-notice was already filed for this DMCA notice"⟩
          else if filing.body.counterToken.length < 10 then
            .error ⟨401, "Invalid counter-notice token"⟩
          else .ok (notice, sender)

def DmcaNotice.withState (state : DmcaState) (notice : DmcaNotice) : DmcaNotice :=
  { notice with state := state }

@[simp] theorem DmcaNotice.id_withState (state : DmcaState) (notice : DmcaNotice) :
    (notice.withState state).id = notice.id := rfl

def fileCounterNotice (settings : ModSettings) (filing : CounterFiling) (now : Int)
    (s : Registry) : Outcome :=
  match checkCounterNotice filing s with
  | .error refused => (s, .error refused)
  | .ok (notice, sender) =>
      match s.counters.insert?
          { id := filing.counterId, dmcaId := filing.dmcaId, counterClaimantUserId := sender
            receivedAt := now
            statutoryWindowEnd := some (now + days settings.dmcaStatutoryWindowDays)
            suitFiledNoticeReceivedAt := none, restoredAt := none, state := .received } with
      | none => (s, .error serverError)
      | some counters =>
          ({ s with
              counters := counters
              notices := s.notices.modify notice.id (DmcaNotice.withState .counterPending)
                (DmcaNotice.id_withState .counterPending) (fun _ => rfl) }, .ok ())

def DmcaNotice.defective (reason : String) (notice : DmcaNotice) : DmcaNotice :=
  { notice with state := .rejectedDefective, rejectionReason := some reason }

@[simp] theorem DmcaNotice.id_defective (reason : String) (notice : DmcaNotice) :
    (notice.defective reason).id = notice.id := rfl

def markDmcaDefective (dmcaId reason role : String) (sender : IdField) (s : Registry) :
    Outcome :=
  match requireModRole role sender.id? with
  | .error refused => (s, .error refused)
  | .ok _ =>
      match s.notices.lookup dmcaId with
      | none => (s, .error ⟨404, "DMCA notice not found"⟩)
      | some notice =>
          if notice.state ≠ .received then
            (s, .error ⟨409, "Cannot mark defective from state '" ++ notice.state.text ++ "'"⟩)
          else
            ({ s with
                notices := s.notices.modify dmcaId (DmcaNotice.defective reason)
                  (DmcaNotice.id_defective reason) (fun _ => rfl) }, .ok ())

/-- A suit is marked on the counter-notice, if there is one. -/
def CounterNotice.suitFiled (now : Int) (counter : CounterNotice) : CounterNotice :=
  { counter with suitFiledNoticeReceivedAt := some now, state := .permanentTakenDown }

@[simp] theorem CounterNotice.id_suitFiled (now : Int) (counter : CounterNotice) :
    (counter.suitFiled now).id = counter.id := rfl

theorem CounterNotice.dmcaId_suitFiled (now : Int) (counter : CounterNotice) :
    some (counter.suitFiled now).dmcaId = some counter.dmcaId := rfl

def markCounter (dmcaId : String) (now : Int)
    (counters : Table CounterNotice CounterNotice.id fun counter => some counter.dmcaId) :
    Table CounterNotice CounterNotice.id fun counter => some counter.dmcaId :=
  match counters.lookupAlt dmcaId with
  | none => counters
  | some counter =>
      counters.modify counter.id (CounterNotice.suitFiled now) (CounterNotice.id_suitFiled now)
        (CounterNotice.dmcaId_suitFiled now)

def markSuitFiled (dmcaId role : String) (sender : IdField) (now : Int) (s : Registry) :
    Outcome :=
  match requireSuperAdmin role sender.id? with
  | .error refused => (s, .error refused)
  | .ok _ =>
      match s.notices.lookup dmcaId with
      | none => (s, .error ⟨404, "DMCA notice not found"⟩)
      | some _ =>
          ({ s with
              notices := s.notices.modify dmcaId (DmcaNotice.withState .permanent)
                (DmcaNotice.id_withState .permanent) (fun _ => rfl)
              counters := markCounter dmcaId now s.counters
              suits := ⟨dmcaId, now⟩ :: s.suits }, .ok ())

/-! ## The beat tasks -/

/-- `hide_at <= now`; a null is not. -/
def DmcaNotice.due (now : Int) (notice : DmcaNotice) : Bool :=
  notice.hideAt.any fun hideAt => hideAt ≤ now

def DmcaNotice.hide (now : Int) (notice : DmcaNotice) : DmcaNotice :=
  { notice with state := .hidden, hiddenAt := some now }

@[simp] theorem DmcaNotice.id_hide (now : Int) (notice : DmcaNotice) :
    (notice.hide now).id = notice.id := rfl

def DmcaCase.decide (actionType : ActionType) (now : Int) (case : DmcaCase) : DmcaCase :=
  { case with status := .actioned, actionType := some actionType, actionedAt := some now }

@[simp] theorem DmcaCase.id_decide (actionType : ActionType) (now : Int) (case : DmcaCase) :
    (case.decide actionType now).id = case.id := rfl

def Registry.decideCase (s : Registry) (caseId : String) (actionType : ActionType) (now : Int) :
    Table DmcaCase DmcaCase.id (noAlt DmcaCase) :=
  s.cases.modify caseId (DmcaCase.decide actionType now) (DmcaCase.id_decide actionType now)
    (fun _ => rfl)

def hideAction (notice : DmcaNotice) (caseId : String) : DmcaAction where
  caseId := caseId
  actionType := .hide
  reviewerId := notice.targetUserId
  reason := "DMCA notice 24h hide enacted automatically"
  targetUserId := notice.targetUserId

/-- One notice of the hide task; `none` is the null `case_id` of an action. -/
def hideNotice (now : Int) (s : Registry) (notice : DmcaNotice) : Option Registry :=
  notice.caseId.map fun caseId =>
    { s with
      actions := s.actions ++ [hideAction notice caseId]
      cases := s.decideCase caseId .hide now
      notices := s.notices.modify notice.id (DmcaNotice.hide now) (DmcaNotice.id_hide now)
        (fun _ => rfl) }

def dueNotices (now : Int) (s : Registry) : List DmcaNotice :=
  s.notices.rows.filter fun notice => notice.state = .received && notice.due now

/-- The tick is rolled back if one of its notices cannot be hidden. -/
def enactDmcaHide (now : Int) (s : Registry) : Registry :=
  let hidden := ((dueNotices now s).foldlM (hideNotice now) s).getD s
  { hidden with
    overdue := s.overdue ++ ((s.notices.rows.filter (·.due now)).map (·.id)) }

def CounterNotice.restore (now : Int) (counter : CounterNotice) : CounterNotice :=
  { counter with state := .restored, restoredAt := some now }

@[simp] theorem CounterNotice.id_restore (now : Int) (counter : CounterNotice) :
    (counter.restore now).id = counter.id := rfl

theorem CounterNotice.dmcaId_restore (now : Int) (counter : CounterNotice) :
    some (counter.restore now).dmcaId = some counter.dmcaId := rfl

def restoreAction (counter : CounterNotice) (caseId : String) : DmcaAction where
  caseId := caseId
  actionType := .restore
  reviewerId := counter.counterClaimantUserId
  reason := "DMCA counter-notice 14-day statutory window expired — auto-restore"
  targetUserId := counter.counterClaimantUserId

/-- One counter-notice of the restore task. -/
def restoreNotice (now : Int) (s : Registry) (counter : CounterNotice) : Option Registry :=
  match s.notices.lookup counter.dmcaId with
  | none => some s
  | some dmca =>
      dmca.caseId.map fun caseId =>
        { s with
          actions := s.actions ++ [restoreAction counter caseId]
          notices := s.notices.modify dmca.id (DmcaNotice.withState .restored)
            (DmcaNotice.id_withState .restored) (fun _ => rfl)
          counters := s.counters.modify counter.id (CounterNotice.restore now)
            (CounterNotice.id_restore now) (CounterNotice.dmcaId_restore now)
          cases := s.decideCase caseId .restore now
          restorations := ⟨dmca.id, now⟩ :: s.restorations }

/-- The counter-notices that the query of the restore task selects, where
`suitFiled` is the column of the notice that the query names. -/
def endedCounters (now : Int) (suitFiled : DmcaNotice → Option Int) (s : Registry) :
    List CounterNotice :=
  s.counters.rows.filter fun counter =>
    counter.state = .received && counter.statutoryWindowEnd.any (· ≤ now) &&
      (s.notices.lookup counter.dmcaId).any fun notice => (suitFiled notice).isNone

/-- The query names a column that only `CounterNotice` has: without it the task raises. -/
def scanCounterWindow (now : Int) (s : Registry) : Registry :=
  match DmcaNotice.timestamp? "suit_filed_notice_received_at" with
  | none => s
  | some suitFiled =>
      ((endedCounters now suitFiled s).foldlM (restoreNotice now) s).getD s

/-! ## Runs -/

inductive Event where
  | fileNotice (filing : Filing) (now : Int)
  | fileCounterNotice (filing : CounterFiling) (now : Int)
  | markDefective (dmcaId reason role : String) (sender : IdField)
  | markSuitFiled (dmcaId role : String) (sender : IdField) (now : Int)
  | enactHide (now : Int)
  | scanWindow (now : Int)
  deriving DecidableEq, Repr

def step (settings : ModSettings) (s : Registry) : Event → Registry
  | .fileNotice filing now => (fileDmcaNotice settings filing now s).1
  | .fileCounterNotice filing now => (fileCounterNotice settings filing now s).1
  | .markDefective dmcaId reason role sender => (markDmcaDefective dmcaId reason role sender s).1
  | .markSuitFiled dmcaId role sender now => (markSuitFiled dmcaId role sender now s).1
  | .enactHide now => enactDmcaHide now s
  | .scanWindow now => scanCounterWindow now s

end ColabPlatform.Moderation.Dmca
