import ColabPlatform.Foundation.Table
import ColabPlatform.Moderation.Cases

/-!
# Moderation service: one open case for the reports about a subject

A report is attached to the open case of its subject, or opens one.  Moderators claim and
release the case, decide it, and open a decided one again.  The calls are followed from await
to await, and the file finds exactly the runs in which a subject never has two open cases of
reports.
-/

namespace ColabPlatform.Moderation

open Foundation

/-! ## Cases and reports -/

inductive CaseKind where
  | auto
  | report
  | dmca
  deriving DecidableEq, Repr

/-- `SubjectTypeEnum` -/
inductive SubjectType where
  | msg
  | profileField
  | portfolioItem
  | inviteSynopsis
  | mockup
  | user
  deriving DecidableEq, Repr

structure Subject where
  subjectType : SubjectType
  subjectId : String
  deriving DecidableEq, Repr

/-- A row of `moderation_cases`; `row` has the columns that moderators work on. -/
structure FiledCase where
  id : String
  kind : CaseKind
  subject : Subject
  reporterUserId : Option String
  parentCaseId : Option String := none
  row : ModerationCase
  deriving DecidableEq, Repr

structure Report where
  reporterUserId : String
  subject : Subject
  description : String
  caseId : String
  deriving DecidableEq, Repr

structure ReportThrottle where
  reporterUserId : String
  day : Int
  count : Nat
  deriving DecidableEq, Repr

abbrev CaseTable := Table FiledCase (fun case => case.id) (noAlt FiledCase)

/-- `uq_report_throttle_user_day` -/
abbrev ThrottleTable :=
  Table ReportThrottle (fun throttle => (throttle.reporterUserId, throttle.day))
    (noAlt ReportThrottle)

namespace FiledCase

/-- What `_find_or_create_case` looks for. -/
def openReport (case : FiledCase) : Bool := case.kind = .report && case.row.status = .opened

/-- A case as a report opens it; the owner is approximated by the subject. -/
def opened (id reporter : String) (subject : Subject) : FiledCase where
  id := id
  kind := .report
  subject := subject
  reporterUserId := some reporter
  row := ⟨.opened, none, none, none, none, none, none, false, subject.subjectId⟩

/-- The new case of `reopen_case`. -/
def reopened (original : FiledCase) (id : String) : FiledCase where
  id := id
  kind := original.kind
  subject := original.subject
  reporterUserId := original.reporterUserId
  parentCaseId := some original.id
  row := ⟨.opened, none, none, none, none, none, none, original.row.forcedHuman,
    original.row.subjectOwnerUserId⟩

/-- The update that an endpoint commits, of the row that it has loaded. -/
def commit (operation : Operation) (moderator : String) (now : Int) (loaded stored : FiledCase) :
    FiledCase :=
  { stored with row := loaded.row.update (operation.assign moderator now loaded.row) stored.row }

/-- Two cases that must not be open at a time. -/
def Apart (case other : FiledCase) : Prop :=
  case.openReport = true → other.openReport = true → case.subject ≠ other.subject

theorem Apart.symm {case other : FiledCase} (h : case.Apart other) : other.Apart case :=
  fun opened opened' => (h opened' opened).symm

end FiledCase

/-! ## Calls -/

structure ReportCreate where
  subject : Subject
  description : String
  deriving DecidableEq, Repr

def ReportCreate.validate (body : ReportCreate) : Except HttpError Unit :=
  checkLength "description" body.description 10 (some 1000)

/-- `userId` is the header, and the UUID that it holds. -/
structure ReportRequest where
  userId : Option (Option String)
  body : ReportCreate
  deriving DecidableEq, Repr

/-- `_get_reporter_user_id` -/
def reporterUserId : Option (Option String) → Except HttpError String
  | none => .error ⟨401, "Authentication required"⟩
  | some none => .error ⟨401, "Invalid user identity"⟩
  | some (some reporter) => .ok reporter

/-- What `create_report` does next; `isNew` says that the throttle is to be inserted. -/
inductive ReportPhase where
  | received
  | find (throttle : ReportThrottle) (isNew : Bool)
  | commit (throttle : ReportThrottle) (isNew : Bool) (existing : Option String)
  | answered (result : Except HttpError String)
  | multipleResults
  | raised
  deriving DecidableEq, Repr

structure ReportCall where
  request : ReportRequest
  phase : ReportPhase := .received
  deriving DecidableEq, Repr

inductive CaseOperation where
  | operate (operation : Operation)
  | reopen
  deriving DecidableEq, Repr

structure CaseRequest where
  caseId : String
  role : String
  userId : Option String
  operation : CaseOperation
  deriving DecidableEq, Repr

inductive CasePhase where
  | received
  | checked (moderator : String) (case : FiledCase)
  | answered (result : Except HttpError Unit)
  | raised
  deriving DecidableEq, Repr

structure CaseCall where
  request : CaseRequest
  phase : CasePhase := .received
  deriving DecidableEq, Repr

structure ReportDesk where
  /-- `reports_per_user_per_day` -/
  limit : Nat
  cases : CaseTable
  reports : List Report
  throttles : ThrottleTable
  reporters : List ReportCall
  moderators : List CaseCall

structure DeskOutside where
  /-- the statement is carried out -/
  ok : Bool := true
  id : String := ""
  now : Int := 0

inductive DeskEvent where
  | report (request : ReportRequest)
  | moderate (request : CaseRequest)
  /-- a scan or a notice opens a case -/
  | file (dmca : Bool) (id : String) (subject : Subject) (row : ModerationCase)
  | advanceReport (index : Nat) (outside : DeskOutside := {})
  | advanceCase (index : Nat) (outside : DeskOutside := {})

/-- Microseconds to days. -/
def dayOf (now : Int) : Int := now / 86400000000

namespace ReportDesk

def empty (limit : Nat) : ReportDesk := ⟨limit, .empty, [], .empty, [], []⟩

def putReport (s : ReportDesk) (index : Nat) (call : ReportCall) (phase : ReportPhase) :
    ReportDesk :=
  { s with reporters := s.reporters.set index { call with phase } }

def putCase (s : ReportDesk) (index : Nat) (call : CaseCall) (phase : CasePhase) : ReportDesk :=
  { s with moderators := s.moderators.set index { call with phase } }

/-- `_check_and_increment_throttle`; the row is written with the commit. -/
def checkThrottle (s : ReportDesk) (reporter : String) (now : Int) :
    Except HttpError (ReportThrottle × Bool) :=
  match s.throttles.lookup (reporter, dayOf now) with
  | none => .ok (⟨reporter, dayOf now, 1⟩, true)
  | some throttle =>
      if s.limit ≤ throttle.count then
        .error ⟨429, "Report limit of " ++ toString s.limit ++ "/day exceeded. Try again tomorrow."⟩
      else .ok ({ throttle with count := throttle.count + 1 }, false)

def storeThrottle (s : ReportDesk) (throttle : ReportThrottle) (isNew : Bool) :
    Option ThrottleTable :=
  if isNew then s.throttles.insert? throttle
  else
    some (s.throttles.modify (throttle.reporterUserId, throttle.day) fun stored =>
      { stored with count := throttle.count })

def openReports (s : ReportDesk) (subject : Subject) : List FiledCase :=
  s.cases.rows.filter fun case => case.openReport && case.subject = subject

/-- `_find_or_create_case`, up to the insertion -/
def find (s : ReportDesk) (subject : Subject) (throttle : ReportThrottle) (isNew : Bool) :
    ReportPhase :=
  match s.openReports subject with
  | [] => .commit throttle isNew none
  | [case] => .commit throttle isNew (some case.id)
  | _ => .multipleResults

def newReport (call : ReportCall) (throttle : ReportThrottle) (caseId : String) : Report :=
  ⟨throttle.reporterUserId, call.request.body.subject, call.request.body.description, caseId⟩

def advanceReport (s : ReportDesk) (index : Nat) (outside : DeskOutside) (call : ReportCall) :
    ReportDesk :=
  match call.phase with
  | .received =>
      match (do
          call.request.body.validate
          let reporter ← reporterUserId call.request.userId
          s.checkThrottle reporter outside.now) with
      | .error refused => s.putReport index call (.answered (.error refused))
      | .ok (throttle, isNew) => s.putReport index call (.find throttle isNew)
  | .find throttle isNew =>
      s.putReport index call (s.find call.request.body.subject throttle isNew)
  | .commit throttle isNew existing =>
      match s.storeThrottle throttle isNew with
      | none => s.putReport index call .raised
      | some throttles =>
          match existing with
          | some caseId =>
              { s.putReport index call (.answered (.ok caseId)) with
                throttles := throttles
                reports := s.reports ++ [newReport call throttle caseId] }
          | none =>
              match s.cases.insert?
                  (.opened outside.id throttle.reporterUserId call.request.body.subject) with
              | none => s.putReport index call .raised
              | some cases =>
                  { s.putReport index call (.answered (.ok outside.id)) with
                    throttles := throttles
                    cases := cases
                    reports := s.reports ++ [newReport call throttle outside.id] }
  | .answered _ | .multipleResults | .raised => s

def authorise (request : CaseRequest) : Except HttpError String :=
  match request.operation with
  | .operate operation => do
      operation.validate
      requireModRole request.role request.userId
  | .reopen => requireSuperAdmin request.role request.userId

/-- What an endpoint checks of the case that it has loaded. -/
def checkCase (s : ReportDesk) (request : CaseRequest) (moderator : String) :
    Except HttpError FiledCase :=
  match s.cases.lookup request.caseId with
  | none => .error ⟨404, "Case not found"⟩
  | some case =>
      match request.operation with
      | .operate operation => (operation.check moderator case.row).map fun _ => case
      | .reopen => .ok case

def advanceCase (s : ReportDesk) (index : Nat) (outside : DeskOutside) (call : CaseCall) :
    ReportDesk :=
  match call.phase with
  | .received =>
      match (do
          let moderator ← authorise call.request
          let case ← s.checkCase call.request moderator
          return (moderator, case)) with
      | .error refused => s.putCase index call (.answered (.error refused))
      | .ok (moderator, case) => s.putCase index call (.checked moderator case)
  | .checked moderator case =>
      match call.request.operation with
      | .operate operation =>
          { s.putCase index call (.answered (.ok ())) with
            cases := s.cases.modify case.id
              (FiledCase.commit operation moderator outside.now case) }
      | .reopen =>
          match s.cases.insert? (case.reopened outside.id) with
          | none => s.putCase index call .raised
          | some cases => { s.putCase index call (.answered (.ok ())) with cases }
  | .answered _ | .raised => s

def failReport (s : ReportDesk) (index : Nat) (call : ReportCall) : ReportDesk :=
  match call.phase with
  | .answered _ | .multipleResults => s
  | _ => s.putReport index call .raised

def failCase (s : ReportDesk) (index : Nat) (call : CaseCall) : ReportDesk :=
  match call.phase with
  | .answered _ => s
  | _ => s.putCase index call .raised

def filed (dmca : Bool) (id : String) (subject : Subject) (row : ModerationCase) : FiledCase :=
  ⟨id, if dmca then .dmca else .auto, subject, none, none, row⟩

def step (s : ReportDesk) : DeskEvent → ReportDesk
  | .report request => { s with reporters := s.reporters ++ [{ request }] }
  | .moderate request => { s with moderators := s.moderators ++ [{ request }] }
  | .file dmca id subject row =>
      { s with cases := (s.cases.insert? (filed dmca id subject row)).getD s.cases }
  | .advanceReport index outside =>
      match s.reporters[index]? with
      | some call =>
          if outside.ok then s.advanceReport index outside call else s.failReport index call
      | none => s
  | .advanceCase index outside =>
      match s.moderators[index]? with
      | some call =>
          if outside.ok then s.advanceCase index outside call else s.failCase index call
      | none => s

def run (limit : Nat) (events : List DeskEvent) : ReportDesk := runFrom step (empty limit) events

/-! ## What is promised -/

structure Deduplicated (s : ReportDesk) : Prop where
  single : ∀ subject, (s.openReports subject).length ≤ 1
  attached : ∀ report ∈ s.reports, ∃! case, case ∈ s.cases.rows ∧ case.id = report.caseId ∧
    case.kind = .report ∧ case.subject = report.subject
  found : ∀ call ∈ s.reporters, call.phase ≠ .multipleResults

/-! ## The row that a step stores -/

def storedByReport (s : ReportDesk) (outside : DeskOutside) (call : ReportCall) :
    Option FiledCase :=
  match call.phase with
  | .commit throttle isNew none =>
      if (s.storeThrottle throttle isNew).isSome && (s.cases.lookup outside.id).isNone then
        some (.opened outside.id throttle.reporterUserId call.request.body.subject)
      else none
  | _ => none

def storedByCase (s : ReportDesk) (outside : DeskOutside) (call : CaseCall) : Option FiledCase :=
  match call.phase with
  | .checked moderator case =>
      match call.request.operation with
      | .operate operation =>
          (s.cases.lookup case.id).map (FiledCase.commit operation moderator outside.now case)
      | .reopen =>
          if (s.cases.lookup outside.id).isNone then some (case.reopened outside.id) else none
  | _ => none

def stored (s : ReportDesk) : DeskEvent → Option FiledCase
  | .file dmca id subject row =>
      if (s.cases.lookup id).isNone then some (filed dmca id subject row) else none
  | .advanceReport index outside =>
      match s.reporters[index]? with
      | some call => if outside.ok then s.storedByReport outside call else none
      | none => none
  | .advanceCase index outside =>
      match s.moderators[index]? with
      | some call => if outside.ok then s.storedByCase outside call else none
      | none => none
  | _ => none

/-- No other case of reports about the subject of the case is open. -/
def free (s : ReportDesk) (case : FiledCase) : Bool :=
  !case.openReport || s.cases.rows.all fun other =>
    other.id = case.id || !other.openReport || other.subject ≠ case.subject

/-- A case of reports is stored as open only while its subject has no other open one. -/
def keepsSingle (s : ReportDesk) (event : DeskEvent) : Bool := (s.stored event).all s.free

variable {s s' : ReportDesk}

/-- The cases of `s'` are those of `s`, with the stored one in its place; none is lost. -/
structure Stores (s s' : ReportDesk) (stored : Option FiledCase) : Prop where
  cases : match stored with
    | some case => s.cases.Puts case s'.cases
    | none => s'.cases = s.cases
  keeps : ∀ case ∈ s.cases.rows, ∃ after ∈ s'.cases.rows,
    after.id = case.id ∧ after.kind = case.kind ∧ after.subject = case.subject

theorem Stores.refl (same : s'.cases = s.cases) : s.Stores s' none := by
  refine ⟨same, fun case mem => ⟨case, ?_, rfl, rfl, rfl⟩⟩
  rw [same]
  exact mem

/-- An insertion goes through unless the id is taken. -/
theorem stores_insert {case : FiledCase} {after : Option CaseTable}
    (inserted : s.cases.insert? case = after) (cases : s'.cases = after.getD s.cases) :
    s.Stores s' (if (s.cases.lookup case.id).isNone then some case else none) := by
  cases after with
  | none =>
      have taken : ¬ (s.cases.lookup case.id).isNone = true := by
        rw [Option.isNone_iff_eq_none]
        exact (Table.insert?_eq_none_iff_of_null rfl).1 inserted
      rw [if_neg taken]
      exact .refl cases
  | some after =>
      obtain ⟨-, rows⟩ := Table.insert?_eq_some inserted
      have absent : (s.cases.lookup case.id).isNone = true := by
        rw [Option.isNone_iff_eq_none]
        exact Table.lookup_of_insert? inserted
      rw [if_pos absent]
      have same : s'.cases = after := cases
      refine ⟨?_, fun other mem => ⟨other, ?_, rfl, rfl, rfl⟩⟩
      · rw [same]
        exact Table.puts_insert inserted
      · rw [same, rows]
        exact List.mem_cons_of_mem _ mem

theorem stores_commit {operation : Operation} {moderator : String} {now : Int}
    {loaded : FiledCase}
    (cases : s'.cases =
      s.cases.modify loaded.id (FiledCase.commit operation moderator now loaded)) :
    s.Stores s' ((s.cases.lookup loaded.id).map
      (FiledCase.commit operation moderator now loaded)) := by
  cases found : s.cases.lookup loaded.id with
  | none => exact .refl (cases.trans (Table.modify_eq_self found))
  | some case =>
      have same := Table.key_of_lookup found
      refine ⟨?_, fun other mem => ?_⟩
      · rw [Option.map_some, cases, ← same]
        exact Table.puts_modify (Table.mem_of_lookup found)
      · refine ⟨if other.id = loaded.id then FiledCase.commit operation moderator now loaded other
          else other, ?_, ?_⟩
        · rw [cases]
          exact List.mem_map.2 ⟨other, mem, rfl⟩
        split
        · exact ⟨rfl, rfl, rfl⟩
        · exact ⟨rfl, rfl, rfl⟩

theorem stores_report (index : Nat) (outside : DeskOutside) (call : ReportCall) :
    s.Stores (s.advanceReport index outside call) (s.storedByReport outside call) := by
  obtain ⟨request, phase⟩ := call
  cases phase with
  | received =>
      simp only [advanceReport, storedByReport]
      split
      · exact .refl rfl
      · exact .refl rfl
  | find throttle isNew => exact .refl rfl
  | commit throttle isNew existing =>
      cases existing with
      | some caseId =>
          simp only [advanceReport, storedByReport]
          split
          · exact .refl rfl
          · exact .refl rfl
      | none =>
          simp only [advanceReport, storedByReport]
          cases s.storeThrottle throttle isNew with
          | none => exact .refl rfl
          | some throttles =>
              simp only [Option.isSome_some, Bool.true_and]
              cases inserted : s.cases.insert? (.opened outside.id throttle.reporterUserId
                  request.body.subject) with
              | none => exact stores_insert inserted rfl
              | some cases => exact stores_insert inserted rfl
  | answered result => exact .refl rfl
  | multipleResults => exact .refl rfl
  | raised => exact .refl rfl

theorem stores_case (index : Nat) (outside : DeskOutside) (call : CaseCall) :
    s.Stores (s.advanceCase index outside call) (s.storedByCase outside call) := by
  obtain ⟨request, phase⟩ := call
  cases phase with
  | received =>
      simp only [advanceCase, storedByCase]
      split
      · exact .refl rfl
      · exact .refl rfl
  | checked moderator case =>
      simp only [advanceCase, storedByCase]
      cases request.operation with
      | operate operation => exact stores_commit rfl
      | reopen =>
          cases inserted : s.cases.insert? (case.reopened outside.id) with
          | none => exact stores_insert inserted rfl
          | some cases => exact stores_insert inserted rfl
  | answered result => exact .refl rfl
  | raised => exact .refl rfl

theorem failReport_cases (index : Nat) (call : ReportCall) :
    (s.failReport index call).cases = s.cases := by
  unfold failReport
  split <;> rfl

theorem failCase_cases (index : Nat) (call : CaseCall) :
    (s.failCase index call).cases = s.cases := by
  unfold failCase
  split <;> rfl

theorem stores_step (s : ReportDesk) (event : DeskEvent) :
    s.Stores (s.step event) (s.stored event) := by
  cases event with
  | report request => exact .refl rfl
  | moderate request => exact .refl rfl
  | file dmca id subject row =>
      have opened : (s.step (.file dmca id subject row)).cases =
          (s.cases.insert? (filed dmca id subject row)).getD s.cases := rfl
      exact stores_insert rfl opened
  | advanceReport index outside =>
      simp only [step, stored]
      cases s.reporters[index]? with
      | none => exact .refl rfl
      | some call =>
          by_cases carried : outside.ok = true
          · simp only [if_pos carried]
            exact stores_report index outside call
          · simp only [if_neg carried]
            exact .refl (failReport_cases index call)
  | advanceCase index outside =>
      simp only [step, stored]
      cases s.moderators[index]? with
      | none => exact .refl rfl
      | some call =>
          by_cases carried : outside.ok = true
          · simp only [if_pos carried]
            exact stores_case index outside call
          · simp only [if_neg carried]
            exact .refl (failCase_cases index call)

/-! ## At most one open case -/

/-- Two open cases of reports have two subjects. -/
def Single (s : ReportDesk) : Prop :=
  ∀ case ∈ s.cases.rows, ∀ other ∈ s.cases.rows, case.id ≠ other.id → case.Apart other

theorem free_iff {case : FiledCase} :
    s.free case = true ↔ ∀ other ∈ s.cases.rows, other.id ≠ case.id → case.Apart other := by
  simp only [free, FiledCase.Apart, Bool.or_eq_true, Bool.not_eq_true', List.all_eq_true,
    decide_eq_true_eq]
  grind

theorem openReports_nodup (s : ReportDesk) (subject : Subject) :
    (s.openReports subject).Nodup :=
  (List.Nodup.of_map _ s.cases.keys_nodup).filter _

theorem mem_openReports {subject : Subject} {case : FiledCase} :
    case ∈ s.openReports subject ↔
      case ∈ s.cases.rows ∧ case.openReport = true ∧ case.subject = subject := by
  simp [openReports]

theorem single_iff : (∀ subject, (s.openReports subject).length ≤ 1) ↔ s.Single := by
  constructor
  · intro short case mem other memOther apart opened opened' same
    have mine := mem_openReports.2 ⟨mem, opened, rfl⟩
    have theirs := mem_openReports.2 ⟨memOther, opened', same.symm⟩
    obtain ⟨only, isOnly⟩ := List.length_eq_one_iff.1
      (Nat.le_antisymm (short case.subject) (List.length_pos_of_mem mine))
    rw [isOnly, List.mem_singleton] at mine theirs
    exact apart (by rw [mine, theirs])
  · intro single subject
    cases listed : s.openReports subject with
    | nil => exact Nat.zero_le 1
    | cons case rest =>
        cases rest with
        | nil => exact Nat.le_refl 1
        | cons other rest =>
            have distinct := s.openReports_nodup subject
            rw [listed] at distinct
            obtain ⟨mem, opened, isSubject⟩ :=
              mem_openReports.1 (listed ▸ List.mem_cons_self : case ∈ s.openReports subject)
            obtain ⟨memOther, opened', isSubject'⟩ :=
              mem_openReports.1 (listed ▸ by simp : other ∈ s.openReports subject)
            have apart : case.id ≠ other.id := by
              intro same
              have equal := Table.eq_of_key_eq mem memOther same
              simp [equal] at distinct
            exact absurd (isSubject.trans isSubject'.symm)
              (single case mem other memOther apart opened opened')

theorem single_step_iff (h : s.Single) (event : DeskEvent) :
    (s.step event).Single ↔ s.keepsSingle event = true := by
  have stores := (s.stores_step event).cases
  rw [keepsSingle]
  cases stored : s.stored event with
  | none =>
      rw [stored] at stores
      simp only [Option.all_none, iff_true]
      rwa [Single, show (s.step event).cases = s.cases from stores]
  | some case =>
      rw [stored] at stores
      rw [Option.all_some, free_iff]
      exact Table.Puts.pairwise_iff stores (fun _ _ apart => apart.symm) h

/-! ## Reports and their cases -/

/-- The case is there. -/
def Holds (s : ReportDesk) (subject : Subject) (caseId : String) : Prop :=
  ∃ case ∈ s.cases.rows, case.id = caseId ∧ case.kind = .report ∧ case.subject = subject

/-- The call does not go on to store a report to a case that is not there. -/
def Refers (s : ReportDesk) (call : ReportCall) : Prop :=
  ∀ throttle isNew caseId, call.phase = .commit throttle isNew (some caseId) →
    s.Holds call.request.body.subject caseId

/-- The cases of the stored reports and of those about to be stored are there. -/
structure Attached (s : ReportDesk) : Prop where
  reports : ∀ report ∈ s.reports, s.Holds report.subject report.caseId
  calls : ∀ call ∈ s.reporters, s.Refers call

theorem Stores.holds {stored : Option FiledCase} (stores : s.Stores s' stored)
    {subject : Subject} {caseId : String} (h : s.Holds subject caseId) :
    s'.Holds subject caseId := by
  obtain ⟨case, mem, isId, isReport, isSubject⟩ := h
  obtain ⟨after, memAfter, sameId, sameKind, sameSubject⟩ := stores.keeps case mem
  exact ⟨after, memAfter, sameId.trans isId, sameKind.trans isReport,
    sameSubject.trans isSubject⟩

theorem Attached.move (h : s.Attached) {stored : Option FiledCase} (stores : s.Stores s' stored)
    (reports : ∀ report ∈ s'.reports,
      report ∈ s.reports ∨ s'.Holds report.subject report.caseId)
    (calls : ∀ call ∈ s'.reporters, call ∈ s.reporters ∨ s'.Refers call) : s'.Attached where
  reports := by
    intro report mem
    rcases reports report mem with old | new
    · exact stores.holds (h.reports report old)
    · exact new
  calls := by
    intro call mem
    rcases calls call mem with old | new
    · intro throttle isNew caseId commits
      exact stores.holds (h.calls call old throttle isNew caseId commits)
    · exact new

theorem mem_putReport {index : Nat} {call other : ReportCall} {phase : ReportPhase}
    (mem : other ∈ (s.putReport index call phase).reporters) :
    other ∈ s.reporters ∨ other = { call with phase } := by
  rcases mem_set_cases mem with same | ⟨j, -, atJ⟩
  · exact Or.inr same
  · exact Or.inl (List.mem_of_getElem? atJ)

/-- A call goes on without a commit. -/
theorem Attached.put (h : s.Attached) {index : Nat} {call : ReportCall} {phase : ReportPhase}
    (refers : s.Refers { call with phase }) : (s.putReport index call phase).Attached := by
  refine h.move (.refl rfl) (fun _ => Or.inl) fun other mem => ?_
  rcases mem_putReport mem with old | rfl
  · exact Or.inl old
  · exact Or.inr refers

/-- The case that was found is a case of the subject. -/
theorem refers_find {call : ReportCall} {throttle : ReportThrottle} {isNew : Bool} :
    s.Refers { call with phase := s.find call.request.body.subject throttle isNew } := by
  intro throttle' isNew' caseId commits
  simp only [find] at commits
  split at commits
  · cases commits
  · rename_i case listed
    cases commits
    have mem : case ∈ s.openReports call.request.body.subject := by
      rw [listed]
      exact List.mem_cons_self
    obtain ⟨stored, opened, isSubject⟩ := mem_openReports.1 mem
    rw [FiledCase.openReport, Bool.and_eq_true, decide_eq_true_eq] at opened
    exact ⟨case, stored, rfl, opened.1, isSubject⟩
  · cases commits

/-- A report is stored with its case. -/
theorem Attached.commit (h : s.Attached) {index : Nat} {call : ReportCall}
    {throttle : ReportThrottle} {caseId : String} {stored : Option FiledCase}
    (stores : s.Stores s' stored)
    (calls : s'.reporters = (s.putReport index call (.answered (.ok caseId))).reporters)
    (reports : s'.reports = s.reports ++ [newReport call throttle caseId])
    (holds : s'.Holds call.request.body.subject caseId) : s'.Attached := by
  refine h.move stores ?_ ?_
  · intro report mem
    rw [reports] at mem
    rcases List.mem_append.1 mem with old | new
    · exact Or.inl old
    · obtain rfl := List.mem_singleton.1 new
      exact Or.inr holds
  · intro other mem
    rw [calls] at mem
    rcases mem_putReport mem with old | rfl
    · exact Or.inl old
    · exact Or.inr nofun

theorem Attached.advanceReport (h : s.Attached) {index : Nat} {outside : DeskOutside}
    {call : ReportCall} (found : s.reporters[index]? = some call) :
    (s.advanceReport index outside call).Attached := by
  obtain ⟨request, phase⟩ := call
  have stores := s.stores_report index outside ⟨request, phase⟩
  cases phase with
  | received =>
      simp only [ReportDesk.advanceReport]
      split
      · exact h.put nofun
      · exact h.put nofun
  | find throttle isNew => exact h.put refers_find
  | commit throttle isNew existing =>
      simp only [ReportDesk.advanceReport] at stores ⊢
      cases kept : s.storeThrottle throttle isNew with
      | none => exact h.put nofun
      | some throttles =>
          simp only [kept] at stores
          cases existing with
          | some caseId =>
              have holds := h.calls _ (List.mem_of_getElem? found) throttle isNew caseId rfl
              exact h.commit stores rfl rfl (stores.holds holds)
          | none =>
              cases inserted : s.cases.insert? (.opened outside.id throttle.reporterUserId
                  request.body.subject) with
              | none => exact h.put nofun
              | some cases =>
                  simp only [inserted] at stores
                  refine h.commit stores rfl rfl ?_
                  refine ⟨.opened outside.id throttle.reporterUserId request.body.subject, ?_,
                    rfl, rfl, rfl⟩
                  rw [(Table.insert?_eq_some inserted).2]
                  exact List.mem_cons_self
  | answered result => exact h
  | multipleResults => exact h
  | raised => exact h

/-- The reports and their calls stay. -/
theorem Attached.frame (h : s.Attached) {stored : Option FiledCase} (stores : s.Stores s' stored)
    (reports : s'.reports = s.reports) (calls : s'.reporters = s.reporters) : s'.Attached := by
  refine h.move stores (fun report mem => Or.inl ?_) fun call mem => Or.inl ?_
  · rwa [reports] at mem
  · rwa [calls] at mem

theorem advanceCase_reports (index : Nat) (outside : DeskOutside) (call : CaseCall) :
    (s.advanceCase index outside call).reports = s.reports ∧
      (s.advanceCase index outside call).reporters = s.reporters := by
  unfold advanceCase
  split
  · split
    · exact ⟨rfl, rfl⟩
    · exact ⟨rfl, rfl⟩
  · split
    · exact ⟨rfl, rfl⟩
    · split
      · exact ⟨rfl, rfl⟩
      · exact ⟨rfl, rfl⟩
  · exact ⟨rfl, rfl⟩
  · exact ⟨rfl, rfl⟩

theorem Attached.step (h : s.Attached) (event : DeskEvent) : (s.step event).Attached := by
  have stores := s.stores_step event
  cases event with
  | report request =>
      refine h.move stores (fun _ => Or.inl) fun call mem => ?_
      rcases List.mem_append.1 mem with old | new
      · exact Or.inl old
      · obtain rfl := List.mem_singleton.1 new
        exact Or.inr nofun
  | moderate request => exact h.frame stores rfl rfl
  | file dmca id subject row => exact h.frame stores rfl rfl
  | advanceReport index outside =>
      simp only [ReportDesk.step]
      cases found : s.reporters[index]? with
      | none => exact h
      | some call =>
          by_cases carried : outside.ok = true
          · simp only [if_pos carried]
            exact h.advanceReport found
          · simp only [if_neg carried]
            unfold failReport
            split
            · exact h
            · exact h
            · exact h.put nofun
  | advanceCase index outside =>
      simp only [ReportDesk.step] at stores ⊢
      cases found : s.moderators[index]? with
      | none => exact h
      | some call =>
          simp only [found] at stores
          by_cases carried : outside.ok = true
          · simp only [if_pos carried] at stores ⊢
            obtain ⟨reports, calls⟩ := s.advanceCase_reports index outside call
            exact h.frame stores reports calls
          · simp only [if_neg carried]
            unfold failCase
            split
            · exact h
            · exact h.frame (.refl rfl) rfl rfl

/-! ## No report that fails -/

def Unfailed (s : ReportDesk) : Prop := ∀ call ∈ s.reporters, call.phase ≠ .multipleResults

theorem find_ne_multipleResults (h : s.Single) (subject : Subject) (throttle : ReportThrottle)
    (isNew : Bool) : s.find subject throttle isNew ≠ .multipleResults := by
  have short := single_iff.2 h subject
  cases listed : s.openReports subject with
  | nil => simp [find, listed]
  | cons case rest =>
      cases rest with
      | nil => simp [find, listed]
      | cons next rest =>
          rw [listed] at short
          simp at short

theorem Unfailed.put (h : s.Unfailed) {index : Nat} {call : ReportCall} {phase : ReportPhase}
    (other : phase ≠ .multipleResults) : (s.putReport index call phase).Unfailed :=
  forall_mem_set other h

theorem Unfailed.advanceReport (h : s.Unfailed) (single : s.Single) (index : Nat)
    (outside : DeskOutside) (call : ReportCall) :
    (s.advanceReport index outside call).Unfailed := by
  obtain ⟨request, phase⟩ := call
  cases phase with
  | received =>
      simp only [ReportDesk.advanceReport]
      split
      · exact h.put nofun
      · exact h.put nofun
  | find throttle isNew => exact h.put (find_ne_multipleResults single _ _ _)
  | commit throttle isNew existing =>
      simp only [ReportDesk.advanceReport]
      cases s.storeThrottle throttle isNew with
      | none => exact h.put nofun
      | some throttles =>
          cases existing with
          | some caseId => exact forall_mem_set nofun h
          | none =>
              cases s.cases.insert? (.opened outside.id throttle.reporterUserId
                  request.body.subject) with
              | none => exact h.put nofun
              | some cases => exact forall_mem_set nofun h
  | answered result => exact h
  | multipleResults => exact h
  | raised => exact h

theorem Unfailed.step (h : s.Unfailed) (single : s.Single) (event : DeskEvent) :
    (s.step event).Unfailed := by
  cases event with
  | report request => exact forall_mem_concat nofun h
  | moderate request => exact h
  | file dmca id subject row => exact h
  | advanceReport index outside =>
      simp only [ReportDesk.step]
      cases s.reporters[index]? with
      | none => exact h
      | some call =>
          by_cases carried : outside.ok = true
          · simp only [if_pos carried]
            exact h.advanceReport single index outside call
          · simp only [if_neg carried]
            unfold failReport
            split
            · exact h
            · exact h
            · exact h.put nofun
  | advanceCase index outside =>
      simp only [ReportDesk.step]
      cases s.moderators[index]? with
      | none => exact h
      | some call =>
          by_cases carried : outside.ok = true
          · simp only [if_pos carried]
            rw [Unfailed, (s.advanceCase_reports index outside call).2]
            exact h
          · simp only [if_neg carried]
            unfold failCase
            split
            · exact h
            · exact h

/-! ## Runs -/

theorem empty_attached (limit : Nat) : (empty limit).Attached where
  reports report mem := by cases mem
  calls call mem := by cases mem

theorem run_attached (limit : Nat) (events : List DeskEvent) : (run limit events).Attached :=
  runFrom_invariant (fun _ event h => h.step event) (empty_attached limit) events

theorem deduplicated_iff {limit : Nat} {events : List DeskEvent} :
    (run limit events).Deduplicated ↔ (run limit events).Single ∧ (run limit events).Unfailed := by
  constructor
  · exact fun h => ⟨single_iff.1 h.single, h.found⟩
  · rintro ⟨single, unfailed⟩
    refine ⟨single_iff.2 single, fun report mem => ?_, unfailed⟩
    obtain ⟨case, stored, isId, isReport, isSubject⟩ :=
      (run_attached limit events).reports report mem
    refine ⟨case, ⟨stored, isId, isReport, isSubject⟩, ?_⟩
    rintro other ⟨storedOther, isOther, -⟩
    exact Table.eq_of_key_eq storedOther stored (isOther.trans isId.symm)

def anna : Subject := ⟨.user, "anna"⟩

def reportBy (reporter : String) : DeskEvent :=
  .report ⟨some (some reporter), anna, "insults in the chat"⟩

def moderation (caseId role : String) (operation : CaseOperation) : DeskEvent :=
  .moderate ⟨caseId, role, some "mona", operation⟩

def dismissal : CaseActionRequest := ⟨.dismiss, "nothing found here", [], none⟩

/-- Two reporters find no case before either has stored one. -/
def filedTwice : List DeskEvent :=
  [reportBy "ben", reportBy "cleo", .advanceReport 0, .advanceReport 1, .advanceReport 0,
    .advanceReport 1, .advanceReport 0 { id := "first" }, .advanceReport 1 { id := "second" },
    reportBy "dora", .advanceReport 2, .advanceReport 2]

/-- A claimed case is released after another report has opened a second one. -/
def releasedBeside : List DeskEvent :=
  reportBy "ben" :: List.replicate 3 (.advanceReport 0 { id := "first" }) ++
    moderation "first" "mod" (.operate .claim) :: List.replicate 2 (.advanceCase 0) ++
    reportBy "cleo" :: List.replicate 3 (.advanceReport 1 { id := "second" }) ++
    moderation "first" "mod" (.operate .release) :: List.replicate 2 (.advanceCase 1)

/-- A dismissed case is opened again twice. -/
def reopenedTwice : List DeskEvent :=
  reportBy "ben" :: List.replicate 3 (.advanceReport 0 { id := "first" }) ++
    moderation "first" "mod" (.operate .claim) :: List.replicate 2 (.advanceCase 0) ++
    moderation "first" "mod" (.operate (.takeAction dismissal)) ::
      List.replicate 2 (.advanceCase 1) ++
    moderation "first" "super_admin" .reopen ::
      List.replicate 2 (.advanceCase 2 { id := "second" }) ++
    moderation "first" "super_admin" .reopen ::
      List.replicate 2 (.advanceCase 3 { id := "third" })

end ReportDesk

end ColabPlatform.Moderation
