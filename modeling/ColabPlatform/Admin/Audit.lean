import ColabPlatform.Admin.CreditGrants

/-!
# The audit log

An endpoint of the admin service that changes something writes an audit row.  Some change rows
of their own database and commit them with the audit row; the others ask another service for
the change, and write the row when it has answered.  The file follows a request through its
failure points and finds the outcomes at which the log stays complete.
-/

namespace ColabPlatform.Admin

open Foundation Common

/-! ## Endpoints -/

inductive Service where
  | auth
  | billing
  | moderation
  | support
  deriving DecidableEq, Repr

inductive EndpointKind where
  /-- posts the body to another service -/
  | proxy (service : Service) (path : String)
  /-- sends statements for the rows that it changes, and may announce the change at the end -/
  | write (statements : Nat) (announces : Bool)
  deriving DecidableEq, Repr

/-- A row with the value whose `str` is the id of the target. -/
structure AdminAuditLog where
  adminUserId : String
  actionType : String
  targetKind : String
  target : JsonValue
  payloadBefore : Option JsonBody
  payloadAfter : JsonBody
  reason : JsonValue
  deriving DecidableEq, Repr

/-- A change that has been made: who made it, and what it did to what. -/
structure Change where
  adminUserId : String
  actionType : String
  targetKind : String
  target : JsonValue
  deriving DecidableEq, Repr

def AdminAuditLog.change (row : AdminAuditLog) : Change :=
  ⟨row.adminUserId, row.actionType, row.targetKind, row.target⟩

/-- A refusal is a status with a detail. -/
abbrev Check := Enforcer → AdminHeaders → JsonBody → Option (Nat × String)

structure Endpoint where
  kind : EndpointKind
  check : Check
  actionType : String
  targetKind : String
  target : JsonBody → JsonValue
  payloadBefore : Option JsonBody := none
  /-- from the body and the answer of the service; `none` if it raises -/
  payloadAfter : JsonBody → JsonValue → Option JsonBody
  reason : JsonBody → JsonValue := fun _ => .null

def permits (obj act : String) : Check := fun enforce headers _ =>
  if headers.requiresPermission enforce obj act then none
  else some ((AdminRefusal.forbidden obj act).status, (AdminRefusal.forbidden obj act).detail)

def field (body : JsonBody) (key : String) : JsonValue := body.get key .null

/-- `value[:count]`, which raises for what cannot be sliced.  The text of an array stands for
that of its first elements. -/
def JsonValue.slice (count : Nat) : JsonValue → Option JsonValue
  | .text value => some (.text (String.ofList (value.toList.take count)))
  | .array source => some (.array source)
  | .null | .bool _ | .number _ | .nan | .infinity _ | .object _ => none

namespace Endpoint

def decideRefund (refundId : String) : Endpoint where
  kind := .proxy .billing ("/billing/admin/refunds/" ++ refundId ++ "/decision")
  check := permits "refund" "decide"
  actionType := "refund.decide"
  targetKind := "refund"
  target := fun _ => .text refundId
  payloadAfter := fun body _ =>
    some [("decision", field body "decision"), ("amount", field body "amount")]
  reason := fun body => field body "reason"

def grantCredits (settings : GrantSettings) : Endpoint where
  kind := .proxy .billing "/billing/admin/credits/grant"
  check := fun enforce headers body => permits "credit_grant" "create" enforce headers body <|>
    match checkCap settings headers.roles (deltaCents body) with
    | .ok _ => none
    | .error refusal => some (refusal.status, refusal.detail)
  actionType := "credit.grant"
  targetKind := "credit_wallet"
  target := fun body => body.get "user_id" (.text "")
  payloadAfter := fun body _ =>
    some [("delta_cents", deltaCents body), ("reason", field body "reason")]
  reason := fun body => field body "reason"

def takeCaseAction (caseId : String) : Endpoint where
  kind := .proxy .moderation ("/moderation/cases/" ++ caseId ++ "/action")
  check := permits "moderation_case" "action"
  actionType := "case.action"
  targetKind := "moderation_case"
  target := fun _ => .text caseId
  payloadBefore := some [("status", .text "open")]
  payloadAfter := fun body result =>
    some [("action_type", field body "action_type"), ("result", result)]
  reason := fun body => field body "reason"

def dmcaDecision (dmcaId : String) : Endpoint where
  kind := .proxy .moderation ("/moderation/dmca/" ++ dmcaId ++ "/decision")
  check := permits "dmca" "decide"
  actionType := "dmca.decide"
  targetKind := "dmca_case"
  target := fun _ => .text dmcaId
  payloadAfter := fun body result =>
    some [("decision", field body "decision"), ("result", result)]
  reason := fun body => field body "reason"

/-- `str(value)[:200]` of a value that is not a text is the value here. -/
def replyToTicket (ticketId : String) : Endpoint where
  kind := .proxy .support ("/support/tickets/" ++ ticketId ++ "/reply")
  check := permits "support_ticket" "reply"
  actionType := "ticket.reply"
  targetKind := "support_ticket"
  target := fun _ => .text ticketId
  payloadAfter := fun body _ =>
    let reply := body.get "body" (.text "")
    some [("reply_preview", (reply.slice 200).getD reply)]

def escalateTicket (ticketId : String) : Endpoint where
  kind := .proxy .support ("/support/tickets/" ++ ticketId ++ "/escalate")
  check := permits "support_ticket" "escalate"
  actionType := "ticket.escalate"
  targetKind := "support_ticket"
  target := fun _ => .text ticketId
  payloadAfter := fun body _ =>
    some [("to_role", field body "to_role"), ("reason", field body "reason")]
  reason := fun body => field body "reason"

/-- The note is sliced without `str` around it. -/
def resolveTicket (ticketId : String) : Endpoint where
  kind := .proxy .support ("/support/tickets/" ++ ticketId ++ "/resolve")
  check := permits "support_ticket" "resolve"
  actionType := "ticket.resolve"
  targetKind := "support_ticket"
  target := fun _ => .text ticketId
  payloadAfter := fun body _ =>
    ((body.get "resolution_note" (.text "")).slice 500).map fun note => [("resolution_note", note)]

/-- `suspend` or `unsuspend` -/
def userStatus (act userId : String) : Endpoint where
  kind := .proxy .auth ("/auth/admin/users/" ++ userId ++ "/" ++ act)
  check := permits "user" act
  actionType := "user." ++ act
  targetKind := "user"
  target := fun _ => .text userId
  payloadAfter := fun body _ => some [("reason", field body "reason")]
  reason := fun body => field body "reason"

def suspendUser (userId : String) : Endpoint := userStatus "suspend" userId

def unsuspendUser (userId : String) : Endpoint := userStatus "unsuspend" userId

/-- One query for each axis; `updated` is the list of the answer. -/
def updateTier (tier : String) (axes : Nat) (updated : JsonValue) : Endpoint where
  kind := .write axes true
  check := permits "tier" "write"
  actionType := "entitlement.update"
  targetKind := "tier"
  target := fun _ => .text tier
  payloadAfter := fun body _ =>
    some [("axes", updated), ("reason", body.get "reason" (.text ""))]
  reason := fun body => body.get "reason" (.text "")

def updateEntitlements (items : Nat) (updated : JsonValue) : Endpoint where
  kind := .write items false
  check := permits "entitlement" "write"
  actionType := "entitlement.update"
  targetKind := "entitlement_axis"
  target := fun _ => .text "bulk"
  payloadAfter := fun _ _ => some [("items", updated)]

/-- The checks of `upsert_flag`; `stepup` says that `X-Mfa-Stepup` is `true`. -/
def checkFlag (env : String) (stepup : Bool) : Check := fun enforce headers _ =>
  if env = "prod" then
    if "super_admin" ∉ headers.getAdminRoles then
      some (403, "prod feature flags require super_admin role.")
    else if stepup then none else some (401, "stepup_required")
  else if headers.requiresPermission enforce "feature_flag" "write_nonprod" then none
  else some (403, "Insufficient role for flag write.")

/-- The query and the mirror come before the flush; `before` is the flag that is found. -/
def upsertFlag (env key : String) (stepup : Bool) (before : Option JsonBody) : Endpoint where
  kind := .write 2 false
  check := checkFlag env stepup
  actionType := "flag.toggle"
  targetKind := "feature_flag"
  target := fun _ => .text (env ++ "/" ++ key)
  payloadBefore := before
  payloadAfter := fun body _ =>
    some [("value", field body "value"), ("canary_pct", body.get "canary_pct" (.number 0)),
      ("env", .text env)]

def isProxy (endpoint : Endpoint) : Bool :=
  match endpoint.kind with
  | .proxy _ _ => true
  | .write _ _ => false

/-- What the endpoint does for a body in the name of an admin. -/
def change (endpoint : Endpoint) (admin : String) (body : JsonBody) : Change :=
  ⟨admin, endpoint.actionType, endpoint.targetKind, endpoint.target body⟩

def row? (endpoint : Endpoint) (admin : String) (body : JsonBody) (result : JsonValue) :
    Option AdminAuditLog :=
  (endpoint.payloadAfter body result).map fun payloadAfter =>
    ⟨admin, endpoint.actionType, endpoint.targetKind, endpoint.target body,
      endpoint.payloadBefore, payloadAfter, endpoint.reason body⟩

theorem change_of_row {endpoint : Endpoint} {admin : String} {body : JsonBody}
    {result : JsonValue} {row : AdminAuditLog} (h : endpoint.row? admin body result = some row) :
    row.change = endpoint.change admin body := by
  obtain ⟨payloadAfter, -, rfl⟩ := Option.map_eq_some_iff.1 h
  rfl

end Endpoint

/-! ## Requests -/

inductive AdminPhase where
  | received
  | posting (admin : String)
  | preparing (admin : String) (statements : Nat)
  | auditing (admin : String) (row : AdminAuditLog)
  | committing (admin : String) (row : AdminAuditLog)
  | announcing
  | answered
  | failed
  deriving DecidableEq, Repr

structure AdminRequest where
  endpoint : Endpoint
  headers : AdminHeaders
  body : JsonBody

/-- A request, with the change that has been made for it and its committed audit row. -/
structure AdminCall extends AdminRequest where
  phase : AdminPhase
  made : Option Change
  audited : Option AdminAuditLog

def AdminRequest.call (request : AdminRequest) : AdminCall := ⟨request, .received, none, none⟩

/-- What happens at a failure point. -/
structure AdminOutcome where
  /-- the service makes the change -/
  made : Bool := true
  /-- the status and the decoded body that arrive -/
  reply : Option (Nat × Option JsonValue) := some (200, some .null)
  /-- the statement is carried out, and its answer arrives -/
  ok : Bool := true
  /-- the transaction is committed -/
  durable : Bool := true
  deriving DecidableEq, Repr

namespace AdminCall

def fail (call : AdminCall) : AdminCall := { call with phase := .failed }

/-- The row that is written when the service has answered, if that is reached. -/
def rowFor (call : AdminCall) (admin : String) : Option (Nat × Option JsonValue) →
    Option AdminAuditLog
  | some (status, some result) =>
      if status ∈ [200, 201] then call.endpoint.row? admin call.body result else none
  | some (_, none) | none => none

/-- The checks of the endpoint. -/
def admission (call : AdminCall) (enforce : Enforcer) : Option String :=
  match call.endpoint.check enforce call.headers call.body with
  | some _ => none
  | none => call.headers.adminUserId.id?

def start (call : AdminCall) (admin : String) : AdminCall :=
  match call.endpoint.kind with
  | .proxy _ _ => { call with phase := .posting admin }
  | .write statements _ => { call with phase := .preparing admin statements }

/-- The transaction of an endpoint that writes holds the change and the row. -/
def commit (call : AdminCall) (admin : String) (row : AdminAuditLog) : AdminCall :=
  match call.endpoint.kind with
  | .proxy _ _ => { call with audited := some row }
  | .write _ _ =>
      { call with audited := some row, made := some (call.endpoint.change admin call.body) }

def finish (call : AdminCall) : AdminCall :=
  match call.endpoint.kind with
  | .write _ true => { call with phase := .announcing }
  | .write _ false | .proxy _ _ => { call with phase := .answered }

def advance (enforce : Enforcer) (call : AdminCall) (outcome : AdminOutcome) : AdminCall :=
  match call.phase with
  | .received =>
      match call.admission enforce with
      | none => call.fail
      | some admin => call.start admin
  | .posting admin =>
      let call' := if outcome.made then
        { call with made := some (call.endpoint.change admin call.body) } else call
      match call.rowFor admin outcome.reply with
      | none => call'.fail
      | some row => { call' with phase := .auditing admin row }
  | .preparing admin (left + 1) =>
      if outcome.ok then { call with phase := .preparing admin left } else call.fail
  | .preparing admin 0 =>
      match call.endpoint.row? admin call.body .null with
      | none => call.fail
      | some row => { call with phase := .auditing admin row }
  | .auditing admin row =>
      if outcome.ok then { call with phase := .committing admin row } else call.fail
  | .committing admin row =>
      let call' := if outcome.durable then call.commit admin row else call
      if outcome.durable && outcome.ok then call'.finish else call'.fail
  -- an exception of the announcement is caught
  | .announcing => { call with phase := .answered }
  | .answered | .failed => call

/-! ## What is promised -/

def isFinished (call : AdminCall) : Bool :=
  match call.phase with
  | .answered | .failed => true
  | .received | .posting _ | .preparing _ _ | .auditing _ _ | .committing _ _ | .announcing => false

structure Complete (call : AdminCall) : Prop where
  described : call.isFinished = true → ∀ change, call.made = some change →
    ∃ row, call.audited = some row ∧ row.change = change
  unmade : call.phase = .failed → call.audited = none → call.made = none

/-- If a service makes the change, then it answers so that the row can be written; and if the
change has been made, then the row is inserted and committed. -/
def keepsAudit (call : AdminCall) (outcome : AdminOutcome) : Bool :=
  match call.phase with
  | .posting admin => !outcome.made || (call.rowFor admin outcome.reply).isSome
  | .auditing _ _ => call.made.isNone || outcome.ok
  | .committing _ _ => call.made.isNone || outcome.durable
  | .received | .preparing _ _ | .announcing | .answered | .failed => true

/-! ## One step -/

variable {call : AdminCall} {enforce : Enforcer} {outcome : AdminOutcome}

/-- There is a row for what has been made. -/
def Described (call : AdminCall) : Prop :=
  ∀ change, call.made = some change → ∃ row, call.audited = some row ∧ row.change = change

theorem complete_iff : call.Complete ↔ (call.isFinished = true → call.Described) := by
  constructor
  · exact Complete.described
  · intro described
    refine ⟨described, fun isFailed unaudited => ?_⟩
    have finished : call.isFinished = true := by rw [isFinished, isFailed]
    cases made : call.made with
    | none => rfl
    | some change =>
        obtain ⟨row, audited, -⟩ := described finished change made
        rw [unaudited] at audited
        cases audited

theorem described_of_unmade (unmade : call.made = none) : call.Described := by
  intro change made
  rw [unmade] at made
  cases made

theorem described_iff_of_unaudited (unaudited : call.audited = none) :
    call.Described ↔ call.made = none := by
  refine ⟨fun described => ?_, described_of_unmade⟩
  cases made : call.made with
  | none => rfl
  | some change =>
      obtain ⟨row, audited, -⟩ := described change made
      rw [unaudited] at audited
      cases audited

/-- Before the row is committed, at most the change of the row has been made, and that only by
another service. -/
structure Pending (call : AdminCall) (admin : String) (row : AdminAuditLog) : Prop where
  unaudited : call.audited = none
  isRow : row.change = call.endpoint.change admin call.body
  only : ∀ change, call.made = some change → change = call.endpoint.change admin call.body
  proxied : call.endpoint.isProxy = false → call.made = none

/-- What holds between the failure points. -/
def Sound (call : AdminCall) : Prop :=
  match call.phase with
  | .received | .preparing _ _ => call.made = none ∧ call.audited = none
  | .posting _ => call.endpoint.isProxy = true ∧ call.made = none ∧ call.audited = none
  | .auditing admin row | .committing admin row => call.Pending admin row
  | .announcing => call.Described
  | .answered | .failed => True

theorem row_of_rowFor {admin : String} {reply : Option (Nat × Option JsonValue)}
    {row : AdminAuditLog} (h : call.rowFor admin reply = some row) :
    row.change = call.endpoint.change admin call.body := by
  unfold rowFor at h
  split at h
  · split at h
    · exact Endpoint.change_of_row h
    · cases h
  · cases h
  · cases h

/-- A committed row describes what has been made. -/
theorem Pending.described_commit {admin : String} {row : AdminAuditLog}
    (h : call.Pending admin row) : (call.commit admin row).Described := by
  intro change made
  unfold commit at made ⊢
  cases kind : call.endpoint.kind with
  | proxy service path =>
      simp only [kind] at made ⊢
      exact ⟨row, rfl, h.isRow.trans (h.only change made).symm⟩
  | write statements announces =>
      simp only [kind, Option.some.injEq] at made ⊢
      exact ⟨row, rfl, h.isRow.trans made⟩

theorem Described.finish (h : call.Described) : call.finish.Described := by
  unfold AdminCall.finish
  split <;> exact h

theorem sound_call (request : AdminRequest) : request.call.Sound := ⟨rfl, rfl⟩

theorem Sound.start (h : call.made = none ∧ call.audited = none) (admin : String) :
    (call.start admin).Sound := by
  unfold AdminCall.start
  split
  · rename_i kind
    exact ⟨by rw [Endpoint.isProxy, kind], h⟩
  · exact h

theorem sound_finish (h : call.Described) : call.finish.Sound := by
  unfold AdminCall.finish
  split
  · exact h
  · trivial
  · trivial

theorem Sound.advance (h : call.Sound) (enforce : Enforcer) (outcome : AdminOutcome) :
    (call.advance enforce outcome).Sound := by
  cases phase : call.phase with
  | received =>
      simp only [Sound, phase] at h
      simp only [AdminCall.advance, phase]
      split
      · trivial
      · exact Sound.start h _
  | posting admin =>
      simp only [Sound, phase] at h
      obtain ⟨proxy, unmade, unaudited⟩ := h
      simp only [AdminCall.advance, phase]
      split
      · trivial
      · rename_i row written
        have isRow := row_of_rowFor written
        split
        · exact
            { unaudited := unaudited
              isRow := isRow
              only := fun change made => (Option.some.inj made).symm
              proxied := fun write => by simp [proxy] at write }
        · exact
            { unaudited := unaudited
              isRow := isRow
              only := fun change made => by simp [unmade] at made
              proxied := fun _ => unmade }
  | preparing admin statements =>
      simp only [Sound, phase] at h
      obtain ⟨unmade, unaudited⟩ := h
      cases statements with
      | zero =>
          simp only [AdminCall.advance, phase]
          split
          · trivial
          · rename_i row written
            exact
              { unaudited := unaudited
                isRow := Endpoint.change_of_row written
                only := fun change made => by simp [unmade] at made
                proxied := fun _ => unmade }
      | succ left =>
          simp only [AdminCall.advance, phase]
          split
          · exact ⟨unmade, unaudited⟩
          · trivial
  | auditing admin row =>
      simp only [Sound, phase] at h
      simp only [AdminCall.advance, phase]
      split
      · exact ⟨h.unaudited, h.isRow, h.only, h.proxied⟩
      · trivial
  | committing admin row =>
      simp only [Sound, phase] at h
      simp only [AdminCall.advance, phase]
      by_cases durable : outcome.durable = true
      · simp only [if_pos durable]
        split
        · exact sound_finish h.described_commit
        · trivial
      · simp only [durable, Bool.false_and, Bool.false_eq_true, if_false]
        trivial
  | announcing =>
      simp only [AdminCall.advance, phase]
      trivial
  | answered =>
      simp only [AdminCall.advance, phase]
      exact h
  | failed =>
      simp only [AdminCall.advance, phase]
      exact h

/-- The steps of an endpoint that writes its own tables are never in the way. -/
theorem Sound.keepsAudit_of_write (h : call.Sound) (write : call.endpoint.isProxy = false)
    (outcome : AdminOutcome) : call.keepsAudit outcome = true := by
  cases phase : call.phase with
  | posting admin =>
      simp only [Sound, phase] at h
      rw [h.1] at write
      cases write
  | auditing admin row =>
      simp only [Sound, phase] at h
      simp [keepsAudit, phase, h.proxied write]
  | committing admin row =>
      simp only [Sound, phase] at h
      simp [keepsAudit, phase, h.proxied write]
  | received => simp [keepsAudit, phase]
  | preparing admin statements => simp [keepsAudit, phase]
  | announcing => simp [keepsAudit, phase]
  | answered => simp [keepsAudit, phase]
  | failed => simp [keepsAudit, phase]

theorem request_advance (call : AdminCall) (enforce : Enforcer) (outcome : AdminOutcome) :
    (call.advance enforce outcome).toAdminRequest = call.toAdminRequest := by
  have started : ∀ admin, (call.start admin).toAdminRequest = call.toAdminRequest := by
    intro admin
    unfold AdminCall.start
    split <;> rfl
  have finished : ∀ call : AdminCall, call.finish.toAdminRequest = call.toAdminRequest := by
    intro call
    unfold AdminCall.finish
    split <;> rfl
  have committed : ∀ admin row, (call.commit admin row).toAdminRequest = call.toAdminRequest := by
    intro admin row
    unfold AdminCall.commit
    split <;> rfl
  unfold AdminCall.advance
  split
  · split
    · rfl
    · exact started _
  · split
    · split <;> rfl
    · split <;> rfl
  · split <;> rfl
  · split <;> rfl
  · split <;> rfl
  · dsimp only
    split
    · rw [finished]
      split
      · exact committed _ _
      · rfl
    · change (if _ then _ else call : AdminCall).toAdminRequest = _
      split
      · exact committed _ _
      · rfl
  · rfl
  · rfl
  · rfl

/-- A request that fails without an audit row is complete if nothing has been made. -/
theorem complete_fail_iff (unaudited : call.audited = none) :
    call.fail.Complete ↔ call.made = none := by
  rw [complete_iff]
  exact (forall_prop_of_true rfl).trans (described_iff_of_unaudited unaudited)

theorem complete_of_unfinished (unfinished : call.isFinished = false) : call.Complete :=
  complete_iff.2 fun finished => by simp [unfinished] at finished

theorem complete_advance_iff (h : call.Sound) (complete : call.Complete) (enforce : Enforcer)
    (outcome : AdminOutcome) :
    (call.advance enforce outcome).Complete ↔ call.keepsAudit outcome = true := by
  cases phase : call.phase with
  | received =>
      simp only [Sound, phase] at h
      simp only [AdminCall.advance, keepsAudit, phase, iff_true]
      split
      · exact (complete_fail_iff h.2).2 h.1
      · apply complete_of_unfinished
        unfold AdminCall.start
        split <;> rfl
  | posting admin =>
      simp only [Sound, phase] at h
      obtain ⟨-, unmade, unaudited⟩ := h
      simp only [AdminCall.advance, keepsAudit, phase, Bool.or_eq_true, Bool.not_eq_true']
      cases written : call.rowFor admin outcome.reply with
      | none =>
          simp only [Option.isSome_none, Bool.false_eq_true, or_false]
          by_cases made : outcome.made = true
          · rw [if_pos made]
            refine (complete_fail_iff (by exact unaudited)).trans ?_
            simp [made]
          · rw [if_neg made]
            refine (complete_fail_iff unaudited).trans ?_
            simp [unmade, made]
      | some row =>
          simp only [Option.isSome_some, or_true, iff_true]
          exact complete_of_unfinished rfl
  | preparing admin statements =>
      simp only [Sound, phase] at h
      simp only [keepsAudit, phase, iff_true]
      cases statements with
      | zero =>
          simp only [AdminCall.advance, phase]
          split
          · exact (complete_fail_iff h.2).2 h.1
          · exact complete_of_unfinished rfl
      | succ left =>
          simp only [AdminCall.advance, phase]
          split
          · exact complete_of_unfinished rfl
          · exact (complete_fail_iff h.2).2 h.1
  | auditing admin row =>
      simp only [Sound, phase] at h
      simp only [AdminCall.advance, keepsAudit, phase, Bool.or_eq_true, Option.isNone_iff_eq_none]
      split
      · rename_i ok
        exact iff_of_true (complete_of_unfinished rfl) (Or.inr ok)
      · rename_i lost
        rw [complete_fail_iff h.unaudited, or_iff_left lost]
  | committing admin row =>
      simp only [Sound, phase] at h
      simp only [AdminCall.advance, keepsAudit, phase, Bool.or_eq_true, Option.isNone_iff_eq_none]
      by_cases durable : outcome.durable = true
      · simp only [if_pos durable]
        refine iff_of_true (complete_iff.2 fun _ => ?_) (Or.inr durable)
        split
        · exact h.described_commit.finish
        · exact h.described_commit
      · simp only [durable, Bool.false_and, Bool.false_eq_true, if_false]
        rw [complete_fail_iff h.unaudited, or_false]
  | announcing =>
      simp only [Sound, phase] at h
      simp only [AdminCall.advance, keepsAudit, phase, iff_true]
      exact complete_iff.2 fun _ => h
  | answered =>
      simp only [AdminCall.advance, keepsAudit, phase, iff_true]
      exact complete
  | failed =>
      simp only [AdminCall.advance, keepsAudit, phase, iff_true]
      exact complete

end AdminCall

/-! ## Requests under way -/

namespace AuditDesk

/-- An event is the number of a request with an outcome for it. -/
def step (enforce : Enforcer) : (Nat → AdminCall) → Nat × AdminOutcome → Nat → AdminCall :=
  stepAt fun _ => AdminCall.advance enforce

def run (enforce : Enforcer) (requests : Nat → AdminRequest) (events : List (Nat × AdminOutcome)) :
    Nat → AdminCall :=
  runFrom (step enforce) (fun i => (requests i).call) events

variable {enforce : Enforcer}

theorem forall_step {p : AdminCall → Prop} {s : Nat → AdminCall} {event : Nat × AdminOutcome}
    (others : ∀ i, p (s i)) :
    (∀ i, p (step enforce s event i)) ↔ p ((s event.1).advance enforce event.2) := by
  constructor
  · intro h
    have self := h event.1
    rwa [step, stepAt_self] at self
  · intro h i
    by_cases same : event.1 = i
    · obtain rfl := same
      rw [step, stepAt_self]
      exact h
    · rw [step, stepAt_of_ne _ s event same]
      exact others i

theorem audit_complete_iff (enforce : Enforcer) (requests : Nat → AdminRequest)
    (events : List (Nat × AdminOutcome)) :
    (∀ first, first <+: events → ∀ i, (run enforce requests first i).Complete) ↔
      Guarded (step enforce) (fun s event => (s event.1).keepsAudit event.2 = true)
        (fun i => (requests i).call) events := by
  have keeps : ∀ (s : Nat → AdminCall) (event : Nat × AdminOutcome), (∀ i, (s i).Sound) →
      ∀ i, (step enforce s event i).Sound :=
    fun s event h => (forall_step h).2 ((h event.1).advance enforce event.2)
  have exact_step : ∀ (s : Nat → AdminCall) (event : Nat × AdminOutcome), (∀ i, (s i).Sound) →
      (∀ i, (s i).Complete) →
      ((∀ i, (step enforce s event i).Complete) ↔ (s event.1).keepsAudit event.2 = true) := by
    intro s event sound complete
    rw [forall_step complete]
    exact AdminCall.complete_advance_iff (sound event.1) (complete event.1) enforce event.2
  have sound : ∀ i, (requests i).call.Sound := fun i => AdminCall.sound_call (requests i)
  exact prefixes_iff_guarded_of_invariant keeps exact_step sound
    (fun i => AdminCall.complete_of_unfinished rfl) events

theorem request_run (enforce : Enforcer) (requests : Nat → AdminRequest)
    (events : List (Nat × AdminOutcome)) (i : Nat) :
    (run enforce requests events i).toAdminRequest = requests i := by
  have keeps : ∀ (j : Nat) (call : AdminCall) (outcome : AdminOutcome), True →
      call.toAdminRequest = requests j →
      (call.advance enforce outcome).toAdminRequest = requests j :=
    fun _ call outcome _ same => (call.request_advance enforce outcome).trans same
  exact stepAt_invariant_of_guarded keeps (fun _ => rfl)
    (guarded_of_prefixes fun _ _ _ _ => trivial) i

/-- The endpoints that write their own tables are complete at every failure point. -/
theorem writes_complete (enforce : Enforcer) (requests : Nat → AdminRequest)
    (events : List (Nat × AdminOutcome)) {i : Nat}
    (write : (requests i).endpoint.isProxy = false) : (run enforce requests events i).Complete := by
  have keeps : ∀ (s : Nat → AdminCall) (event : Nat × AdminOutcome),
      (∀ i, (s i).Sound ∧ ((s i).endpoint.isProxy = false → (s i).Complete)) →
      ∀ i, (step enforce s event i).Sound ∧
        ((step enforce s event i).endpoint.isProxy = false → (step enforce s event i).Complete) := by
    intro s event h
    obtain ⟨sound, complete⟩ := h event.1
    refine (forall_step (p := fun call => call.Sound ∧
      (call.endpoint.isProxy = false → call.Complete)) h).2
      ⟨sound.advance enforce event.2, fun write => ?_⟩
    rw [AdminCall.request_advance] at write
    apply (AdminCall.complete_advance_iff sound (complete write) enforce event.2).2
    exact sound.keepsAudit_of_write write event.2
  have start : ∀ i, (requests i).call.Sound ∧
      ((requests i).call.endpoint.isProxy = false → (requests i).call.Complete) :=
    fun i => ⟨AdminCall.sound_call _, fun _ => AdminCall.complete_of_unfinished rfl⟩
  obtain ⟨-, complete⟩ := runFrom_invariant keeps start events i
  apply complete
  change (run enforce requests events i).endpoint.isProxy = false
  rw [request_run]
  exact write

/-! ## Some requests -/

/-- Every role may do everything. -/
def everyone : Enforcer := fun _ _ _ => true

def asked (endpoint : Endpoint) (body : JsonBody) : AdminRequest :=
  ⟨endpoint, ⟨.uuid "anna", "super_admin"⟩, body⟩

/-- All outcomes are for one request. -/
def runOne (request : AdminRequest) (outcomes : List AdminOutcome) : AdminCall :=
  run everyone (fun _ => request) (outcomes.map fun outcome => (0, outcome)) 0

/-- The refund is decided, and the row is not inserted. -/
def refundUnlogged : AdminCall :=
  runOne (asked (.decideRefund "r") [("decision", .text "approve")]) [{}, {}, { ok := false }]

/-- The action is applied, and its answer does not arrive. -/
def actionUnanswered : AdminCall :=
  runOne (asked (.takeCaseAction "c") [("action_type", .text "ban")]) [{}, { reply := none }]

/-- The credits are granted, and the transaction is not committed. -/
def grantUncommitted : AdminCall :=
  runOne (asked (.grantCredits {}) [("delta_cents", .number 500)])
    [{}, {}, {}, { durable := false }]

/-- The ticket is resolved with a note that cannot be sliced. -/
def noteUnsliced : AdminCall :=
  runOne (asked (.resolveTicket "t") [("resolution_note", .null)]) [{}, {}]

theorem not_audit_complete :
    ¬ refundUnlogged.Complete ∧ ¬ actionUnanswered.Complete ∧ ¬ grantUncommitted.Complete ∧
      ¬ noteUnsliced.Complete := by
  refine ⟨fun h => ?_, fun h => ?_, fun h => ?_, fun h => ?_⟩
  · exact absurd (h.unmade (by decide +kernel) (by decide +kernel)) (by decide +kernel)
  · exact absurd (h.unmade (by decide +kernel) (by decide +kernel)) (by decide +kernel)
  · exact absurd (h.unmade (by decide +kernel) (by decide +kernel)) (by decide +kernel)
  · exact absurd (h.unmade (by decide +kernel) (by decide +kernel)) (by decide +kernel)

end AuditDesk

end ColabPlatform.Admin
