import ColabPlatform.Billing.Model
import ColabPlatform.Common.Text
import ColabPlatform.Foundation.Run

/-!
# Billing service: refund requests

A refund request is created by a user and may be approved at once; an
administrator can decide any request.  Both ways end in a call to Stripe, which
executes one refund for each idempotency key.  What Stripe has executed is kept
in order, with the rows that the service had looked up for the call.
-/

namespace ColabPlatform.Billing.Refunds

open Common Foundation

/-- An invoice row with its time of creation.  That Stripe issued it for
`subscriptionId` is not in the row. -/
structure BilledInvoice where
  row : Invoice
  createdAt : Timestamp
  subscriptionId : Uuid
  deriving DecidableEq, Repr

/-- A call of `stripe.Refund.create` with the rows it was made for. -/
structure RefundCall where
  idempotencyKey : String
  userId : Uuid
  sub : Subscription
  invoice : BilledInvoice
  amount : Option Int
  deriving DecidableEq, Repr

/-- An error may be raised although the refund was executed. -/
inductive StripeReply where
  | refund (id : String) (amount : Int) (currency : String)
  | error (executed : Bool) (message : String)
  deriving DecidableEq, Repr

def StripeReply.executed : StripeReply → Bool
  | .refund _ _ _ => true
  | .error executed _ => executed

structure Books where
  subscriptions : Table Subscription Subscription.id (noAlt Subscription)
  invoices : List BilledInvoice
  requests : Table RefundRequest RefundRequest.id (noAlt RefundRequest)
  refunds : List RefundCall

namespace Books

def empty : Books := ⟨.empty, [], .empty, []⟩

/-- Stripe executes a refund for a key that it has not seen. -/
def execute (call : RefundCall) (reply : StripeReply) (s : Books) : Books :=
  if reply.executed ∧ call.idempotencyKey ∉ s.refunds.map RefundCall.idempotencyKey then
    { s with refunds := s.refunds ++ [call] }
  else s

/-! ## Lookups -/

/-- `.order_by(Invoice.created_at.desc())` and `first()`: of several newest
invoices of a user any may be returned. -/
def newestInvoice (pick : Uuid) (userId : Uuid) (s : Books) : Option BilledInvoice :=
  let own := s.invoices.filter fun invoice => invoice.row.userId = userId
  let newest := own.filter fun invoice => own.all fun other =>
    other.createdAt ≤ invoice.createdAt
  (newest.find? fun invoice => invoice.row.id = pick).or newest.head?

/-- The newest invoice, if it has a Stripe id. -/
def stripeInvoice (pick userId : Uuid) (s : Books) : Option BilledInvoice :=
  (s.newestInvoice pick userId).filter fun invoice =>
    (invoice.row.stripeInvoiceId.filter (· ≠ "")).isSome

def subscription (subscriptionId : Option Uuid) (s : Books) : Option Subscription :=
  subscriptionId.bind s.subscriptions.lookup

end Books

/-! ## Creating a request -/

def refundWindowDays : Int := 14

def microsPerDay : Int := 86400000000

/-- `_within_14_days` -/
def within14Days (sub : Subscription) (now : Timestamp) : Bool :=
  now ≤ sub.startedAt + refundWindowDays * microsPerDay

/-- `_compute_proration`, whose amount is left to the administrator. -/
def computeProration (sub : Subscription) (now : Timestamp) : Int :=
  let totalDays := (sub.currentPeriodEnd - sub.currentPeriodStart) / microsPerDay
  let remainingDays := (sub.currentPeriodEnd - now) / microsPerDay
  if totalDays ≤ 0 ∨ remainingDays ≤ 0 then 0 else 0

/-- The call that `_auto_approve_stripe_refund` makes. -/
def autoCall (pick userId : Uuid) (sub : Subscription) (s : Books) : Option RefundCall :=
  (s.stripeInvoice pick userId).map fun invoice =>
    ⟨"refund:" ++ sub.id.text ++ ":" ++ userId.text, userId, sub, invoice, none⟩

/-- `_auto_approve_stripe_refund` -/
def autoApproveStripeRefund (now : Timestamp) (pick : Uuid) (reply : StripeReply)
    (rr : RefundRequest) (sub : Subscription) (s : Books) : RefundRequest × Books :=
  match autoCall pick rr.userId sub s with
  | none =>
      ({ rr with
        status := .pending
        reasonInternal := some "No Stripe invoice found; manual review required." }, s)
  | some call =>
      let s := s.execute call reply
      match reply with
      | .refund id amount currency =>
          ({ rr with
            status := .autoApproved
            stripeRefundId := some id
            refundAmountMinor := some amount
            refundCurrency := some (upper currency)
            decidedAt := some now }, s)
      | .error _ message =>
          ({ rr with
            status := .pending
            reasonInternal := some ("Stripe refund failed: " ++ message) }, s)

/-- The arguments of `create_refund_request`, and the id that is drawn. -/
structure RefundRequestCreate where
  id : Uuid
  userId : Uuid
  kind : String
  subscriptionId : Option Uuid
  transactionId : Option Uuid
  reasonUser : Option String
  deriving DecidableEq, Repr

/-- The row as it is first flushed. -/
def RefundRequestCreate.row (body : RefundRequestCreate) (now : Timestamp)
    (sub : Option Subscription) : RefundRequest where
  id := body.id
  userId := body.userId
  kind := body.kind
  subscriptionId := body.subscriptionId
  transactionId := body.transactionId
  requestedAt := now
  within14d := sub.any fun sub => within14Days sub now
  reasonUser := body.reasonUser
  reasonInternal := none
  status := .pending
  decidedAt := none
  decidedBy := none
  refundAmountMinor := none
  refundCurrency := none
  stripeRefundId := none

/-- The part of `create_refund_request` after the first flush. -/
def settleRequest (now : Timestamp) (pick : Uuid) (reply : StripeReply)
    (rr : RefundRequest) (sub : Option Subscription) (s : Books) : RefundRequest × Books :=
  match sub with
  | none => (rr, s)
  | some sub =>
      match sub.gateway with
      | .apple => ({ rr with status := .routedToApple }, s)
      | .google => ({ rr with status := .routedToGoogle }, s)
      | .stripe | .paddleIn =>
          if rr.within14d then autoApproveStripeRefund now pick reply rr sub s
          else if sub.yearly then
            let proration := computeProration sub now
            ({ rr with
              refundAmountMinor := some proration
              refundCurrency := some "USD"
              reasonInternal := some ("Prorated refund computed: " ++ toString proration ++
                " minor units. Awaiting admin.") }, s)
          else
            ({ rr with
              status := .denied
              reasonInternal :=
                some "Outside 14-day window; monthly subscription not refundable."
              decidedAt := some now }, s)

/-- The refund stays executed when the commit fails and the row is rolled back. -/
def createRefundRequest (now : Timestamp) (body : RefundRequestCreate) (pick : Uuid)
    (reply : StripeReply) (commits : Bool) (s : Books) : Books :=
  let sub := s.subscription body.subscriptionId
  let rr := body.row now sub
  match s.requests.insert? rr with
  | none => s
  | some _ =>
      let (rr, after) := settleRequest now pick reply rr sub s
      if commits then
        { after with requests := (s.requests.insert? rr).getD s.requests }
      else after

/-! ## Deciding a request -/

inductive Decision where
  | approve
  | deny
  deriving DecidableEq, Repr

/-- The call that `admin_decide_refund` makes. -/
def adminCall (pick adminUserId : Uuid) (decision : Decision) (rr : RefundRequest)
    (s : Books) : Option RefundCall :=
  if decision = .approve then
    (s.subscription rr.subscriptionId).bind fun sub =>
      if sub.gateway = .stripe then
        (s.stripeInvoice pick rr.userId).map fun invoice =>
          ⟨"admin-refund:" ++ rr.id.text ++ ":" ++ adminUserId.text, rr.userId, sub,
            invoice, rr.refundAmountMinor.filter (· ≠ 0)⟩
      else none
  else none

def withRefund (reply : StripeReply) (rr : RefundRequest) : RefundRequest :=
  match reply with
  | .refund id amount currency =>
      { rr with
        stripeRefundId := some id
        refundAmountMinor := some amount
        refundCurrency := some (upper currency) }
  | .error _ _ => rr

def withDecision (now : Timestamp) (adminUserId : Uuid) (decision : Decision)
    (internalNote : Option String) (rr : RefundRequest) : RefundRequest :=
  { rr with
    status := if decision = .approve then .approved else .denied
    decidedAt := some now
    decidedBy := some adminUserId
    reasonInternal := (internalNote.filter (· ≠ "")).or rr.reasonInternal }

theorem id_withRefund (reply : StripeReply) (rr : RefundRequest) :
    (withRefund reply rr).id = rr.id := by
  cases reply <;> rfl

/-- No status of the request keeps it from being decided. -/
def adminDecideRefund (now : Timestamp) (refundRequestId adminUserId : Uuid)
    (decision : Decision) (internalNote : Option String) (pick : Uuid)
    (reply : StripeReply) (commits : Bool) (s : Books) : Books :=
  match s.requests.lookup refundRequestId with
  | none => s
  | some rr =>
      let call := adminCall pick adminUserId decision rr s
      let after := call.elim s fun call => s.execute call reply
      if commits then
        { after with
          requests := s.requests.modify refundRequestId
            (fun rr => withDecision now adminUserId decision internalNote
              (if call.isSome then withRefund reply rr else rr))
            (fun rr => by cases call <;> simp [withDecision, id_withRefund]) }
      else after

/-! ## Runs -/

inductive Event where
  | subscribed (sub : Subscription)
  | invoicePaid (invoice : BilledInvoice)
  | create (now : Timestamp) (body : RefundRequestCreate) (pick : Uuid)
      (reply : StripeReply) (commits : Bool)
  | decide (now : Timestamp) (refundRequestId adminUserId : Uuid) (decision : Decision)
      (internalNote : Option String) (pick : Uuid) (reply : StripeReply)
      (commits : Bool)
  deriving DecidableEq, Repr

def step (s : Books) : Event → Books
  | .subscribed sub =>
      { s with subscriptions := (s.subscriptions.insert? sub).getD s.subscriptions }
  | .invoicePaid invoice => { s with invoices := s.invoices ++ [invoice] }
  | .create now body pick reply commits =>
      createRefundRequest now body pick reply commits s
  | .decide now refundRequestId adminUserId decision internalNote pick reply commits =>
      adminDecideRefund now refundRequestId adminUserId decision internalNote pick reply
        commits s

/-! ## At most once, on the right invoice, for the owner -/

/-- The calls to Stripe that were executed; each names the invoice it refunds. -/
def RefundedOnce (s : Books) : Prop :=
  (s.refunds.map fun call => call.invoice.row.stripeInvoiceId).Nodup

def RefundedForOwner (s : Books) : Prop :=
  ∀ call ∈ s.refunds,
    call.invoice.subscriptionId = call.sub.id ∧ call.sub.userId = call.userId

def Sound (s : Books) : Prop := RefundedOnce s ∧ RefundedForOwner s

instance (s : Books) : Decidable (RefundedOnce s) :=
  inferInstanceAs (Decidable (List.Nodup _))

instance (s : Books) : Decidable (RefundedForOwner s) :=
  inferInstanceAs (Decidable (∀ call ∈ s.refunds, _ ∧ _))

/-- The call that reaches Stripe in a step, and Stripe's reply. -/
def stripeCall (s : Books) : Event → Option (RefundCall × StripeReply)
  | .subscribed _ | .invoicePaid _ => none
  | .create now body pick reply _ =>
      if body.id ∈ s.requests.rows.map RefundRequest.id then none
      else
        (s.subscription body.subscriptionId).bind fun sub =>
          if (sub.gateway = .stripe ∨ sub.gateway = .paddleIn) ∧ within14Days sub now then
            (autoCall pick body.userId sub s).map fun call => (call, reply)
          else none
  | .decide _ refundRequestId adminUserId decision _ pick reply _ =>
      (s.requests.lookup refundRequestId).bind fun rr =>
        (adminCall pick adminUserId decision rr s).map fun call => (call, reply)

/--
A refund that Stripe executes is for the subscription's own user, whose newest
invoice is one of that subscription and was not refunded under another key.
-/
def OwnUnrefunded (s : Books) (e : Event) : Prop :=
  ∀ p ∈ stripeCall s e, p.2.executed = true →
    p.1.idempotencyKey ∉ s.refunds.map RefundCall.idempotencyKey →
      p.1.sub.userId = p.1.userId ∧ p.1.invoice.subscriptionId = p.1.sub.id ∧
        p.1.invoice.row.stripeInvoiceId ∉
          s.refunds.map fun call => call.invoice.row.stripeInvoiceId

instance (s : Books) (e : Event) : Decidable (OwnUnrefunded s e) :=
  inferInstanceAs (Decidable (∀ p ∈ stripeCall s e, _ → _ → _ ∧ _ ∧ _))

/-! ## One step -/

theorem Books.refunds_execute (call : RefundCall) (reply : StripeReply) (s : Books) :
    (s.execute call reply).refunds =
      if reply.executed = true ∧
          call.idempotencyKey ∉ s.refunds.map RefundCall.idempotencyKey then
        s.refunds ++ [call]
      else s.refunds := by
  unfold Books.execute
  split <;> rfl

theorem refunds_autoApprove (now : Timestamp) (pick : Uuid) (reply : StripeReply)
    (rr : RefundRequest) (sub : Subscription) (s : Books) :
    (autoApproveStripeRefund now pick reply rr sub s).2.refunds =
      (autoCall pick rr.userId sub s).elim s.refunds fun call =>
        (s.execute call reply).refunds := by
  unfold autoApproveStripeRefund
  cases autoCall pick rr.userId sub s with
  | none => rfl
  | some call => cases reply <;> rfl

theorem refunds_settleRequest (now : Timestamp) (pick : Uuid) (reply : StripeReply)
    (body : RefundRequestCreate) (sub : Subscription) (s : Books) :
    (settleRequest now pick reply (body.row now (some sub)) (some sub) s).2.refunds =
      if (sub.gateway = .stripe ∨ sub.gateway = .paddleIn) ∧ within14Days sub now then
        (autoCall pick body.userId sub s).elim s.refunds fun call =>
          (s.execute call reply).refunds
      else s.refunds := by
  have within : (body.row now (some sub)).within14d = within14Days sub now := rfl
  simp only [settleRequest, within]
  cases gateway : sub.gateway with
  | apple => simp
  | google => simp
  | stripe | paddleIn =>
      by_cases early : within14Days sub now = true
      · simp only [early, if_true, refunds_autoApprove]
        simp [RefundRequestCreate.row]
      · simp only [early]
        by_cases yearly : sub.yearly = true <;> simp [yearly]

theorem refunds_step (s : Books) (e : Event) :
    (step s e).refunds =
      (stripeCall s e).elim s.refunds fun p => (s.execute p.1 p.2).refunds := by
  cases e with
  | subscribed sub => rfl
  | invoicePaid invoice => rfl
  | create now body pick reply commits =>
      have clash : s.requests.Clashes (body.row now (s.subscription body.subscriptionId)) ↔
          body.id ∈ s.requests.rows.map RefundRequest.id := by
        simp [Table.Clashes, RefundRequestCreate.row, noAlt]
      simp only [step, stripeCall, createRefundRequest]
      cases inserted : s.requests.insert? (body.row now (s.subscription body.subscriptionId)) with
      | none => simp [clash.1 (Table.insert?_eq_none_iff.1 inserted)]
      | some requests =>
          have fresh := mt clash.2 (Table.insert?_eq_some inserted).1
          rw [if_neg fresh]
          have kept : ∀ after : RefundRequest × Books,
              (if commits then
                { after.2 with requests := (s.requests.insert? after.1).getD s.requests }
              else after.2).refunds = after.2.refunds := by
            intro after
            cases commits <;> rfl
          refine (kept _).trans ?_
          cases s.subscription body.subscriptionId with
          | none => rfl
          | some sub =>
              rw [refunds_settleRequest]
              simp only [Option.bind_some]
              split
              · cases autoCall pick body.userId sub s <;> rfl
              · rfl
  | decide now refundRequestId adminUserId decision internalNote pick reply commits =>
      simp only [step, stripeCall, adminDecideRefund]
      cases s.requests.lookup refundRequestId with
      | none => rfl
      | some rr =>
          have executed : ∀ call : Option RefundCall,
              (call.elim s fun call => s.execute call reply).refunds =
                (call.map fun call => (call, reply)).elim s.refunds fun p =>
                  (s.execute p.1 p.2).refunds := by
            intro call
            cases call <;> rfl
          cases commits <;> exact executed _

theorem sound_step (s : Books) (e : Event) :
    Sound (step s e) ↔ Sound s ∧ OwnUnrefunded s e := by
  unfold Sound RefundedOnce RefundedForOwner OwnUnrefunded
  rw [refunds_step]
  cases stripeCall s e with
  | none => simp
  | some p =>
      obtain ⟨call, reply⟩ := p
      simp only [Option.elim_some, Books.refunds_execute, Option.mem_def,
        Option.some.injEq, forall_eq']
      by_cases fresh : reply.executed = true ∧
          call.idempotencyKey ∉ s.refunds.map RefundCall.idempotencyKey
      · simp only [fresh, if_true, not_false_eq_true, true_implies, and_self,
          List.map_append, List.map_cons, List.map_nil, List.forall_mem_append,
          List.forall_mem_singleton]
        rw [← List.concat_eq_append, List.nodup_concat]
        tauto
      · rw [if_neg fresh]
        tauto

def ana : Uuid := ⟨"ana"⟩

def sampleSub : Subscription where
  id := ⟨"s1"⟩
  userId := ana
  source := .stripe
  gateway := .stripe
  tier := .pro
  status := .active
  storeSubscriptionId := some "sub_1"
  storeProductId := "pro_monthly"
  yearly := false
  currentPeriodStart := 0
  currentPeriodEnd := 30 * microsPerDay
  cancelAtPeriodEnd := false
  trialEnd := none
  startedAt := 0
  canceledAt := none
  endedAt := none
  updatedAt := 0

def sampleInvoice : BilledInvoice where
  row := ⟨⟨"i1"⟩, ana, some "in_1", 2000, "USD", 0, .paid, some 0, none, none, none⟩
  createdAt := 1
  subscriptionId := ⟨"s1"⟩

def requestOfAna : RefundRequestCreate :=
  ⟨⟨"rr1"⟩, ana, "subscription", some ⟨"s1"⟩, none, none⟩

/-- Ana's request is approved at once; an administrator then approves it again. -/
def approvedTwice : List Event :=
  [.subscribed sampleSub, .invoicePaid sampleInvoice,
    .create 5 requestOfAna ⟨"i1"⟩ (.refund "re_1" 2000 "usd") true,
    .decide 6 ⟨"rr1"⟩ ⟨"admin"⟩ .approve none ⟨"i1"⟩ (.refund "re_2" 2000 "usd") true]

end ColabPlatform.Billing.Refunds
