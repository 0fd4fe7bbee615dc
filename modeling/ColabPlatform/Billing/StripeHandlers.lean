import ColabPlatform.Billing.Webhooks

/-!
# Stripe event handlers

The handlers of `dispatch_stripe_event` besides that of `invoice.paid`, and the
dispatch.  A handler reads the customer first and returns when there is none; it
commits as its last statement, the checkout only after a purchase of credits.
-/

namespace ColabPlatform.Billing

open Common Foundation Foundation.Program

/-- `STRIPE_STATUS_MAP.get(raw, "active")` -/
def stripeStatus (raw : String) : SubStatus :=
  match raw with
  | "trialing" => .trialing
  | "past_due" => .pastDue
  | "canceled" => .canceled
  | "unpaid" => .pastDue
  | "incomplete" => .pastDue
  | "incomplete_expired" => .expired
  | "paused" => .paused
  | _ => .active

def fromSeconds (seconds : Int) : Timestamp := seconds * 1000000

/-- An event with a subscription object; the plan's fields are those of its
first item. -/
structure StripeSub where
  created : Option Int
  customer : Option String
  id : Option String
  status : Option String
  currentPeriodStart : Option Int
  currentPeriodEnd : Option Int
  trialEnd : Option Int
  cancelAtPeriodEnd : Option Bool
  product : Option String
  priceId : Option String
  interval : Option String
  deriving DecidableEq, Repr

namespace StripeSub

variable (event : StripeSub)

def eventTs : Timestamp := fromSeconds (event.created.getD 0)

def storeId : String := event.id.getD ""

def subStatus : SubStatus := stripeStatus (event.status.getD "active")

def periodStart : Timestamp := fromSeconds (event.currentPeriodStart.getD 0)

def periodEnd : Timestamp := fromSeconds (event.currentPeriodEnd.getD 0)

def trialEndAt : Option Timestamp := secondsOrNone event.trialEnd

def yearly : Bool := event.interval.getD "month" = "year"

/-- `_stripe_tier_from_product` -/
def productTier : Tier := mapProductToTier (event.product.getD "")

end StripeSub

def Subscription.newFromStripe (userId : Uuid) (event : StripeSub) (tier : Tier)
    (draws : Draws) : Subscription :=
  { id := draws.subscriptionId, userId, source := .stripe, gateway := .stripe, tier,
    status := event.subStatus, storeSubscriptionId := some event.storeId,
    storeProductId := event.priceId.getD "unknown", yearly := event.yearly,
    currentPeriodStart := event.periodStart, currentPeriodEnd := event.periodEnd,
    cancelAtPeriodEnd := event.cancelAtPeriodEnd.getD false,
    trialEnd := event.trialEndAt, startedAt := event.periodStart, canceledAt := none,
    endedAt := none, updatedAt := draws.now }

/-- A flush of `new` over `old`: `updated_at` moves when a column has changed. -/
def Subscription.flushed (old new : Subscription) (draws : Draws) : Subscription :=
  if new = old then old else { new with updatedAt := draws.now }

/-- What an event that is applied makes of the row. -/
def Subscription.withStripe (sub : Subscription) (event : StripeSub) (tier : Tier)
    (draws : Draws) : Subscription :=
  let status := event.subStatus
  { sub with
    tier
    status
    currentPeriodStart := event.periodStart
    currentPeriodEnd := event.periodEnd
    cancelAtPeriodEnd := event.cancelAtPeriodEnd.getD false
    trialEnd := event.trialEndAt
    canceledAt :=
      if status ∈ [.canceled, .expired] ∧ sub.canceledAt = none then some draws.now
      else sub.canceledAt
    endedAt :=
      if status = .expired ∧ sub.endedAt = none then some draws.now
      else sub.endedAt }

/-- The event is applied when it is not newer than the row's last change. -/
def Subscription.fromStripe (sub : Subscription) (event : StripeSub) (tier : Tier)
    (draws : Draws) : Subscription :=
  if event.eventTs ≤ sub.updatedAt then sub.flushed (sub.withStripe event tier draws) draws
  else sub

def upsertSubscriptionFromStripe (event : StripeSub) (userId : Uuid) (tier : Tier)
    (draws : Draws) : BillingM (Instance Subscription) := do
  let found ← query (Db.subscriptionsFrom .stripe event.storeId)
  match ← scalarOneOrNone found with
  | none =>
      let sub := Subscription.newFromStripe userId event tier draws
      write (Db.insertSubscription sub)
      load sub true
  | some sub =>
      let updated := sub.fromStripe event tier draws
      write fun db => .ok { db with
        subscriptions := db.subscriptions.modify sub.id fun row =>
          { updated with id := row.id } }
      load updated false

/-! ## Subscription events -/

/-- What the three subscription handlers have in common. -/
def handleSubscription (config : TierConfig) (tier : Tier) (event : StripeSub)
    (draws : Draws) : BillingM Unit := do
  match ← query (Db.userOfStripeCustomer (event.customer.getD "")) with
  | none => return
  | some userId =>
      let sub ← upsertSubscriptionFromStripe event userId tier draws
      applyEntitlementsForUser config userId sub draws
      -- the canceled event carries the row's tier
      let _ ← readAttr sub Subscription.tier
      commit

def handleSubCreated (config : TierConfig) (event : StripeSub) (draws : Draws) :
    BillingM Unit :=
  handleSubscription config event.productTier event draws

def handleSubUpdated (config : TierConfig) (event : StripeSub) (draws : Draws) :
    BillingM Unit :=
  handleSubscription config event.productTier event draws

def handleSubCanceled (config : TierConfig) (event : StripeSub) (draws : Draws) :
    BillingM Unit :=
  handleSubscription config .free event draws

/-! ## A failed payment -/

def Db.insertDunningCase (row : DunningCase) (db : Db) : Except DbError Db :=
  (stored true (db.dunningCases.insert? row)).map
    fun dunningCases => { db with dunningCases }

def openDunningCase (userId subscriptionId : Uuid) (draws : Draws) :
    BillingM DunningCase := do
  match ← scalarOneOrNone (← query (Db.openDunningCases subscriptionId)) with
  | some existing => return existing
  | none =>
      let row : DunningCase :=
        { id := draws.dunningCaseId, userId, subscriptionId, openedAt := draws.now,
          state := .day0, lastAttemptAt := some draws.now, recoveredAt := none,
          closedAt := none }
      write (Db.insertDunningCase row)
      return row

/-- `sub.status = "past_due"`, which no time of the event guards. -/
def Subscription.pastDue (sub : Subscription) (draws : Draws) : Subscription :=
  sub.flushed { sub with status := .pastDue } draws

def handleInvoiceFailed (event : StripeInvoice) (draws : Draws) : BillingM Unit := do
  match ← query (Db.userOfStripeCustomer (event.customer.getD "")) with
  | none => return
  | some userId =>
      match event.storeSubscription with
      | none => commit
      | some storeId =>
          match ← scalarOneOrNone (← query (Db.subscriptionsOfStore storeId)) with
          | none => pure ()
          | some row =>
              let updated := row.pastDue draws
              write fun db => .ok { db with
                subscriptions := db.subscriptions.modify row.id fun old =>
                  { updated with id := old.id } }
              let sub ← load updated false
              let _ ← openDunningCase userId (← readAttr sub Subscription.id) draws
              -- the tier goes into `subscription.past_due`
              let _ ← readAttr sub Subscription.tier
          commit

/-! ## Refunded charges -/

structure StripeCharge where
  customer : Option String
  refundId : Option String
  invoice : Option String
  deriving DecidableEq, Repr

def Db.refundRequestsOf (refundId : String) (userId : Uuid) (db : Db) :
    List RefundRequest :=
  db.refundRequests.rows.filter fun rr =>
    rr.stripeRefundId = some refundId ∧ rr.userId = userId

def handleChargeRefunded (event : StripeCharge) (draws : Draws) : BillingM Unit := do
  match ← query (Db.userOfStripeCustomer (event.customer.getD "")) with
  | none => return
  | some userId =>
      let requests ← query (Db.refundRequestsOf (event.refundId.getD "") userId)
      match ← scalarOneOrNone requests with
      | none => pure ()
      | some rr =>
          if rr.status ∈ [.pending, .autoApproved] then
            write fun db => .ok { db with
              refundRequests := db.refundRequests.modify rr.id fun row =>
                { row with status := .approved, decidedAt := some draws.now } }
      match event.invoice.filter (· ≠ "") with
      | none => pure ()
      | some invoiceId =>
          match ← query fun db => db.invoices.lookupAlt invoiceId with
          | none => pure ()
          | some row =>
              write fun db => .ok { db with
                invoices := db.invoices.modify row.id fun old =>
                  { old with status := .refunded } }
      commit

/-! ## Completed checkouts -/

/-- `clientReferenceId` is `none` when it is absent or no UUID; a credit amount
that is absent or zero buys nothing. -/
structure StripeCheckout where
  mode : Option String
  clientReferenceId : Option Uuid
  customer : Option String
  id : Option String
  creditAmount : Option Int
  deriving DecidableEq, Repr

namespace Db

/-- The second unique column of `customers`. -/
def stripeCustomerTaken (stripeCustomerId : Option String) (db : Db) : Bool :=
  stripeCustomerId.any fun id =>
    db.customers.rows.any fun row => row.stripeCustomerId = some id

def linkStripeCustomer (customerId : Uuid) (stripeCustomerId : String) (db : Db) :
    Except DbError Db :=
  if ¬ isVarchar 64 stripeCustomerId then .error .data
  else if db.stripeCustomerTaken (some stripeCustomerId) then .error .integrity
  else .ok { db with
    customers := db.customers.modify customerId fun row =>
      { row with stripeCustomerId := some stripeCustomerId } }

def insertStripeCustomer (customer : Customer) (db : Db) : Except DbError Db :=
  if ¬ customer.stripeCustomerId.all (isVarchar 64) then .error .data
  else if db.stripeCustomerTaken customer.stripeCustomerId then .error .integrity
  else db.insertCustomer customer

end Db

def linkCustomer (userId : Uuid) (stripeCustomerId : Option String) (draws : Draws) :
    BillingM Unit := do
  match ← query fun db => db.customers.lookupAlt userId with
  | none =>
      write (Db.insertStripeCustomer
        { id := draws.customerId, userId, stripeCustomerId,
          revenuecatUserId := userId.text })
  | some customer =>
      match customer.stripeCustomerId.filter (· ≠ ""),
          stripeCustomerId.filter (· ≠ "") with
      | none, some id => write (Db.linkStripeCustomer customer.id id)
      | _, _ => return

def purchaseKey (sessionId : String) : String := "purchase:" ++ sessionId

def handleCheckoutCompleted (event : StripeCheckout) (draws : Draws) :
    BillingM Unit := do
  match event.clientReferenceId with
  | none => return
  | some userId =>
      linkCustomer userId event.customer draws
      if event.mode = some "payment" then
        let sessionId := event.id.getD ""
        match event.creditAmount.filter (· ≠ 0) with
        | none => return
        | some amount =>
            let _ ← creditPurchase userId amount "stripe_checkout" sessionId
              (purchaseKey sessionId) draws.transactionId draws.now
            commit

/-! ## Dispatch -/

/-- `unknown` is an event of a type that has no handler. -/
inductive StripeEvent where
  | checkoutCompleted (event : StripeCheckout)
  | subCreated (event : StripeSub)
  | subUpdated (event : StripeSub)
  | subDeleted (event : StripeSub)
  | invoicePaid (event : StripeInvoice)
  | invoiceFailed (event : StripeInvoice)
  | chargeRefunded (event : StripeCharge)
  | unknown
  deriving DecidableEq, Repr

/-- `dispatch_stripe_event` -/
def dispatchStripeEvent (config : TierConfig) (draws : Draws) :
    StripeEvent → BillingM Unit
  | .checkoutCompleted event => handleCheckoutCompleted event draws
  | .subCreated event => handleSubCreated config event draws
  | .subUpdated event => handleSubUpdated config event draws
  | .subDeleted event => handleSubCanceled config event draws
  | .invoicePaid event => handleInvoicePaid config draws.grant event draws
  | .invoiceFailed event => handleInvoiceFailed event draws
  | .chargeRefunded event => handleChargeRefunded event draws
  | .unknown => return

end ColabPlatform.Billing
