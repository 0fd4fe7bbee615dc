import ColabPlatform.Billing.Credits
import ColabPlatform.Billing.Subscriptions

/-!
# Billing webhooks

The two endpoints open a plain session, pass the event ledger and run the
handler of the event; the handlers commit by themselves.  What the session has
not committed when the endpoint answers is lost.

The handlers are written over the grant they call, so that a run can be compared
with the one in which the grant finds its credits already there and does
nothing else.
-/

namespace ColabPlatform.Billing

open Common Foundation Foundation.Program

/-- `grant_subscription_credits`, as a handler calls it. -/
abbrev Grant := Uuid → Int → Uuid → Timestamp → BillingM (Option CreditTransaction)

def Draws.grant (draws : Draws) : Grant := fun userId amount subscriptionId start =>
  grantSubscriptionCredits userId amount subscriptionId start
    draws.transactionId draws.now

/-- A grant that reports "already granted" and leaves the session alone. -/
def alreadyGranted : Grant := fun _ _ _ _ => return none

/-! ## Handlers -/

def Db.insertCustomer (customer : Customer) (db : Db) : Except DbError Db :=
  (stored (isVarchar 64 customer.revenuecatUserId)
    (db.customers.insert? customer)).map fun customers => { db with customers }

/-- `_ensure_customer` -/
def ensureCustomer (userId : Uuid) (draws : Draws) : BillingM Unit := do
  match ← query fun db => db.customers.lookupAlt userId with
  | some _ => return
  | none =>
      write (Db.insertCustomer
        { id := draws.customerId, userId, stripeCustomerId := none,
          revenuecatUserId := userId.text })

/-- The grant that each handler makes when the tier carries monthly credits. -/
def grantMonthlyCredits (config : TierConfig) (grant : Grant) (userId : Uuid)
    (sub : Instance Subscription) : BillingM Unit := do
  let credits := config.aiCredits (← readAttr sub Subscription.tier)
  if 0 < credits then
    let id ← readAttr sub Subscription.id
    let start ← readAttr sub Subscription.currentPeriodStart
    let _ ← grant userId credits id start

/-- The time that the handlers pass along for an event. -/
def RcEvent.eventTs (event : RcEvent) : Timestamp :=
  fromMillis (event.purchasedAtMs.getD 0)

def handleRcInitialPurchase (config : TierConfig) (grant : Grant)
    (event : RcEvent) (draws : Draws) : BillingM Unit := do
  match event.appUserId with
  | none => return
  | some userId =>
      ensureCustomer userId draws
      let sub ← upsertSubscriptionFromRc event userId .initialPurchase
        event.eventTs draws
      applyEntitlementsForUser config userId sub draws
      grantMonthlyCredits config grant userId sub
      -- the tier goes into `entitlement.changed`
      let _ ← readAttr sub Subscription.tier
      commit

def handleRcRenewal (config : TierConfig) (grant : Grant) (event : RcEvent)
    (draws : Draws) : BillingM Unit := do
  match event.appUserId with
  | none => return
  | some userId =>
      let sub ← upsertSubscriptionFromRc event userId .renewal event.eventTs draws
      applyEntitlementsForUser config userId sub draws
      let _ ← markRecovered (← readAttr sub Subscription.id) draws
      grantMonthlyCredits config grant userId sub
      -- the tier goes into `entitlement.changed`
      let _ ← readAttr sub Subscription.tier
      commit

/-- The invoice object of an `invoice.paid` event, absent fields as `none`. -/
structure StripeInvoice where
  customer : Option String
  id : Option String
  amountPaid : Option Int
  currency : Option String
  tax : Option Int
  periodStart : Option Int
  periodEnd : Option Int
  hostedInvoiceUrl : Option String
  invoicePdf : Option String
  subscription : Option String
  deriving DecidableEq, Repr

namespace Db

/-- `_get_user_id_from_stripe_customer` -/
def userOfStripeCustomer (stripeCustomerId : String) (db : Db) : Option Uuid :=
  (db.customers.rows.find? fun row =>
    row.stripeCustomerId = some stripeCustomerId).map Customer.userId

def invoiceFits (invoice : Invoice) : Bool :=
  invoice.stripeInvoiceId.all (isVarchar 64) && isBigInt invoice.amountMinor &&
    isVarchar 3 invoice.currency && isBigInt invoice.taxMinor

def insertInvoice (invoice : Invoice) (db : Db) : Except DbError Db :=
  (stored (invoiceFits invoice) (db.invoices.insert? invoice)).map
    fun invoices => { db with invoices }

/-- The rows that `store_subscription_id = …` selects. -/
def subscriptionsOfStore (storeId : String) (db : Db) : List Subscription :=
  db.subscriptions.rows.filter fun sub => sub.storeSubscriptionId = some storeId

end Db

/-- A present, nonzero timestamp in seconds. -/
def secondsOrNone (seconds : Option Int) : Option Timestamp :=
  (seconds.filter (· ≠ 0)).map (· * 1000000)

def StripeInvoice.paidRow (event : StripeInvoice) (userId : Uuid)
    (draws : Draws) : Invoice :=
  { id := draws.invoiceId, userId, stripeInvoiceId := some (event.id.getD ""),
    amountMinor := event.amountPaid.getD 0,
    currency := upper (event.currency.getD "usd"),
    taxMinor := event.tax.getD 0, status := .paid,
    periodStart := secondsOrNone event.periodStart,
    periodEnd := secondsOrNone event.periodEnd,
    hostedInvoiceUrl := event.hostedInvoiceUrl, pdfUrl := event.invoicePdf }

def markInvoicePaid (event : StripeInvoice) (userId : Uuid) (draws : Draws) :
    BillingM Unit := do
  match ← query fun db => db.invoices.lookupAlt (event.id.getD "") with
  | none => write (Db.insertInvoice (event.paidRow userId draws))
  | some row =>
      write fun db => .ok { db with
        invoices := db.invoices.modify row.id fun old =>
          { old with status := .paid } }

/-- An absent or empty subscription field is falsy. -/
def StripeInvoice.storeSubscription (event : StripeInvoice) : Option String :=
  event.subscription.filter (· ≠ "")

def handleInvoicePaid (config : TierConfig) (grant : Grant)
    (event : StripeInvoice) (draws : Draws) : BillingM Unit := do
  match ← query (Db.userOfStripeCustomer (event.customer.getD "")) with
  | none => return
  | some userId =>
      markInvoicePaid event userId draws
      match event.storeSubscription with
      | none => commit
      | some storeId =>
          match ← scalarOneOrNone (← query (Db.subscriptionsOfStore storeId)) with
          | none => pure ()
          | some row =>
              let sub ← load row false
              if (← readAttr sub Subscription.tier) ≠ .free then
                grantMonthlyCredits config grant userId sub
          match ← scalarOneOrNone (← query (Db.subscriptionsOfStore storeId)) with
          | none => pure ()
          | some row =>
              let sub ← load row false
              let _ ← markRecovered (← readAttr sub Subscription.id) draws
          commit

/-! ## Endpoints -/

inductive WebhookReply where
  | ok
  | duplicate
  | internalError
  deriving DecidableEq, Repr

def Db.insertWebhookEvent (event : WebhookEvent) (db : Db) : Except DbError Db :=
  (stored (isVarchar 128 event.providerEventId && isVarchar 64 event.eventType)
    (db.webhookEvents.insert? event)).map
      fun webhookEvents => { db with webhookEvents }

/-- Insert with `ON CONFLICT DO NOTHING`; whether a row was inserted. -/
def insertLedgerEvent (event : WebhookEvent) : BillingM Bool := do
  match ← query fun db => db.webhookEvents.lookup event.eventKey with
  | some _ => return false
  | none =>
      write (Db.insertWebhookEvent event)
      return true

def receiveEvent (event : WebhookEvent) (handler : BillingM Unit) :
    BillingM WebhookReply := do
  if ← insertLedgerEvent event then
    handler
    return .ok
  return .duplicate

/-- The answer of an endpoint and what is committed when it answers. -/
def endpoint (event : WebhookEvent) (handler : BillingM Unit) (db : Db) :
    WebhookReply × Db :=
  match (receiveEvent event handler).run (Session.start false db) with
  | .ok reply s => (reply, s.committed)
  | .error _ s => (.internalError, s.committed)

end ColabPlatform.Billing
