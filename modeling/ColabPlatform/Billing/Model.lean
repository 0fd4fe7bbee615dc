import ColabPlatform.Foundation.Session
import ColabPlatform.Foundation.Table

/-!
# Billing: rows and tables

The rows of the schema `billing` with the columns that the modelled code reads
or writes, and the statements that change the tables.  A `BIGINT` out of range
or a `VARCHAR` that is too long is a data error; a repeated unique column is an
integrity error.
-/

namespace ColabPlatform.Billing

open Foundation

/-- A UUID, as its canonical text: `str(u)` in the source. -/
structure Uuid where
  text : String
  deriving DecidableEq, Repr

/-- Microseconds since the epoch, UTC. -/
abbrev Timestamp := Int

/-! ## Enumerated columns -/

inductive TxStatus where
  | reserved
  | committed
  | released
  | reversed
  deriving DecidableEq, Repr

inductive TxReason where
  | purchase
  | adminGrant
  | subscriptionGrant
  | consume
  | reserve
  | release
  | refund
  | expire
  deriving DecidableEq, Repr

inductive Tier where
  | free
  | premium
  | pro
  deriving DecidableEq, Repr

inductive SubStatus where
  | trialing
  | active
  | pastDue
  | grace
  | paused
  | canceled
  | expired
  deriving DecidableEq, Repr

inductive SubSource where
  | stripe
  | revenuecat
  deriving DecidableEq, Repr

inductive SubGateway where
  | stripe
  | apple
  | google
  | paddleIn
  deriving DecidableEq, Repr

inductive DunningState where
  | day0
  | day3
  | day7
  | day10Canceled
  | day30GraceExpired
  | recovered
  deriving DecidableEq, Repr

inductive InvoiceStatus where
  | draft
  | «open»
  | paid
  | uncollectible
  | void
  | refunded
  | partialRefund
  deriving DecidableEq, Repr

inductive RefundStatus where
  | autoApproved
  | pending
  | approved
  | denied
  | routedToApple
  | routedToGoogle
  deriving DecidableEq, Repr

/-- The JSON values an entitlement axis takes. -/
inductive AxisValue where
  | int (value : Int)
  | bool (value : Bool)
  | text (value : String)
  deriving DecidableEq, Repr

/-! ## Rows -/

structure Customer where
  id : Uuid
  userId : Uuid
  stripeCustomerId : Option String
  revenuecatUserId : String
  deriving DecidableEq, Repr

structure Subscription where
  id : Uuid
  userId : Uuid
  source : SubSource
  gateway : SubGateway
  tier : Tier
  status : SubStatus
  storeSubscriptionId : Option String
  storeProductId : String
  yearly : Bool
  currentPeriodStart : Timestamp
  currentPeriodEnd : Timestamp
  cancelAtPeriodEnd : Bool
  trialEnd : Option Timestamp
  startedAt : Timestamp
  canceledAt : Option Timestamp
  endedAt : Option Timestamp
  updatedAt : Timestamp
  deriving DecidableEq, Repr

/-- The key is the unique constraint on user, axis, source and source row. -/
structure EntitlementSnapshot where
  userId : Uuid
  axisKey : String
  value : AxisValue
  source : String
  sourceRef : Uuid
  expiresAt : Option Timestamp
  updatedAt : Timestamp
  deriving DecidableEq, Repr

def EntitlementSnapshot.slot (snapshot : EntitlementSnapshot) :
    Uuid × String × String × Uuid :=
  (snapshot.userId, snapshot.axisKey, snapshot.source, snapshot.sourceRef)

structure CreditWallet where
  userId : Uuid
  balance : Int
  updatedAt : Timestamp
  deriving DecidableEq, Repr

structure CreditTransaction where
  id : Uuid
  userId : Uuid
  delta : Int
  reason : TxReason
  referenceKind : String
  referenceId : String
  idempotencyKey : String
  status : TxStatus
  committedAt : Option Timestamp
  deriving DecidableEq, Repr

structure Invoice where
  id : Uuid
  userId : Uuid
  stripeInvoiceId : Option String
  amountMinor : Int
  currency : String
  taxMinor : Int
  status : InvoiceStatus
  periodStart : Option Timestamp
  periodEnd : Option Timestamp
  hostedInvoiceUrl : Option String
  pdfUrl : Option String
  deriving DecidableEq, Repr

structure RefundRequest where
  id : Uuid
  userId : Uuid
  kind : String
  subscriptionId : Option Uuid
  transactionId : Option Uuid
  requestedAt : Timestamp
  within14d : Bool
  reasonUser : Option String
  reasonInternal : Option String
  status : RefundStatus
  decidedAt : Option Timestamp
  decidedBy : Option Uuid
  refundAmountMinor : Option Int
  refundCurrency : Option String
  stripeRefundId : Option String
  deriving DecidableEq, Repr

structure WebhookEvent where
  provider : SubSource
  providerEventId : String
  eventType : String
  eventTimestamp : Timestamp
  receivedAt : Timestamp
  deriving DecidableEq, Repr

def WebhookEvent.eventKey (event : WebhookEvent) : SubSource × String :=
  (event.provider, event.providerEventId)

structure DunningCase where
  id : Uuid
  userId : Uuid
  subscriptionId : Uuid
  openedAt : Timestamp
  state : DunningState
  lastAttemptAt : Option Timestamp
  recoveredAt : Option Timestamp
  closedAt : Option Timestamp
  deriving DecidableEq, Repr

/-! ## The database -/

structure Db where
  customers : Table Customer Customer.id fun row => some row.userId
  subscriptions : Table Subscription Subscription.id (noAlt Subscription)
  snapshots : Table EntitlementSnapshot EntitlementSnapshot.slot
    (noAlt EntitlementSnapshot)
  wallets : Table CreditWallet CreditWallet.userId (noAlt CreditWallet)
  transactions : Table CreditTransaction CreditTransaction.id
    fun row => some row.idempotencyKey
  invoices : Table Invoice Invoice.id Invoice.stripeInvoiceId
  webhookEvents : Table WebhookEvent WebhookEvent.eventKey
    (noAlt WebhookEvent)
  dunningCases : Table DunningCase DunningCase.id (noAlt DunningCase)
  refundRequests : Table RefundRequest RefundRequest.id (noAlt RefundRequest)
  deriving DecidableEq

namespace Db

def empty : Db :=
  ⟨.empty, .empty, .empty, .empty, .empty, .empty, .empty, .empty, .empty⟩

/-- The range of a `BIGINT` column. -/
def isBigInt (n : Int) : Bool := -2 ^ 63 ≤ n && n < 2 ^ 63

def isVarchar (width : Nat) (text : String) : Bool := text.length ≤ width

/-- Store a row that `fits` its columns, unless a unique column repeats. -/
def stored {T : Type} (fits : Bool) (inserted : Option T) : Except DbError T :=
  if fits then inserted.elim (.error .integrity) .ok else .error .data

def insertWallet (wallet : CreditWallet) (db : Db) : Except DbError Db :=
  (stored (isBigInt wallet.balance) (db.wallets.insert? wallet)).map
    fun wallets => { db with wallets }

def setWallet (userId : Uuid) (balance : Int) (now : Timestamp) (db : Db) :
    Except DbError Db :=
  if isBigInt balance then
    .ok { db with
      wallets := db.wallets.modify userId fun wallet =>
        { wallet with balance, updatedAt := now } }
  else .error .data

def transactionFits (tx : CreditTransaction) : Bool :=
  isBigInt tx.delta && isVarchar 32 tx.referenceKind &&
    isVarchar 256 tx.referenceId && isVarchar 256 tx.idempotencyKey

def insertTransaction (tx : CreditTransaction) (db : Db) : Except DbError Db :=
  (stored (transactionFits tx) (db.transactions.insert? tx)).map
    fun transactions => { db with transactions }

def setTransactionStatus (id : Uuid) (status : TxStatus)
    (committedAt : Option Timestamp) (db : Db) : Db :=
  { db with
    transactions := db.transactions.modify id fun tx =>
      { tx with status, committedAt } }

end Db

inductive BillingError where
  | insufficientCredits (balance requested : Int)
  deriving DecidableEq, Repr

abbrev BillingM (α : Type) := Program BillingError Db α

end ColabPlatform.Billing
