import ColabPlatform.Billing.Model
import ColabPlatform.Common.Text

/-!
# Subscriptions, entitlements and dunning

The writes that a billing webhook makes besides the credit wallet: the upsert
of the subscription row, the entitlement snapshots of its tier and the closing
of an open dunning case.  The table of tier values can be changed by an
administrator while the service runs, so it is an argument; `tierDefaults` is
its initial content.
-/

namespace ColabPlatform.Billing

open Common Foundation Foundation.Program

/-- The time of a request and the identifiers it may draw. -/
structure Draws where
  now : Timestamp
  customerId : Uuid
  subscriptionId : Uuid
  transactionId : Uuid
  invoiceId : Uuid
  originalTransactionId : Uuid
  dunningCaseId : Uuid

/-! ## Tier values -/

abbrev TierConfig := Tier → List (String × AxisValue)

def tierDefaults : TierConfig
  | .free =>
      [("invites_per_week", .int 5), ("ai_credits_per_month", .int 0),
        ("ads_shown", .bool true), ("chat_export", .bool false),
        ("hide_from_non_premium", .bool false),
        ("picked_for_you_priority", .text "none"),
        ("mockup_fidelity", .text "off"), ("portfolio_pdf_export", .bool false),
        ("visibility_boost", .bool false), ("support_priority", .text "std"),
        ("see_who_saved_you", .bool false), ("feed_profiles_per_day", .int 30),
        ("daily_save_cap", .int 50)]
  | .premium =>
      [("invites_per_week", .int (-1)), ("ai_credits_per_month", .int 200),
        ("ads_shown", .bool false), ("chat_export", .bool true),
        ("hide_from_non_premium", .bool true),
        ("picked_for_you_priority", .text "standard"),
        ("mockup_fidelity", .text "basic"), ("portfolio_pdf_export", .bool false),
        ("visibility_boost", .bool false), ("support_priority", .text "fast"),
        ("see_who_saved_you", .bool true), ("feed_profiles_per_day", .int (-1)),
        ("daily_save_cap", .int (-1))]
  | .pro =>
      [("invites_per_week", .int (-1)), ("ai_credits_per_month", .int 1000),
        ("ads_shown", .bool false), ("chat_export", .bool true),
        ("hide_from_non_premium", .bool true),
        ("picked_for_you_priority", .text "high"),
        ("mockup_fidelity", .text "advanced"),
        ("portfolio_pdf_export", .bool true), ("visibility_boost", .bool true),
        ("support_priority", .text "fastest"), ("see_who_saved_you", .bool true),
        ("feed_profiles_per_day", .int (-1)), ("daily_save_cap", .int (-1))]

/-- `TIER_DEFAULTS.get(tier, {}).get("ai_credits_per_month", 0)` -/
def TierConfig.aiCredits (config : TierConfig) (tier : Tier) : Int :=
  match (config tier).find? fun axis => axis.1 = "ai_credits_per_month" with
  | some (_, .int credits) => credits
  | _ => 0

def SubStatus.active? (status : SubStatus) : Bool :=
  status ∈ [.trialing, .active, .pastDue, .grace]

/-- `_map_product_to_tier` -/
def mapProductToTier (productId : String) : Tier :=
  let pid := lower productId
  if isSubstring "pro" pid then .pro
  else if isSubstring "premium" pid then .premium
  else .free

/-! ## Subscription upsert -/

inductive RcEventType where
  | initialPurchase
  | renewal
  | cancellation
  | expiration
  | billingIssue
  | productChange
  | subscriptionPaused
  deriving DecidableEq, Repr

/-- `RC_STATUS_MAP` -/
def RcEventType.status : RcEventType → SubStatus
  | .initialPurchase => .active
  | .renewal => .active
  | .cancellation => .canceled
  | .expiration => .expired
  | .billingIssue => .pastDue
  | .productChange => .active
  | .subscriptionPaused => .paused

/-- The fields of a RevenueCat event; `appUserId` is `none` when it is no UUID. -/
structure RcEvent where
  appUserId : Option Uuid
  productId : Option String
  store : Option String
  originalTransactionId : Option String
  purchasedAtMs : Option Int
  expirationAtMs : Option Int
  deriving DecidableEq, Repr

def fromMillis (ms : Int) : Timestamp := ms * 1000

/-- A missing or zero time is replaced by the present one. -/
def millisOrNow (ms : Option Int) (now : Timestamp) : Timestamp :=
  match ms with
  | some ms => if ms = 0 then now else fromMillis ms
  | none => now

namespace RcEvent

variable (event : RcEvent)

def product : String := event.productId.getD "unknown"

def gateway : SubGateway :=
  if isSubstring "APP_STORE" (event.store.getD "APP_STORE") then .apple
  else .google

def originalTx (draws : Draws) : String :=
  event.originalTransactionId.getD draws.originalTransactionId.text

def periodStart (draws : Draws) : Timestamp :=
  millisOrNow event.purchasedAtMs draws.now

def periodEnd (draws : Draws) : Timestamp :=
  millisOrNow event.expirationAtMs draws.now

end RcEvent

namespace Db

def subscriptionFits (sub : Subscription) : Bool :=
  sub.storeSubscriptionId.all (isVarchar 256) && isVarchar 256 sub.storeProductId

def insertSubscription (sub : Subscription) (db : Db) : Except DbError Db :=
  (stored (subscriptionFits sub) (db.subscriptions.insert? sub)).map
    fun subscriptions => { db with subscriptions }

/-- The rows that `store_subscription_id = … and source = …` selects. -/
def subscriptionsFrom (source : SubSource) (storeId : String) (db : Db) :
    List Subscription :=
  db.subscriptions.rows.filter fun sub =>
    sub.source = source ∧ sub.storeSubscriptionId = some storeId

def upsertSnapshot (snapshot : EntitlementSnapshot) (db : Db) :
    Except DbError Db :=
  match db.snapshots.lookup snapshot.slot with
  | some _ =>
      .ok { db with
        snapshots := db.snapshots.modify snapshot.slot fun old =>
          { old with
            value := snapshot.value
            expiresAt := snapshot.expiresAt
            updatedAt := snapshot.updatedAt } }
  | none =>
      (stored (isVarchar 64 snapshot.axisKey)
        (db.snapshots.insert? snapshot)).map
          fun snapshots => { db with snapshots }

end Db

/-- What an event makes of the row it finds. -/
def Subscription.fromRc (sub : Subscription) (event : RcEvent)
    (eventType : RcEventType) (draws : Draws) : Subscription :=
  let status := eventType.status
  let applied : Subscription :=
    { sub with
      status
      tier := mapProductToTier event.product
      currentPeriodStart := event.periodStart draws
      currentPeriodEnd := event.periodEnd draws
      canceledAt :=
        if status ∈ [.canceled, .expired] ∧ sub.canceledAt = none then
          some draws.now
        else sub.canceledAt }
  if applied = sub then sub else { applied with updatedAt := draws.now }

def Subscription.newFromRc (userId : Uuid) (event : RcEvent)
    (eventType : RcEventType) (draws : Draws) : Subscription :=
  { id := draws.subscriptionId, userId, source := .revenuecat,
    gateway := event.gateway, tier := mapProductToTier event.product,
    status := eventType.status,
    storeSubscriptionId := some (event.originalTx draws),
    storeProductId := event.product, yearly := false,
    currentPeriodStart := event.periodStart draws,
    currentPeriodEnd := event.periodEnd draws, cancelAtPeriodEnd := false,
    trialEnd := none, startedAt := event.periodStart draws, canceledAt := none,
    endedAt := none, updatedAt := draws.now }

/-- The event's own timestamp is passed in and not looked at. -/
def upsertSubscriptionFromRc (event : RcEvent) (userId : Uuid)
    (eventType : RcEventType) (_eventTimestamp : Timestamp) (draws : Draws) :
    BillingM (Instance Subscription) := do
  let found ← query (Db.subscriptionsFrom .revenuecat (event.originalTx draws))
  match ← scalarOneOrNone found with
  | none =>
      let sub := Subscription.newFromRc userId event eventType draws
      write (Db.insertSubscription sub)
      load sub true
  | some sub =>
      let updated := sub.fromRc event eventType draws
      write fun db => .ok { db with
        subscriptions := db.subscriptions.modify sub.id fun row =>
          { updated with id := row.id } }
      load updated false

/-! ## Entitlement snapshots -/

def applyEntitlementsForUser (config : TierConfig) (userId : Uuid)
    (subscription : Instance Subscription) (draws : Draws) : BillingM Unit := do
  let row ← readAttr subscription fun row => row
  let tier := if row.status.active? then row.tier else .free
  (config tier).forM fun axis =>
    write (Db.upsertSnapshot
      { userId, axisKey := axis.1, value := axis.2, source := "subscription",
        sourceRef := row.id, expiresAt := some row.currentPeriodEnd,
        updatedAt := draws.now })

/-! ## Dunning -/

/-- `TERMINAL_STATES` -/
def DunningState.terminal (state : DunningState) : Bool :=
  state ∈ [.day30GraceExpired, .recovered]

def Db.openDunningCases (subscriptionId : Uuid) (db : Db) : List DunningCase :=
  db.dunningCases.rows.filter fun row =>
    row.subscriptionId = subscriptionId ∧ ¬ row.state.terminal

def markRecovered (subscriptionId : Uuid) (draws : Draws) :
    BillingM (Option DunningCase) := do
  match ← scalarOneOrNone (← query (Db.openDunningCases subscriptionId)) with
  | none => return none
  | some row =>
      let recovered : DunningCase :=
        { row with
          state := .recovered
          recoveredAt := some draws.now
          closedAt := some draws.now }
      write fun db => .ok { db with
        dunningCases := db.dunningCases.modify row.id fun old =>
          { recovered with id := old.id } }
      return some recovered

end ColabPlatform.Billing
