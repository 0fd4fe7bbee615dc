import ColabPlatform.Billing.StripeHandlers

/-!
# RevenueCat event handlers

The handlers of `dispatch_rc_event` for one subscription besides those of the
initial purchase and the renewal.  All six write the row through
`upsert_subscription_from_rc` with a timestamp that it does not look at.
-/

namespace ColabPlatform.Billing

open Foundation Foundation.Program

/-- `cancel_reason_ms`, or the time of purchase where it is absent. -/
def RcEvent.cancelTs (event : RcEvent) (cancelReasonMs : Option Int) : Timestamp :=
  fromMillis (cancelReasonMs.getD (event.purchasedAtMs.getD 0))

def RcEvent.expirationTs (event : RcEvent) : Timestamp :=
  fromMillis (event.expirationAtMs.getD 0)

/-- The upsert and the snapshots, as three of the handlers make them. -/
def refreshFromRc (config : TierConfig) (eventType : RcEventType) (eventTs : Timestamp)
    (event : RcEvent) (draws : Draws) : BillingM Unit := do
  match event.appUserId with
  | none => return
  | some userId =>
      let sub ← upsertSubscriptionFromRc event userId eventType eventTs draws
      applyEntitlementsForUser config userId sub draws
      -- the tier goes into the published events
      let _ ← readAttr sub Subscription.tier
      commit

def handleRcCancellation (config : TierConfig) (event : RcEvent)
    (cancelReasonMs : Option Int) (draws : Draws) : BillingM Unit :=
  refreshFromRc config .cancellation (event.cancelTs cancelReasonMs) event draws

def handleRcExpiration (config : TierConfig) (event : RcEvent) (draws : Draws) :
    BillingM Unit :=
  refreshFromRc config .expiration event.expirationTs event draws

def handleRcProductChange (config : TierConfig) (event : RcEvent) (draws : Draws) :
    BillingM Unit :=
  refreshFromRc config .productChange event.eventTs event draws

/-- The snapshots are left as they are. -/
def handleRcBillingIssue (event : RcEvent) (draws : Draws) : BillingM Unit := do
  match event.appUserId with
  | none => return
  | some userId =>
      let sub ← upsertSubscriptionFromRc event userId .billingIssue event.eventTs draws
      let _ ← openDunningCase userId (← readAttr sub Subscription.id) draws
      -- the tier goes into `subscription.past_due`
      let _ ← readAttr sub Subscription.tier
      commit

inductive RcKind where
  | initialPurchase
  | renewal
  | cancellation (cancelReasonMs : Option Int)
  | expiration
  | billingIssue
  | productChange
  deriving DecidableEq, Repr

def RcKind.eventType : RcKind → RcEventType
  | .initialPurchase => .initialPurchase
  | .renewal => .renewal
  | .cancellation _ => .cancellation
  | .expiration => .expiration
  | .billingIssue => .billingIssue
  | .productChange => .productChange

/-- `dispatch_rc_event`, for the events of a subscription -/
def dispatchRcEvent (config : TierConfig) (draws : Draws) (event : RcEvent) :
    RcKind → BillingM Unit
  | .initialPurchase => handleRcInitialPurchase config draws.grant event draws
  | .renewal => handleRcRenewal config draws.grant event draws
  | .cancellation cancelReasonMs => handleRcCancellation config event cancelReasonMs draws
  | .expiration => handleRcExpiration config event draws
  | .billingIssue => handleRcBillingIssue event draws
  | .productChange => handleRcProductChange config event draws

end ColabPlatform.Billing
