import ColabPlatform.Billing.Subscriptions
import Mathlib.Data.List.MinMax
import Mathlib.Data.List.Sort
import Mathlib.Data.Prod.Lex
import Mathlib.Data.Int.ConditionallyCompleteOrder

/-!
# Entitlements

The axes of a user are resolved from the snapshots that have not expired, source
by source and within a source by the higher value; an axis without a snapshot is
that of the user's tier, the best one of the active subscriptions.
-/

namespace ColabPlatform.Billing

/-! ## Axes -/

inductive AxisType where
  | int
  | bool
  | enum
  deriving DecidableEq, Repr

/-- `AXIS_REGISTRY`, with the default of each axis -/
def axisRegistry : List (String × AxisType × AxisValue) :=
  [("invites_per_week", .int, .int 5), ("ai_credits_per_month", .int, .int 0),
    ("ads_shown", .bool, .bool true), ("chat_export", .bool, .bool false),
    ("hide_from_non_premium", .bool, .bool false),
    ("picked_for_you_priority", .enum, .text "none"),
    ("mockup_fidelity", .enum, .text "off"), ("portfolio_pdf_export", .bool, .bool false),
    ("visibility_boost", .bool, .bool false), ("support_priority", .enum, .text "std"),
    ("see_who_saved_you", .bool, .bool false), ("feed_profiles_per_day", .int, .int 30),
    ("daily_save_cap", .int, .int 50)]

/-- An axis that is not registered is taken for a `bool`. -/
def axisType (axisKey : String) : AxisType :=
  ((axisRegistry.find? fun axis => axis.1 = axisKey).map fun axis => axis.2.1).getD .bool

/-- `_ENUM_RANKS` -/
def enumRank : AxisValue → Nat
  | .text "standard" | .text "basic" | .text "fast" => 1
  | .text "high" | .text "advanced" | .text "fastest" => 2
  | _ => 0

def AxisValue.truthy : AxisValue → Bool
  | .bool value => value
  | .int value => value ≠ 0
  | .text value => value ≠ ""

/-- `max` of two values of an `int` axis: the first one unless the second is greater -/
def AxisValue.greater : AxisValue → AxisValue → AxisValue
  | .int a, .int b => if a < b then .int b else .int a
  | a, _ => a

/-- `_higher_value`; -1 is unlimited. -/
def higherValue (axisKey : String) (a b : AxisValue) : AxisValue :=
  match axisType axisKey with
  | .int =>
      if a = .int (-1) then a
      else if b = .int (-1) then b
      else a.greater b
  | .bool => if a.truthy then a else b
  | .enum => if enumRank b ≤ enumRank a then a else b

/-- The index in `SOURCE_PRIORITY`, 0 for any other source -/
def sourcePriority (source : String) : Nat :=
  match source with
  | "promo" => 1
  | "subscription" => 2
  | "family_share" => 3
  | "grant" => 4
  | _ => 0

/-! ## The resolver -/

def Tier.rank : Tier → Nat
  | .free => 0
  | .premium => 1
  | .pro => 2

structure ResolvedEntitlements where
  axes : List (String × AxisValue)
  tier : Tier
  subscriptionStatus : Option SubStatus
  currentPeriodEnd : Option Timestamp
  deriving DecidableEq, Repr

/-- The best value of an axis so far, with the priority of its source. -/
abbrev AxisResolution := Option (AxisValue × Nat)

def mergeValue (axisKey : String) (resolved : AxisResolution) (value : AxisValue)
    (prio : Nat) : AxisResolution :=
  match resolved with
  | none => some (value, prio)
  | some (best, bestPrio) =>
      if bestPrio < prio then some (value, prio)
      else if prio = bestPrio then some (higherValue axisKey value best, prio)
      else some (best, bestPrio)

def mergeSnapshot (resolution : String → AxisResolution) (snapshot : EntitlementSnapshot) :
    String → AxisResolution :=
  Function.update resolution snapshot.axisKey
    (mergeValue snapshot.axisKey (resolution snapshot.axisKey) snapshot.value
      (sourcePriority snapshot.source))

def EntitlementSnapshot.live (snapshot : EntitlementSnapshot) (now : Timestamp) : Bool :=
  snapshot.expiresAt.all fun expiry => now < expiry

namespace Db

/-- The user's active subscriptions, the latest period end first. -/
def activeSubscriptions (userId : Uuid) (db : Db) : List Subscription :=
  (db.subscriptions.rows.filter fun sub => sub.userId = userId ∧ sub.status.active?).insertionSort
    fun a b => b.currentPeriodEnd ≤ a.currentPeriodEnd

def liveSnapshots (userId : Uuid) (now : Timestamp) (db : Db) : List EntitlementSnapshot :=
  db.snapshots.rows.filter fun snapshot => snapshot.userId = userId ∧ snapshot.live now

end Db

/-- The value of an axis in the table of its tier. -/
def TierConfig.axisValue (config : TierConfig) (tier : Tier)
    (axis : String × AxisType × AxisValue) : AxisValue :=
  (((config tier).find? fun value => value.1 = axis.1).map Prod.snd).getD axis.2.2

-- named, so that the order of the period ends stays computable under any import
local instance preorderInt : Preorder Int := Int.instLinearOrder.toPreorder

/-- The order in which subscriptions win: by tier, then by period end. -/
def Subscription.strength (sub : Subscription) : Nat ×ₗ Int :=
  toLex (sub.tier.rank, sub.currentPeriodEnd)

def resolveEntitlements (config : TierConfig) (userId : Uuid) (now : Timestamp) (db : Db) :
    ResolvedEntitlements :=
  let best := (db.activeSubscriptions userId).argmax Subscription.strength
  let tier := (best.map Subscription.tier).getD .free
  let resolution := (db.liveSnapshots userId now).foldl mergeSnapshot fun _ => none
  { axes := axisRegistry.map fun axis =>
      (axis.1, match resolution axis.1 with
        | some (value, _) => value
        | none => config.axisValue tier axis)
    tier
    subscriptionStatus := best.map Subscription.status
    currentPeriodEnd := best.map Subscription.currentPeriodEnd }

end ColabPlatform.Billing
