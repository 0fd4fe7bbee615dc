import ColabPlatform.Billing.HandlerSpecs

/-!
# Cancellations

The two ways in which a subscription is canceled without an event of its store:
by its user on the web, and by dunning.  Neither refreshes the snapshots.
-/

namespace ColabPlatform.Billing

open Foundation Foundation.Program

inductive CancelReply where
  | noContent
  | notFound
  | failed
  deriving DecidableEq, Repr

def Subscription.canceled (sub : Subscription) (draws : Draws) : Subscription :=
  sub.flushed { sub with status := .canceled, canceledAt := some draws.now } draws

def Subscription.cancelingAtEnd (sub : Subscription) (draws : Draws) : Subscription :=
  sub.flushed { sub with cancelAtPeriodEnd := true } draws

namespace Db

def stripeSubscriptionOf (subscriptionId userId : Uuid) (db : Db) : List Subscription :=
  db.subscriptions.rows.filter fun sub =>
    sub.id = subscriptionId ∧ sub.userId = userId ∧ sub.source = .stripe

/-- A flush of a changed row. -/
def updateSubscription (sub : Subscription) (db : Db) : Db :=
  { db with
    subscriptions := db.subscriptions.modify sub.id fun row => { sub with id := row.id } }

end Db

/-- `cancel_web`; `answered` when the calls to Stripe, the broker and the cache,
all before the commit, return. -/
def cancelWeb (userId subscriptionId : Uuid) (immediate answered : Bool) (draws : Draws) :
    BillingM CancelReply := do
  match ← scalarOneOrNone (← query (Db.stripeSubscriptionOf subscriptionId userId)) with
  | none => return .notFound
  | some sub =>
      if ¬ answered then
        return .failed
      write fun db => .ok (db.updateSubscription
        (if immediate then sub.canceled draws else sub.cancelingAtEnd draws))
      commit
      return .noContent

/-- `cancel_subscription_for_dunning`; its caller commits. -/
def cancelSubscriptionForDunning (subscriptionId : Uuid) (draws : Draws) :
    BillingM (Option Subscription) := do
  match ← query fun db => db.subscriptions.lookup subscriptionId with
  | none => return none
  | some sub =>
      let canceled := sub.canceled draws
      write fun db => .ok (db.updateSubscription canceled)
      return some canceled

/-! ## What they commit -/

theorem wroteSubscription_update {old new : Subscription} {db : Db}
    (mem : old ∈ db.subscriptions.rows) (same : new.id = old.id)
    (owner : new.userId = old.userId) :
    WroteSubscription new db (db.updateSubscription new) := by
  have wrote := wroteSubscription_modify mem same owner
  rw [← same] at wrote
  exact wrote

theorem cancelWeb_settles (userId subscriptionId : Uuid) (immediate answered : Bool)
    (draws : Draws) (s : Session Db) :
    (cancelWeb userId subscriptionId immediate answered draws).Settles s fun db =>
      db = s.committed ∨ ∃ sub,
        s.working.stripeSubscriptionOf subscriptionId userId = [sub] ∧
        answered = true ∧
        WroteSubscription (if immediate then sub.canceled draws else sub.cancelingAtEnd draws)
          s.working db := by
  unfold cancelWeb
  refine settles_bind (transacts_query fun _ => ?_)
  refine settles_bind (transacts_scalarOneOrNone ?_ ?_)
  · intro _
    exact settles_pure (Or.inl rfl)
  · intro sub found
    have mem : sub ∈ s.working.subscriptions.rows :=
      (List.mem_filter.1 (found ▸ List.mem_singleton_self sub)).1
    cases answered with
    | false => exact settles_pure (Or.inl rfl)
    | true =>
        refine settles_bind (transacts_write fun _ db updated => ?_)
        cases updated
        refine settles_then_pure (settles_commit (Or.inr ⟨sub, found, rfl, ?_⟩))
        refine wroteSubscription_update mem ?_ ?_
        · split
          · exact Subscription.id_flushed _ _ _
          · exact Subscription.id_flushed _ _ _
        · split
          · exact Subscription.userId_flushed _ _ _
          · exact Subscription.userId_flushed _ _ _

theorem cancelSubscriptionForDunning_writes (subscriptionId : Uuid) (draws : Draws)
    (s : Session Db) :
    (cancelSubscriptionForDunning subscriptionId draws).Transacts s fun _ s' =>
      s'.working = s.working ∨ ∃ sub,
        s.working.subscriptions.lookup subscriptionId = some sub ∧
        WroteSubscription (sub.canceled draws) s.working s'.working := by
  unfold cancelSubscriptionForDunning
  refine transacts_bind (transacts_query fun _ => ?_)
  split
  · exact transacts_pure (Or.inl rfl)
  · rename_i sub found
    refine transacts_bind (transacts_write fun _ db updated => ?_)
    cases updated
    refine transacts_pure (Or.inr ⟨sub, found, ?_⟩)
    exact wroteSubscription_update (Table.mem_of_lookup found)
      (Subscription.id_flushed _ _ _) (Subscription.userId_flushed _ _ _)

end ColabPlatform.Billing
