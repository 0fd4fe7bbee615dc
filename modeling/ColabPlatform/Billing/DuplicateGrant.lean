import ColabPlatform.Billing.CreditLedger
import ColabPlatform.Billing.Webhooks

/-!
# A duplicate grant inside a webhook

A grant that finds its idempotency key taken rolls the whole session back.  The
session is shared with the event ledger, the subscription upsert, the snapshots,
the invoice and the dunning case, none of which the handler writes again.  The
webhook keeps its work exactly when the duplicate grant is never attempted.
-/

namespace ColabPlatform.Billing

open Foundation Foundation.Program

/-! ## The three events -/

inductive BillingEvent where
  | initialPurchase (event : RcEvent)
  | renewal (event : RcEvent)
  | invoicePaid (event : StripeInvoice)
  deriving DecidableEq, Repr

def BillingEvent.handler (config : TierConfig) (grant : Grant) (draws : Draws) :
    BillingEvent → BillingM Unit
  | .initialPurchase event => handleRcInitialPurchase config grant event draws
  | .renewal event => handleRcRenewal config grant event draws
  | .invoicePaid event => handleInvoicePaid config grant event draws

def theOnly {α : Type} : List α → Option α
  | [a] => some a
  | _ => none

/-- The row that the upsert of an event leaves. -/
def rcSubscription (event : RcEvent) (userId : Uuid) (eventType : RcEventType)
    (draws : Draws) (db : Db) : Option Subscription :=
  match db.subscriptionsFrom .revenuecat (event.originalTx draws) with
  | [] => some (Subscription.newFromRc userId event eventType draws)
  | [sub] => some (sub.fromRc event eventType draws)
  | _ => none

/-- The subscription whose period the event would grant credits for. -/
def BillingEvent.subscription (draws : Draws) (db : Db) :
    BillingEvent → Option Subscription
  | .initialPurchase event => do
      rcSubscription event (← event.appUserId) .initialPurchase draws db
  | .renewal event => do
      rcSubscription event (← event.appUserId) .renewal draws db
  | .invoicePaid event => do
      let _ ← db.userOfStripeCustomer (event.customer.getD "")
      theOnly (db.subscriptionsOfStore (← event.storeSubscription))

/-- Whether the handler calls the grant for this subscription. -/
def BillingEvent.grants (config : TierConfig) (sub : Subscription) :
    BillingEvent → Prop
  | .initialPurchase _ => 0 < config.aiCredits sub.tier
  | .renewal _ => 0 < config.aiCredits sub.tier
  | .invoicePaid _ => sub.tier ≠ .free ∧ 0 < config.aiCredits sub.tier

instance (config : TierConfig) (sub : Subscription) (event : BillingEvent) :
    Decidable (event.grants config sub) :=
  match event with
  | .initialPurchase _ => inferInstanceAs (Decidable (0 < config.aiCredits sub.tier))
  | .renewal _ => inferInstanceAs (Decidable (0 < config.aiCredits sub.tier))
  | .invoicePaid _ =>
      inferInstanceAs (Decidable (sub.tier ≠ .free ∧ 0 < config.aiCredits sub.tier))

/-- A grant for this subscription and the day its period starts exists. -/
def Granted (db : Db) (sub : Subscription) : Prop :=
  ∃ tx ∈ db.transactions.rows,
    tx.idempotencyKey = grantKey sub.id sub.currentPeriodStart

/-- The tables that a second grant must leave alone, and the event ledger. -/
structure SameCore (db db' : Db) : Prop where
  webhookEvents : db'.webhookEvents = db.webhookEvents
  transactions : db'.transactions = db.transactions
  wallets : db'.wallets = db.wallets

/-- Only the pending work of a session changed, and not in its core tables. -/
structure Frame (s s' : Session Db) : Prop where
  session : s' = { s with working := s'.working }
  core : SameCore s.working s'.working

theorem SameCore.refl (db : Db) : SameCore db db := ⟨rfl, rfl, rfl⟩

theorem SameCore.trans {a b c : Db} (h : SameCore a b) (h' : SameCore b c) :
    SameCore a c :=
  ⟨h'.1.trans h.1, h'.2.trans h.2, h'.3.trans h.3⟩

theorem Frame.refl (s : Session Db) : Frame s s := ⟨rfl, .refl _⟩

theorem Frame.trans {a b c : Session Db} (h : Frame a b) (h' : Frame b c) :
    Frame a c := by
  refine ⟨?_, h.core.trans h'.core⟩
  rw [h'.session, h.session]

theorem Frame.of_working (s : Session Db) {db : Db} (h : SameCore s.working db) :
    Frame s { s with working := db } := ⟨rfl, h⟩

theorem Frame.rolledBack {s s' : Session Db} (h : Frame s s') :
    s'.rolledBack = s.rolledBack := by
  rw [h.session]
  rfl

theorem Frame.rollbacks {s s' : Session Db} (h : Frame s s') :
    s'.rollbacks = s.rollbacks := by
  rw [h.session]

theorem Frame.committed {s s' : Session Db} (h : Frame s s') :
    s'.committed = s.committed := by
  rw [h.session]

/-! ## The statements before the grant -/

theorem map_stored_eq_ok {T : Type} {fits : Bool} {inserted : Option T}
    {f : T → Db} {db : Db} (h : (Db.stored fits inserted).map f = .ok db) :
    ∃ t, inserted = some t ∧ db = f t := by
  cases stored : Db.stored fits inserted with
  | error e =>
      rw [stored] at h
      cases h
  | ok t =>
      rw [stored] at h
      cases h
      exact ⟨t, stored_eq_ok stored, rfl⟩

theorem ensureCustomer_transacts (userId : Uuid) (draws : Draws)
    (s : Session Db) :
    (ensureCustomer userId draws).Transacts s fun _ s' =>
      Frame s s' ∧ s'.working.subscriptions = s.working.subscriptions := by
  unfold ensureCustomer
  refine transacts_bind (transacts_query fun _ => ?_)
  split
  · exact transacts_pure ⟨.refl s, rfl⟩
  · refine transacts_write fun _ db inserted => ?_
    obtain ⟨customers, -, rfl⟩ := map_stored_eq_ok inserted
    exact ⟨.of_working s ⟨rfl, rfl, rfl⟩, rfl⟩

theorem upsertSubscriptionFromRc_transacts (event : RcEvent) (userId : Uuid)
    (eventType : RcEventType) (eventTs : Timestamp) (draws : Draws)
    (s : Session Db) :
    (upsertSubscriptionFromRc event userId eventType eventTs draws).Transacts s
      fun sub s' => Frame s s' ∧ sub.loadedAt = s.rollbacks ∧
        rcSubscription event userId eventType draws s.working = some sub.row := by
  unfold upsertSubscriptionFromRc
  refine transacts_bind (transacts_query fun _ => ?_)
  refine transacts_bind (transacts_scalarOneOrNone ?_ ?_)
  · intro none_found
    refine transacts_bind (transacts_write fun _ db inserted => ?_)
    obtain ⟨subscriptions, -, rfl⟩ := map_stored_eq_ok inserted
    refine transacts_load ⟨.of_working s ⟨rfl, rfl, rfl⟩, rfl, ?_⟩
    simp [rcSubscription, none_found]
  · intro sub found
    refine transacts_bind (transacts_write fun _ db updated => ?_)
    cases updated
    refine transacts_load ⟨.of_working s ⟨rfl, rfl, rfl⟩, rfl, ?_⟩
    simp [rcSubscription, found]

theorem upsertSnapshot_core {snapshot : EntitlementSnapshot} {db db' : Db}
    (h : db.upsertSnapshot snapshot = .ok db') : SameCore db db' := by
  unfold Db.upsertSnapshot at h
  split at h
  · cases h
    exact ⟨rfl, rfl, rfl⟩
  · obtain ⟨snapshots, -, rfl⟩ := map_stored_eq_ok h
    exact ⟨rfl, rfl, rfl⟩

theorem applyEntitlementsForUser_transacts (config : TierConfig) (userId : Uuid)
    (sub : Instance Subscription) (draws : Draws) (s : Session Db) :
    (applyEntitlementsForUser config userId sub draws).Transacts s
      fun _ s' => Frame s s' := by
  unfold applyEntitlementsForUser
  refine transacts_bind (transacts_readAttr ?_)
  refine transacts_forM (fun axis _ middle frame => ?_) (.refl s)
  refine transacts_write fun _ db upserted => ?_
  exact frame.trans (.of_working middle (upsertSnapshot_core upserted))

theorem markRecovered_transacts (subscriptionId : Uuid) (draws : Draws)
    (s : Session Db) :
    (markRecovered subscriptionId draws).Transacts s fun _ s' => Frame s s' := by
  unfold markRecovered
  refine transacts_bind (transacts_query fun _ => ?_)
  refine transacts_bind (transacts_scalarOneOrNone ?_ ?_)
  · intro _
    exact transacts_pure (.refl s)
  · intro row _
    refine transacts_bind (transacts_write fun _ db updated => ?_)
    cases updated
    exact transacts_pure (.of_working s ⟨rfl, rfl, rfl⟩)

theorem markInvoicePaid_transacts (event : StripeInvoice) (userId : Uuid)
    (draws : Draws) (s : Session Db) :
    (markInvoicePaid event userId draws).Transacts s fun _ s' =>
      Frame s s' ∧ s'.working.subscriptions = s.working.subscriptions := by
  unfold markInvoicePaid
  refine transacts_bind (transacts_query fun _ => ?_)
  split
  · refine transacts_write fun _ db inserted => ?_
    obtain ⟨invoices, -, rfl⟩ := map_stored_eq_ok inserted
    exact ⟨.of_working s ⟨rfl, rfl, rfl⟩, rfl⟩
  · refine transacts_write fun _ db updated => ?_
    cases updated
    exact ⟨.of_working s ⟨rfl, rfl, rfl⟩, rfl⟩

/-! ## The grant -/

theorem Granted.of_core {db db' : Db} {sub : Subscription} (h : Granted db sub)
    (core : SameCore db db') : Granted db' sub := by
  unfold Granted at h ⊢
  rwa [core.transactions]

theorem Granted.not_insertTransaction {db db' : Db} {sub : Subscription}
    (h : Granted db sub) {tx : CreditTransaction}
    (key : tx.idempotencyKey = grantKey sub.id sub.currentPeriodStart) :
    db.insertTransaction tx ≠ .ok db' := by
  intro inserted
  obtain ⟨old, mem, same⟩ := h
  have fresh := (Table.insert?_eq_some (insertTransaction_eq_ok inserted).2).1
  refine fresh (Or.inr ⟨tx.idempotencyKey, rfl, ?_⟩)
  exact List.mem_filterMap.2 ⟨old, mem, by rw [same, key]⟩

/-- A second grant undoes everything the session has not committed. -/
theorem grant_transacts_of_granted (draws : Draws) (userId : Uuid) (amount : Int)
    {sub : Subscription} {s : Session Db} (granted : Granted s.working sub) :
    (draws.grant userId amount sub.id sub.currentPeriodStart).Transacts s
      fun _ s' => s' = s.rolledBack := by
  unfold Draws.grant grantSubscriptionCredits
  refine transacts_bind ((getOrCreateWallet_transacts _ _ _).mono ?_)
  rintro wallet s' ⟨session, -, -, rows⟩
  have still : Granted s'.working sub := by
    unfold Granted
    rwa [rows]
  refine transacts_bind (transacts_tryWrite ?_ ?_)
  · intro _ db inserted
    exact absurd inserted (still.not_insertTransaction rfl)
  · intro _ _
    refine transacts_bind (transacts_rollback ?_)
    refine transacts_pure ?_
    rw [session]
    rfl

theorem grantMonthlyCredits_transacts_of_granted (config : TierConfig)
    (draws : Draws) (userId : Uuid) {sub : Instance Subscription}
    {s : Session Db} (granted : Granted s.working sub.row)
    (due : 0 < config.aiCredits sub.row.tier) :
    (grantMonthlyCredits config draws.grant userId sub).Transacts s
      fun _ s' => s' = s.rolledBack := by
  unfold grantMonthlyCredits
  refine transacts_bind (transacts_readAttr ?_)
  rw [if_pos due]
  refine transacts_bind (transacts_readAttr ?_)
  refine transacts_bind (transacts_readAttr ?_)
  refine transacts_bind ((grant_transacts_of_granted draws userId _ granted).mono ?_)
  rintro _ _ rfl
  exact transacts_pure rfl

theorem grantMonthlyCredits_alreadyGranted_transacts (config : TierConfig)
    (userId : Uuid) (sub : Instance Subscription) (s : Session Db) :
    (grantMonthlyCredits config alreadyGranted userId sub).Transacts s
      fun _ s' => s' = s := by
  unfold grantMonthlyCredits alreadyGranted
  refine transacts_bind (transacts_readAttr ?_)
  by_cases due : 0 < config.aiCredits sub.row.tier
  · rw [if_pos due]
    refine transacts_bind (transacts_readAttr ?_)
    refine transacts_bind (transacts_readAttr ?_)
    exact transacts_bind (transacts_pure (transacts_pure rfl))
  · rw [if_neg due]
    exact transacts_pure rfl

/-- Where nothing is due, which grant the handler would call does not matter. -/
theorem grantMonthlyCredits_congr (config : TierConfig) (grant grant' : Grant)
    (userId : Uuid) {sub : Instance Subscription}
    (notDue : ¬ 0 < config.aiCredits sub.row.tier) (s : Session Db) :
    (grantMonthlyCredits config grant userId sub).run s =
      (grantMonthlyCredits config grant' userId sub).run s := by
  unfold grantMonthlyCredits
  refine (transacts_readAttr ?_).run_bind_congr
  rw [if_neg notDue, if_neg notDue]

/-! ## The handlers -/

/-- What the handlers do once their other writes are pending. -/
def grantAndCommit (config : TierConfig) (grant : Grant) (userId : Uuid)
    (sub : Instance Subscription) : BillingM Unit := do
  grantMonthlyCredits config grant userId sub
  let _ ← readAttr sub Subscription.tier
  commit

section

variable {config : TierConfig} {draws : Draws} {userId : Uuid}
  {sub : Instance Subscription} {s : Session Db}

/-- What a duplicate grant leaves of the session is what was committed. -/
theorem grantAndCommit_leaves (granted : Granted s.working sub.row)
    (due : 0 < config.aiCredits sub.row.tier) :
    (grantAndCommit config draws.grant userId sub).Leaves s
      fun db => db = s.committed := by
  unfold grantAndCommit
  refine leaves_bind rfl
    ((grantMonthlyCredits_transacts_of_granted config draws userId granted
      due).mono ?_)
  rintro _ _ rfl
  refine leaves_bind rfl (transacts_readAttr ?_)
  exact leaves_commit rfl rfl

theorem grantAndCommit_commits :
    (grantAndCommit config alreadyGranted userId sub).Commits s
      fun db => SameCore s.working db := by
  unfold grantAndCommit
  refine commits_bind
    ((grantMonthlyCredits_alreadyGranted_transacts config userId sub s).mono ?_)
  rintro _ _ rfl
  refine commits_bind (transacts_readAttr ?_)
  exact commits_commit (.refl _)

theorem grantAndCommit_congr (grant grant' : Grant)
    (notDue : ¬ 0 < config.aiCredits sub.row.tier) :
    (grantAndCommit config grant userId sub).run s =
      (grantAndCommit config grant' userId sub).run s := by
  unfold grantAndCommit
  rw [EStateM.run_bind, EStateM.run_bind,
    grantMonthlyCredits_congr config grant grant' userId notDue s]

end

/-- The writes of an initial purchase before its grant. -/
def initialPurchaseWrites (config : TierConfig) (event : RcEvent) (userId : Uuid)
    (draws : Draws) : BillingM (Instance Subscription) := do
  ensureCustomer userId draws
  let sub ← upsertSubscriptionFromRc event userId .initialPurchase event.eventTs
    draws
  applyEntitlementsForUser config userId sub draws
  return sub

/-- The writes of a renewal before its grant. -/
def renewalWrites (config : TierConfig) (event : RcEvent) (userId : Uuid)
    (draws : Draws) : BillingM (Instance Subscription) := do
  let sub ← upsertSubscriptionFromRc event userId .renewal event.eventTs draws
  applyEntitlementsForUser config userId sub draws
  let _ ← markRecovered (← readAttr sub Subscription.id) draws
  return sub

/-- The end of `handle_invoice_paid`, after its grant. -/
def recoverAndCommit (storeId : String) (draws : Draws) : BillingM Unit := do
  match ← scalarOneOrNone (← query (Db.subscriptionsOfStore storeId)) with
  | none => pure ()
  | some row =>
      let sub ← load row false
      let _ ← markRecovered (← readAttr sub Subscription.id) draws
  commit

section

variable {config : TierConfig} {draws : Draws} {userId : Uuid} {event : RcEvent}

theorem handleRcInitialPurchase_eq (grant : Grant)
    (user : event.appUserId = some userId) :
    handleRcInitialPurchase config grant event draws =
      initialPurchaseWrites config event userId draws >>=
        grantAndCommit config grant userId := by
  simp [handleRcInitialPurchase, initialPurchaseWrites, grantAndCommit, user]

theorem handleRcRenewal_eq (grant : Grant)
    (user : event.appUserId = some userId) :
    handleRcRenewal config grant event draws =
      renewalWrites config event userId draws >>=
        grantAndCommit config grant userId := by
  simp [handleRcRenewal, renewalWrites, grantAndCommit, user]

theorem initialPurchaseWrites_transacts (s : Session Db) :
    (initialPurchaseWrites config event userId draws).Transacts s
      fun sub s' => Frame s s' ∧
        rcSubscription event userId .initialPurchase draws s.working =
          some sub.row := by
  unfold initialPurchaseWrites
  refine transacts_bind ((ensureCustomer_transacts userId draws s).mono ?_)
  rintro _ s₁ ⟨frame₁, subscriptions⟩
  refine transacts_bind
    ((upsertSubscriptionFromRc_transacts _ _ _ _ _ s₁).mono ?_)
  rintro sub s₂ ⟨frame₂, -, row⟩
  refine transacts_bind
    ((applyEntitlementsForUser_transacts config userId sub draws s₂).mono ?_)
  intro _ s₃ frame₃
  refine transacts_pure ⟨(frame₁.trans frame₂).trans frame₃, ?_⟩
  rw [← row]
  simp [rcSubscription, Db.subscriptionsFrom, subscriptions]

theorem renewalWrites_transacts (s : Session Db) :
    (renewalWrites config event userId draws).Transacts s
      fun sub s' => Frame s s' ∧
        rcSubscription event userId .renewal draws s.working = some sub.row := by
  unfold renewalWrites
  refine transacts_bind ((upsertSubscriptionFromRc_transacts _ _ _ _ _ s).mono ?_)
  rintro sub s₁ ⟨frame₁, -, row⟩
  refine transacts_bind
    ((applyEntitlementsForUser_transacts config userId sub draws s₁).mono ?_)
  intro _ s₂ frame₂
  refine transacts_bind (transacts_readAttr ?_)
  refine transacts_bind ((markRecovered_transacts _ draws s₂).mono ?_)
  intro _ s₃ frame₃
  exact transacts_pure ⟨(frame₁.trans frame₂).trans frame₃, row⟩

end

/-- The dunning case is closed whatever the grant did before. -/
theorem recoverAndCommit_leaves {storeId : String} {draws : Draws}
    {s : Session Db} (clean : s.working = s.committed) :
    (recoverAndCommit storeId draws).Leaves s fun db =>
      db.webhookEvents = s.committed.webhookEvents := by
  unfold recoverAndCommit
  refine leaves_bind rfl (transacts_query fun _ => ?_)
  refine leaves_bind rfl (transacts_scalarOneOrNone ?_ ?_)
  · intro _
    exact leaves_commit rfl (by rw [clean])
  · intro row _
    refine leaves_bind rfl (transacts_load ?_)
    refine leaves_bind rfl (transacts_readAttr ?_)
    refine leaves_bind rfl ((markRecovered_transacts _ draws s).mono ?_)
    intro _ s' frame
    refine leaves_commit (by rw [frame.committed]) ?_
    rw [frame.core.webhookEvents, clean]

theorem recoverAndCommit_commits {storeId : String} {draws : Draws}
    {s : Session Db} :
    (recoverAndCommit storeId draws).Commits s (SameCore s.working) := by
  unfold recoverAndCommit
  refine commits_bind (transacts_query fun _ => ?_)
  refine commits_bind (transacts_scalarOneOrNone ?_ ?_)
  · intro _
    exact commits_commit (.refl _)
  · intro row _
    refine commits_bind (transacts_load ?_)
    refine commits_bind (transacts_readAttr ?_)
    refine commits_bind ((markRecovered_transacts _ draws s).mono ?_)
    intro _ s' frame
    exact commits_commit frame.core

/-- `handle_invoice_paid` from the subscription it found on. -/
def grantAndRecover (config : TierConfig) (grant : Grant) (userId : Uuid)
    (storeId : String) (draws : Draws) (row : Subscription) : BillingM Unit := do
  let sub ← load row false
  if (← readAttr sub Subscription.tier) ≠ .free then
    grantMonthlyCredits config grant userId sub
  recoverAndCommit storeId draws

/-- The writes of an invoice before its grant, and the row to grant for. -/
def invoiceWrites (event : StripeInvoice) (userId : Uuid) (storeId : String)
    (draws : Draws) : BillingM (Option Subscription) := do
  let _ ← query (Db.userOfStripeCustomer (event.customer.getD ""))
  markInvoicePaid event userId draws
  scalarOneOrNone (← query (Db.subscriptionsOfStore storeId))

section

variable {config : TierConfig} {draws : Draws} {userId : Uuid} {storeId : String}
  {row : Subscription} {s : Session Db}

theorem grantAndRecover_leaves (granted : Granted s.working row)
    (due : row.tier ≠ .free ∧ 0 < config.aiCredits row.tier) :
    (grantAndRecover config draws.grant userId storeId draws row).Leaves s
      fun db => db.webhookEvents = s.committed.webhookEvents := by
  unfold grantAndRecover
  refine leaves_bind rfl (transacts_load ?_)
  refine leaves_bind rfl (transacts_readAttr ?_)
  rw [if_pos due.1]
  have loaded : Granted s.working (Instance.mk row s.rollbacks false).row :=
    granted
  refine leaves_bind rfl
    ((grantMonthlyCredits_transacts_of_granted config draws userId loaded
      due.2).mono ?_)
  rintro _ _ rfl
  exact recoverAndCommit_leaves rfl

theorem grantAndRecover_commits :
    (grantAndRecover config alreadyGranted userId storeId draws row).Commits s
      (SameCore s.working) := by
  unfold grantAndRecover
  refine commits_bind (transacts_load ?_)
  refine commits_bind (transacts_readAttr ?_)
  split
  · refine commits_bind
      ((grantMonthlyCredits_alreadyGranted_transacts config userId _ s).mono ?_)
    rintro _ _ rfl
    exact recoverAndCommit_commits
  · exact recoverAndCommit_commits

theorem grantAndRecover_congr (grant grant' : Grant)
    (notDue : ¬ (row.tier ≠ .free ∧ 0 < config.aiCredits row.tier)) :
    (grantAndRecover config grant userId storeId draws row).run s =
      (grantAndRecover config grant' userId storeId draws row).run s := by
  unfold grantAndRecover
  refine (transacts_load ?_).run_bind_congr
  refine (transacts_readAttr ?_).run_bind_congr
  by_cases paid : row.tier ≠ .free
  · rw [if_pos paid, if_pos paid, EStateM.run_bind, EStateM.run_bind,
      grantMonthlyCredits_congr config grant grant' userId fun due =>
        notDue ⟨paid, due⟩]
  · rw [if_neg paid, if_neg paid]

theorem invoiceWrites_transacts (event : StripeInvoice) (s : Session Db) :
    (invoiceWrites event userId storeId draws).Transacts s fun found s' =>
      Frame s s' ∧ found = theOnly (s.working.subscriptionsOfStore storeId) := by
  unfold invoiceWrites
  refine transacts_bind (transacts_query fun _ => ?_)
  refine transacts_bind ((markInvoicePaid_transacts event userId draws s).mono ?_)
  rintro _ s' ⟨frame, subscriptions⟩
  refine transacts_bind (transacts_query fun _ => ?_)
  have same : s'.working.subscriptionsOfStore storeId =
      s.working.subscriptionsOfStore storeId := by
    simp [Db.subscriptionsOfStore, subscriptions]
  rw [same]
  refine transacts_scalarOneOrNone ?_ ?_
  · intro found
    exact ⟨frame, by rw [found]; rfl⟩
  · intro only found
    exact ⟨frame, by rw [found]; rfl⟩

theorem handleInvoicePaid_run (grant : Grant) {event : StripeInvoice}
    (user : s.working.userOfStripeCustomer (event.customer.getD "") = some userId)
    (store : event.storeSubscription = some storeId) :
    (handleInvoicePaid config grant event draws).run s =
      (invoiceWrites event userId storeId draws >>= fun found =>
        match found with
        | none => recoverAndCommit storeId draws
        | some row => grantAndRecover config grant userId storeId draws row).run
          s := by
  unfold handleInvoicePaid invoiceWrites
  rw [bind_assoc]
  refine (transacts_query fun _ => ?_).run_bind_congr
  rw [user]
  simp only [store, bind_assoc, grantAndRecover, recoverAndCommit]
  all_goals rfl

end

/-! ## One webhook -/

section

variable {config : TierConfig} {draws : Draws} {event : BillingEvent}
  {sub : Subscription} {s : Session Db}

/-- The parts of an invoice event that lead to its subscription. -/
theorem invoice_subscription {invoice : StripeInvoice} {db : Db}
    (found : (BillingEvent.invoicePaid invoice).subscription draws db = some sub) :
    ∃ userId storeId,
      db.userOfStripeCustomer (invoice.customer.getD "") = some userId ∧
      invoice.storeSubscription = some storeId ∧
      theOnly (db.subscriptionsOfStore storeId) = some sub := by
  simpa [BillingEvent.subscription, Option.bind_eq_some_iff] using found

/-- An attempted duplicate grant leaves the event ledger as it was committed. -/
theorem BillingEvent.handler_leaves
    (found : event.subscription draws s.working = some sub)
    (granted : Granted s.working sub) (due : event.grants config sub) :
    (event.handler config draws.grant draws).Leaves s fun db =>
      db.webhookEvents = s.committed.webhookEvents := by
  cases event with
  | initialPurchase event =>
      obtain ⟨userId, user, row⟩ := Option.bind_eq_some_iff.1 found
      simp only [handler, handleRcInitialPurchase_eq draws.grant user]
      refine leaves_bind rfl ((initialPurchaseWrites_transacts s).mono ?_)
      rintro object s' ⟨frame, row'⟩
      obtain rfl : object.row = sub := Option.some.inj (row'.symm.trans row)
      refine (grantAndCommit_leaves (granted.of_core frame.core) due).mono ?_
      rintro _ rfl
      rw [frame.committed]
  | renewal event =>
      obtain ⟨userId, user, row⟩ := Option.bind_eq_some_iff.1 found
      simp only [handler, handleRcRenewal_eq draws.grant user]
      refine leaves_bind rfl ((renewalWrites_transacts s).mono ?_)
      rintro object s' ⟨frame, row'⟩
      obtain rfl : object.row = sub := Option.some.inj (row'.symm.trans row)
      refine (grantAndCommit_leaves (granted.of_core frame.core) due).mono ?_
      rintro _ rfl
      rw [frame.committed]
  | invoicePaid event =>
      obtain ⟨userId, storeId, user, store, only⟩ := invoice_subscription found
      refine Leaves.congr ?_ (handleInvoicePaid_run draws.grant user store)
      refine leaves_bind rfl ((invoiceWrites_transacts event s).mono ?_)
      rintro _ s' ⟨frame, rfl⟩
      rw [only]
      refine (grantAndRecover_leaves (granted.of_core frame.core) due).mono ?_
      intro db kept
      rw [kept, frame.committed]

/-- Without the duplicate grant's rollback the handler commits its work. -/
theorem BillingEvent.handler_commits
    (found : event.subscription draws s.working = some sub) :
    (event.handler config alreadyGranted draws).Commits s
      (SameCore s.working) := by
  cases event with
  | initialPurchase event =>
      obtain ⟨userId, user, row⟩ := Option.bind_eq_some_iff.1 found
      simp only [handler, handleRcInitialPurchase_eq alreadyGranted user]
      refine commits_bind ((initialPurchaseWrites_transacts s).mono ?_)
      rintro object s' ⟨frame, -⟩
      exact grantAndCommit_commits.mono fun db core => frame.core.trans core
  | renewal event =>
      obtain ⟨userId, user, row⟩ := Option.bind_eq_some_iff.1 found
      simp only [handler, handleRcRenewal_eq alreadyGranted user]
      refine commits_bind ((renewalWrites_transacts s).mono ?_)
      rintro object s' ⟨frame, -⟩
      exact grantAndCommit_commits.mono fun db core => frame.core.trans core
  | invoicePaid event =>
      obtain ⟨userId, storeId, user, store, only⟩ := invoice_subscription found
      refine Commits.congr ?_ (handleInvoicePaid_run alreadyGranted user store)
      refine commits_bind ((invoiceWrites_transacts event s).mono ?_)
      rintro _ s' ⟨frame, rfl⟩
      rw [only]
      exact grantAndRecover_commits.mono fun db core => frame.core.trans core

/-- A handler that makes no grant does the same under every grant. -/
theorem BillingEvent.handler_congr (grant grant' : Grant)
    (found : event.subscription draws s.working = some sub)
    (notDue : ¬ event.grants config sub) :
    (event.handler config grant draws).run s =
      (event.handler config grant' draws).run s := by
  cases event with
  | initialPurchase event =>
      obtain ⟨userId, user, row⟩ := Option.bind_eq_some_iff.1 found
      simp only [handler, handleRcInitialPurchase_eq _ user]
      refine ((initialPurchaseWrites_transacts s).mono ?_).run_bind_congr
      rintro object s' ⟨-, row'⟩
      obtain rfl : object.row = sub := Option.some.inj (row'.symm.trans row)
      exact grantAndCommit_congr grant grant' notDue
  | renewal event =>
      obtain ⟨userId, user, row⟩ := Option.bind_eq_some_iff.1 found
      simp only [handler, handleRcRenewal_eq _ user]
      refine ((renewalWrites_transacts s).mono ?_).run_bind_congr
      rintro object s' ⟨-, row'⟩
      obtain rfl : object.row = sub := Option.some.inj (row'.symm.trans row)
      exact grantAndCommit_congr grant grant' notDue
  | invoicePaid event =>
      obtain ⟨userId, storeId, user, store, only⟩ := invoice_subscription found
      simp only [handler]
      rw [handleInvoicePaid_run grant user store,
        handleInvoicePaid_run grant' user store]
      refine ((invoiceWrites_transacts event s).mono ?_).run_bind_congr
      rintro _ s' ⟨-, rfl⟩
      rw [only]
      exact grantAndRecover_congr grant grant' notDue

end

/-! ## The endpoint -/

/-- The event passes the ledger with its row pending. -/
def ledgerSession (row : WebhookEvent) (s s' : Session Db) : Prop :=
  s' = { s with working := s'.working } ∧
    s'.working.transactions = s.working.transactions ∧
    s'.working.subscriptions = s.working.subscriptions ∧
    s'.working.customers = s.working.customers ∧
    s.working.webhookEvents.insert? row = some s'.working.webhookEvents

theorem insertLedgerEvent_transacts (row : WebhookEvent) (s : Session Db) :
    (insertLedgerEvent row).Transacts s fun isNew s' =>
      (isNew = true → ledgerSession row s s') ∧ (isNew = false → s' = s) := by
  unfold insertLedgerEvent
  refine transacts_bind (transacts_query fun _ => ?_)
  split
  · exact transacts_pure ⟨by simp, by simp⟩
  · refine transacts_bind (transacts_write fun _ db inserted => ?_)
    obtain ⟨events, stored, rfl⟩ := map_stored_eq_ok inserted
    exact transacts_pure ⟨fun _ => ⟨rfl, rfl, rfl, rfl, stored⟩, by simp⟩

theorem ledgerSession.subscription_eq {row : WebhookEvent} {s s' : Session Db}
    (h : ledgerSession row s s') (event : BillingEvent) (draws : Draws) :
    event.subscription draws s'.working = event.subscription draws s.working := by
  obtain ⟨-, -, subscriptions, customers, -⟩ := h
  cases event <;>
    simp [BillingEvent.subscription, rcSubscription, Db.subscriptionsFrom,
      Db.subscriptionsOfStore, Db.userOfStripeCustomer, subscriptions, customers]

theorem ledgerSession.granted {row : WebhookEvent} {s s' : Session Db}
    (h : ledgerSession row s s') {sub : Subscription}
    (granted : Granted s.working sub) : Granted s'.working sub := by
  unfold Granted
  rwa [h.2.1]

/-- An endpoint that answers `ok` ran the handler after the ledger insertion. -/
theorem endpoint_ok {row : WebhookEvent} {handler : BillingM Unit} {db : Db}
    (h : (endpoint row handler db).1 = .ok) :
    ∃ s s', ledgerSession row (Session.start false db) s ∧
      handler.run s = .ok () s' ∧ (endpoint row handler db).2 = s'.committed := by
  unfold endpoint receiveEvent at h ⊢
  rw [EStateM.run_bind] at h ⊢
  have ledger := insertLedgerEvent_transacts row (Session.start false db)
  unfold Transacts at ledger
  cases inserted : (insertLedgerEvent row).run (Session.start false db) with
  | error e s =>
      rw [inserted] at h
      cases h
  | ok isNew s =>
      rw [inserted] at h ledger
      cases isNew with
      | false => cases h
      | true =>
          refine ⟨s, ?_⟩
          simp only [if_true, EStateM.run_bind] at h ⊢
          cases handled : handler.run s with
          | error e s' =>
              rw [handled] at h
              cases h
          | ok _ s' => exact ⟨s', ledger.2.1 rfl, rfl, rfl⟩

section

variable {config : TierConfig} {draws : Draws} {row : WebhookEvent}
  {event : BillingEvent} {sub : Subscription} {db : Db}

theorem endpoint_keeps_ledger
    (found : event.subscription draws db = some sub) (granted : Granted db sub)
    (due : event.grants config sub) :
    (endpoint row (event.handler config draws.grant draws) db).2.webhookEvents =
      db.webhookEvents := by
  have left : (receiveEvent row (event.handler config draws.grant draws)).Leaves
      (Session.start false db) fun left =>
        left.webhookEvents = db.webhookEvents := by
    unfold receiveEvent
    refine leaves_bind rfl ((insertLedgerEvent_transacts row _).mono ?_)
    rintro isNew s ⟨fresh, same⟩
    cases isNew with
    | false =>
        rw [same rfl]
        exact rfl
    | true =>
        have ledger := fresh rfl
        have handled := BillingEvent.handler_leaves
          ((ledger.subscription_eq event draws).trans found)
          (ledger.granted granted) due
        refine leaves_then_pure (handled.mono fun left kept => ?_)
        rw [kept, ledger.1]
        rfl
  unfold Leaves at left
  unfold endpoint
  split at left <;> simp_all

/-- Without the rollback the ledger row stays, and no credit row is added. -/
theorem endpoint_stores_ledger
    (found : event.subscription draws db = some sub)
    (ok : (endpoint row (event.handler config alreadyGranted draws) db).1 = .ok) :
    row ∈ (endpoint row
        (event.handler config alreadyGranted draws) db).2.webhookEvents.rows ∧
      (endpoint row
        (event.handler config alreadyGranted draws) db).2.transactions =
          db.transactions := by
  obtain ⟨s, s', ledger, handled, committed⟩ := endpoint_ok ok
  have core := BillingEvent.handler_commits
    ((ledger.subscription_eq event draws).trans found) _ _ handled
  obtain ⟨-, rows, -, -, inserted⟩ := ledger
  rw [committed, core.webhookEvents, core.transactions, rows,
    (Table.insert?_eq_some inserted).2]
  exact ⟨List.mem_cons_self, rfl⟩

theorem endpoint_congr (grant grant' : Grant)
    (found : event.subscription draws db = some sub)
    (notDue : ¬ event.grants config sub) :
    endpoint row (event.handler config grant draws) db =
      endpoint row (event.handler config grant' draws) db := by
  have same : (receiveEvent row (event.handler config grant draws)).run
        (Session.start false db) =
      (receiveEvent row (event.handler config grant' draws)).run
        (Session.start false db) := by
    unfold receiveEvent
    refine ((insertLedgerEvent_transacts row _).mono ?_).run_bind_congr
    rintro isNew s ⟨fresh, -⟩
    cases isNew with
    | false => simp only [Bool.false_eq_true, if_false]
    | true =>
        have ledger := fresh rfl
        simp only [if_true, EStateM.run_bind]
        rw [BillingEvent.handler_congr grant grant'
          ((ledger.subscription_eq event draws).trans found) notDue]
  unfold endpoint
  rw [same]

end

instance (db : Db) (sub : Subscription) : Decidable (Granted db sub) :=
  inferInstanceAs (Decidable (∃ tx ∈ db.transactions.rows,
    tx.idempotencyKey = grantKey sub.id sub.currentPeriodStart))

/-- A grant for the event's subscription and period is already there. -/
def DuplicateGrant (event : BillingEvent) (draws : Draws) (db : Db) : Prop :=
  ∃ sub, event.subscription draws db = some sub ∧ Granted db sub

/-- The handler calls the grant for the event's subscription. -/
def GrantDue (config : TierConfig) (event : BillingEvent) (draws : Draws)
    (db : Db) : Prop :=
  ∃ sub, event.subscription draws db = some sub ∧ event.grants config sub

instance (event : BillingEvent) (draws : Draws) (db : Db) :
    Decidable (DuplicateGrant event draws db) :=
  inferInstanceAs (Decidable (∃ sub, sub ∈ event.subscription draws db ∧
    Granted db sub))

instance (config : TierConfig) (event : BillingEvent) (draws : Draws) (db : Db) :
    Decidable (GrantDue config event draws db) :=
  inferInstanceAs (Decidable (∃ sub, sub ∈ event.subscription draws db ∧
    event.grants config sub))

/-- The other statements of the webhook succeed, and the ledger row is new. -/
def Completes (config : TierConfig) (row : WebhookEvent) (event : BillingEvent)
    (draws : Draws) (db : Db) : Prop :=
  (endpoint row (event.handler config alreadyGranted draws) db).1 = .ok

instance (config : TierConfig) (row : WebhookEvent) (event : BillingEvent)
    (draws : Draws) (db : Db) : Decidable (Completes config row event draws db) :=
  inferInstanceAs (Decidable (_ = WebhookReply.ok))

/--
The duplicate grant undoes nothing: answer and committed database are those of
the same webhook whose grant reports "already granted" and does nothing else.
-/
def Survives (config : TierConfig) (row : WebhookEvent) (event : BillingEvent)
    (draws : Draws) (db : Db) : Prop :=
  Completes config row event draws db →
    endpoint row (event.handler config draws.grant draws) db =
      endpoint row (event.handler config alreadyGranted draws) db

/-- A webhook survives its duplicate grant exactly when it does not attempt it. -/
theorem duplicate_grant_survives_iff (config : TierConfig) (row : WebhookEvent)
    (event : BillingEvent) (draws : Draws) (db : Db)
    (duplicate : DuplicateGrant event draws db) :
    Survives config row event draws db ↔
      ¬ (GrantDue config event draws db ∧ Completes config row event draws db) := by
  obtain ⟨sub, found, granted⟩ := duplicate
  constructor
  · rintro survives ⟨⟨sub', found', due⟩, completes⟩
    obtain rfl : sub = sub' := Option.some.inj (found.symm.trans found')
    have stored := (endpoint_stores_ledger found completes).1
    rw [← survives completes, endpoint_keeps_ledger found granted due] at stored
    obtain ⟨s, s', ledger, -⟩ := endpoint_ok completes
    exact (Table.insert?_eq_some ledger.2.2.2.2).1
      (Or.inl (List.mem_map_of_mem stored))
  · intro notDue completes
    refine endpoint_congr _ _ found fun due => ?_
    exact notDue ⟨⟨sub, found, due⟩, completes⟩

/-! ## A renewal on the day of the purchase -/

def sampleDraws (tag : String) (now : Timestamp) : Draws :=
  { now, customerId := ⟨"customer-" ++ tag⟩,
    subscriptionId := ⟨"subscription-" ++ tag⟩,
    transactionId := ⟨"transaction-" ++ tag⟩, invoiceId := ⟨"invoice-" ++ tag⟩,
    originalTransactionId := ⟨"original-" ++ tag⟩,
    dunningCaseId := ⟨"case-" ++ tag⟩ }

def sampleEvent (product : String) (expirationAtMs : Int) : RcEvent :=
  { appUserId := some ⟨"ana"⟩, productId := some product,
    store := some "APP_STORE", originalTransactionId := some "1000",
    purchasedAtMs := some 1709208000000, expirationAtMs := some expirationAtMs }

def sampleRow (id : String) : WebhookEvent :=
  { provider := .revenuecat, providerEventId := id, eventType := "RENEWAL",
    eventTimestamp := 1709208000000000, receivedAt := 1709208001000000 }

/-- The database after a first purchase of the `pro` tier. -/
def purchasedDb : Db :=
  (endpoint (sampleRow "evt-1")
    (handleRcInitialPurchase tierDefaults (sampleDraws "a" 0).grant
      (sampleEvent "colab_pro_monthly" 1711886400000) (sampleDraws "a" 0))
    Db.empty).2

/-- A second grant for the day of the purchase: the webhook fails as a whole. -/
theorem renewal_undone :
    DuplicateGrant (.renewal (sampleEvent "colab_pro_monthly" 1714564800000))
        (sampleDraws "b" 1) purchasedDb ∧
      ¬ Survives tierDefaults (sampleRow "evt-2")
        (.renewal (sampleEvent "colab_pro_monthly" 1714564800000))
        (sampleDraws "b" 1) purchasedDb := by
  let event : BillingEvent := .renewal (sampleEvent "colab_pro_monthly" 1714564800000)
  obtain ⟨duplicate, completes, differ⟩ : DuplicateGrant event (sampleDraws "b" 1) purchasedDb ∧
      Completes tierDefaults (sampleRow "evt-2") event (sampleDraws "b" 1) purchasedDb ∧
      (endpoint (sampleRow "evt-2") (event.handler tierDefaults (sampleDraws "b" 1).grant
          (sampleDraws "b" 1)) purchasedDb).1 ≠
        (endpoint (sampleRow "evt-2") (event.handler tierDefaults alreadyGranted
          (sampleDraws "b" 1)) purchasedDb).1 := by
    decide +kernel
  exact ⟨duplicate, fun survives => differ (congrArg Prod.fst (survives completes))⟩

/-- A renewal into the free tier attempts no grant and keeps its work. -/
theorem duplicate_grant_survives_free :
    Survives tierDefaults (sampleRow "evt-2")
      (.renewal (sampleEvent "colab_basic_monthly" 1714564800000))
      (sampleDraws "b" 1) purchasedDb :=
  (duplicate_grant_survives_iff _ _ _ _ _ (by decide +kernel)).2
    (by decide +kernel)

end ColabPlatform.Billing
