import ColabPlatform.Billing.DuplicateGrant
import ColabPlatform.Billing.RcHandlers

/-!
# What the handlers commit

For each statement of the subscription handlers the tables it writes, and for
each handler what is committed when it returns.  A handler that raises has
committed nothing.
-/

namespace ColabPlatform.Billing

open Foundation Foundation.Program

/-! ## The upserts -/

/-- The row that the upsert of a Stripe event leaves. -/
def stripeSubscription (event : StripeSub) (userId : Uuid) (tier : Tier) (draws : Draws)
    (db : Db) : Option Subscription :=
  match db.subscriptionsFrom .stripe event.storeId with
  | [] => some (Subscription.newFromStripe userId event tier draws)
  | [sub] => some (sub.fromStripe event tier draws)
  | _ => none

/-- A row that is replaced was of the same user. -/
def KeepsOwner (row : Subscription) (db : Db) : Prop :=
  ∀ old, db.subscriptions.lookup row.id = some old → old.userId = row.userId

/-- `row` is stored, and no other table is written. -/
structure WroteSubscription (row : Subscription) (db db' : Db) : Prop where
  puts : db.subscriptions.Puts row db'.subscriptions
  owner : KeepsOwner row db
  same : db' = { db with subscriptions := db'.subscriptions }

/-- A flush stores what it is given, up to the time of the change. -/
theorem Subscription.flushed_eq (old new : Subscription) (draws : Draws) :
    old.flushed new draws = { new with updatedAt := (old.flushed new draws).updatedAt } := by
  unfold Subscription.flushed
  split
  · rename_i same
    rw [same]
  · rfl

/-- What an event of RevenueCat makes of the row. -/
def Subscription.withRc (sub : Subscription) (event : RcEvent) (eventType : RcEventType)
    (draws : Draws) : Subscription :=
  { sub with
    status := eventType.status
    tier := mapProductToTier event.product
    currentPeriodStart := event.periodStart draws
    currentPeriodEnd := event.periodEnd draws
    canceledAt :=
      if eventType.status ∈ [.canceled, .expired] ∧ sub.canceledAt = none then
        some draws.now
      else sub.canceledAt }

theorem Subscription.fromRc_eq (sub : Subscription) (event : RcEvent)
    (eventType : RcEventType) (draws : Draws) :
    sub.fromRc event eventType draws =
      sub.flushed (sub.withRc event eventType draws) draws := rfl

theorem Subscription.id_flushed (old new : Subscription) (draws : Draws) :
    (old.flushed new draws).id = new.id := by
  rw [flushed_eq]

theorem Subscription.id_fromStripe (sub : Subscription) (event : StripeSub) (tier : Tier)
    (draws : Draws) : (sub.fromStripe event tier draws).id = sub.id := by
  unfold Subscription.fromStripe
  split
  · exact id_flushed _ _ _
  · rfl

theorem Subscription.userId_flushed (old new : Subscription) (draws : Draws) :
    (old.flushed new draws).userId = new.userId := by
  rw [flushed_eq]

theorem Subscription.userId_fromStripe (sub : Subscription) (event : StripeSub) (tier : Tier)
    (draws : Draws) : (sub.fromStripe event tier draws).userId = sub.userId := by
  unfold Subscription.fromStripe
  split
  · exact userId_flushed _ _ _
  · rfl

theorem Subscription.userId_fromRc (sub : Subscription) (event : RcEvent)
    (eventType : RcEventType) (draws : Draws) :
    (sub.fromRc event eventType draws).userId = sub.userId := by
  rw [fromRc_eq, userId_flushed]
  rfl

theorem Subscription.source_fromStripe (sub : Subscription) (event : StripeSub) (tier : Tier)
    (draws : Draws) : (sub.fromStripe event tier draws).source = sub.source := by
  unfold Subscription.fromStripe
  split
  · rw [flushed_eq]
    rfl
  · rfl

theorem Subscription.tier_fromStripe (sub : Subscription) (event : StripeSub) (tier : Tier)
    (draws : Draws) :
    (sub.fromStripe event tier draws).tier =
      if event.eventTs ≤ sub.updatedAt then tier else sub.tier := by
  unfold Subscription.fromStripe
  split
  · rw [flushed_eq]
    rfl
  · rfl

theorem Subscription.storeSubscriptionId_fromStripe (sub : Subscription)
    (event : StripeSub) (tier : Tier) (draws : Draws) :
    (sub.fromStripe event tier draws).storeSubscriptionId = sub.storeSubscriptionId := by
  unfold Subscription.fromStripe
  split
  · rw [flushed_eq]
    rfl
  · rfl

theorem Subscription.id_fromRc (sub : Subscription) (event : RcEvent)
    (eventType : RcEventType) (draws : Draws) :
    (sub.fromRc event eventType draws).id = sub.id := by
  rw [fromRc_eq, id_flushed]
  rfl

theorem wroteSubscription_insert {row : Subscription} {db db' : Db}
    (inserted : db.insertSubscription row = .ok db') : WroteSubscription row db db' := by
  obtain ⟨subscriptions, stored, rfl⟩ := map_stored_eq_ok inserted
  refine ⟨Table.puts_insert stored, fun old found => ?_, rfl⟩
  have taken := List.mem_map_of_mem (f := Subscription.id) (Table.mem_of_lookup found)
  rw [Table.key_of_lookup found] at taken
  exact absurd (Or.inl taken) (Table.insert?_eq_some stored).1

theorem wroteSubscription_modify {old new : Subscription} {db : Db}
    (mem : old ∈ db.subscriptions.rows) (same : new.id = old.id)
    (owner : new.userId = old.userId) :
    WroteSubscription new db { db with
      subscriptions := db.subscriptions.modify old.id fun row =>
        { new with id := row.id } } := by
  have puts : db.subscriptions.Puts { new with id := old.id }
      (db.subscriptions.modify old.id fun row => { new with id := row.id }) :=
    Table.puts_modify mem
  have row : { new with id := old.id } = new := by rw [← same]
  rw [row] at puts
  refine ⟨puts, fun other found => ?_, rfl⟩
  rw [same, Table.lookup_of_mem mem] at found
  rw [← Option.some.inj found, owner]

theorem upsertSubscriptionFromStripe_writes (event : StripeSub) (userId : Uuid)
    (tier : Tier) (draws : Draws) (s : Session Db) :
    (upsertSubscriptionFromStripe event userId tier draws).Transacts s fun sub s' =>
      s' = { s with working := s'.working } ∧
        WroteSubscription sub.row s.working s'.working ∧
        stripeSubscription event userId tier draws s.working = some sub.row := by
  unfold upsertSubscriptionFromStripe
  refine transacts_bind (transacts_query fun _ => ?_)
  refine transacts_bind (transacts_scalarOneOrNone ?_ ?_)
  · intro none_found
    refine transacts_bind (transacts_write fun _ db inserted => ?_)
    refine transacts_load ⟨rfl, wroteSubscription_insert inserted, ?_⟩
    simp [stripeSubscription, none_found]
  · intro sub found
    have mem : sub ∈ s.working.subscriptions.rows :=
      (List.mem_filter.1 (found ▸ List.mem_singleton_self sub)).1
    refine transacts_bind (transacts_write fun _ db updated => ?_)
    cases updated
    refine transacts_load ⟨rfl, wroteSubscription_modify mem (sub.id_fromStripe ..)
      (sub.userId_fromStripe ..), ?_⟩
    simp [stripeSubscription, found]

theorem upsertSubscriptionFromRc_writes (event : RcEvent) (userId : Uuid)
    (eventType : RcEventType) (eventTs : Timestamp) (draws : Draws) (s : Session Db) :
    (upsertSubscriptionFromRc event userId eventType eventTs draws).Transacts s
      fun sub s' => s' = { s with working := s'.working } ∧
        WroteSubscription sub.row s.working s'.working ∧
        rcSubscription event userId eventType draws s.working = some sub.row := by
  unfold upsertSubscriptionFromRc
  refine transacts_bind (transacts_query fun _ => ?_)
  refine transacts_bind (transacts_scalarOneOrNone ?_ ?_)
  · intro none_found
    refine transacts_bind (transacts_write fun _ db inserted => ?_)
    refine transacts_load ⟨rfl, wroteSubscription_insert inserted, ?_⟩
    simp [rcSubscription, none_found]
  · intro sub found
    have mem : sub ∈ s.working.subscriptions.rows :=
      (List.mem_filter.1 (found ▸ List.mem_singleton_self sub)).1
    refine transacts_bind (transacts_write fun _ db updated => ?_)
    cases updated
    refine transacts_load ⟨rfl, wroteSubscription_modify mem (sub.id_fromRc ..)
      (sub.userId_fromRc ..), ?_⟩
    simp [rcSubscription, found]

/-! ## The snapshots -/

/-- The rows that `apply_entitlements_for_user` writes. -/
def snapshotsOf (config : TierConfig) (userId : Uuid) (sub : Subscription)
    (draws : Draws) : List EntitlementSnapshot :=
  let tier := if sub.status.active? then sub.tier else .free
  (config tier).map fun axis =>
    { userId, axisKey := axis.1, value := axis.2, source := "subscription",
      sourceRef := sub.id, expiresAt := some sub.currentPeriodEnd,
      updatedAt := draws.now }

/-- The snapshots are stored, and no other table is written. -/
structure WroteSnapshots (rows : List EntitlementSnapshot) (db db' : Db) : Prop where
  puts : Table.PutsAll rows db.snapshots db'.snapshots
  same : db' = { db with snapshots := db'.snapshots }

theorem wroteSnapshots_nil (db : Db) : WroteSnapshots [] db db := ⟨rfl, rfl⟩

theorem upsertSnapshot_puts {snapshot : EntitlementSnapshot} {db db' : Db}
    (h : db.upsertSnapshot snapshot = .ok db') :
    db.snapshots.Puts snapshot db'.snapshots ∧
      db' = { db with snapshots := db'.snapshots } := by
  unfold Db.upsertSnapshot at h
  split at h
  · rename_i old found
    cases h
    refine ⟨?_, rfl⟩
    obtain ⟨mem, same⟩ := Table.lookup_eq_some_iff.1 found
    have puts : db.snapshots.Puts
        { old with
          value := snapshot.value
          expiresAt := snapshot.expiresAt
          updatedAt := snapshot.updatedAt }
        (db.snapshots.modify old.slot fun old =>
          { old with
            value := snapshot.value
            expiresAt := snapshot.expiresAt
            updatedAt := snapshot.updatedAt }) := Table.puts_modify mem
    have row : { old with
        value := snapshot.value
        expiresAt := snapshot.expiresAt
        updatedAt := snapshot.updatedAt } = snapshot := by
      simp only [EntitlementSnapshot.slot, Prod.mk.injEq] at same
      obtain ⟨user, axis, source, ref⟩ := same
      cases old
      cases snapshot
      simp_all
    rw [row] at puts
    simpa only [same] using puts
  · obtain ⟨snapshots, stored, rfl⟩ := map_stored_eq_ok h
    exact ⟨Table.puts_insert stored, rfl⟩

theorem WroteSnapshots.cons {row : EntitlementSnapshot} {rows : List EntitlementSnapshot}
    {db middle db' : Db} (first : db.upsertSnapshot row = .ok middle)
    (rest : WroteSnapshots rows middle db') : WroteSnapshots (row :: rows) db db' := by
  obtain ⟨puts, same⟩ := upsertSnapshot_puts first
  refine ⟨⟨_, puts, rest.puts⟩, ?_⟩
  rw [rest.same, same]

theorem applyEntitlementsForUser_writes (config : TierConfig) (userId : Uuid)
    (sub : Instance Subscription) (draws : Draws) (s : Session Db) :
    (applyEntitlementsForUser config userId sub draws).Transacts s fun _ s' =>
      s' = { s with working := s'.working } ∧
        WroteSnapshots (snapshotsOf config userId sub.row draws) s.working s'.working := by
  unfold applyEntitlementsForUser
  refine transacts_bind (transacts_readAttr ?_)
  let snapshot : String × AxisValue → EntitlementSnapshot := fun axis =>
    { userId, axisKey := axis.1, value := axis.2, source := "subscription",
      sourceRef := sub.row.id, expiresAt := some sub.row.currentPeriodEnd,
      updatedAt := draws.now }
  let chain (axes : List (String × AxisValue)) (s s' : Session Db) : Prop :=
    s' = { s with working := s'.working } ∧
      WroteSnapshots (axes.map snapshot) s.working s'.working
  refine transacts_forM_chain (?_ : ∀ s, chain [] s s) ?_ s
  · exact fun s => ⟨rfl, wroteSnapshots_nil _⟩
  · intro axis rest s
    refine transacts_write fun _ db upserted => ?_
    rintro last ⟨session, wrote⟩
    exact ⟨session, .cons upserted wrote⟩

/-! ## Dunning cases, customers, credits -/

theorem openDunningCase_writes (userId subscriptionId : Uuid) (draws : Draws)
    (s : Session Db) :
    (openDunningCase userId subscriptionId draws).Transacts s fun _ s' =>
      s' = { s with working := s'.working } ∧
        s'.working = { s.working with dunningCases := s'.working.dunningCases } := by
  unfold openDunningCase
  refine transacts_bind (transacts_query fun _ => ?_)
  refine transacts_bind (transacts_scalarOneOrNone ?_ ?_)
  · intro _
    refine transacts_bind (transacts_write fun _ db inserted => ?_)
    obtain ⟨cases, -, rfl⟩ := map_stored_eq_ok inserted
    exact transacts_pure ⟨rfl, rfl⟩
  · intro row _
    exact transacts_pure ⟨rfl, rfl⟩

theorem markRecovered_writes (subscriptionId : Uuid) (draws : Draws) (s : Session Db) :
    (markRecovered subscriptionId draws).Transacts s fun _ s' =>
      s' = { s with working := s'.working } ∧
        s'.working = { s.working with dunningCases := s'.working.dunningCases } := by
  unfold markRecovered
  refine transacts_bind (transacts_query fun _ => ?_)
  refine transacts_bind (transacts_scalarOneOrNone ?_ ?_)
  · intro _
    exact transacts_pure ⟨rfl, rfl⟩
  · intro row _
    refine transacts_bind (transacts_write fun _ db updated => ?_)
    cases updated
    exact transacts_pure ⟨rfl, rfl⟩

theorem ensureCustomer_writes (userId : Uuid) (draws : Draws) (s : Session Db) :
    (ensureCustomer userId draws).Transacts s fun _ s' =>
      s' = { s with working := s'.working } ∧
        s'.working = { s.working with customers := s'.working.customers } := by
  unfold ensureCustomer
  refine transacts_bind (transacts_query fun _ => ?_)
  split
  · exact transacts_pure ⟨rfl, rfl⟩
  · refine transacts_write fun _ db inserted => ?_
    obtain ⟨customers, -, rfl⟩ := map_stored_eq_ok inserted
    exact ⟨rfl, rfl⟩

theorem markInvoicePaid_writes (event : StripeInvoice) (userId : Uuid) (draws : Draws)
    (s : Session Db) :
    (markInvoicePaid event userId draws).Transacts s fun _ s' =>
      s' = { s with working := s'.working } ∧
        s'.working = { s.working with invoices := s'.working.invoices } := by
  unfold markInvoicePaid
  refine transacts_bind (transacts_query fun _ => ?_)
  split
  · refine transacts_write fun _ db inserted => ?_
    obtain ⟨invoices, -, rfl⟩ := map_stored_eq_ok inserted
    exact ⟨rfl, rfl⟩
  · refine transacts_write fun _ db updated => ?_
    cases updated
    exact ⟨rfl, rfl⟩

theorem getOrCreateWallet_writes (userId : Uuid) (now : Timestamp) (s : Session Db) :
    (getOrCreateWallet userId now).Transacts s fun _ s' =>
      s' = { s with working := s'.working } ∧
        s'.working = { s.working with wallets := s'.working.wallets } := by
  unfold getOrCreateWallet
  refine transacts_bind (transacts_query fun _ => ?_)
  split
  · exact transacts_pure ⟨rfl, rfl⟩
  · refine transacts_bind (transacts_write fun _ db inserted => ?_)
    obtain ⟨wallets, -, rfl⟩ := map_stored_eq_ok inserted
    exact transacts_pure ⟨rfl, rfl⟩

/-- What a purchase or a grant of credits does: it stores its row, or it finds
the row's key taken and rolls back. -/
def Credited (tx : CreditTransaction) (s s' : Session Db) : Prop :=
  (s' = { s with working := s'.working } ∧
    s'.working = { s.working with
      wallets := s'.working.wallets
      transactions := s'.working.transactions } ∧
    s.working.transactions.insert? tx = some s'.working.transactions) ∨
  s.working.transactions.Clashes tx ∧ s' = s.rolledBack

theorem wallets_setWallet {userId : Uuid} {balance : Int} {now : Timestamp}
    {db db' : Db} (h : db.setWallet userId balance now = .ok db') :
    db' = { db with wallets := db'.wallets } := by
  unfold Db.setWallet at h
  split at h
  · cases h
    rfl
  · cases h

theorem clashes_of_integrity {tx : CreditTransaction} {db : Db}
    (h : db.insertTransaction tx = .error .integrity) : db.transactions.Clashes tx := by
  unfold Db.insertTransaction Db.stored at h
  split at h
  · cases inserted : db.transactions.insert? tx with
    | none => exact Table.insert?_eq_none_iff.1 inserted
    | some transactions =>
        rw [inserted] at h
        cases h
  · cases h

theorem grantSubscriptionCredits_writes (userId : Uuid) (amount : Int)
    (subscriptionId : Uuid) (periodStart : Timestamp) (newId : Uuid) (now : Timestamp)
    (s : Session Db) :
    (grantSubscriptionCredits userId amount subscriptionId periodStart newId now).Transacts s
      fun _ s' => Credited (committedRow newId userId amount .subscriptionGrant
        "subscription" subscriptionId.text (grantKey subscriptionId periodStart) now) s s' := by
  unfold grantSubscriptionCredits
  refine transacts_bind ((getOrCreateWallet_writes _ _ _).mono ?_)
  rintro wallet s₁ ⟨session, wallets⟩
  have transactions : s₁.working.transactions = s.working.transactions := by rw [wallets]
  refine transacts_bind (transacts_tryWrite ?_ ?_)
  · intro _ db inserted
    obtain ⟨rest, stored, rfl⟩ := map_stored_eq_ok inserted
    refine transacts_bind (transacts_write fun _ db updated => ?_)
    refine transacts_pure (Or.inl ⟨?_, ?_, ?_⟩)
    · rw [session]
    · rw [wallets_setWallet updated, wallets]
    · rw [wallets_setWallet updated, ← transactions]
      exact stored
  · intro _ violated
    refine transacts_bind (transacts_rollback ?_)
    refine transacts_pure (Or.inr ⟨transactions ▸ clashes_of_integrity violated, ?_⟩)
    rw [session]
    rfl

theorem creditPurchase_writes (userId : Uuid) (amount : Int)
    (referenceKind referenceId idempotencyKey : String) (newId : Uuid) (now : Timestamp)
    (s : Session Db) :
    (creditPurchase userId amount referenceKind referenceId idempotencyKey newId
      now).Transacts s fun _ s' => Credited (committedRow newId userId amount .purchase
        referenceKind referenceId idempotencyKey now) s s' := by
  unfold creditPurchase
  refine transacts_bind ((getOrCreateWallet_writes _ _ _).mono ?_)
  rintro wallet s₁ ⟨session, wallets⟩
  have transactions : s₁.working.transactions = s.working.transactions := by rw [wallets]
  refine transacts_bind (transacts_tryWrite ?_ ?_)
  · intro _ db inserted
    obtain ⟨rest, stored, rfl⟩ := map_stored_eq_ok inserted
    refine transacts_bind (transacts_write fun _ db updated => ?_)
    refine transacts_pure (Or.inl ⟨?_, ?_, ?_⟩)
    · rw [session]
    · rw [wallets_setWallet updated, wallets]
    · rw [wallets_setWallet updated, ← transactions]
      exact stored
  · intro _ violated
    refine transacts_bind (transacts_rollback ?_)
    refine transacts_bind (transacts_query fun _ => ?_)
    refine transacts_scalarOne fun row _ =>
      Or.inr ⟨transactions ▸ clashes_of_integrity violated, ?_⟩
    rw [session]
    rfl

/-! ## The handlers -/

/-- The row and the snapshots are stored; the event ledger stays as it is. -/
structure WroteRow (sub : Subscription) (rows : List EntitlementSnapshot) (db db' : Db) :
    Prop where
  subscription : db.subscriptions.Puts sub db'.subscriptions
  owner : KeepsOwner sub db
  snapshots : Table.PutsAll rows db.snapshots db'.snapshots
  webhookEvents : db'.webhookEvents = db.webhookEvents

theorem wroteRow {sub : Subscription} {rows : List EntitlementSnapshot}
    {db middle db' : Db} (row : WroteSubscription sub db middle)
    (snapshots : WroteSnapshots rows middle db') : WroteRow sub rows db db' := by
  have first := row.same
  have second := snapshots.same
  constructor
  · have same : db'.subscriptions = middle.subscriptions := by rw [second]
    rw [same]
    exact row.puts
  · exact row.owner
  · have same : middle.snapshots = db.snapshots := by rw [first]
    rw [← same]
    exact snapshots.puts
  · rw [second, first]

/-- Writes to other tables in between do not matter. -/
theorem WroteRow.congr {sub : Subscription} {rows : List EntitlementSnapshot}
    {db₀ db db' db₁ : Db} (h : WroteRow sub rows db db')
    (before : db.subscriptions = db₀.subscriptions ∧ db.snapshots = db₀.snapshots ∧
      db.webhookEvents = db₀.webhookEvents)
    (after : db₁.subscriptions = db'.subscriptions ∧ db₁.snapshots = db'.snapshots ∧
      db₁.webhookEvents = db'.webhookEvents) : WroteRow sub rows db₀ db₁ := by
  obtain ⟨subscriptions, snapshots, events⟩ := before
  obtain ⟨subscriptions', snapshots', events'⟩ := after
  constructor
  · rw [← subscriptions, subscriptions']
    exact h.subscription
  · rw [KeepsOwner, ← subscriptions]
    exact h.owner
  · rw [← snapshots, snapshots']
    exact h.snapshots
  · rw [events', h.webhookEvents, events]

/-- No other store has a subscription of this name. -/
def StripeOnly (storeId : String) (db : Db) : Prop :=
  ∀ row ∈ db.subscriptionsOfStore storeId, row.source = .stripe

theorem StripeOnly.subscriptionsFrom {storeId : String} {db : Db}
    (h : StripeOnly storeId db) :
    db.subscriptionsFrom .stripe storeId = db.subscriptionsOfStore storeId := by
  refine List.filter_congr fun row mem => ?_
  by_cases same : row.storeSubscriptionId = some storeId
  · have source := h row (List.mem_filter.2 ⟨mem, by simpa using same⟩)
    simp [source, same]
  · simp [same]

/-- The row of an event is the only one of its subscription afterwards. -/
theorem subscriptionsOfStore_stripe {event : StripeSub} {userId : Uuid} {tier : Tier}
    {draws : Draws} {sub : Subscription} {rows : List EntitlementSnapshot} {db db' : Db}
    (stripe : StripeOnly event.storeId db)
    (found : stripeSubscription event userId tier draws db = some sub)
    (wrote : WroteRow sub rows db db') :
    db'.subscriptionsOfStore event.storeId = [sub] ∧ sub.source = .stripe ∧
      ((db.subscriptionsOfStore event.storeId = [] ∧
          sub = .newFromStripe userId event tier draws) ∨
        ∃ row, db.subscriptionsOfStore event.storeId = [row] ∧
          sub = row.fromStripe event tier draws) := by
  rw [stripeSubscription, stripe.subscriptionsFrom] at found
  have only : ∀ {row}, row.storeSubscriptionId = some event.storeId →
      (∀ other ∈ db.subscriptionsOfStore event.storeId, other.id = row.id) → row = sub →
      db'.subscriptionsOfStore event.storeId = [sub] := by
    rintro row store replaced rfl
    exact wrote.subscription.filter_eq (by simpa using store) replaced
  cases stored : db.subscriptionsOfStore event.storeId with
  | nil =>
      simp only [stored, Option.some.injEq] at found
      exact ⟨only rfl (by simp [stored]) found, found ▸ rfl, Or.inl ⟨rfl, found.symm⟩⟩
  | cons row others =>
      cases others with
      | cons _ _ => simp [stored] at found
      | nil =>
          simp only [stored, Option.some.injEq] at found
          have mem : row ∈ db.subscriptionsOfStore event.storeId := by simp [stored]
          have store : row.storeSubscriptionId = some event.storeId := by
            simpa using (List.mem_filter.1 mem).2
          refine ⟨only ?_ ?_ found, ?_, Or.inr ⟨row, rfl, found.symm⟩⟩
          · rw [Subscription.storeSubscriptionId_fromStripe, store]
          · simp [stored, Subscription.id_fromStripe]
          · rw [← found, Subscription.source_fromStripe, stripe row mem]

theorem handleSubscription_settles (config : TierConfig) (tier : Tier) (event : StripeSub)
    (draws : Draws) (s : Session Db) :
    (handleSubscription config tier event draws).Settles s fun db =>
      (s.working.userOfStripeCustomer (event.customer.getD "") = none ∧ db = s.committed) ∨
      ∃ userId sub,
        s.working.userOfStripeCustomer (event.customer.getD "") = some userId ∧
        stripeSubscription event userId tier draws s.working = some sub ∧
        WroteRow sub (snapshotsOf config userId sub draws) s.working db ∧
        db.transactions = s.working.transactions := by
  unfold handleSubscription
  refine settles_bind (transacts_query fun _ => ?_)
  cases user : s.working.userOfStripeCustomer (event.customer.getD "") with
  | none => exact settles_pure (Or.inl ⟨rfl, rfl⟩)
  | some userId =>
      refine settles_bind ((upsertSubscriptionFromStripe_writes _ _ _ _ s).mono ?_)
      rintro sub s₁ ⟨-, row, found⟩
      refine settles_bind ((applyEntitlementsForUser_writes _ _ _ _ s₁).mono ?_)
      rintro _ s₂ ⟨-, snapshots⟩
      refine settles_bind (transacts_readAttr ?_)
      refine settles_commit (Or.inr ⟨userId, sub.row, rfl, found, wroteRow row snapshots, ?_⟩)
      rw [snapshots.same, row.same]

theorem handleInvoiceFailed_settles (event : StripeInvoice) (draws : Draws)
    (s : Session Db) :
    (handleInvoiceFailed event draws).Settles s fun db =>
      (s.working.userOfStripeCustomer (event.customer.getD "") = none ∧ db = s.committed) ∨
      (s.working.userOfStripeCustomer (event.customer.getD "")).isSome ∧
        ((∀ storeId ∈ event.storeSubscription, s.working.subscriptionsOfStore storeId = []) ∧
            db = s.working ∨
          ∃ storeId row, event.storeSubscription = some storeId ∧
            s.working.subscriptionsOfStore storeId = [row] ∧
            WroteRow (row.pastDue draws) [] s.working db) := by
  unfold handleInvoiceFailed
  refine settles_bind (transacts_query fun _ => ?_)
  cases user : s.working.userOfStripeCustomer (event.customer.getD "") with
  | none => exact settles_pure (Or.inl ⟨rfl, rfl⟩)
  | some userId =>
      cases store : event.storeSubscription with
      | none => exact settles_commit (Or.inr ⟨rfl, Or.inl ⟨by simp, rfl⟩⟩)
      | some storeId =>
          refine settles_bind (transacts_query fun _ => ?_)
          refine settles_bind (transacts_scalarOneOrNone ?_ ?_)
          · intro none_found
            exact settles_commit (Or.inr ⟨rfl, Or.inl ⟨by simpa using none_found, rfl⟩⟩)
          · intro row found
            have mem : row ∈ s.working.subscriptions.rows :=
              (List.mem_filter.1 (found ▸ List.mem_singleton_self row)).1
            have wrote := wroteSubscription_modify mem
              (row.id_flushed { row with status := .pastDue } draws) (row.userId_flushed _ _)
            refine settles_bind (transacts_write fun _ db updated => ?_)
            cases updated
            refine settles_bind (transacts_load ?_)
            refine settles_bind (transacts_readAttr ?_)
            refine settles_bind ((openDunningCase_writes _ _ _ _).mono ?_)
            rintro _ s₁ ⟨-, dunning⟩
            refine settles_bind (transacts_readAttr ?_)
            refine settles_commit (Or.inr ⟨rfl, Or.inr ⟨storeId, row, rfl, found, ?_⟩⟩)
            refine (wroteRow wrote (wroteSnapshots_nil _)).congr ⟨rfl, rfl, rfl⟩ ?_
            rw [dunning]
            exact ⟨rfl, rfl, rfl⟩

theorem refreshFromRc_settles (config : TierConfig) (eventType : RcEventType)
    (eventTs : Timestamp) (event : RcEvent) (draws : Draws) (s : Session Db) :
    (refreshFromRc config eventType eventTs event draws).Settles s fun db =>
      (event.appUserId = none ∧ db = s.committed) ∨
      ∃ userId sub, event.appUserId = some userId ∧
        rcSubscription event userId eventType draws s.working = some sub ∧
        WroteRow sub (snapshotsOf config userId sub draws) s.working db := by
  unfold refreshFromRc
  cases user : event.appUserId with
  | none => exact settles_pure (Or.inl ⟨rfl, rfl⟩)
  | some userId =>
      refine settles_bind ((upsertSubscriptionFromRc_writes _ _ _ _ _ s).mono ?_)
      rintro sub s₁ ⟨-, row, found⟩
      refine settles_bind ((applyEntitlementsForUser_writes _ _ _ _ s₁).mono ?_)
      rintro _ s₂ ⟨-, snapshots⟩
      refine settles_bind (transacts_readAttr ?_)
      exact settles_commit (Or.inr ⟨userId, sub.row, rfl, found, wroteRow row snapshots⟩)

theorem handleRcBillingIssue_settles (event : RcEvent) (draws : Draws) (s : Session Db) :
    (handleRcBillingIssue event draws).Settles s fun db =>
      (event.appUserId = none ∧ db = s.committed) ∨
      ∃ userId sub, event.appUserId = some userId ∧
        rcSubscription event userId .billingIssue draws s.working = some sub ∧
        WroteRow sub [] s.working db := by
  unfold handleRcBillingIssue
  cases user : event.appUserId with
  | none => exact settles_pure (Or.inl ⟨rfl, rfl⟩)
  | some userId =>
      refine settles_bind ((upsertSubscriptionFromRc_writes _ _ _ _ _ s).mono ?_)
      rintro sub s₁ ⟨-, row, found⟩
      refine settles_bind (transacts_readAttr ?_)
      refine settles_bind ((openDunningCase_writes _ _ _ s₁).mono ?_)
      rintro _ s₂ ⟨-, dunning⟩
      refine settles_bind (transacts_readAttr ?_)
      refine settles_commit (Or.inr ⟨userId, sub.row, rfl, found, ?_⟩)
      refine (wroteRow row (wroteSnapshots_nil _)).congr ⟨rfl, rfl, rfl⟩ ?_
      rw [dunning]
      exact ⟨rfl, rfl, rfl⟩

/-! ## Handlers that grant or sell credits -/

/-- The row of a monthly grant. -/
def grantRow (config : TierConfig) (draws : Draws) (userId : Uuid) (sub : Subscription) :
    CreditTransaction :=
  committedRow draws.transactionId userId (config.aiCredits sub.tier) .subscriptionGrant
    "subscription" sub.id.text (grantKey sub.id sub.currentPeriodStart) draws.now

theorem grantMonthlyCredits_writes (config : TierConfig) (draws : Draws) (userId : Uuid)
    (sub : Instance Subscription) (s : Session Db) :
    (grantMonthlyCredits config draws.grant userId sub).Transacts s fun _ s' =>
      (¬ 0 < config.aiCredits sub.row.tier ∧ s' = s) ∨
        0 < config.aiCredits sub.row.tier ∧
          Credited (grantRow config draws userId sub.row) s s' := by
  unfold grantMonthlyCredits
  refine transacts_bind (transacts_readAttr ?_)
  by_cases due : 0 < config.aiCredits sub.row.tier
  · rw [if_pos due]
    refine transacts_bind (transacts_readAttr ?_)
    refine transacts_bind (transacts_readAttr ?_)
    refine transacts_bind ((grantSubscriptionCredits_writes _ _ _ _ _ _ s).mono ?_)
    intro _ s' credited
    exact transacts_pure (Or.inr ⟨due, credited⟩)
  · rw [if_neg due]
    exact transacts_pure (Or.inl ⟨due, rfl⟩)

/-- The end of the two handlers that grant, from a session with the row written. -/
theorem grantAndCommit_settles {config : TierConfig} {draws : Draws} {userId : Uuid}
    {sub : Instance Subscription} {rows : List EntitlementSnapshot} {db : Db}
    {s : Session Db} (wrote : WroteRow sub.row rows db s.working) :
    (grantAndCommit config draws.grant userId sub).Settles s fun db' =>
      db' = s.committed ∨ WroteRow sub.row rows db db' := by
  unfold grantAndCommit
  refine settles_bind ((grantMonthlyCredits_writes config draws userId sub s).mono ?_)
  rintro _ s' (⟨-, rfl⟩ | ⟨-, ⟨-, credits, -⟩ | ⟨-, rfl⟩⟩)
  · refine settles_bind (transacts_readAttr ?_)
    exact settles_commit (Or.inr wrote)
  · refine settles_bind (transacts_readAttr ?_)
    refine settles_commit (Or.inr (wrote.congr ⟨rfl, rfl, rfl⟩ ?_))
    rw [credits]
    exact ⟨rfl, rfl, rfl⟩
  · refine settles_bind (transacts_readAttr ?_)
    exact settles_commit (Or.inl rfl)

theorem handleRcInitialPurchase_settles (config : TierConfig) (event : RcEvent)
    (draws : Draws) (s : Session Db) :
    (handleRcInitialPurchase config draws.grant event draws).Settles s fun db =>
      (event.appUserId = none ∧ db = s.committed) ∨
      ∃ userId sub, event.appUserId = some userId ∧
        rcSubscription event userId .initialPurchase draws s.working = some sub ∧
        (db = s.committed ∨
          WroteRow sub (snapshotsOf config userId sub draws) s.working db) := by
  cases user : event.appUserId with
  | none =>
      simp only [handleRcInitialPurchase, user]
      exact settles_pure (Or.inl ⟨trivial, rfl⟩)
  | some userId =>
      rw [handleRcInitialPurchase_eq _ user]
      unfold initialPurchaseWrites
      simp only [bind_assoc, pure_bind]
      refine settles_bind ((ensureCustomer_writes userId draws s).mono ?_)
      rintro _ s₀ ⟨session₀, customers⟩
      refine settles_bind ((upsertSubscriptionFromRc_writes _ _ _ _ _ s₀).mono ?_)
      rintro sub s₁ ⟨session₁, row, found⟩
      refine settles_bind ((applyEntitlementsForUser_writes _ _ _ _ s₁).mono ?_)
      rintro _ s₂ ⟨session₂, snapshots⟩
      have wrote : WroteRow sub.row (snapshotsOf config userId sub.row draws) s.working
          s₂.working := by
        refine (wroteRow row snapshots).congr ?_ ⟨rfl, rfl, rfl⟩
        rw [customers]
        exact ⟨rfl, rfl, rfl⟩
      have committed : s₂.committed = s.committed := by rw [session₂, session₁, session₀]
      refine (grantAndCommit_settles wrote).mono fun db outcome => ?_
      refine Or.inr ⟨userId, sub.row, rfl, ?_, committed ▸ outcome⟩
      rw [← found, customers]
      rfl

theorem handleRcRenewal_settles (config : TierConfig) (event : RcEvent) (draws : Draws)
    (s : Session Db) :
    (handleRcRenewal config draws.grant event draws).Settles s fun db =>
      (event.appUserId = none ∧ db = s.committed) ∨
      ∃ userId sub, event.appUserId = some userId ∧
        rcSubscription event userId .renewal draws s.working = some sub ∧
        (db = s.committed ∨
          WroteRow sub (snapshotsOf config userId sub draws) s.working db) := by
  cases user : event.appUserId with
  | none =>
      simp only [handleRcRenewal, user]
      exact settles_pure (Or.inl ⟨trivial, rfl⟩)
  | some userId =>
      rw [handleRcRenewal_eq _ user]
      unfold renewalWrites
      simp only [bind_assoc, pure_bind]
      refine settles_bind ((upsertSubscriptionFromRc_writes _ _ _ _ _ s).mono ?_)
      rintro sub s₁ ⟨session₁, row, found⟩
      refine settles_bind ((applyEntitlementsForUser_writes _ _ _ _ s₁).mono ?_)
      rintro _ s₂ ⟨session₂, snapshots⟩
      refine settles_bind (transacts_readAttr ?_)
      refine settles_bind ((markRecovered_writes _ _ s₂).mono ?_)
      rintro _ s₃ ⟨session₃, dunning⟩
      have wrote : WroteRow sub.row (snapshotsOf config userId sub.row draws) s.working
          s₃.working := by
        refine (wroteRow row snapshots).congr ⟨rfl, rfl, rfl⟩ ?_
        rw [dunning]
        exact ⟨rfl, rfl, rfl⟩
      have committed : s₃.committed = s.committed := by rw [session₃, session₂, session₁]
      refine (grantAndCommit_settles wrote).mono fun db outcome => ?_
      exact Or.inr ⟨userId, sub.row, rfl, found, committed ▸ outcome⟩

/-- The snapshots that an event refreshes: all but a billing issue do. -/
def RcKind.snapshots (config : TierConfig) (userId : Uuid) (sub : Subscription)
    (draws : Draws) : RcKind → List EntitlementSnapshot
  | .billingIssue => []
  | _ => snapshotsOf config userId sub draws

theorem dispatchRcEvent_settles (config : TierConfig) (event : RcEvent) (kind : RcKind)
    (draws : Draws) (s : Session Db) :
    (dispatchRcEvent config draws event kind).Settles s fun db =>
      (event.appUserId = none ∧ db = s.committed) ∨
      ∃ userId sub, event.appUserId = some userId ∧
        rcSubscription event userId kind.eventType draws s.working = some sub ∧
        (db = s.committed ∨
          WroteRow sub (kind.snapshots config userId sub draws) s.working db) := by
  have kept : ∀ {eventType : RcEventType} {rows : Uuid → Subscription → List _} {db : Db},
      ((event.appUserId = none ∧ db = s.committed) ∨
        ∃ userId sub, event.appUserId = some userId ∧
          rcSubscription event userId eventType draws s.working = some sub ∧
          WroteRow sub (rows userId sub) s.working db) →
      (event.appUserId = none ∧ db = s.committed) ∨
        ∃ userId sub, event.appUserId = some userId ∧
          rcSubscription event userId eventType draws s.working = some sub ∧
          (db = s.committed ∨ WroteRow sub (rows userId sub) s.working db) := by
    rintro _ _ db (unknown | ⟨userId, sub, user, found, wrote⟩)
    · exact Or.inl unknown
    · exact Or.inr ⟨userId, sub, user, found, Or.inr wrote⟩
  cases kind with
  | initialPurchase => exact handleRcInitialPurchase_settles config event draws s
  | renewal => exact handleRcRenewal_settles config event draws s
  | cancellation | expiration | productChange =>
      exact (refreshFromRc_settles config _ _ event draws s).mono fun _ => kept
  | billingIssue => exact (handleRcBillingIssue_settles event draws s).mono fun _ => kept

/-- Neither a subscription nor a snapshot is written, and the event ledger stays. -/
structure SameRows (db db' : Db) : Prop where
  subscriptions : db'.subscriptions = db.subscriptions
  snapshots : db'.snapshots = db.snapshots
  webhookEvents : db'.webhookEvents = db.webhookEvents

/-- The subscription that an `invoice.paid` event grants credits for. -/
def StripeInvoice.due (event : StripeInvoice) (config : TierConfig) (db : Db) :
    Option Subscription :=
  (event.storeSubscription.bind fun storeId => theOnly (db.subscriptionsOfStore storeId)).filter
    fun sub => sub.tier ≠ .free ∧ 0 < config.aiCredits sub.tier

theorem recoverAndCommit_settles (storeId : String) (draws : Draws) (s : Session Db) :
    (recoverAndCommit storeId draws).Settles s fun db =>
      db = { s.working with dunningCases := db.dunningCases } := by
  unfold recoverAndCommit
  refine settles_bind (transacts_query fun _ => ?_)
  refine settles_bind (transacts_scalarOneOrNone ?_ ?_)
  · intro _
    exact settles_commit rfl
  · intro row _
    refine settles_bind (transacts_load ?_)
    refine settles_bind (transacts_readAttr ?_)
    refine settles_bind ((markRecovered_writes _ draws s).mono ?_)
    rintro _ s' ⟨-, dunning⟩
    exact settles_commit dunning

theorem invoiceWrites_writes (event : StripeInvoice) (userId : Uuid) (storeId : String)
    (draws : Draws) (s : Session Db) :
    (invoiceWrites event userId storeId draws).Transacts s fun found s' =>
      s' = { s with working := s'.working } ∧
        s'.working = { s.working with invoices := s'.working.invoices } ∧
        found = theOnly (s.working.subscriptionsOfStore storeId) := by
  unfold invoiceWrites
  refine transacts_bind (transacts_query fun _ => ?_)
  refine transacts_bind ((markInvoicePaid_writes event userId draws s).mono ?_)
  rintro _ s' ⟨session, invoices⟩
  refine transacts_bind (transacts_query fun _ => ?_)
  have same : s'.working.subscriptionsOfStore storeId =
      s.working.subscriptionsOfStore storeId := by
    rw [invoices]
    rfl
  rw [same]
  refine transacts_scalarOneOrNone ?_ ?_
  · intro found
    exact ⟨session, invoices, by rw [found]; rfl⟩
  · intro only found
    exact ⟨session, invoices, by rw [found]; rfl⟩

/-- The rest of the handler once the subscription was found. -/
theorem grantAndRecover_settles (config : TierConfig) (draws : Draws) (userId : Uuid)
    (storeId : String) (row : Subscription) (s : Session Db) :
    (grantAndRecover config draws.grant userId storeId draws row).Settles s fun db =>
      (¬ (row.tier ≠ .free ∧ 0 < config.aiCredits row.tier) ∧ SameRows s.working db ∧
          db.transactions = s.working.transactions) ∨
        (row.tier ≠ .free ∧ 0 < config.aiCredits row.tier) ∧
          (SameRows s.working db ∧
              s.working.transactions.insert? (grantRow config draws userId row) =
                some db.transactions ∨
            s.working.transactions.Clashes (grantRow config draws userId row) ∧
              SameRows s.committed db ∧ db.transactions = s.committed.transactions) := by
  have recovered : ∀ {db db' : Db}, db' = { db with dunningCases := db'.dunningCases } →
      SameRows db db' ∧ db'.transactions = db.transactions := by
    intro db db' dunning
    rw [dunning]
    exact ⟨⟨rfl, rfl, rfl⟩, rfl⟩
  unfold grantAndRecover
  refine settles_bind (transacts_load ?_)
  refine settles_bind (transacts_readAttr ?_)
  by_cases paid : row.tier ≠ .free
  · rw [if_pos paid]
    refine settles_bind ((grantMonthlyCredits_writes config draws userId _ s).mono ?_)
    rintro _ s' (⟨notDue, rfl⟩ | ⟨due, ⟨-, credits, inserted⟩ | ⟨clash, rfl⟩⟩)
    · refine (recoverAndCommit_settles storeId draws _).mono fun db dunning => ?_
      exact Or.inl ⟨fun due => notDue due.2, recovered dunning⟩
    · refine (recoverAndCommit_settles storeId draws _).mono fun db dunning => ?_
      obtain ⟨same, transactions⟩ := recovered dunning
      refine Or.inr ⟨⟨paid, due⟩, Or.inl ⟨?_, ?_⟩⟩
      · rw [credits] at same
        exact ⟨same.subscriptions, same.snapshots, same.webhookEvents⟩
      · rw [transactions]
        exact inserted
    · refine (recoverAndCommit_settles storeId draws _).mono fun db dunning => ?_
      exact Or.inr ⟨⟨paid, due⟩, Or.inr ⟨clash, recovered dunning⟩⟩
  · rw [if_neg paid]
    refine (recoverAndCommit_settles storeId draws s).mono fun db dunning => ?_
    exact Or.inl ⟨fun due => paid due.1, recovered dunning⟩

/--
An invoice is recorded, with its grant where one is due; a grant whose key is
taken has undone the rest, and only the dunning case is closed.
-/
theorem handleInvoicePaid_settles (config : TierConfig) (event : StripeInvoice)
    (draws : Draws) (s : Session Db) :
    (handleInvoicePaid config draws.grant event draws).Settles s fun db =>
      (s.working.userOfStripeCustomer (event.customer.getD "") = none ∧ db = s.committed) ∨
      ∃ userId,
        s.working.userOfStripeCustomer (event.customer.getD "") = some userId ∧
        ((event.due config s.working = none ∧ SameRows s.working db ∧
            db.transactions = s.working.transactions) ∨
          ∃ sub, event.due config s.working = some sub ∧
            (SameRows s.working db ∧
                s.working.transactions.insert? (grantRow config draws userId sub) =
                  some db.transactions ∨
              s.working.transactions.Clashes (grantRow config draws userId sub) ∧
                SameRows s.committed db ∧
                db.transactions = s.committed.transactions)) := by
  cases user : s.working.userOfStripeCustomer (event.customer.getD "") with
  | none =>
      unfold handleInvoicePaid
      refine settles_bind (transacts_query fun _ => ?_)
      rw [user]
      exact settles_pure (Or.inl ⟨rfl, rfl⟩)
  | some userId =>
      cases store : event.storeSubscription with
      | none =>
          unfold handleInvoicePaid
          refine settles_bind (transacts_query fun _ => ?_)
          rw [user]
          refine settles_bind ((markInvoicePaid_writes _ _ _ s).mono ?_)
          rintro _ s₁ ⟨-, invoices⟩
          rw [store]
          refine settles_commit (Or.inr ⟨userId, rfl, Or.inl ⟨?_, ?_, ?_⟩⟩)
          · simp [StripeInvoice.due, store]
          · rw [invoices]
            exact ⟨rfl, rfl, rfl⟩
          · rw [invoices]
      | some storeId =>
          refine Settles.congr ?_ (handleInvoicePaid_run draws.grant user store)
          refine settles_bind ((invoiceWrites_writes event userId storeId draws s).mono ?_)
          rintro found s₁ ⟨session, invoices, rfl⟩
          have pending : SameRows s.working s₁.working ∧
              s₁.working.transactions = s.working.transactions := by
            rw [invoices]
            exact ⟨⟨rfl, rfl, rfl⟩, rfl⟩
          have kept : ∀ {db}, SameRows s₁.working db → SameRows s.working db := by
            intro db same
            exact ⟨same.subscriptions.trans pending.1.subscriptions,
              same.snapshots.trans pending.1.snapshots,
              same.webhookEvents.trans pending.1.webhookEvents⟩
          have committed : s₁.committed = s.committed := by rw [session]
          cases only : theOnly (s.working.subscriptionsOfStore storeId) with
          | none =>
              refine (recoverAndCommit_settles storeId draws s₁).mono fun db dunning => ?_
              refine Or.inr ⟨userId, rfl, Or.inl ⟨?_, kept ?_, ?_⟩⟩
              · simp [StripeInvoice.due, store, only]
              · rw [dunning]
                exact ⟨rfl, rfl, rfl⟩
              · rw [dunning, ← pending.2]
          | some row =>
              refine (grantAndRecover_settles config draws userId storeId row s₁).mono ?_
              rintro db (⟨notDue, same, transactions⟩ | ⟨due, outcome⟩)
              · refine Or.inr ⟨userId, rfl, Or.inl ⟨?_, kept same, ?_⟩⟩
                · simpa [StripeInvoice.due, store, only] using notDue
                · rw [transactions, pending.2]
              · refine Or.inr ⟨userId, rfl, Or.inr ⟨row, ?_, ?_⟩⟩
                · simpa [StripeInvoice.due, store, only] using due
                · rw [pending.2, committed] at outcome
                  exact outcome.imp_left fun h => ⟨kept h.1, h.2⟩

theorem id_refunded (row : Invoice) : ({ row with status := .refunded } : Invoice).id = row.id :=
  rfl

theorem stripeInvoiceId_refunded (row : Invoice) :
    ({ row with status := .refunded } : Invoice).stripeInvoiceId = row.stripeInvoiceId := rfl

/-- The part of `handle_charge_refunded` after the refund request. -/
def refundInvoice (event : StripeCharge) : BillingM Unit := do
  match event.invoice.filter (· ≠ "") with
  | none => pure ()
  | some invoiceId =>
      match ← query fun db => db.invoices.lookupAlt invoiceId with
      | none => pure ()
      | some row =>
          write fun db => .ok { db with
            invoices := db.invoices.modify row.id (fun old => { old with status := .refunded })
              id_refunded stripeInvoiceId_refunded }
  commit

theorem refundInvoice_settles (event : StripeCharge) (s : Session Db) :
    (refundInvoice event).Settles s fun db =>
      db = { s.working with invoices := db.invoices } := by
  unfold refundInvoice
  split
  · exact settles_commit rfl
  · refine settles_bind (transacts_query fun _ => ?_)
    split
    · exact settles_commit rfl
    · refine settles_bind (transacts_write fun _ db updated => ?_)
      cases updated
      exact settles_commit rfl

theorem handleChargeRefunded_settles (event : StripeCharge) (draws : Draws)
    (s : Session Db) :
    (handleChargeRefunded event draws).Settles s fun db =>
      (s.working.userOfStripeCustomer (event.customer.getD "") = none ∧ db = s.committed) ∨
      (s.working.userOfStripeCustomer (event.customer.getD "")).isSome ∧
        SameRows s.working db := by
  have recorded : ∀ {s' : Session Db}, SameRows s.working s'.working →
      (refundInvoice event).Settles s' fun db => SameRows s.working db := by
    intro s' same
    refine (refundInvoice_settles event s').mono fun db invoices => ?_
    rw [invoices]
    exact ⟨same.subscriptions, same.snapshots, same.webhookEvents⟩
  unfold handleChargeRefunded
  refine settles_bind (transacts_query fun _ => ?_)
  cases user : s.working.userOfStripeCustomer (event.customer.getD "") with
  | none => exact settles_pure (Or.inl ⟨rfl, rfl⟩)
  | some userId =>
      have done : ∀ {s' : Session Db}, SameRows s.working s'.working →
          (refundInvoice event).Settles s' fun db =>
            (some userId = none ∧ db = s.committed) ∨
              (some userId).isSome ∧ SameRows s.working db :=
        fun same => (recorded same).mono fun _ h => Or.inr ⟨rfl, h⟩
      refine settles_bind (transacts_query fun _ => ?_)
      refine settles_bind (transacts_scalarOneOrNone ?_ ?_)
      · intro _
        exact done ⟨rfl, rfl, rfl⟩
      · intro rr _
        dsimp only
        split
        · refine settles_bind (transacts_write fun _ db updated => ?_)
          cases updated
          exact done ⟨rfl, rfl, rfl⟩
        · exact done ⟨rfl, rfl, rfl⟩

theorem linkCustomer_writes (userId : Uuid) (stripeCustomerId : Option String)
    (draws : Draws) (s : Session Db) :
    (linkCustomer userId stripeCustomerId draws).Transacts s fun _ s' =>
      s' = { s with working := s'.working } ∧
        s'.working = { s.working with customers := s'.working.customers } := by
  unfold linkCustomer
  refine transacts_bind (transacts_query fun _ => ?_)
  split
  · refine transacts_write fun _ db inserted => ?_
    unfold Db.insertStripeCustomer at inserted
    split at inserted
    · cases inserted
    · split at inserted
      · cases inserted
      · obtain ⟨customers, -, rfl⟩ := map_stored_eq_ok inserted
        exact ⟨rfl, rfl⟩
  · split
    · refine transacts_write fun _ db updated => ?_
      unfold Db.linkStripeCustomer at updated
      split at updated
      · cases updated
      · split at updated
        · cases updated
        · cases updated
          exact ⟨rfl, rfl⟩
    · exact transacts_pure ⟨rfl, rfl⟩

/-- The row of the credits that a checkout buys. -/
def StripeCheckout.purchase (event : StripeCheckout) (draws : Draws) :
    Option CreditTransaction :=
  event.clientReferenceId.bind fun userId =>
    if event.mode = some "payment" then
      (event.creditAmount.filter (· ≠ 0)).map fun amount =>
        committedRow draws.transactionId userId amount .purchase "stripe_checkout"
          (event.id.getD "") (purchaseKey (event.id.getD "")) draws.now
    else none

theorem handleCheckoutCompleted_settles (event : StripeCheckout) (draws : Draws)
    (s : Session Db) :
    (handleCheckoutCompleted event draws).Settles s fun db =>
      (event.purchase draws = none ∧ db = s.committed) ∨
      ∃ tx, event.purchase draws = some tx ∧
        (SameRows s.working db ∧ ¬ s.working.transactions.Clashes tx ∨
          s.working.transactions.Clashes tx ∧ db = s.committed) := by
  unfold handleCheckoutCompleted
  cases user : event.clientReferenceId with
  | none => exact settles_pure (Or.inl ⟨by simp [StripeCheckout.purchase, user], rfl⟩)
  | some userId =>
      refine settles_bind ((linkCustomer_writes userId event.customer draws s).mono ?_)
      rintro _ s₁ ⟨session, customers⟩
      have committed : s₁.committed = s.committed := by rw [session]
      by_cases payment : event.mode = some "payment"
      · rw [if_pos payment]
        have purchase : event.purchase draws =
            (event.creditAmount.filter (· ≠ 0)).map fun amount =>
              committedRow draws.transactionId userId amount .purchase "stripe_checkout"
                (event.id.getD "") (purchaseKey (event.id.getD "")) draws.now := by
          rw [StripeCheckout.purchase, user, Option.bind_some, if_pos payment]
        cases bought : event.creditAmount.filter (· ≠ 0) with
        | none =>
            refine settles_pure (Or.inl ⟨?_, committed⟩)
            rw [purchase, bought]
            rfl
        | some amount =>
            have sold : event.purchase draws = some (committedRow draws.transactionId userId
                amount .purchase "stripe_checkout" (event.id.getD "")
                (purchaseKey (event.id.getD "")) draws.now) := by
              rw [purchase, bought]
              rfl
            refine settles_bind ((creditPurchase_writes _ _ _ _ _ _ _ s₁).mono ?_)
            have same : s₁.working.transactions = s.working.transactions := by
              rw [customers]
            rintro tx s₂ (⟨-, credits, stored⟩ | ⟨clash, rfl⟩)
            · have fresh := (Table.insert?_eq_some stored).1
              refine settles_commit (Or.inr ⟨_, sold, Or.inl ⟨?_, same ▸ fresh⟩⟩)
              rw [credits, customers]
              exact ⟨rfl, rfl, rfl⟩
            · exact settles_commit (Or.inr ⟨_, sold, Or.inr ⟨same ▸ clash, committed⟩⟩)
      · rw [if_neg payment]
        refine settles_pure (Or.inl ⟨?_, committed⟩)
        simp [StripeCheckout.purchase, user, payment]

/-! ## The endpoint -/

/-- The database with the ledger row of an event that is new. -/
structure LedgerPending (row : WebhookEvent) (db db' : Db) : Prop where
  inserted : db.webhookEvents.insert? row = some db'.webhookEvents
  same : db' = { db with webhookEvents := db'.webhookEvents }

theorem insertLedgerEvent_writes (row : WebhookEvent) (s : Session Db) :
    (insertLedgerEvent row).Transacts s fun isNew s' =>
      s' = { s with working := s'.working } ∧
        (isNew = true ∧ LedgerPending row s.working s'.working ∨
          isNew = false ∧ (s.working.webhookEvents.lookup row.eventKey).isSome) := by
  unfold insertLedgerEvent
  refine transacts_bind (transacts_query fun _ => ?_)
  split
  · rename_i found
    exact transacts_pure ⟨rfl, Or.inr ⟨rfl, by rw [found]; rfl⟩⟩
  · refine transacts_bind (transacts_write fun _ db inserted => ?_)
    obtain ⟨events, stored, rfl⟩ := map_stored_eq_ok inserted
    exact transacts_pure ⟨rfl, Or.inl ⟨rfl, stored, rfl⟩⟩

/-- A delivery is a duplicate, fails and changes nothing, or is handled. -/
theorem endpoint_cases (row : WebhookEvent) (handler : BillingM Unit) (db : Db)
    (post : Db → Db → Prop)
    (settles : ∀ s : Session Db, s.committed = db → LedgerPending row db s.working →
      handler.Settles s (post s.working)) :
    ((endpoint row handler db).1 = .duplicate ∧ (endpoint row handler db).2 = db ∧
        (db.webhookEvents.lookup row.eventKey).isSome) ∨
      ((endpoint row handler db).1 = .internalError ∧ (endpoint row handler db).2 = db) ∨
      (endpoint row handler db).1 = .ok ∧ ∃ pending, LedgerPending row db pending ∧
        post pending (endpoint row handler db).2 := by
  unfold endpoint receiveEvent
  rw [EStateM.run_bind]
  have ledger := insertLedgerEvent_writes row (Session.start false db)
  unfold Transacts at ledger
  cases inserted : (insertLedgerEvent row).run (Session.start false db) with
  | error e s =>
      rw [inserted] at ledger
      exact Or.inr (Or.inl ⟨rfl, ledger⟩)
  | ok isNew s =>
      rw [inserted] at ledger
      obtain ⟨committed, -, ⟨rfl, pending⟩ | ⟨rfl, stored⟩⟩ := ledger
      · have handled := settles s committed pending
        unfold Settles at handled
        simp only [if_true, EStateM.run_bind]
        cases run : handler.run s with
        | ok _ s' =>
            rw [run] at handled
            exact Or.inr (Or.inr ⟨rfl, s.working, pending, handled⟩)
        | error e s' =>
            rw [run] at handled
            exact Or.inr (Or.inl ⟨rfl, handled.trans committed⟩)
      · exact Or.inl ⟨rfl, committed, stored⟩

/-! ## A customer of Stripe -/

/-- An active subscription in the month that begins at `start`. -/
def sampleStripeSub (seconds start : Int) (product : String) : StripeSub :=
  { created := some seconds, customer := some "cus_1", id := some "sub_1",
    status := some "active", currentPeriodStart := some start,
    currentPeriodEnd := some (start + 2592000), trialEnd := none,
    cancelAtPeriodEnd := some false, product := some product, priceId := some "price_1",
    interval := some "month" }

def sampleStripeDb : Db :=
  { Db.empty with
    customers := ⟨[⟨⟨"customer-a"⟩, ⟨"ana"⟩, some "cus_1", "ana"⟩], by decide, by decide⟩ }

end ColabPlatform.Billing
