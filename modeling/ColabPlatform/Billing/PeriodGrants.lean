import ColabPlatform.Billing.HandlerSpecs
import ColabPlatform.Foundation.Run

/-!
# The credits of each paid period

Stripe announces a new period of a subscription with one event and its paid
invoice with another.  The grant for the invoice is named after the period that
the row is in when the invoice is processed, so a period is granted once when
each invoice finds the row in its own period.
-/

namespace ColabPlatform.Billing.PeriodGrants

open Foundation

/-- The two events of a period, with their ids. -/
structure Period where
  updateId : String
  update : StripeSub
  invoiceId : String
  invoiceCreated : Option Int
  invoice : StripeInvoice
  deriving DecidableEq, Repr

def Period.start (period : Period) : Timestamp := period.update.periodStart

inductive Notice where
  | updated
  | paid
  deriving DecidableEq, Repr

structure Delivery where
  notice : Notice
  period : Period
  draws : Draws

namespace Delivery

variable (d : Delivery)

def row : WebhookEvent :=
  match d.notice with
  | .updated =>
      ⟨.stripe, d.period.updateId, "customer.subscription.updated",
        d.period.update.eventTs, d.draws.now⟩
  | .paid =>
      ⟨.stripe, d.period.invoiceId, "invoice.paid",
        fromSeconds (d.period.invoiceCreated.getD 0), d.draws.now⟩

def event : StripeEvent :=
  match d.notice with
  | .updated => .subUpdated d.period.update
  | .paid => .invoicePaid d.period.invoice

end Delivery

/-- `paid` are the periods whose invoice was handled and answered with 200. -/
structure GrantState where
  db : Db
  paid : List Period

def step (config : TierConfig) (s : GrantState) (d : Delivery) : GrantState :=
  let (reply, db) := endpoint d.row (dispatchStripeEvent config d.draws d.event) s.db
  ⟨db, if d.notice = .paid ∧ reply = .ok then d.period :: s.paid else s.paid⟩

/-- The `subscription_grant` rows of a subscription. -/
def grantsOf (subscriptionId : Uuid) (db : Db) : List CreditTransaction :=
  db.transactions.rows.filter fun tx =>
    tx.reason = .subscriptionGrant ∧ tx.referenceKind = "subscription" ∧
      tx.referenceId = subscriptionId.text

/-- One grant for each of the periods, and no other. -/
def OncePerPeriod (subscriptionId : Uuid) (periods : List Period) (db : Db) : Prop :=
  ((grantsOf subscriptionId db).map CreditTransaction.idempotencyKey).Perm
    (periods.map fun period => grantKey subscriptionId period.start)

instance (subscriptionId : Uuid) (periods : List Period) (db : Db) :
    Decidable (OncePerPeriod subscriptionId periods db) :=
  inferInstanceAs (Decidable (List.Perm _ _))

/--
An invoice that has not been handled yet finds its customer, and the row in the
period it was paid for; the row of the grant gets an id of its own.
-/
def InPeriod (storeId : String) (s : GrantState) (d : Delivery) : Prop :=
  d.notice = .paid → d.period ∉ s.paid →
    (s.db.userOfStripeCustomer (d.period.invoice.customer.getD "")).isSome ∧
      (∀ row ∈ s.db.subscriptionsOfStore storeId,
        isoDate row.currentPeriodStart = isoDate d.period.start) ∧
      d.draws.transactionId ∉ s.db.transactions.rows.map CreditTransaction.id

instance (storeId : String) (s : GrantState) (d : Delivery) :
    Decidable (InPeriod storeId s d) :=
  inferInstanceAs (Decidable (_ → _ → _))

/-- The events are those of the subscription, which is never free. -/
structure Renewals (config : TierConfig) (storeId : String) (periods : List Period) :
    Prop where
  distinct : (periods.map fun period => isoDate period.start).Nodup
  update : ∀ period ∈ periods, period.update.storeId = storeId
  invoice : ∀ period ∈ periods, period.invoice.storeSubscription = some storeId
  tier : ∀ period ∈ periods, period.update.productTier ≠ .free
  credits : ∀ tier, tier ≠ .free → 0 < config.aiCredits tier

/-- The subscription has one row, of a paid tier. -/
def PaidRow (storeId : String) (subscriptionId : Uuid) (db : Db) : Prop :=
  ∃ row, db.subscriptionsOfStore storeId = [row] ∧ row.source = .stripe ∧
    row.id = subscriptionId ∧ row.tier ≠ .free

/-- What a run keeps. -/
structure Kept (storeId : String) (subscriptionId : Uuid) (periods : List Period)
    (s : GrantState) : Prop where
  row : PaidRow storeId subscriptionId s.db
  among : ∀ period ∈ s.paid, period ∈ periods
  nodup : s.paid.Nodup
  ledger : ∀ period ∈ s.paid,
    (s.db.webhookEvents.lookup (.stripe, period.invoiceId)).isSome
  grants : (grantsOf subscriptionId s.db).map CreditTransaction.idempotencyKey =
    s.paid.map fun period => grantKey subscriptionId period.start
  keys : ∀ tx ∈ s.db.transactions.rows, ∀ period ∈ periods,
    tx.idempotencyKey = grantKey subscriptionId period.start → period ∈ s.paid

section Steps

variable {config : TierConfig} {storeId : String} {subscriptionId : Uuid}
  {periods : List Period} {s s' : GrantState} {d : Delivery}

theorem PaidRow.of_eq {db db' : Db} (h : PaidRow storeId subscriptionId db)
    (same : db'.subscriptions = db.subscriptions) : PaidRow storeId subscriptionId db' := by
  have rows : db'.subscriptionsOfStore storeId = db.subscriptionsOfStore storeId := by
    simp only [Db.subscriptionsOfStore, same]
  rwa [PaidRow, rows]

theorem PaidRow.stripeOnly {db : Db} (h : PaidRow storeId subscriptionId db) :
    StripeOnly storeId db := by
  obtain ⟨row, rows, source, -⟩ := h
  intro other mem
  rw [rows, List.mem_singleton] at mem
  rw [mem, source]

theorem isoDate_eq_of_grantKey {start start' : Timestamp}
    (h : grantKey subscriptionId start = grantKey subscriptionId start') :
    isoDate start = isoDate start' := by
  rw [grantKey, grantKey] at h
  exact (String.append_right_inj _).1 h

/-- An event that grants nothing. -/
theorem Kept.congr (kept : Kept storeId subscriptionId periods s)
    (row : PaidRow storeId subscriptionId s'.db) (paid : s'.paid = s.paid)
    (transactions : s'.db.transactions = s.db.transactions)
    (ledger : ∀ key, (s.db.webhookEvents.lookup key).isSome →
      (s'.db.webhookEvents.lookup key).isSome) :
    Kept storeId subscriptionId periods s' := by
  have grants : grantsOf subscriptionId s'.db = grantsOf subscriptionId s.db := by
    simp only [grantsOf, transactions]
  exact
    { row
      among := paid ▸ kept.among
      nodup := paid ▸ kept.nodup
      ledger := fun period mem => ledger _ (kept.ledger period (paid ▸ mem))
      grants := by rw [grants, kept.grants, paid]
      keys := by
        rw [transactions, paid]
        exact kept.keys }

theorem Kept.unchanged (kept : Kept storeId subscriptionId periods s)
    (paid : s'.paid = s.paid) (db : s'.db = s.db) :
    Kept storeId subscriptionId periods s' :=
  kept.congr (db ▸ kept.row) paid (congrArg _ db) fun _ stored => db ▸ stored

/-- An invoice that finds the row in its period adds the grant of the period. -/
theorem Kept.grant (kept : Kept storeId subscriptionId periods s) {userId : Uuid}
    {row : Subscription} (distinct : (periods.map fun period => isoDate period.start).Nodup)
    (mem : d.period ∈ periods) (new : d.period ∉ s.paid) (id : row.id = subscriptionId)
    (own : isoDate row.currentPeriodStart = isoDate d.period.start)
    (paid : s'.paid = d.period :: s.paid)
    (subscriptions : s'.db.subscriptions = s.db.subscriptions)
    (inserted : s.db.transactions.insert? (grantRow config d.draws userId row) =
      some s'.db.transactions)
    (ledger : ∀ key, (s.db.webhookEvents.lookup key).isSome →
      (s'.db.webhookEvents.lookup key).isSome)
    (recorded : (s'.db.webhookEvents.lookup (.stripe, d.period.invoiceId)).isSome) :
    Kept storeId subscriptionId periods s' := by
  have rows := (Table.insert?_eq_some inserted).2
  have key : (grantRow config d.draws userId row).idempotencyKey =
      grantKey subscriptionId d.period.start := by
    rw [grantRow, committedRow, id, grantKey, grantKey, own]
  have grants : grantsOf subscriptionId s'.db =
      grantRow config d.draws userId row :: grantsOf subscriptionId s.db := by
    rw [grantsOf, rows, List.filter_cons_of_pos]
    · rfl
    · simp [grantRow, committedRow, id]
  constructor
  · exact kept.row.of_eq subscriptions
  · rw [paid]
    simpa using ⟨mem, kept.among⟩
  · rw [paid]
    exact List.nodup_cons.2 ⟨new, kept.nodup⟩
  · rw [paid]
    simpa using ⟨recorded, fun period before => ledger _ (kept.ledger period before)⟩
  · rw [grants, paid, List.map_cons, List.map_cons, key, kept.grants]
  · rw [rows, paid]
    intro tx stored period among same
    obtain rfl | before := List.mem_cons.1 stored
    · rw [key] at same
      have date := isoDate_eq_of_grantKey same
      rw [List.inj_on_of_nodup_map distinct mem among date]
      exact List.mem_cons_self
    · exact List.mem_cons_of_mem _ (kept.keys tx before period among same)

theorem updated_settles (renewals : Renewals config storeId periods)
    (mem : d.period ∈ periods) (updated : d.notice = .updated) {session : Session Db}
    (paid : PaidRow storeId subscriptionId session.working) :
    (dispatchStripeEvent config d.draws d.event).Settles session fun db =>
      db = session.committed ∨ PaidRow storeId subscriptionId db ∧
        db.transactions = session.working.transactions ∧
        db.webhookEvents = session.working.webhookEvents := by
  have store := renewals.update d.period mem
  have event : d.event = .subUpdated d.period.update := by rw [Delivery.event, updated]
  rw [event]
  refine (handleSubscription_settles config _ d.period.update d.draws session).mono ?_
  rintro db (⟨-, unchanged⟩ | ⟨userId, sub, -, found, wrote, transactions⟩)
  · exact Or.inl unchanged
  · obtain ⟨only, source, outcome⟩ :=
      subscriptionsOfStore_stripe (store ▸ paid.stripeOnly) found wrote
    obtain ⟨row, rows, -, id, tier⟩ := paid
    rw [store] at only outcome
    obtain ⟨empty, -⟩ | ⟨old, oldRows, rfl⟩ := outcome
    · rw [rows] at empty
      cases empty
    · obtain rfl : row = old := by simpa [rows] using oldRows
      refine Or.inr ⟨⟨_, only, source, ?_, ?_⟩, transactions, wrote.webhookEvents⟩
      · rw [Subscription.id_fromStripe, id]
      · rw [Subscription.tier_fromStripe]
        split
        · exact renewals.tier d.period mem
        · exact tier

theorem paid_settles (renewals : Renewals config storeId periods)
    (mem : d.period ∈ periods) (paid : d.notice = .paid) {session : Session Db}
    {row : Subscription} (rows : session.working.subscriptionsOfStore storeId = [row])
    (tier : row.tier ≠ .free)
    (known : (session.working.userOfStripeCustomer
      (d.period.invoice.customer.getD "")).isSome) :
    (dispatchStripeEvent config d.draws d.event).Settles session fun db =>
      ∃ userId, (SameRows session.working db ∧
          session.working.transactions.insert? (grantRow config d.draws userId row) =
            some db.transactions) ∨
        session.working.transactions.Clashes (grantRow config d.draws userId row) := by
  have store := renewals.invoice d.period mem
  have due : d.period.invoice.due config session.working = some row := by
    simp [StripeInvoice.due, store, rows, theOnly, tier, renewals.credits _ tier]
  have event : d.event = .invoicePaid d.period.invoice := by rw [Delivery.event, paid]
  rw [event]
  refine (handleInvoicePaid_settles config d.period.invoice d.draws session).mono ?_
  rintro db (⟨unknown, -⟩ | ⟨userId, -, ⟨notDue, -⟩ | ⟨sub, found, outcome⟩⟩)
  · rw [unknown] at known
    cases known
  · rw [due] at notDue
    cases notDue
  · obtain rfl : row = sub := Option.some.inj (due.symm.trans found)
    exact ⟨userId, outcome.imp_right fun h => h.1⟩

theorem lookup_mono {row : WebhookEvent} {db db' : Db} (ledger : LedgerPending row db db')
    {key : SubSource × String} (stored : (db.webhookEvents.lookup key).isSome) :
    (db'.webhookEvents.lookup key).isSome := by
  rw [Table.lookup_insert ledger.inserted]
  split
  · rfl
  · exact stored

/-- An event that is new to the ledger is of a period that was not granted. -/
theorem Kept.new_of_ledger (kept : Kept storeId subscriptionId periods s)
    (paid : d.notice = .paid) {pending : Db} (ledger : LedgerPending d.row s.db pending) :
    d.period ∉ s.paid := by
  intro before
  have key : d.row.eventKey = (.stripe, d.period.invoiceId) := by
    rw [Delivery.row, paid]
    rfl
  have stored := kept.ledger d.period before
  rw [← key, Option.isSome_iff_ne_none, Ne, Table.lookup_eq_none_iff, not_not] at stored
  exact (Table.insert?_eq_some ledger.inserted).1 (Or.inl stored)

theorem kept_updated (renewals : Renewals config storeId periods) (mem : d.period ∈ periods)
    (updated : d.notice = .updated) (kept : Kept storeId subscriptionId periods s) :
    Kept storeId subscriptionId periods (step config s d) := by
  have cases := endpoint_cases d.row (dispatchStripeEvent config d.draws d.event) s.db
    (fun pending db => db = s.db ∨ PaidRow storeId subscriptionId db ∧
      db.transactions = s.db.transactions ∧ db.webhookEvents = pending.webhookEvents)
    fun session committed pending => by
      have paid : PaidRow storeId subscriptionId session.working :=
        kept.row.of_eq (by rw [pending.same])
      refine (updated_settles renewals mem updated paid).mono fun db outcome => ?_
      rw [committed, pending.same] at outcome
      rw [pending.same]
      exact outcome
  have paid : (step config s d).paid = s.paid := by simp [step, updated]
  obtain ⟨-, unchanged, -⟩ | ⟨-, unchanged⟩ | ⟨-, pending, ledger, outcome⟩ := cases
  · exact kept.unchanged paid unchanged
  · exact kept.unchanged paid unchanged
  · obtain unchanged | ⟨row, transactions, events⟩ := outcome
    · exact kept.unchanged paid unchanged
    · exact kept.congr row paid transactions fun key stored =>
        events ▸ lookup_mono ledger stored

theorem kept_paid (renewals : Renewals config storeId periods) (mem : d.period ∈ periods)
    (paid : d.notice = .paid) (guard : InPeriod storeId s d)
    (kept : Kept storeId subscriptionId periods s) :
    Kept storeId subscriptionId periods (step config s d) := by
  obtain ⟨row, rows, source, id, tier⟩ := kept.row
  have cases := endpoint_cases d.row (dispatchStripeEvent config d.draws d.event) s.db
    (fun pending db => d.period ∉ s.paid ∧
      ∃ userId, (SameRows pending db ∧
          s.db.transactions.insert? (grantRow config d.draws userId row) =
            some db.transactions) ∨
        s.db.transactions.Clashes (grantRow config d.draws userId row))
    fun session committed pending => by
      have new := kept.new_of_ledger paid pending
      have known := (guard paid new).1
      have sameRows : session.working.subscriptionsOfStore storeId = [row] := by
        rw [pending.same]
        exact rows
      have settles := paid_settles (d := d) renewals mem paid sameRows tier (by
        rw [pending.same]
        exact known)
      have same : session.working.transactions = s.db.transactions := by rw [pending.same]
      rw [same] at settles
      exact settles.mono fun db outcome => ⟨new, outcome⟩
  have unpaid : (endpoint d.row (dispatchStripeEvent config d.draws d.event) s.db).1 ≠ .ok →
      (step config s d).paid = s.paid := by
    intro other
    simp [step, other]
  obtain ⟨reply, unchanged, -⟩ | ⟨reply, unchanged⟩ | ⟨reply, pending, ledger, new, outcome⟩ :=
    cases
  · exact kept.unchanged (unpaid (by simp [reply])) unchanged
  · exact kept.unchanged (unpaid (by simp [reply])) unchanged
  · obtain ⟨-, inPeriod, fresh⟩ := guard paid new
    have own := inPeriod row (by simp [rows])
    obtain ⟨userId, ⟨sameRows, inserted⟩ | clash⟩ := outcome
    · have events : (step config s d).db.webhookEvents = pending.webhookEvents :=
        sameRows.webhookEvents
      refine kept.grant renewals.distinct mem new id own ?_ ?_ inserted ?_ ?_
      · simp [step, paid, reply]
      · exact sameRows.subscriptions.trans (by rw [ledger.same])
      · exact fun key stored => events ▸ lookup_mono ledger stored
      · have key : d.row.eventKey = (.stripe, d.period.invoiceId) := by
          rw [Delivery.row, paid]
          rfl
        rw [events, Table.lookup_insert ledger.inserted, if_pos key]
        rfl
    · obtain taken | ⟨key, isKey, taken⟩ := clash
      · exact absurd taken fresh
      · obtain ⟨tx, stored, same⟩ := List.mem_filterMap.1 taken
        have grantKeys : tx.idempotencyKey = grantKey subscriptionId d.period.start := by
          rw [Option.some.inj (same.trans isKey.symm), grantRow, committedRow, id, grantKey,
            grantKey, own]
        exact absurd (kept.keys tx stored d.period mem grantKeys) new

theorem kept_step (renewals : Renewals config storeId periods)
    (guard : d.period ∈ periods ∧ InPeriod storeId s d)
    (kept : Kept storeId subscriptionId periods s) :
    Kept storeId subscriptionId periods (step config s d) := by
  cases notice : d.notice with
  | updated => exact kept_updated renewals guard.1 notice kept
  | paid => exact kept_paid renewals guard.1 notice guard.2 kept

end Steps

/--
In every order of the events in which each invoice finds the row in its own
period, the periods whose invoices were all handled have one grant each.
-/
theorem each_period_granted_once (config : TierConfig) (storeId : String) (db : Db)
    (sub : Subscription) (periods : List Period)
    (renewals : Renewals config storeId periods)
    (stored : db.subscriptionsOfStore storeId = [sub]) (stripe : sub.source = .stripe)
    (tier : sub.tier ≠ .free) (none_yet : grantsOf sub.id db = [])
    (unused : ∀ tx ∈ db.transactions.rows, ∀ period ∈ periods,
      tx.idempotencyKey ≠ grantKey sub.id period.start)
    (deliveries : List Delivery) (about : ∀ d ∈ deliveries, d.period ∈ periods)
    (order : Guarded (step config) (InPeriod storeId) ⟨db, []⟩ deliveries)
    (handled : ∀ period ∈ periods,
      period ∈ (runFrom (step config) ⟨db, []⟩ deliveries).paid) :
    OncePerPeriod sub.id periods (runFrom (step config) ⟨db, []⟩ deliveries).db := by
  have first : Kept storeId sub.id periods ⟨db, []⟩ :=
    { row := ⟨sub, stored, stripe, rfl, tier⟩
      among := by simp
      nodup := List.nodup_nil
      ledger := by simp
      grants := by rw [none_yet]; rfl
      keys := fun tx mem period among same => absurd same (unused tx mem period among) }
  have guarded := (guarded_of_forall about (⟨db, []⟩ : GrantState)).and order
  have kept := runFrom_invariant_of_guarded (fun _ _ => kept_step renewals) first guarded
  have all : (runFrom (step config) ⟨db, []⟩ deliveries).paid.Perm periods :=
    (List.perm_ext_iff_of_nodup kept.nodup renewals.distinct.of_map).2
      fun period => ⟨kept.among period, handled period⟩
  rw [OncePerPeriod, kept.grants]
  exact all.map _

/-! ## Two months -/

def samplePeriod (tag : String) (seconds start : Int) : Period :=
  { updateId := "evt-update-" ++ tag, update := sampleStripeSub seconds start "colab_pro",
    invoiceId := "evt-paid-" ++ tag, invoiceCreated := some seconds,
    invoice :=
      { customer := some "cus_1", id := some ("in_" ++ tag), amountPaid := some 1999,
        currency := some "usd", tax := none, periodStart := some start, periodEnd := none,
        hostedInvoiceUrl := none, invoicePdf := none, subscription := some "sub_1" } }

def january : Period := samplePeriod "1" 100 0

def february : Period := samplePeriod "2" 2678400 2678400

/-- The subscription as the event of its creation stores it. -/
def subscribedRow : Subscription :=
  .newFromStripe ⟨"ana"⟩ (sampleStripeSub 50 0 "colab_premium") .premium
    (sampleDraws "a" 101000000)

def subscribedDb : Db :=
  { sampleStripeDb with subscriptions := ⟨[subscribedRow], by decide, by decide⟩ }

/-- The events of the two months, those of `january` delivered from `seconds` on. -/
def sampleMonths (seconds : Int) : List Delivery :=
  [⟨.updated, january, sampleDraws "b" (fromSeconds seconds)⟩,
    ⟨.paid, january, sampleDraws "c" (fromSeconds seconds)⟩,
    ⟨.updated, february, sampleDraws "d" (fromSeconds 2678600)⟩,
    ⟨.paid, february, sampleDraws "e" (fromSeconds 2678600)⟩]

/-- Delivered on time, the update of the second month is skipped, and its
invoice is taken for one of the first. -/
theorem second_month_not_granted :
    let s := runFrom (step tierDefaults) ⟨subscribedDb, []⟩ (sampleMonths 110)
    s.paid = [february, january] ∧
      (grantsOf subscribedRow.id s.db).map CreditTransaction.idempotencyKey =
        ["grant:subscription-a:1970-01-01"] ∧
      ¬ OncePerPeriod subscribedRow.id [january, february] s.db := by
  decide +kernel

/-- With the first month delivered late, both are granted. -/
theorem both_months_granted :
    OncePerPeriod subscribedRow.id [january, february]
      (runFrom (step tierDefaults) ⟨subscribedDb, []⟩ (sampleMonths 2678500)).db :=
  each_period_granted_once tierDefaults "sub_1" subscribedDb subscribedRow [january, february]
    ⟨by decide +kernel, by decide, by decide, by decide +kernel,
      fun tier => by cases tier <;> decide⟩
    (by decide) rfl (by decide) (by decide) (by decide)
    (sampleMonths 2678500) (by decide) (by decide +kernel) (by decide +kernel)

end ColabPlatform.Billing.PeriodGrants
