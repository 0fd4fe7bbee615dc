import ColabPlatform.Billing.HandlerSpecs
import ColabPlatform.Foundation.Maxima
import ColabPlatform.Foundation.Run

/-!
# The order of Stripe's events

The events of one subscription are delivered in any order.  What they should
leave is the row of the newest subscription event, past due if a payment failed
after it.  The guard of the upsert applies the events that are not newer than
the row's last change, and a failed payment is not guarded at all.
-/

namespace ColabPlatform.Billing.StripeOrder

open Foundation

/-- The event that is delivered; a failed payment brings no subscription. -/
inductive SubChange where
  | created (event : StripeSub)
  | updated (event : StripeSub)
  | deleted (event : StripeSub)
  | paymentFailed (seconds : Option Int) (invoice : StripeInvoice)
  deriving DecidableEq, Repr

/-- The columns that an event determines. -/
structure SubFields where
  status : SubStatus
  tier : Tier
  periodStart : Timestamp
  periodEnd : Timestamp
  cancelAtPeriodEnd : Bool
  trialEnd : Option Timestamp
  deriving DecidableEq, Repr

def fieldsOf (sub : Subscription) : SubFields :=
  ⟨sub.status, sub.tier, sub.currentPeriodStart, sub.currentPeriodEnd,
    sub.cancelAtPeriodEnd, sub.trialEnd⟩

def stripeFields (event : StripeSub) (tier : Tier) : SubFields :=
  ⟨event.subStatus, tier, event.periodStart, event.periodEnd,
    event.cancelAtPeriodEnd.getD false, event.trialEndAt⟩

def SubFields.failed (fields : SubFields) : SubFields := { fields with status := .pastDue }

namespace SubChange

/-- `created`, the time by which the events are ordered. -/
def createdAt : SubChange → Timestamp
  | .created event | .updated event | .deleted event => event.eventTs
  | .paymentFailed seconds _ => fromSeconds (seconds.getD 0)

def fields : SubChange → Option SubFields
  | .created event | .updated event => some (stripeFields event event.productTier)
  | .deleted event => some (stripeFields event .free)
  | .paymentFailed _ _ => none

def customer : SubChange → String
  | .created event | .updated event | .deleted event => event.customer.getD ""
  | .paymentFailed _ invoice => invoice.customer.getD ""

def storeId : SubChange → Option String
  | .created event | .updated event | .deleted event => some event.storeId
  | .paymentFailed _ invoice => invoice.storeSubscription

def toEvent : SubChange → StripeEvent
  | .created event => .subCreated event
  | .updated event => .subUpdated event
  | .deleted event => .subDeleted event
  | .paymentFailed _ invoice => .invoiceFailed invoice

def eventType : SubChange → String
  | .created _ => "customer.subscription.created"
  | .updated _ => "customer.subscription.updated"
  | .deleted _ => "customer.subscription.deleted"
  | .paymentFailed _ _ => "invoice.payment_failed"

end SubChange

structure Delivery where
  id : String
  change : SubChange
  draws : Draws

def Delivery.row (d : Delivery) : WebhookEvent :=
  ⟨.stripe, d.id, d.change.eventType, d.change.createdAt, d.draws.now⟩

/-- `processed` are the events that were handled and answered with 200. -/
structure OrderState where
  db : Db
  processed : List SubChange

def step (config : TierConfig) (s : OrderState) (d : Delivery) : OrderState :=
  let (reply, db) :=
    endpoint d.row (dispatchStripeEvent config d.draws d.change.toEvent) s.db
  ⟨db, if reply = .ok then s.processed ++ [d.change] else s.processed⟩

/-! ## What a set of events determines -/

/-- The events that bring a subscription. -/
def subEvents (processed : List SubChange) : List SubChange :=
  processed.filter fun change => change.fields.isSome

/-- A payment failed after `time`. -/
def FailedAfter (processed : List SubChange) (time : Timestamp) : Prop :=
  ∃ failed ∈ processed, failed.fields = none ∧ time < failed.createdAt

instance (processed : List SubChange) (time : Timestamp) :
    Decidable (FailedAfter processed time) :=
  inferInstanceAs (Decidable (∃ failed ∈ processed, _ ∧ _))

/-- The row that a subscription event of `time` determines when it is the newest. -/
def due (processed : List SubChange) (time : Timestamp) (own : SubFields) : SubFields :=
  if FailedAfter processed time then own.failed else own

def Determines (processed : List SubChange) : Option SubFields → Prop
  | none => subEvents processed = []
  | some fields => ∃ newest own, Latest SubChange.createdAt (subEvents processed) newest ∧
      newest.fields = some own ∧ fields = due processed newest.createdAt own

/-- With distinct times the events determine the row, in whatever order. -/
theorem Determines.unique {processed processed' : List SubChange}
    {fields fields' : Option SubFields} (same : processed.Perm processed')
    (distinct : ∀ change ∈ processed, ∀ change' ∈ processed,
      change.createdAt = change'.createdAt → change = change')
    (h : Determines processed fields) (h' : Determines processed' fields') :
    fields = fields' := by
  have failures : ∀ time, FailedAfter processed' time ↔ FailedAfter processed time := by
    intro time
    simp only [FailedAfter, same.mem_iff]
  have subs : (subEvents processed).Perm (subEvents processed') := same.filter _
  cases fields with
  | none =>
      cases fields' with
      | none => rfl
      | some _ =>
          obtain ⟨newest, own, latest, -⟩ := h'
          have mem := subs.mem_iff.2 latest.mem
          rw [h] at mem
          cases mem
  | some _ =>
      obtain ⟨newest, own, latest, has, rfl⟩ := h
      cases fields' with
      | none =>
          have mem := subs.mem_iff.1 latest.mem
          rw [h'] at mem
          cases mem
      | some _ =>
          obtain ⟨newest', own', latest', has', rfl⟩ := h'
          obtain rfl := latest.unique subs (fun change mem change' mem' =>
            distinct change (List.mem_of_mem_filter mem) change'
              (List.mem_of_mem_filter mem')) latest'
          obtain rfl := Option.some.inj (has.symm.trans has')
          simp only [due, failures]

/-- The subscription's row is the one that the processed events determine. -/
def Settled (storeId : String) (s : OrderState) : Prop :=
  ∃ fields : Option SubFields,
    (s.db.subscriptionsOfStore storeId).map fieldsOf = fields.toList ∧
      Determines s.processed fields

/-! ## Deliveries in order -/

/-- `time` is newer than every subscription event that was processed. -/
def Newest (processed : List SubChange) (time : Timestamp) : Prop :=
  ∀ other ∈ subEvents processed, other.createdAt < time

instance (processed : List SubChange) (time : Timestamp) :
    Decidable (Newest processed time) :=
  inferInstanceAs (Decidable (∀ other ∈ subEvents processed, _))

/--
The customer is known.  A subscription event that is newer than those processed
is not newer than the row's last change and than no failed payment, or the row
already has the values; an older one is newer than the row's last change, or the
row has its values.  A failed payment is newer than the subscription events, or
the row is past due.
-/
def InOrder (storeId : String) (s : OrderState) (d : Delivery) : Prop :=
  let time := d.change.createdAt
  (s.db.userOfStripeCustomer d.change.customer).isSome ∧
    match d.change.fields, s.db.subscriptionsOfStore storeId with
    | some fields, [] => due s.processed time fields = fields
    | some fields, row :: _ =>
        if Newest s.processed time then
          if time ≤ row.updatedAt then due s.processed time fields = fields
          else fieldsOf row = due s.processed time fields
        else time ≤ row.updatedAt → fieldsOf row = fields
    | none, [] => True
    | none, row :: _ => Newest s.processed time ∨ row.status = .pastDue

instance (storeId : String) (s : OrderState) (d : Delivery) :
    Decidable (InOrder storeId s d) := by
  unfold InOrder
  refine @instDecidableAnd _ _ inferInstance ?_
  split <;> infer_instance

/-! ## One more event -/

section Append

variable {processed : List SubChange} {change : SubChange} {own fields : SubFields}

theorem failedAfter_append (has : change.fields = some own) (time : Timestamp) :
    FailedAfter (processed ++ [change]) time ↔ FailedAfter processed time := by
  simp [FailedAfter, has]

theorem due_append (has : change.fields = some own) (time : Timestamp) :
    due (processed ++ [change]) time = due processed time := by
  funext own'
  simp only [due, failedAfter_append has]

theorem subEvents_append (has : change.fields = some own) :
    subEvents (processed ++ [change]) = subEvents processed ++ [change] := by
  simp [subEvents, has]

theorem subEvents_append_failed (failed : change.fields = none) :
    subEvents (processed ++ [change]) = subEvents processed := by
  simp [subEvents, failed]

theorem determines_newest (has : change.fields = some own)
    (newest : Newest processed change.createdAt) :
    Determines (processed ++ [change]) (some (due processed change.createdAt own)) := by
  refine ⟨change, own, ?_, has, by rw [due_append has]⟩
  rw [subEvents_append has]
  exact latest_append fun other mem => le_of_lt (newest other mem)

theorem determines_older (has : change.fields = some own)
    (older : ¬ Newest processed change.createdAt) (h : Determines processed (some fields)) :
    Determines (processed ++ [change]) (some fields) := by
  obtain ⟨newest, own', latest, has', rfl⟩ := h
  obtain ⟨later, mem, le⟩ :
      ∃ later ∈ subEvents processed, change.createdAt ≤ later.createdAt := by
    simpa [Newest] using older
  refine ⟨newest, own', ?_, has', by rw [due_append has]⟩
  rw [subEvents_append has]
  exact latest.append (le.trans (latest.greatest later mem))

theorem determines_failed (failed : change.fields = none)
    (after : Newest processed change.createdAt ∨ fields.status = .pastDue)
    (h : Determines processed (some fields)) :
    Determines (processed ++ [change]) (some fields.failed) := by
  obtain ⟨newest, own', latest, has', same⟩ := h
  refine ⟨newest, own', ?_, has', ?_⟩
  · rw [subEvents_append_failed failed]
    exact latest
  · by_cases later : newest.createdAt < change.createdAt
    · have now : FailedAfter (processed ++ [change]) newest.createdAt :=
        ⟨change, by simp, failed, later⟩
      rw [due, if_pos now, same, due]
      split <;> rfl
    · have pastDue : fields.failed = fields := by
        obtain order | due := after
        · exact absurd (order newest latest.mem) later
        · exact congrArg (fun status => { fields with status }) due.symm
      have unmoved : FailedAfter (processed ++ [change]) newest.createdAt ↔
          FailedAfter processed newest.createdAt := by
        simp [FailedAfter, later]
      rw [pastDue, same]
      simp only [due, unmoved]

end Append

/-! ## One delivery -/

theorem fieldsOf_fromStripe (sub : Subscription) (event : StripeSub) (tier : Tier)
    (draws : Draws) :
    fieldsOf (sub.fromStripe event tier draws) =
      if event.eventTs ≤ sub.updatedAt then stripeFields event tier else fieldsOf sub := by
  unfold Subscription.fromStripe
  split
  · rw [Subscription.flushed_eq]
    rfl
  · rfl

theorem fieldsOf_pastDue (sub : Subscription) (draws : Draws) :
    fieldsOf (sub.pastDue draws) = (fieldsOf sub).failed := by
  rw [Subscription.pastDue, Subscription.flushed_eq]
  rfl

/-- The subscription has one row, with the values `fields`. -/
def OneRow (storeId : String) (db : Db) (fields : SubFields) : Prop :=
  ∃ row, db.subscriptionsOfStore storeId = [row] ∧ row.source = .stripe ∧
    fieldsOf row = fields

/-- What a handled event makes of the subscription's row. -/
def Outcome (storeId : String) (change : SubChange) (db db' : Db) : Prop :=
  match change.fields, db.subscriptionsOfStore storeId with
  | some fields, [] => OneRow storeId db' fields
  | some fields, row :: _ =>
      OneRow storeId db' (if change.createdAt ≤ row.updatedAt then fields else fieldsOf row)
  | none, [] => db'.subscriptionsOfStore storeId = []
  | none, row :: _ => OneRow storeId db' (fieldsOf row).failed

/-- A row stored in place of the subscription's is its only row. -/
theorem oneRow_of_puts {storeId : String} {db db' : Db} {row : Subscription}
    (puts : db.subscriptions.Puts row db'.subscriptions)
    (store : row.storeSubscriptionId = some storeId) (source : row.source = .stripe)
    (replaced : ∀ other ∈ db.subscriptionsOfStore storeId, other.id = row.id) :
    OneRow storeId db' (fieldsOf row) :=
  ⟨row, puts.filter_eq (by simpa using store) replaced, source, rfl⟩

theorem handleSubscription_outcome {config : TierConfig} {tier : Tier} {event : StripeSub}
    {draws : Draws} {s : Session Db}
    (known : (s.working.userOfStripeCustomer (event.customer.getD "")).isSome)
    (stripe : StripeOnly event.storeId s.working) :
    (handleSubscription config tier event draws).Settles s fun db =>
      match s.working.subscriptionsOfStore event.storeId with
      | [] => OneRow event.storeId db (stripeFields event tier)
      | row :: _ => OneRow event.storeId db
          (if event.eventTs ≤ row.updatedAt then stripeFields event tier
          else fieldsOf row) := by
  refine (handleSubscription_settles config tier event draws s).mono ?_
  rintro db (⟨unknown, -⟩ | ⟨userId, sub, -, found, wrote, -⟩)
  · rw [unknown] at known
    cases known
  · obtain ⟨only, source, ⟨rows, rfl⟩ | ⟨row, rows, rfl⟩⟩ :=
      subscriptionsOfStore_stripe stripe found wrote
    · rw [rows]
      exact ⟨_, only, source, rfl⟩
    · rw [rows]
      exact ⟨_, only, source, fieldsOf_fromStripe row event tier draws⟩

theorem handleInvoiceFailed_outcome {event : StripeInvoice} {draws : Draws}
    {storeId : String} {s : Session Db}
    (known : (s.working.userOfStripeCustomer (event.customer.getD "")).isSome)
    (about : event.storeSubscription = some storeId)
    (stripe : StripeOnly storeId s.working) :
    (handleInvoiceFailed event draws).Settles s fun db =>
      match s.working.subscriptionsOfStore storeId with
      | [] => db.subscriptionsOfStore storeId = []
      | row :: _ => OneRow storeId db (fieldsOf row).failed := by
  refine (handleInvoiceFailed_settles event draws s).mono ?_
  rintro db (⟨unknown, -⟩ | ⟨-, ⟨absent, rfl⟩ | ⟨store, row, found, rows, wrote⟩⟩)
  · rw [unknown] at known
    cases known
  · simp [absent storeId about]
  · obtain rfl : storeId = store := Option.some.inj (about.symm.trans found)
    have mem : row ∈ s.working.subscriptionsOfStore storeId := by simp [rows]
    have kept : (row.pastDue draws).source = row.source ∧
        (row.pastDue draws).storeSubscriptionId = row.storeSubscriptionId ∧
        (row.pastDue draws).id = row.id := by
      rw [Subscription.pastDue, Subscription.flushed_eq]
      exact ⟨rfl, rfl, rfl⟩
    rw [rows]
    dsimp only
    rw [← fieldsOf_pastDue row draws]
    refine oneRow_of_puts wrote.subscription ?_ ?_ ?_
    · rw [kept.2.1]
      simpa using (List.mem_filter.1 mem).2
    · rw [kept.1, stripe row mem]
    · simp [rows, kept.2.2]

theorem dispatch_outcome {config : TierConfig} {draws : Draws} {change : SubChange}
    {storeId : String} {s : Session Db} (about : change.storeId = some storeId)
    (known : (s.working.userOfStripeCustomer change.customer).isSome)
    (stripe : StripeOnly storeId s.working) :
    (dispatchStripeEvent config draws change.toEvent).Settles s
      (Outcome storeId change s.working) := by
  cases change with
  | created event | updated event | deleted event =>
      obtain rfl : event.storeId = storeId := Option.some.inj about
      refine (handleSubscription_outcome known stripe).mono fun db outcome => ?_
      dsimp only [Outcome, SubChange.fields]
      cases rows : s.working.subscriptionsOfStore event.storeId <;>
        (rw [rows] at outcome; exact outcome)
  | paymentFailed seconds event =>
      refine (handleInvoiceFailed_outcome known about stripe).mono fun db outcome => ?_
      dsimp only [Outcome, SubChange.fields]
      cases rows : s.working.subscriptionsOfStore storeId <;>
        (rw [rows] at outcome; exact outcome)

/-! ## Runs -/

/-- The invariant of a run. -/
structure Kept (storeId : String) (s : OrderState) : Prop where
  settled : Settled storeId s
  stripe : StripeOnly storeId s.db

theorem OneRow.kept {storeId : String} {s : OrderState} {fields : SubFields}
    (h : OneRow storeId s.db fields) (determined : Determines s.processed (some fields)) :
    Kept storeId s := by
  obtain ⟨row, rows, source, rfl⟩ := h
  refine ⟨⟨some (fieldsOf row), by simp [rows], determined⟩, ?_⟩
  intro other mem
  rw [rows, List.mem_singleton] at mem
  rw [mem, source]

/-- An event that is handled in order keeps the row that the events determine. -/
theorem kept_of_outcome {storeId : String} {s s' : OrderState} {d : Delivery}
    (kept : Kept storeId s) (order : InOrder storeId s d)
    (processed : s'.processed = s.processed ++ [d.change])
    (outcome : Outcome storeId d.change s.db s'.db) : Kept storeId s' := by
  obtain ⟨fields, rowsFields, determined⟩ := kept.settled
  obtain ⟨-, order⟩ := order
  unfold Outcome at outcome
  cases rows : s.db.subscriptionsOfStore storeId with
  | nil =>
      obtain rfl : fields = none := by simpa [rows] using rowsFields.symm
      cases has : d.change.fields with
      | none =>
          rw [has, rows] at outcome
          refine ⟨⟨none, by simp [outcome], ?_⟩, by simp [StripeOnly, outcome]⟩
          rw [processed, Determines, subEvents_append_failed has]
          exact determined
      | some own =>
          simp only [has, rows] at outcome order
          refine outcome.kept ?_
          rw [processed, ← order]
          refine determines_newest has fun other mem => ?_
          rw [determined] at mem
          cases mem
  | cons row others =>
      obtain rfl : fields = some (fieldsOf row) := by
        cases fields with
        | none => simp [rows] at rowsFields
        | some fields =>
            rw [rows, List.map_cons, Option.toList_some, List.cons.injEq] at rowsFields
            rw [rowsFields.1]
      cases has : d.change.fields with
      | none =>
          simp only [has, rows] at outcome order
          refine outcome.kept ?_
          rw [processed]
          exact determines_failed has order determined
      | some own =>
          simp only [has, rows] at outcome order
          refine outcome.kept ?_
          rw [processed]
          by_cases newest : Newest s.processed d.change.createdAt
          · have now := determines_newest has newest
            rw [if_pos newest] at order
            by_cases applied : d.change.createdAt ≤ row.updatedAt
            · rw [if_pos applied] at order ⊢
              rwa [order] at now
            · rw [if_neg applied] at order ⊢
              rwa [← order] at now
          · have now := determines_older has newest determined
            rw [if_neg newest] at order
            by_cases applied : d.change.createdAt ≤ row.updatedAt
            · rw [if_pos applied]
              rwa [order applied] at now
            · rwa [if_neg applied]

theorem kept_step {config : TierConfig} {storeId : String} {s : OrderState} {d : Delivery}
    (order : d.change.storeId = some storeId ∧ InOrder storeId s d)
    (kept : Kept storeId s) : Kept storeId (step config s d) := by
  obtain ⟨about, order⟩ := order
  have cases := endpoint_cases d.row
    (dispatchStripeEvent config d.draws d.change.toEvent) s.db
    (Outcome storeId d.change) fun session committed pending => by
      have same : session.working.subscriptionsOfStore storeId =
          s.db.subscriptionsOfStore storeId := by
        rw [pending.same]
        rfl
      refine dispatch_outcome about ?_ ?_
      · rw [pending.same]
        exact order.1
      · rw [StripeOnly, same]
        exact kept.stripe
  unfold step
  obtain ⟨reply, unchanged, -⟩ | ⟨reply, unchanged⟩ | ⟨reply, pending, ledger, outcome⟩ := cases
  · simp only [reply, unchanged]
    exact kept
  · simp only [reply, unchanged]
    exact kept
  · refine kept_of_outcome kept order ?_ (?_ : Outcome storeId d.change s.db _)
    · simp [reply]
    · have same : pending.subscriptionsOfStore storeId =
          s.db.subscriptionsOfStore storeId := by
        rw [ledger.same]
        rfl
      rw [Outcome, same] at outcome
      exact outcome

/--
In every run from a database without the subscription in which the deliveries
come in order, the row is the one that the processed events determine.
-/
theorem stripe_order_settles (config : TierConfig) (storeId : String) (db : Db)
    (start : db.subscriptionsOfStore storeId = []) (deliveries : List Delivery)
    (about : ∀ d ∈ deliveries, d.change.storeId = some storeId)
    (order : Guarded (step config) (InOrder storeId) ⟨db, []⟩ deliveries) :
    Settled storeId (runFrom (step config) ⟨db, []⟩ deliveries) := by
  have first : Kept storeId ⟨db, []⟩ :=
    ⟨⟨none, by simp [start], rfl⟩, by simp [StripeOnly, start]⟩
  have guarded := (guarded_of_forall about (⟨db, []⟩ : OrderState)).and order
  exact (runFrom_invariant_of_guarded (fun _ _ => kept_step) first guarded).settled

/-! ## A subscription that is upgraded -/

def sampleCreated : Delivery :=
  ⟨"evt-1", .created (sampleStripeSub 100 0 "colab_premium"), sampleDraws "a" 101000000⟩

def sampleUpgraded : Delivery :=
  ⟨"evt-2", .updated (sampleStripeSub 200 0 "colab_pro"), sampleDraws "b" 201000000⟩

/-- Delivered as it happened, the upgrade is taken for a stale event. -/
theorem stripe_upgrade_skipped :
    let s := runFrom (step tierDefaults) ⟨sampleStripeDb, []⟩ [sampleCreated, sampleUpgraded]
    s.processed = [sampleCreated.change, sampleUpgraded.change] ∧
      (s.db.subscriptionsOfStore "sub_1").map Subscription.tier = [.premium] ∧
      ¬ Settled "sub_1" s := by
  dsimp only
  refine ⟨by decide +kernel, by decide +kernel, ?_⟩
  rintro ⟨fields, rows, determined⟩
  have processed : (runFrom (step tierDefaults) ⟨sampleStripeDb, []⟩
      [sampleCreated, sampleUpgraded]).processed =
        [sampleCreated.change, sampleUpgraded.change] := by decide +kernel
  have upgraded : Determines [sampleCreated.change, sampleUpgraded.change]
      (some (stripeFields (sampleStripeSub 200 0 "colab_pro") .pro)) :=
    ⟨sampleUpgraded.change, _, ⟨by decide, by decide⟩, rfl, by decide +kernel⟩
  rw [processed] at determined
  obtain rfl := determined.unique (.refl _) (by decide) upgraded
  revert rows
  decide +kernel

/-- Delivered together, after both were created, it is applied. -/
theorem stripe_order_settles_upgrade :
    Settled "sub_1" (runFrom (step tierDefaults) ⟨sampleStripeDb, []⟩
      [{ sampleCreated with draws := sampleDraws "a" 201000000 }, sampleUpgraded]) :=
  stripe_order_settles tierDefaults "sub_1" sampleStripeDb (by decide) _ (by decide)
    (by decide +kernel)

end ColabPlatform.Billing.StripeOrder
