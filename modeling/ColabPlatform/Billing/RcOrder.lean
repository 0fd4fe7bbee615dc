import ColabPlatform.Billing.HandlerSpecs
import ColabPlatform.Foundation.Maxima
import ColabPlatform.Foundation.Run

/-!
# The order of RevenueCat's events

All six handlers write the row through one upsert, which is given the time of
the event and applies whatever it is given.  The row is that of the newest event
as long as no event arrives after a newer one, or changes nothing when it does.
-/

namespace ColabPlatform.Billing.RcOrder

open Foundation

structure Delivery where
  row : WebhookEvent
  kind : RcKind
  event : RcEvent
  draws : Draws

/-- The time that the handler of the event passes to the upsert. -/
def Delivery.eventTs (d : Delivery) : Timestamp :=
  match d.kind with
  | .cancellation cancelReasonMs => d.event.cancelTs cancelReasonMs
  | .expiration => d.event.expirationTs
  | .initialPurchase | .renewal | .billingIssue | .productChange => d.event.eventTs

/-- `applied` are the events whose ledger row and writes were committed. -/
structure OrderState where
  db : Db
  applied : List Delivery

def step (config : TierConfig) (s : OrderState) (d : Delivery) : OrderState :=
  let (reply, db) := endpoint d.row (dispatchRcEvent config d.draws d.event d.kind) s.db
  ⟨db, if reply = .ok ∧ (db.webhookEvents.lookup d.row.eventKey).isSome then
    s.applied ++ [d] else s.applied⟩

/-! ## What the events determine -/

/-- The columns that an event determines. -/
structure RcFields where
  status : SubStatus
  tier : Tier
  periodStart : Timestamp
  periodEnd : Timestamp
  deriving DecidableEq, Repr

def fieldsOf (sub : Subscription) : RcFields :=
  ⟨sub.status, sub.tier, sub.currentPeriodStart, sub.currentPeriodEnd⟩

def Delivery.fields (d : Delivery) : RcFields :=
  ⟨d.kind.eventType.status, mapProductToTier d.event.product,
    d.event.periodStart d.draws, d.event.periodEnd d.draws⟩

def rowsOf (storeId : String) (db : Db) : List Subscription :=
  db.subscriptionsFrom .revenuecat storeId

variable (stamp : Delivery → Timestamp)

/-- The subscription's row is that of the newest event that was applied. -/
inductive Settled (storeId : String) (s : OrderState) : Prop where
  | absent (rows : rowsOf storeId s.db = []) (applied : s.applied = [])
  | present (row : Subscription) (newest : Delivery) (rows : rowsOf storeId s.db = [row])
      (latest : Latest stamp s.applied newest) (same : fieldsOf row = newest.fields)

/-- An event that is newer than this one was applied. -/
def Outdated (s : OrderState) (d : Delivery) : Prop :=
  ∃ other ∈ s.applied, stamp d < stamp other

instance (s : OrderState) (d : Delivery) : Decidable (Outdated stamp s d) :=
  inferInstanceAs (Decidable (∃ other ∈ s.applied, _))

/-- The row has the values of the event already. -/
def Carries (row : Subscription) (d : Delivery) : Prop :=
  fieldsOf row = d.fields ∧
    (d.kind.eventType.status ∈ [SubStatus.canceled, .expired] → row.canceledAt ≠ none)

instance (row : Subscription) (d : Delivery) : Decidable (Carries row d) :=
  inferInstanceAs (Decidable (_ ∧ (_ → _)))

/-- No newer event was applied, or the row has the values of this one. -/
def InOrder (storeId : String) (s : OrderState) (d : Delivery) : Prop :=
  Outdated stamp s d → ∀ row ∈ rowsOf storeId s.db, Carries row d

instance (storeId : String) (s : OrderState) (d : Delivery) :
    Decidable (InOrder stamp storeId s d) :=
  inferInstanceAs (Decidable (_ → _))

/-! ## One delivery -/

theorem fieldsOf_newFromRc (userId : Uuid) (d : Delivery) :
    fieldsOf (.newFromRc userId d.event d.kind.eventType d.draws) = d.fields := by
  simp only [fieldsOf, Subscription.newFromRc, Delivery.fields]

theorem fieldsOf_fromRc (sub : Subscription) (d : Delivery) :
    fieldsOf (sub.fromRc d.event d.kind.eventType d.draws) = d.fields := by
  rw [Subscription.fromRc_eq, Subscription.flushed_eq]
  simp only [fieldsOf, Subscription.withRc, Delivery.fields]

/-- A row that has the values of an event is not touched by it. -/
theorem Carries.fromRc_eq {sub : Subscription} {d : Delivery} (h : Carries sub d) :
    sub.fromRc d.event d.kind.eventType d.draws = sub := by
  obtain ⟨same, canceled⟩ := h
  have unchanged : sub.withRc d.event d.kind.eventType d.draws = sub := by
    simp only [fieldsOf, Delivery.fields, RcFields.mk.injEq] at same
    obtain ⟨status, tier, start, finish⟩ := same
    have kept : ¬ (d.kind.eventType.status ∈ [SubStatus.canceled, .expired] ∧
        sub.canceledAt = none) := fun h => canceled h.1 h.2
    rw [Subscription.withRc, if_neg kept, ← status, ← tier, ← start, ← finish]
  rw [Subscription.fromRc_eq, unchanged, Subscription.flushed, if_pos rfl]

/-- What an event that is applied makes of the subscription's row. -/
def Outcome (storeId : String) (d : Delivery) (db db' : Db) : Prop :=
  ∃ row, rowsOf storeId db' = [row] ∧ fieldsOf row = d.fields ∧
    ∀ old ∈ rowsOf storeId db, Carries old d → rowsOf storeId db' = rowsOf storeId db

theorem outcome_of_wroteRow {storeId : String} {d : Delivery} {userId : Uuid}
    {sub : Subscription} {rows : List EntitlementSnapshot} {db db' : Db}
    (about : d.event.originalTransactionId = some storeId)
    (found : rcSubscription d.event userId d.kind.eventType d.draws db = some sub)
    (wrote : WroteRow sub rows db db') : Outcome storeId d db db' := by
  have store : d.event.originalTx d.draws = storeId := by
    rw [RcEvent.originalTx, about, Option.getD_some]
  rw [rcSubscription, store] at found
  cases stored : db.subscriptionsFrom .revenuecat storeId with
  | nil =>
      simp only [stored, Option.some.injEq] at found
      subst found
      refine ⟨_, wrote.subscription.filter_eq ?_ ?_, fieldsOf_newFromRc userId d, ?_⟩
      · simp [Subscription.newFromRc, store]
      · intro other mem
        have mem : other ∈ db.subscriptionsFrom .revenuecat storeId := mem
        rw [stored] at mem
        cases mem
      · simp [rowsOf, stored]
  | cons row others =>
      cases others with
      | cons _ _ => simp [stored] at found
      | nil =>
          simp only [stored, Option.some.injEq] at found
          have id : sub.id = row.id := by rw [← found, Subscription.id_fromRc]
          have selected : row.source = .revenuecat ∧
              row.storeSubscriptionId = some storeId := by
            have mem : row ∈ db.subscriptionsFrom .revenuecat storeId := by simp [stored]
            simpa using (List.mem_filter.1 mem).2
          have kept : sub.source = row.source ∧
              sub.storeSubscriptionId = row.storeSubscriptionId := by
            rw [← found, Subscription.fromRc_eq, Subscription.flushed_eq]
            simp only [Subscription.withRc, and_self]
          have only : rowsOf storeId db' = [sub] := by
            refine wrote.subscription.filter_eq ?_ ?_
            · simpa [kept.1, kept.2] using selected
            · intro other mem
              have mem : other ∈ db.subscriptionsFrom .revenuecat storeId := mem
              rw [stored, List.mem_singleton] at mem
              rw [mem, id]
          refine ⟨sub, only, found ▸ fieldsOf_fromRc row d, ?_⟩
          intro old mem carries
          rw [rowsOf, stored, List.mem_singleton] at mem
          subst mem
          rw [only, rowsOf, stored, ← found, carries.fromRc_eq]

/-- A delivery that is not applied leaves the rows alone. -/
theorem step_cases (config : TierConfig) {storeId : String} (s : OrderState) {d : Delivery}
    (about : d.event.originalTransactionId = some storeId) :
    ((step config s d).applied = s.applied ∧ (step config s d).db = s.db) ∨
      (step config s d).applied = s.applied ++ [d] ∧
        Outcome storeId d s.db (step config s d).db := by
  have cases := endpoint_cases d.row (dispatchRcEvent config d.draws d.event d.kind) s.db
    (fun pending db => db = s.db ∨ ∃ userId sub,
      rcSubscription d.event userId d.kind.eventType d.draws pending = some sub ∧
        WroteRow sub (d.kind.snapshots config userId sub d.draws) pending db)
    fun session committed _ => by
      refine (dispatchRcEvent_settles config d.event d.kind d.draws session).mono ?_
      rintro db (⟨-, rfl⟩ | ⟨userId, sub, -, found, rfl | wrote⟩)
      · exact Or.inl committed
      · exact Or.inl committed
      · exact Or.inr ⟨userId, sub, found, wrote⟩
  unfold step
  obtain ⟨reply, unchanged, -⟩ | ⟨reply, unchanged⟩ | ⟨reply, pending, ledger, outcome⟩ := cases
  · exact Or.inl ⟨by simp [reply], unchanged⟩
  · exact Or.inl ⟨by simp [reply], unchanged⟩
  obtain unchanged | ⟨userId, sub, found, wrote⟩ := outcome
  · have fresh : s.db.webhookEvents.lookup d.row.eventKey = none := by
      rw [Table.lookup_eq_none_iff]
      exact fun mem => (Table.insert?_eq_some ledger.inserted).1 (Or.inl mem)
    exact Or.inl ⟨by simp [unchanged, fresh], unchanged⟩
  · refine Or.inr ⟨?_, ?_⟩
    · have stored : (pending.webhookEvents.lookup d.row.eventKey).isSome := by
        rw [Table.lookup_insert ledger.inserted, if_pos rfl]
        rfl
      simp [reply, wrote.webhookEvents, stored]
    · have same : rowsOf storeId pending = rowsOf storeId s.db := by
        rw [ledger.same]
        rfl
      have outcome := outcome_of_wroteRow about found wrote
      rw [Outcome, same] at outcome
      exact outcome

theorem settled_step {config : TierConfig} {storeId : String} {s : OrderState} {d : Delivery}
    (order : d.event.originalTransactionId = some storeId ∧ InOrder stamp storeId s d)
    (settled : Settled stamp storeId s) : Settled stamp storeId (step config s d) := by
  obtain ⟨about, order⟩ := order
  obtain ⟨applied, db⟩ | ⟨applied, row, rows, same, carried⟩ := step_cases config s about
  · obtain ⟨rows, none⟩ | ⟨row, newest, rows, latest, same⟩ := settled
    · exact .absent (db ▸ rows) (applied ▸ none)
    · exact .present row newest (db ▸ rows) (applied ▸ latest) same
  by_cases outdated : Outdated stamp s d
  · obtain ⟨-, none⟩ | ⟨old, newest, oldRows, latest, oldSame⟩ := settled
    · obtain ⟨other, mem, -⟩ := outdated
      rw [none] at mem
      cases mem
    · have carries := order outdated old (by simp [oldRows])
      obtain ⟨other, mem, newer⟩ := outdated
      have older : stamp d ≤ stamp newest := newer.le.trans (latest.greatest other mem)
      refine .present old newest ?_ (applied ▸ latest.append older) oldSame
      rw [carried old (by simp [oldRows]) carries, oldRows]
  · refine .present row d rows (applied ▸ latest_append fun other mem => ?_) same
    exact le_of_not_gt fun newer => outdated ⟨other, mem, newer⟩

/-- An event that is older than one already applied leaves the row unchanged. -/
theorem rows_of_outdated {config : TierConfig} {storeId : String} {s : OrderState}
    {d : Delivery} (about : d.event.originalTransactionId = some storeId)
    (settled : Settled stamp storeId s) (outdated : Outdated stamp s d)
    (order : InOrder stamp storeId s d) :
    rowsOf storeId (step config s d).db = rowsOf storeId s.db := by
  obtain ⟨-, db⟩ | ⟨-, row, -, -, carried⟩ := step_cases config s about
  · rw [db]
  · obtain ⟨-, none⟩ | ⟨old, newest, oldRows, -, -⟩ := settled
    · obtain ⟨other, mem, -⟩ := outdated
      rw [none] at mem
      cases mem
    · have mem : old ∈ rowsOf storeId s.db := by simp [oldRows]
      exact carried old mem (order outdated old mem)

/-! ## Runs -/

/--
However the events are stamped: in every run in which they are delivered in
order, an outdated event changes nothing and the row is that of the newest.
-/
theorem rc_order_safe (config : TierConfig) (storeId : String) (db : Db)
    (start : rowsOf storeId db = []) (deliveries : List Delivery)
    (about : ∀ d ∈ deliveries, d.event.originalTransactionId = some storeId)
    (order : Guarded (step config) (InOrder stamp storeId) ⟨db, []⟩ deliveries) :
    Settled stamp storeId (runFrom (step config) ⟨db, []⟩ deliveries) ∧
      ∀ first d rest, deliveries = first ++ d :: rest →
        let s := runFrom (step config) ⟨db, []⟩ first
        Outdated stamp s d → rowsOf storeId (step config s d).db = rowsOf storeId s.db := by
  have settled : ∀ {events}, (∀ d ∈ events, d.event.originalTransactionId = some storeId) →
      Guarded (step config) (InOrder stamp storeId) ⟨db, []⟩ events →
      Settled stamp storeId (runFrom (step config) ⟨db, []⟩ events) := by
    intro events about order
    have guarded := (guarded_of_forall about (⟨db, []⟩ : OrderState)).and order
    exact runFrom_invariant_of_guarded (fun _ _ => settled_step stamp)
      (Settled.absent start rfl) guarded
  refine ⟨settled about order, fun first d rest split outdated => ?_⟩
  subst split
  exact rows_of_outdated stamp (about d (by simp))
    (settled (fun d mem => about d (by simp [mem])) order.prefix) outdated order.suffix.1

/-- Two orders of the same events, both safe, leave the same row. -/
theorem Settled.fields_eq {storeId : String} {s s' : OrderState}
    (h : Settled stamp storeId s) (h' : Settled stamp storeId s')
    (same : s.applied.Perm s'.applied)
    (distinct : ∀ d ∈ s.applied, ∀ d' ∈ s.applied, stamp d = stamp d' → d = d') :
    (rowsOf storeId s.db).map fieldsOf = (rowsOf storeId s'.db).map fieldsOf := by
  obtain ⟨rows, none⟩ | ⟨row, newest, rows, latest, fields⟩ := h
  · obtain ⟨rows', -⟩ | ⟨-, newest', -, latest', -⟩ := h'
    · rw [rows, rows']
    · have mem := same.mem_iff.2 latest'.mem
      rw [none] at mem
      cases mem
  · obtain ⟨-, none'⟩ | ⟨row', newest', rows', latest', fields'⟩ := h'
    · have mem := same.mem_iff.1 latest.mem
      rw [none'] at mem
      cases mem
    · obtain rfl := latest.unique same distinct latest'
      rw [rows, rows', List.map_singleton, List.map_singleton, fields, fields']

/-! ## A renewal that is delivered after the expiration -/

def sampleDelivery (tag : String) (kind : RcKind) (purchasedAtMs expirationAtMs : Int) :
    Delivery :=
  { row := sampleRow tag, kind, draws := sampleDraws tag (fromMillis expirationAtMs),
    event :=
      { sampleEvent "colab_premium_monthly" expirationAtMs with
        purchasedAtMs := some purchasedAtMs } }

def samplePurchase : Delivery :=
  sampleDelivery "evt-1" .initialPurchase 1709208000000 1711886400000

def sampleRenewal : Delivery :=
  sampleDelivery "evt-2" .renewal 1711886400000 1714478400000

def sampleExpiration : Delivery :=
  sampleDelivery "evt-3" .expiration 1711886400000 1714478400000

/-- The renewal makes the expired subscription active again. -/
theorem rc_renewal_revives :
    let s := runFrom (step tierDefaults) ⟨.empty, []⟩ [samplePurchase, sampleExpiration]
    Outdated Delivery.eventTs s sampleRenewal ∧
      (rowsOf "1000" s.db).map Subscription.status = [.expired] ∧
      (rowsOf "1000" (step tierDefaults s sampleRenewal).db).map Subscription.status =
        [.active] := by
  decide +kernel

/-- In the order in which they happened the events are safe. -/
theorem rc_order_safe_expiration :
    Settled Delivery.eventTs "1000" (runFrom (step tierDefaults) ⟨.empty, []⟩
      [samplePurchase, sampleRenewal, sampleExpiration]) :=
  (rc_order_safe Delivery.eventTs tierDefaults "1000" .empty rfl _ (by decide)
    (by decide +kernel)).1

end ColabPlatform.Billing.RcOrder
