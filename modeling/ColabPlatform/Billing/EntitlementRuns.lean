import ColabPlatform.Billing.Cancellation
import ColabPlatform.Billing.EntitlementAxes
import ColabPlatform.Foundation.Run

/-!
# The axes over runs of the service

Every operation on subscriptions writes one row, and some of them the snapshots
of the row.  The axes stay those of the tier as long as an operation that leaves
the snapshots alone does not change the tier that its row entitles to, and one
that writes them leaves what the user's subscriptions show fitting together.
-/

namespace ColabPlatform.Billing

open Foundation Foundation.Program

/-! ## Operations -/

inductive Operation where
  | stripe (row : WebhookEvent) (event : StripeEvent) (draws : Draws)
  | revenuecat (row : WebhookEvent) (event : RcEvent) (kind : RcKind) (draws : Draws)
  | cancelWeb (userId subscriptionId : Uuid) (immediate answered : Bool) (draws : Draws)
  | cancelForDunning (subscriptionId : Uuid) (draws : Draws)

def operate (db : Db) : Operation → Db
  | .stripe row event draws => (endpoint row (dispatchStripeEvent tierDefaults draws event) db).2
  | .revenuecat row event kind draws =>
      (endpoint row (dispatchRcEvent tierDefaults draws event kind) db).2
  | .cancelWeb userId subscriptionId immediate answered draws =>
      (cancelWeb userId subscriptionId immediate answered draws).committedBy true db
  | .cancelForDunning subscriptionId draws =>
      ((cancelSubscriptionForDunning subscriptionId draws).atomically false db).2

/-- The row that an operation writes, and whose snapshots it refreshes. -/
structure Change where
  row : Subscription
  refreshed : Option Uuid

def Change.snapshots (change : Change) (draws : Draws) : List EntitlementSnapshot :=
  match change.refreshed with
  | none => []
  | some userId => snapshotsOf tierDefaults userId change.row draws

def subscriptionChange (event : StripeSub) (tier : Tier) (draws : Draws) (db : Db) :
    Option Change := do
  let userId ← db.userOfStripeCustomer (event.customer.getD "")
  let sub ← stripeSubscription event userId tier draws db
  return ⟨sub, some userId⟩

def StripeEvent.change (draws : Draws) (db : Db) : StripeEvent → Option Change
  | .subCreated event | .subUpdated event =>
      subscriptionChange event event.productTier draws db
  | .subDeleted event => subscriptionChange event .free draws db
  | .invoiceFailed event => do
      let storeId ← event.storeSubscription
      let row ← theOnly (db.subscriptionsOfStore storeId)
      return ⟨row.pastDue draws, none⟩
  | _ => none

def RcKind.change (event : RcEvent) (draws : Draws) (db : Db) (kind : RcKind) :
    Option Change := do
  let userId ← event.appUserId
  let sub ← rcSubscription event userId kind.eventType draws db
  return ⟨sub, if kind = .billingIssue then none else some userId⟩

namespace Operation

def draws : Operation → Draws
  | .stripe _ _ draws | .revenuecat _ _ _ draws | .cancelWeb _ _ _ _ draws
  | .cancelForDunning _ draws => draws

/-- What the operation writes, if it comes to that. -/
def change (db : Db) : Operation → Option Change
  | .stripe _ event draws => event.change draws db
  | .revenuecat _ event kind draws => kind.change event draws db
  | .cancelWeb userId subscriptionId immediate answered draws =>
      if answered then
        (theOnly (db.stripeSubscriptionOf subscriptionId userId)).map fun sub =>
          ⟨if immediate then sub.canceled draws else sub.cancelingAtEnd draws, none⟩
      else none
  | .cancelForDunning subscriptionId draws =>
      (db.subscriptions.lookup subscriptionId).map fun sub => ⟨sub.canceled draws, none⟩

end Operation

/-- The change is written. -/
structure Change.Written (change : Change) (draws : Draws) (db db' : Db) : Prop where
  subscription : db.subscriptions.Puts change.row db'.subscriptions
  owner : KeepsOwner change.row db
  snapshots : Table.PutsAll (change.snapshots draws) db.snapshots db'.snapshots

/-- Subscriptions and snapshots are as they were, or the change is written. -/
def Outcome (change : Option Change) (draws : Draws) (db db' : Db) : Prop :=
  (db'.subscriptions = db.subscriptions ∧ db'.snapshots = db.snapshots) ∨
    ∃ c, change = some c ∧ c.Written draws db db'

theorem outcome_of_wroteRow (change : Change) {found : Option Change} {draws : Draws}
    {rows : List EntitlementSnapshot} {db db' : Db} (same : found = some change)
    (snapshots : change.snapshots draws = rows) (wrote : WroteRow change.row rows db db') :
    Outcome found draws db db' :=
  Or.inr ⟨change, same, wrote.subscription, wrote.owner, snapshots ▸ wrote.snapshots⟩

theorem outcome_of_sameRows {change : Option Change} {draws : Draws} {db db' : Db}
    (same : SameRows db db') : Outcome change draws db db' :=
  Or.inl ⟨same.subscriptions, same.snapshots⟩

/-! ## What each operation does -/

theorem handleSubscription_outcome (tier : Tier) (event : StripeSub) (draws : Draws)
    (s : Session Db) :
    (handleSubscription tierDefaults tier event draws).Settles s fun db =>
      db = s.committed ∨
        Outcome (subscriptionChange event tier draws s.working) draws s.working db := by
  refine (handleSubscription_settles tierDefaults tier event draws s).mono ?_
  rintro db (⟨-, unchanged⟩ | ⟨userId, sub, user, found, wrote, -⟩)
  · exact Or.inl unchanged
  · refine Or.inr (outcome_of_wroteRow ⟨sub, some userId⟩ ?_ rfl wrote)
    simp [subscriptionChange, user, found]

theorem dispatchStripeEvent_outcome (event : StripeEvent) (draws : Draws)
    (s : Session Db) :
    (dispatchStripeEvent tierDefaults draws event).Settles s fun db =>
      SameRows s.committed db ∨ Outcome (event.change draws s.working) draws s.working db := by
  have unchanged : ∀ {db}, db = s.committed → SameRows s.committed db := by
    rintro db rfl
    exact ⟨rfl, rfl, rfl⟩
  cases event with
  | subCreated event | subUpdated event | subDeleted event =>
      exact (handleSubscription_outcome _ event draws s).mono fun db =>
        Or.imp_left unchanged
  | invoiceFailed event =>
      refine (handleInvoiceFailed_settles event draws s).mono ?_
      rintro db (⟨-, same⟩ | ⟨-, ⟨-, rfl⟩ | ⟨storeId, row, store, rows, wrote⟩⟩)
      · exact Or.inl (unchanged same)
      · exact Or.inr (outcome_of_sameRows ⟨rfl, rfl, rfl⟩)
      · refine Or.inr (outcome_of_wroteRow ⟨row.pastDue draws, none⟩ ?_ rfl wrote)
        simp [StripeEvent.change, store, rows, theOnly]
  | invoicePaid event =>
      refine (handleInvoicePaid_settles tierDefaults event draws s).mono ?_
      rintro db (⟨-, same⟩ | ⟨userId, -, ⟨-, same, -⟩ | ⟨sub, -, ⟨same, -⟩ | ⟨-, same, -⟩⟩⟩)
      · exact Or.inl (unchanged same)
      · exact Or.inr (outcome_of_sameRows same)
      · exact Or.inr (outcome_of_sameRows same)
      · exact Or.inl same
  | chargeRefunded event =>
      refine (handleChargeRefunded_settles event draws s).mono ?_
      rintro db (⟨-, same⟩ | ⟨-, same⟩)
      · exact Or.inl (unchanged same)
      · exact Or.inr (outcome_of_sameRows same)
  | checkoutCompleted event =>
      refine (handleCheckoutCompleted_settles event draws s).mono ?_
      rintro db (⟨-, same⟩ | ⟨tx, -, ⟨same, -⟩ | ⟨-, same⟩⟩)
      · exact Or.inl (unchanged same)
      · exact Or.inr (outcome_of_sameRows same)
      · exact Or.inl (unchanged same)
  | unknown => exact settles_pure (Or.inl ⟨rfl, rfl, rfl⟩)

theorem dispatchRcEvent_outcome (event : RcEvent) (kind : RcKind) (draws : Draws)
    (s : Session Db) :
    (dispatchRcEvent tierDefaults draws event kind).Settles s fun db =>
      SameRows s.committed db ∨
        Outcome (kind.change event draws s.working) draws s.working db := by
  refine (dispatchRcEvent_settles tierDefaults event kind draws s).mono ?_
  rintro db (⟨-, rfl⟩ | ⟨userId, sub, user, found, rfl | wrote⟩)
  · exact Or.inl ⟨rfl, rfl, rfl⟩
  · exact Or.inl ⟨rfl, rfl, rfl⟩
  · refine Or.inr (outcome_of_wroteRow
      ⟨sub, if kind = .billingIssue then none else some userId⟩ ?_ ?_ wrote)
    · simp [RcKind.change, user, found]
    · cases kind <;> rfl

theorem endpoint_outcome {row : WebhookEvent} {handler : BillingM Unit} {db : Db}
    {draws : Draws} (change : Db → Option Change)
    (ledger : ∀ events, change { db with webhookEvents := events } = change db)
    (settles : ∀ s : Session Db, handler.Settles s fun db' =>
      SameRows s.committed db' ∨ Outcome (change s.working) draws s.working db') :
    Outcome (change db) draws db (endpoint row handler db).2 := by
  have cases := endpoint_cases row handler db
    (fun pending db' => SameRows db db' ∨ Outcome (change pending) draws pending db')
    fun s committed _ => by
      have handled := settles s
      rw [committed] at handled
      exact handled
  obtain ⟨-, same, -⟩ | ⟨-, same⟩ | ⟨-, pending, inserted, same | outcome⟩ := cases
  · rw [same]
    exact Or.inl ⟨rfl, rfl⟩
  · rw [same]
    exact Or.inl ⟨rfl, rfl⟩
  · exact outcome_of_sameRows same
  · rw [inserted.same, ledger] at outcome
    obtain ⟨subscriptions, snapshots⟩ | ⟨c, found, written⟩ := outcome
    · exact Or.inl ⟨subscriptions, snapshots⟩
    · exact Or.inr ⟨c, found, written.subscription, written.owner, written.snapshots⟩

theorem outcome_of_wroteSubscription {row : Subscription} {change : Option Change}
    {draws : Draws} {db db' : Db} (same : change = some ⟨row, none⟩)
    (wrote : WroteSubscription row db db') : Outcome change draws db db' := by
  refine Or.inr ⟨_, same, wrote.puts, wrote.owner, ?_⟩
  have snapshots : db'.snapshots = db.snapshots := by rw [wrote.same]
  exact snapshots

theorem operate_outcome (db : Db) (operation : Operation) :
    Outcome (operation.change db) operation.draws db (operate db operation) := by
  cases operation with
  | stripe row event draws =>
      refine endpoint_outcome (fun db => event.change draws db) (fun events => ?_)
        fun s => dispatchStripeEvent_outcome event draws s
      cases event <;> rfl
  | revenuecat row event kind draws =>
      exact endpoint_outcome (fun db => kind.change event draws db) (fun events => rfl)
        fun s => dispatchRcEvent_outcome event kind draws s
  | cancelWeb userId subscriptionId immediate answered draws =>
      obtain same | same | ⟨sub, found, rfl, wrote⟩ := committedBy_of_settles
        (cancelWeb_settles userId subscriptionId immediate answered draws
          (Session.start true db))
      · exact outcome_of_sameRows (by rw [operate, same]; exact ⟨rfl, rfl, rfl⟩)
      · exact outcome_of_sameRows (by rw [operate, same]; exact ⟨rfl, rfl, rfl⟩)
      · refine outcome_of_wroteSubscription ?_ wrote
        rw [Session.working_start] at found
        simp [Operation.change, found, theOnly]
  | cancelForDunning subscriptionId draws =>
      refine atomically_preserves (Or.inl ⟨rfl, rfl⟩) ?_
      refine (cancelSubscriptionForDunning_writes subscriptionId draws _).mono ?_
      rintro _ s (same | ⟨sub, found, wrote⟩)
      · rw [same]
        exact Or.inl ⟨rfl, rfl⟩
      · refine outcome_of_wroteSubscription ?_ wrote
        rw [Session.working_start] at found
        simp [Operation.change, found]

/-! ## What fits -/

namespace Db

def othersOf (userId : Uuid) (db : Db) (row : Subscription) : List Subscription :=
  (db.subscriptionsOf userId).filter fun sub => sub.id ≠ row.id

/-- The tiers of the user's subscriptions once `row` is written. -/
def tiersWith (userId : Uuid) (db : Db) (row : Subscription) : List Tier :=
  row.effectiveTier :: (db.othersOf userId row).map Subscription.effectiveTier

/-- What they show once the snapshots of `row` are refreshed. -/
def shownWith (userId : Uuid) (db : Db) (row : Subscription) : List (Tier × Timestamp) :=
  (row.effectiveTier, row.currentPeriodEnd) ::
    (db.othersOf userId row).filterMap fun sub =>
      (db.shownUntil userId sub.id).map fun expiry => (sub.effectiveTier, expiry)

end Db

/--
A change of a row of the user that leaves the snapshots alone leaves its tier
alone; one that refreshes snapshots of the user does so for a row of the user,
and what it shows fits with what the other subscriptions show.
-/
def Change.Fitting (change : Change) (userId : Uuid) (db : Db) : Prop :=
  (change.row.userId = userId ∨ change.refreshed = some userId) →
    match change.refreshed with
    | none => change.row.effectiveTier = (db.tierAt userId change.row.id).getD .free
    | some user => user = userId ∧ change.row.userId = userId ∧
        Fits (db.tiersWith userId change.row) (db.shownWith userId change.row)

instance (change : Change) (userId : Uuid) (db : Db) : Decidable (change.Fitting userId db) := by
  unfold Change.Fitting
  refine @instDecidableForall _ _ inferInstance ?_
  split <;> infer_instance

def Operation.Fitting (userId : Uuid) (db : Db) (operation : Operation) : Prop :=
  ∀ change ∈ operation.change db, change.Fitting userId db

instance (userId : Uuid) (db : Db) (operation : Operation) :
    Decidable (operation.Fitting userId db) :=
  inferInstanceAs (Decidable (∀ change ∈ operation.change db, _))

/-! ## One change -/

section Written

variable {userId : Uuid} {db db' : Db} {change : Change} {draws : Draws}

theorem Fits.congr {tiers tiers' : List Tier} {shown shown' : List (Tier × Timestamp)}
    (fits : Fits tiers shown) (sameTiers : ∀ tier, tier ∈ tiers' ↔ tier ∈ tiers)
    (sameShown : ∀ shows, shows ∈ shown' ↔ shows ∈ shown) : Fits tiers' shown' := by
  simpa only [Fits, sameTiers, sameShown] using fits

/-- One more free subscription fits with whatever is shown. -/
theorem Fits.free {tiers : List Tier} {shown : List (Tier × Timestamp)}
    (fits : Fits tiers shown) : Fits (.free :: tiers) shown := by
  intro shows mem
  obtain ⟨onlyFree, best, bestMem, above, longer⟩ := fits shows mem
  refine ⟨fun free => by simpa using onlyFree free, best, bestMem, ?_, longer⟩
  simpa using ⟨Tier.free_le _, above⟩

theorem tierAt_written (written : change.Written draws db db') (id : Uuid) :
    db'.tierAt userId id =
      if change.row.id = id then
        if change.row.userId = userId then some change.row.effectiveTier else none
      else db.tierAt userId id := by
  rw [Db.tierAt, written.subscription id]
  by_cases same : change.row.id = id
  · simp only [if_pos same]
    by_cases own : change.row.userId = userId <;> simp [own, Option.filter]
  · simp only [if_neg same, Db.tierAt]

theorem slots_nodup (sub : Subscription) :
    ((snapshotsOf tierDefaults userId sub draws).map EntitlementSnapshot.slot).Nodup := by
  have keys : ∀ tier, ((tierDefaults tier).map Prod.fst).Nodup := by
    intro tier
    cases tier <;> decide
  have slots : (snapshotsOf tierDefaults userId sub draws).map EntitlementSnapshot.slot =
      ((tierDefaults sub.effectiveTier).map Prod.fst).map
        fun axisKey => (userId, axisKey, "subscription", sub.id) := by
    simp [snapshotsOf, Subscription.effectiveTier, EntitlementSnapshot.slot,
      Function.comp_def]
  rw [slots]
  refine (keys _).map fun a b same => ?_
  simpa using same

theorem mem_snapshotsOf {user : Uuid} {sub : Subscription} {snapshot : EntitlementSnapshot}
    (mem : snapshot ∈ snapshotsOf tierDefaults user sub draws) :
    snapshot.userId = user ∧ snapshot.source = "subscription" ∧
      snapshot.sourceRef = sub.id ∧ snapshot.expiresAt = some sub.currentPeriodEnd ∧
      (snapshot.axisKey, snapshot.value) ∈ tierDefaults sub.effectiveTier := by
  obtain ⟨axis, has, rfl⟩ := List.mem_map.1 mem
  exact ⟨rfl, rfl, rfl, rfl, has⟩

/-- A refresh stores a snapshot for every axis. -/
theorem snapshotsOf_complete (user : Uuid) (sub : Subscription) (draws : Draws)
    {axis : String × AxisType × AxisValue} (registered : axis ∈ axisRegistry) :
    ∃ snapshot ∈ snapshotsOf tierDefaults user sub draws,
      snapshot.slot = (user, axis.1, "subscription", sub.id) := by
  have mem : (axis.1, tierDefaults.axisValue sub.effectiveTier axis) ∈
      tierDefaults sub.effectiveTier := by
    rw [tierDefaults_eq]
    exact List.mem_map_of_mem registered
  exact ⟨_, List.mem_map_of_mem mem, rfl⟩

theorem registered_of_mem {axisKey : String} {value : AxisValue} {tier : Tier}
    (mem : (axisKey, value) ∈ tierDefaults tier) : ∃ axis ∈ axisRegistry, axis.1 = axisKey := by
  rw [tierDefaults_eq] at mem
  obtain ⟨axis, registered, same⟩ := List.mem_map.1 mem
  exact ⟨axis, registered, congrArg Prod.fst same⟩

theorem shownUntil_congr
    (lookups : ∀ key, key.1 = userId → db'.snapshots.lookup key = db.snapshots.lookup key)
    (id : Uuid) : db'.shownUntil userId id = db.shownUntil userId id := by
  rw [Db.shownUntil, lookups _ rfl, Db.shownUntil]

/-- The user's subscriptions and snapshots are not touched. -/
theorem mirrors_congr (mirrors : Mirrors userId db)
    (tiers : ∀ id, db'.tierAt userId id = db.tierAt userId id)
    (lookups : ∀ key, key.1 = userId → db'.snapshots.lookup key = db.snapshots.lookup key) :
    Mirrors userId db' := by
  have expiries := shownUntil_congr lookups
  constructor
  · intro snapshot mem user
    have stored := Table.lookup_of_mem mem
    rw [lookups _ user] at stored
    rw [tiers, expiries]
    exact mirrors.sound snapshot (Table.mem_of_lookup stored) user
  · intro id has shown axis registered
    rw [tiers] at has
    rw [expiries] at shown
    rw [lookups _ rfl]
    exact mirrors.complete id has shown axis registered

/-- What is kept for a user: the axes follow from it. -/
structure Coherent (userId : Uuid) (db : Db) : Prop where
  mirrors : Mirrors userId db
  fits : Fits (db.tiersOf userId) (db.shown userId)

theorem coherent_congr (coherent : Coherent userId db)
    (tiers : ∀ id, db'.tierAt userId id = db.tierAt userId id)
    (lookups : ∀ key, key.1 = userId → db'.snapshots.lookup key = db.snapshots.lookup key) :
    Coherent userId db' := by
  refine ⟨mirrors_congr coherent.mirrors tiers lookups, coherent.fits.congr ?_ ?_⟩
  · simp only [mem_tiersOf, tiers, implies_true]
  · simp only [mem_shown, tiers, shownUntil_congr lookups, implies_true]

/-- A change that is not about the user. -/
theorem coherent_of_other (written : change.Written draws db db')
    (coherent : Coherent userId db) (row : change.row.userId ≠ userId)
    (refreshed : change.refreshed ≠ some userId) : Coherent userId db' := by
  refine coherent_congr coherent (fun id => ?_) fun key user => ?_
  · rw [tierAt_written written, if_neg row]
    split
    · rename_i same
      cases has : db.tierAt userId id with
      | none => rfl
      | some tier =>
          obtain ⟨sub, mem, rfl, -⟩ := Db.tierAt_eq_some.1 has
          obtain ⟨stored, own⟩ := Db.mem_subscriptionsOf.1 mem
          have owner := written.owner sub (by rw [same, Table.lookup_of_mem stored])
          exact absurd (owner.symm.trans own) row
    · rfl
  · have snapshots := written.snapshots
    unfold Change.snapshots at snapshots
    cases whose : change.refreshed with
    | none =>
        rw [whose] at snapshots
        rw [(snapshots : db'.snapshots = db.snapshots)]
    | some other =>
        rw [whose] at snapshots refreshed
        rw [snapshots.lookup (slots_nodup _)]
        have missed : (snapshotsOf tierDefaults other change.row draws).find?
            (fun snapshot => snapshot.slot = key) = none := by
          refine List.find?_eq_none.2 fun snapshot mem found => refreshed ?_
          have slot : snapshot.slot = key := of_decide_eq_true found
          rw [← user, ← slot, ← (mem_snapshotsOf mem).1]
          rfl
        rw [missed, Option.none_or]

/-- A change of the user's row that keeps its tier and its snapshots. -/
theorem coherent_of_kept (written : change.Written draws db db')
    (coherent : Coherent userId db) (own : change.row.userId = userId)
    (refreshed : change.refreshed = none)
    (tier : change.row.effectiveTier = (db.tierAt userId change.row.id).getD .free) :
    Coherent userId db' := by
  have snapshots : db'.snapshots = db.snapshots := by
    have written := written.snapshots
    rwa [Change.snapshots, refreshed] at written
  have expiries : ∀ id, db'.shownUntil userId id = db.shownUntil userId id :=
    shownUntil_congr fun key _ => by rw [snapshots]
  cases has : db.tierAt userId change.row.id with
  | some old =>
      refine coherent_congr coherent (fun id => ?_) fun key _ => by rw [snapshots]
      rw [has, Option.getD_some] at tier
      rw [tierAt_written written, if_pos own, tier, ← has]
      split
      · rename_i same
        rw [same]
      · rfl
  | none =>
      rw [has, Option.getD_none] at tier
      have tiers : ∀ id, db'.tierAt userId id =
          if change.row.id = id then some .free else db.tierAt userId id := by
        intro id
        rw [tierAt_written written, if_pos own, tier]
      -- a row that is new to the user has no snapshots
      have hidden : ∀ id, (db.tierAt userId id).isSome → change.row.id ≠ id := by
        rintro _ has' rfl
        rw [has] at has'
        cases has'
      have unseen : db.shownUntil userId change.row.id = none := by
        rw [Db.shownUntil, Option.bind_eq_none_iff]
        intro snapshot found
        obtain ⟨mem, slot⟩ := Table.lookup_eq_some_iff.1 found
        simp only [EntitlementSnapshot.slot, Prod.mk.injEq] at slot
        obtain ⟨-, tier, expiry, has', -⟩ := coherent.mirrors.sound snapshot mem slot.1
        rw [slot.2.2.2, has] at has'
        cases has'
      constructor
      · constructor
        · intro snapshot mem user
          rw [snapshots] at mem
          obtain ⟨source, tier, expiry, has', rest⟩ :=
            coherent.mirrors.sound snapshot mem user
          refine ⟨source, tier, expiry, ?_, by rwa [expiries]⟩
          rw [tiers, if_neg (hidden _ (by rw [has']; rfl)), has']
        · intro id has' shown axis registered
          rw [expiries] at shown
          have other : change.row.id ≠ id := by
            rintro rfl
            rw [unseen] at shown
            cases shown
          rw [tiers, if_neg other] at has'
          rw [snapshots]
          exact coherent.mirrors.complete id has' shown axis registered
      · refine coherent.fits.free.congr (fun tier => ?_) fun shows => ?_
        · rw [List.mem_cons, mem_tiersOf, mem_tiersOf]
          constructor
          · rintro ⟨id, has'⟩
            rw [tiers] at has'
            split at has'
            · exact Or.inl (Option.some.inj has').symm
            · exact Or.inr ⟨id, has'⟩
          · rintro (rfl | ⟨id, has'⟩)
            · exact ⟨change.row.id, by rw [tiers, if_pos rfl]⟩
            · exact ⟨id, by rw [tiers, if_neg (hidden id (by rw [has']; rfl)), has']⟩
        · rw [mem_shown, mem_shown]
          simp only [expiries]
          constructor
          · rintro ⟨id, has', shown⟩
            rw [tiers] at has'
            split at has'
            · rename_i same
              rw [← same, unseen] at shown
              cases shown
            · exact ⟨id, has', shown⟩
          · rintro ⟨id, has', shown⟩
            exact ⟨id, by rw [tiers, if_neg (hidden id (by rw [has']; rfl)), has'], shown⟩

theorem mem_othersOf {row sub : Subscription} :
    sub ∈ db.othersOf userId row ↔ sub ∈ db.subscriptionsOf userId ∧ row.id ≠ sub.id := by
  rw [Db.othersOf, List.mem_filter, decide_eq_true_iff, ne_comm]

theorem mem_tiersWith {row : Subscription} {tier : Tier} :
    tier ∈ db.tiersWith userId row ↔ tier = row.effectiveTier ∨
      ∃ id, row.id ≠ id ∧ db.tierAt userId id = some tier := by
  simp only [Db.tiersWith, List.mem_cons, List.mem_map, mem_othersOf, Db.tierAt_eq_some]
  refine or_congr_right ⟨?_, ?_⟩
  · rintro ⟨sub, ⟨mem, other⟩, tier⟩
    exact ⟨sub.id, other, sub, mem, rfl, tier⟩
  · rintro ⟨_, other, sub, mem, rfl, tier⟩
    exact ⟨sub, ⟨mem, other⟩, tier⟩

theorem mem_shownWith {row : Subscription} {shows : Tier × Timestamp} :
    shows ∈ db.shownWith userId row ↔ shows = (row.effectiveTier, row.currentPeriodEnd) ∨
      ∃ id, row.id ≠ id ∧ db.tierAt userId id = some shows.1 ∧
        db.shownUntil userId id = some shows.2 := by
  simp only [Db.shownWith, List.mem_cons, List.mem_filterMap, Option.map_eq_some_iff,
    mem_othersOf, Db.tierAt_eq_some]
  refine or_congr_right ⟨?_, ?_⟩
  · rintro ⟨sub, ⟨mem, other⟩, expiry, shown, rfl⟩
    exact ⟨sub.id, other, ⟨sub, mem, rfl, rfl⟩, shown⟩
  · rintro ⟨_, other, ⟨sub, mem, rfl, tier⟩, shown⟩
    exact ⟨sub, ⟨mem, other⟩, _, shown, Prod.ext tier rfl⟩

/-- A refresh of the snapshots of the user's row. -/
theorem coherent_of_refreshed (written : change.Written draws db db')
    (coherent : Coherent userId db) (own : change.row.userId = userId)
    (refreshed : change.refreshed = some userId)
    (fits : Fits (db.tiersWith userId change.row) (db.shownWith userId change.row)) :
    Coherent userId db' := by
  have tiers : ∀ id, db'.tierAt userId id =
      if change.row.id = id then some change.row.effectiveTier else db.tierAt userId id := by
    intro id
    rw [tierAt_written written, if_pos own]
  have lookups : ∀ key, db'.snapshots.lookup key =
      ((snapshotsOf tierDefaults userId change.row draws).find?
        fun snapshot => snapshot.slot = key).or (db.snapshots.lookup key) := by
    have snapshots := written.snapshots
    rw [Change.snapshots, refreshed] at snapshots
    exact snapshots.lookup (slots_nodup _)
  have stored : ∀ axis ∈ axisRegistry, ∃ snapshot,
      snapshot ∈ snapshotsOf tierDefaults userId change.row draws ∧
        db'.snapshots.lookup (userId, axis.1, "subscription", change.row.id) =
          some snapshot := by
    intro axis registered
    obtain ⟨snapshot, mem, slot⟩ := snapshotsOf_complete userId change.row draws registered
    rw [lookups]
    cases found : (snapshotsOf tierDefaults userId change.row draws).find? fun snapshot =>
        snapshot.slot = (userId, axis.1, "subscription", change.row.id) with
    | none => simpa [slot] using List.find?_eq_none.1 found snapshot mem
    | some first => exact ⟨first, List.mem_of_find?_eq_some found, rfl⟩
  have others : ∀ id axisKey source, change.row.id ≠ id →
      db'.snapshots.lookup (userId, axisKey, source, id) =
        db.snapshots.lookup (userId, axisKey, source, id) := by
    intro id axisKey source other
    have missed : (snapshotsOf tierDefaults userId change.row draws).find?
        (fun snapshot => snapshot.slot = (userId, axisKey, source, id)) = none := by
      refine List.find?_eq_none.2 fun snapshot mem found => other ?_
      have slot : snapshot.slot = (userId, axisKey, source, id) := of_decide_eq_true found
      rw [← (mem_snapshotsOf mem).2.2.1]
      exact congrArg (fun slot => slot.2.2.2) slot
    rw [lookups, missed, Option.none_or]
  have expiries : ∀ id, db'.shownUntil userId id =
      if change.row.id = id then some change.row.currentPeriodEnd
      else db.shownUntil userId id := by
    intro id
    split
    · rename_i same
      obtain ⟨snapshot, mem, found⟩ :=
        stored ("invites_per_week", .int, .int 5) (by decide)
      dsimp only at found
      rw [Db.shownUntil, ← same, found, Option.bind_some, (mem_snapshotsOf mem).2.2.2.1]
    · rename_i other
      rw [Db.shownUntil, others id _ _ other, Db.shownUntil]
  constructor
  · constructor
    · intro snapshot mem user
      rw [tiers, expiries]
      by_cases same : change.row.id = snapshot.sourceRef
      · have found := Table.lookup_of_mem mem
        rw [lookups] at found
        obtain new | ⟨missed, old⟩ := Option.or_eq_some_iff.1 found
        · obtain ⟨-, source, -, expiresAt, value⟩ :=
            mem_snapshotsOf (List.mem_of_find?_eq_some new)
          rw [if_pos same, if_pos same]
          exact ⟨source, _, _, rfl, rfl, value, expiresAt⟩
        · obtain ⟨source, tier, expiry, has, shown, value, expires⟩ :=
            coherent.mirrors.sound snapshot (Table.mem_of_lookup old) user
          obtain ⟨axis, registered, key⟩ := registered_of_mem value
          obtain ⟨written, mem', slot⟩ :=
            snapshotsOf_complete userId change.row draws registered
          have slot' : written.slot = snapshot.slot := by
            rw [slot, EntitlementSnapshot.slot, user, key, source, same]
          simpa [slot'] using List.find?_eq_none.1 missed written mem'
      · have found := Table.lookup_of_mem mem
        have slot : snapshot.slot =
            (userId, snapshot.axisKey, snapshot.source, snapshot.sourceRef) := by
          rw [EntitlementSnapshot.slot, user]
        rw [slot, others _ _ _ same] at found
        rw [if_neg same, if_neg same]
        exact coherent.mirrors.sound snapshot (Table.mem_of_lookup found) user
    · intro id has shown axis registered
      by_cases same : change.row.id = id
      · obtain ⟨snapshot, -, found⟩ := stored axis registered
        rw [← same, found]
        rfl
      · rw [tiers, if_neg same] at has
        rw [expiries, if_neg same] at shown
        rw [others _ _ _ same]
        exact coherent.mirrors.complete id has shown axis registered
  · refine fits.congr (fun tier => ?_) fun shows => ?_
    · rw [mem_tiersOf, mem_tiersWith]
      simp only [tiers]
      constructor
      · rintro ⟨id, has⟩
        split at has
        · exact Or.inl (Option.some.inj has).symm
        · rename_i other
          exact Or.inr ⟨id, other, has⟩
      · rintro (rfl | ⟨id, other, has⟩)
        · exact ⟨change.row.id, by rw [if_pos rfl]⟩
        · exact ⟨id, by rw [if_neg other, has]⟩
    · rw [mem_shown, mem_shownWith]
      simp only [tiers, expiries]
      constructor
      · rintro ⟨id, has, shown⟩
        split at has
        · rename_i same
          rw [if_pos same] at shown
          exact Or.inl (Prod.ext (Option.some.inj has).symm (Option.some.inj shown).symm)
        · rename_i other
          rw [if_neg other] at shown
          exact Or.inr ⟨id, other, has, shown⟩
      · rintro (rfl | ⟨id, other, has, shown⟩)
        · exact ⟨change.row.id, by simp⟩
        · exact ⟨id, by simp [other, has, shown]⟩

theorem coherent_of_written (written : change.Written draws db db')
    (fitting : change.Fitting userId db) (coherent : Coherent userId db) :
    Coherent userId db' := by
  by_cases about : change.row.userId = userId ∨ change.refreshed = some userId
  · have fits := fitting about
    cases refreshed : change.refreshed with
    | none =>
        rw [refreshed] at fits about
        have own : change.row.userId = userId := by simpa using about
        exact coherent_of_kept written coherent own refreshed fits
    | some user =>
        rw [refreshed] at fits
        obtain ⟨rfl, own, fits⟩ := fits
        exact coherent_of_refreshed written coherent own refreshed fits
  · obtain ⟨row, refreshed⟩ := not_or.1 about
    exact coherent_of_other written coherent row refreshed

end Written

/-! ## Runs -/

theorem coherent_operate {userId : Uuid} {db : Db} {operation : Operation}
    (fitting : operation.Fitting userId db) (coherent : Coherent userId db) :
    Coherent userId (operate db operation) := by
  obtain ⟨subscriptions, snapshots⟩ | ⟨change, found, written⟩ := operate_outcome db operation
  · refine coherent_congr coherent (fun id => ?_) fun key _ => by rw [snapshots]
    rw [Db.tierAt, subscriptions, Db.tierAt]
  · exact coherent_of_written written (fitting change found) coherent

/-- A user without subscriptions and snapshots. -/
theorem coherent_start {userId : Uuid} {db : Db}
    (none_yet : db.subscriptionsOf userId = [])
    (unseen : ∀ snapshot ∈ db.snapshots.rows, snapshot.userId ≠ userId) :
    Coherent userId db := by
  have tiers : ∀ id, db.tierAt userId id = none := by
    intro id
    cases has : db.tierAt userId id with
    | none => rfl
    | some tier =>
        obtain ⟨sub, mem, -⟩ := Db.tierAt_eq_some.1 has
        rw [none_yet] at mem
        cases mem
  refine ⟨⟨fun snapshot mem user => absurd user (unseen snapshot mem), ?_⟩, ?_⟩
  · intro id has
    rw [tiers] at has
    cases has
  · intro shows mem
    obtain ⟨id, has, -⟩ := mem_shown.1 mem
    rw [tiers] at has
    cases has

/--
In every run whose operations fit, from a database in which the user has neither
subscriptions nor snapshots, the axes are those of the tier at every time.
-/
theorem axes_agree_with_tier (userId : Uuid) (db : Db)
    (none_yet : db.subscriptionsOf userId = [])
    (unseen : ∀ snapshot ∈ db.snapshots.rows, snapshot.userId ≠ userId)
    (operations : List Operation)
    (fitting : Guarded operate (Operation.Fitting userId) db operations) (now : Timestamp) :
    (resolveEntitlements tierDefaults userId now (runFrom operate db operations)).axes =
      tierDefaults
        (resolveEntitlements tierDefaults userId now (runFrom operate db operations)).tier := by
  have coherent := runFrom_invariant_of_guarded (fun _ _ => coherent_operate)
    (coherent_start none_yet unseen) fitting
  exact axes_eq_tierDefaults coherent.mirrors coherent.fits now

/-! ## A subscription canceled on the web -/

def samplePremium : Operation :=
  .stripe ⟨.stripe, "evt-1", "customer.subscription.created", 100000000, 101000000⟩
    (.subCreated (sampleStripeSub 100 0 "colab_premium")) (sampleDraws "a" 101000000)

def samplePro : Operation :=
  .revenuecat (sampleRow "evt-2") (sampleEvent "colab_pro_monthly" 1711886400000)
    .initialPurchase (sampleDraws "b" 1709208000000000)

def sampleCancellation (immediate : Bool) : Operation :=
  .cancelWeb ⟨"ana"⟩ ⟨"subscription-a"⟩ immediate true (sampleDraws "c" 201000000)

/-- The tier is free at once, and the axes stay those of the canceled tier. -/
theorem canceled_keeps_axes :
    let resolved := resolveEntitlements tierDefaults ⟨"ana"⟩ 300000000
      (runFrom operate sampleStripeDb [samplePremium, sampleCancellation true])
    resolved.tier = .free ∧ resolved.axes = tierDefaults .premium ∧
      resolved.axes ≠ tierDefaults resolved.tier := by
  decide +kernel

/-- Two paid subscriptions of which the better one is shown longer. -/
theorem axes_agree_with_pro :
    let resolved := resolveEntitlements tierDefaults ⟨"ana"⟩ 300000000
      (runFrom operate sampleStripeDb [samplePremium, samplePro, sampleCancellation false])
    resolved.axes = tierDefaults resolved.tier :=
  axes_agree_with_tier ⟨"ana"⟩ sampleStripeDb (by decide) (by decide) _ (by decide +kernel)
    300000000

end ColabPlatform.Billing
