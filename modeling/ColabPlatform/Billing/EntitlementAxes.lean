import ColabPlatform.Billing.Entitlements
import Mathlib.Order.Defs.LinearOrder

/-!
# When the axes are those of the tier

The snapshots of a subscription show a tier until the end of a period.  The axes
of a user are those of the tier when what the subscriptions show fits together:
all show the free tier or none does, and of the best tier one is shown longest.
-/

namespace ColabPlatform.Billing

open Foundation

/-! ## Tiers -/

instance : LinearOrder Tier :=
  LinearOrder.lift' Tier.rank fun a b => by cases a <;> cases b <;> simp [Tier.rank]

theorem Tier.le_iff {a b : Tier} : a ≤ b ↔ a.rank ≤ b.rank := Iff.rfl

theorem Tier.free_le (tier : Tier) : .free ≤ tier := Nat.zero_le _

theorem Tier.eq_free_of_le {tier : Tier} (h : tier ≤ .free) : tier = .free :=
  le_antisymm h tier.free_le

/-- The tier that a subscription entitles to. -/
def Subscription.effectiveTier (sub : Subscription) : Tier :=
  if sub.status.active? then sub.tier else .free

namespace Db

def subscriptionsOf (userId : Uuid) (db : Db) : List Subscription :=
  db.subscriptions.rows.filter fun sub => sub.userId = userId

/-- The tier of one of the user's subscriptions. -/
def tierAt (userId : Uuid) (db : Db) (subscriptionId : Uuid) : Option Tier :=
  ((db.subscriptions.lookup subscriptionId).filter fun sub => sub.userId = userId).map
    Subscription.effectiveTier

theorem mem_subscriptionsOf {userId : Uuid} {db : Db} {sub : Subscription} :
    sub ∈ db.subscriptionsOf userId ↔ sub ∈ db.subscriptions.rows ∧ sub.userId = userId := by
  simp [subscriptionsOf]

theorem tierAt_eq_some {userId : Uuid} {db : Db} {id : Uuid} {tier : Tier} :
    db.tierAt userId id = some tier ↔
      ∃ sub ∈ db.subscriptionsOf userId, sub.id = id ∧ sub.effectiveTier = tier := by
  simp only [tierAt, Option.map_eq_some_iff, Option.filter_eq_some_iff,
    Table.lookup_eq_some_iff, mem_subscriptionsOf, decide_eq_true_eq]
  constructor
  · rintro ⟨sub, ⟨⟨mem, id⟩, user⟩, tier⟩
    exact ⟨sub, ⟨mem, user⟩, id, tier⟩
  · rintro ⟨sub, ⟨mem, user⟩, id, tier⟩
    exact ⟨sub, ⟨⟨mem, id⟩, user⟩, tier⟩

end Db

/-- The best of the tiers that the user's subscriptions have. -/
structure IsBest (userId : Uuid) (db : Db) (best : Tier) : Prop where
  greatest : ∀ id tier, db.tierAt userId id = some tier → tier ≤ best
  attained : best = .free ∨ ∃ id, db.tierAt userId id = some best

theorem isBest_resolve (config : TierConfig) (userId : Uuid) (now : Timestamp) (db : Db) :
    IsBest userId db (resolveEntitlements config userId now db).tier := by
  have active : ∀ sub, sub ∈ db.activeSubscriptions userId ↔
      sub ∈ db.subscriptionsOf userId ∧ sub.status.active? := by
    intro sub
    simp [Db.activeSubscriptions, Db.subscriptionsOf, and_assoc]
  unfold resolveEntitlements
  dsimp only
  cases found : (db.activeSubscriptions userId).argmax Subscription.strength with
  | none =>
      refine ⟨fun id tier has => ?_, Or.inl rfl⟩
      obtain ⟨sub, mem, -, rfl⟩ := Db.tierAt_eq_some.1 has
      have lapsed : ¬ sub.status.active? := fun isActive => by
        have mem := (active sub).2 ⟨mem, isActive⟩
        rw [List.argmax_eq_none.1 found] at mem
        cases mem
      rw [Subscription.effectiveTier, if_neg lapsed]
      exact Tier.free_le _
  | some best =>
      obtain ⟨mem, isActive⟩ := (active best).1 (List.argmax_mem found)
      have own : best.effectiveTier = best.tier := if_pos isActive
      refine ⟨fun id tier has => ?_,
        Or.inr ⟨best.id, Db.tierAt_eq_some.2 ⟨best, mem, rfl, own⟩⟩⟩
      obtain ⟨sub, mem, -, rfl⟩ := Db.tierAt_eq_some.1 has
      unfold Subscription.effectiveTier
      split
      · rename_i isActive
        have stronger := List.le_of_mem_argmax ((active sub).2 ⟨mem, isActive⟩) found
        obtain less | ⟨same, -⟩ := Prod.Lex.le_iff.1 stronger
        · exact Tier.le_iff.2 (le_of_lt less)
        · exact Tier.le_iff.2 (le_of_eq same)
      · exact Tier.free_le _

/-! ## Merging the snapshots -/

/-- The better one of two values of which both or neither is of the free tier. -/
theorem higherValue_tierDefaults {axisKey : String} {a b : AxisValue} {tier tier' : Tier}
    (hasA : (axisKey, a) ∈ tierDefaults tier) (hasB : (axisKey, b) ∈ tierDefaults tier')
    (alike : tier = .free ↔ tier' = .free) :
    (axisKey, higherValue axisKey a b) ∈ tierDefaults (max tier tier') := by
  have all : ∀ p ∈ tierDefaults tier, ∀ q ∈ tierDefaults tier', p.1 = q.1 →
      (p.1, higherValue p.1 p.2 q.2) ∈ tierDefaults (max tier tier') := by
    cases tier <;> cases tier' <;> first
      | decide +kernel
      | simp at alike
  exact all _ hasA _ hasB rfl

theorem foldl_mergeSnapshot (snapshots : List EntitlementSnapshot)
    (resolution : String → AxisResolution) (axisKey : String) :
    snapshots.foldl mergeSnapshot resolution axisKey =
      (snapshots.filter fun snapshot => snapshot.axisKey = axisKey).foldl
        (fun resolved snapshot => mergeValue axisKey resolved snapshot.value
          (sourcePriority snapshot.source)) (resolution axisKey) := by
  induction snapshots generalizing resolution with
  | nil => rfl
  | cons snapshot snapshots ih =>
      rw [List.foldl_cons, ih]
      by_cases same : snapshot.axisKey = axisKey
      · subst same
        simp [mergeSnapshot]
      · simp [mergeSnapshot, same, Function.update_of_ne (Ne.symm same)]

/-- Values of the tiers up to `best`, all free or none, merge into one of them. -/
theorem foldl_mergeValue {axisKey : String} {best : Tier}
    {tierOf : EntitlementSnapshot → Tier} (snapshots : List EntitlementSnapshot)
    (values : ∀ snapshot ∈ snapshots, snapshot.source = "subscription" ∧
      (axisKey, snapshot.value) ∈ tierDefaults (tierOf snapshot))
    (alike : ∀ snapshot ∈ snapshots, tierOf snapshot = .free ↔ best = .free)
    {value : AxisValue} {tier : Tier} (has : (axisKey, value) ∈ tierDefaults tier)
    (tierAlike : tier = .free ↔ best = .free) :
    ∃ value' tier', snapshots.foldl (fun resolved snapshot => mergeValue axisKey resolved
          snapshot.value (sourcePriority snapshot.source)) (some (value, 2)) =
        some (value', 2) ∧
      (axisKey, value') ∈ tierDefaults tier' ∧ tier ≤ tier' ∧
      (∀ snapshot ∈ snapshots, tierOf snapshot ≤ tier') ∧
      (tier' = tier ∨ ∃ snapshot ∈ snapshots, tierOf snapshot = tier') := by
  induction snapshots generalizing value tier with
  | nil => exact ⟨value, tier, rfl, has, le_refl _, by simp, Or.inl rfl⟩
  | cons snapshot snapshots ih =>
      obtain ⟨source, own⟩ := values snapshot (by simp)
      have ownAlike := alike snapshot (by simp)
      have merged : mergeValue axisKey (some (value, 2)) snapshot.value
          (sourcePriority snapshot.source) =
            some (higherValue axisKey snapshot.value value, 2) := by
        rw [source]
        rfl
      have higher := higherValue_tierDefaults own has (ownAlike.trans tierAlike.symm)
      have picked : max (tierOf snapshot) tier = tierOf snapshot ∨
          max (tierOf snapshot) tier = tier := max_choice _ _
      have higherAlike : max (tierOf snapshot) tier = .free ↔ best = .free := by
        obtain same | same := picked
        · rw [same, ownAlike]
        · rw [same, tierAlike]
      obtain ⟨value', tier', result, has', le, above, attained⟩ :=
        ih (fun s mem => values s (by simp [mem])) (fun s mem => alike s (by simp [mem]))
          higher higherAlike
      refine ⟨value', tier', ?_, has', (le_max_right _ _).trans le, ?_, ?_⟩
      · rw [List.foldl_cons, merged, result]
      · simpa using ⟨(le_max_left _ _).trans le, above⟩
      · obtain same | ⟨s, mem, same⟩ := attained
        · obtain own | old := picked
          · exact Or.inr ⟨snapshot, by simp, by rw [same, own]⟩
          · exact Or.inl (same.trans old)
        · exact Or.inr ⟨s, by simp [mem], same⟩

/-! ## What the subscriptions show -/

/-- Until when the snapshots of a subscription are live, if it has any. -/
def Db.shownUntil (userId : Uuid) (db : Db) (subscriptionId : Uuid) : Option Timestamp :=
  (db.snapshots.lookup (userId, "invites_per_week", "subscription", subscriptionId)).bind
    EntitlementSnapshot.expiresAt

/-- The tiers that the user's subscriptions show, and until when. -/
def Db.shown (userId : Uuid) (db : Db) : List (Tier × Timestamp) :=
  (db.subscriptionsOf userId).filterMap fun sub =>
    (db.shownUntil userId sub.id).map fun expiry => (sub.effectiveTier, expiry)

def Db.tiersOf (userId : Uuid) (db : Db) : List Tier :=
  (db.subscriptionsOf userId).map Subscription.effectiveTier

/--
The free tier is shown only when there is no other, and at least until what is
shown expires one that is of the best tier is shown.
-/
def Fits (tiers : List Tier) (shown : List (Tier × Timestamp)) : Prop :=
  ∀ shows ∈ shown, (shows.1 = .free → ∀ tier ∈ tiers, tier = .free) ∧
    ∃ best ∈ shown, (∀ tier ∈ tiers, tier ≤ best.1) ∧ shows.2 ≤ best.2

instance (tiers : List Tier) (shown : List (Tier × Timestamp)) :
    Decidable (Fits tiers shown) :=
  inferInstanceAs (Decidable (∀ shows ∈ shown, _ ∧ ∃ best ∈ shown, _))

/-- The user's snapshots are those of the subscriptions, in their present tiers. -/
structure Mirrors (userId : Uuid) (db : Db) : Prop where
  sound : ∀ snapshot ∈ db.snapshots.rows, snapshot.userId = userId →
    snapshot.source = "subscription" ∧
      ∃ tier expiry, db.tierAt userId snapshot.sourceRef = some tier ∧
        db.shownUntil userId snapshot.sourceRef = some expiry ∧
        (snapshot.axisKey, snapshot.value) ∈ tierDefaults tier ∧
        snapshot.expiresAt = some expiry
  complete : ∀ id, (db.tierAt userId id).isSome → (db.shownUntil userId id).isSome →
    ∀ axis ∈ axisRegistry, (db.snapshots.lookup
      (userId, axis.1, "subscription", id)).isSome

theorem tierDefaults_eq (tier : Tier) :
    tierDefaults tier =
      axisRegistry.map fun axis => (axis.1, tierDefaults.axisValue tier axis) := by
  cases tier <;> rfl

theorem axisValue_of_mem {tier : Tier} {axis : String × AxisType × AxisValue}
    {value : AxisValue} (mem : (axis.1, value) ∈ tierDefaults tier) :
    tierDefaults.axisValue tier axis = value := by
  have nodup : ((tierDefaults tier).map Prod.fst).Nodup := by cases tier <;> decide
  have found : (tierDefaults tier).find? (fun value => value.1 = axis.1) =
      some (axis.1, value) := by
    cases found : (tierDefaults tier).find? fun value => value.1 = axis.1 with
    | none => simpa using List.find?_eq_none.1 found _ mem
    | some other =>
        have key : other.1 = axis.1 := by simpa using List.find?_some found
        rw [List.inj_on_of_nodup_map nodup (List.mem_of_find?_eq_some found) mem key]
  rw [TierConfig.axisValue, found]
  rfl

section Agreement

variable {userId : Uuid} {db : Db}

/-- The tier of the subscription that a snapshot is of. -/
def Db.tierShown (userId : Uuid) (db : Db) (snapshot : EntitlementSnapshot) : Tier :=
  (db.tierAt userId snapshot.sourceRef).getD .free

theorem mem_tiersOf {tier : Tier} :
    tier ∈ db.tiersOf userId ↔ ∃ id, db.tierAt userId id = some tier := by
  simp only [Db.tiersOf, List.mem_map, Db.tierAt_eq_some]
  constructor
  · rintro ⟨sub, mem, tier⟩
    exact ⟨sub.id, sub, mem, rfl, tier⟩
  · rintro ⟨_, sub, mem, -, tier⟩
    exact ⟨sub, mem, tier⟩

theorem mem_shown {shows : Tier × Timestamp} :
    shows ∈ db.shown userId ↔ ∃ id, db.tierAt userId id = some shows.1 ∧
      db.shownUntil userId id = some shows.2 := by
  simp only [Db.shown, List.mem_filterMap, Option.map_eq_some_iff, Db.tierAt_eq_some]
  constructor
  · rintro ⟨sub, mem, expiry, found, rfl⟩
    exact ⟨sub.id, ⟨sub, mem, rfl, rfl⟩, found⟩
  · rintro ⟨_, ⟨sub, mem, rfl, tier⟩, found⟩
    exact ⟨sub, mem, _, found, Prod.ext tier rfl⟩

/-- The live snapshots of an axis have one of the best tier among them. -/
theorem snapshots_fit (mirrors : Mirrors userId db)
    (fits : Fits (db.tiersOf userId) (db.shown userId)) {best : Tier}
    (isBest : IsBest userId db best) {now : Timestamp} {axis : String × AxisType × AxisValue}
    (registered : axis ∈ axisRegistry) {first : EntitlementSnapshot}
    (live : first ∈ (db.liveSnapshots userId now).filter
      fun snapshot => snapshot.axisKey = axis.1) :
    ∃ top ∈ (db.liveSnapshots userId now).filter fun snapshot => snapshot.axisKey = axis.1,
      db.tierShown userId top = best := by
  simp only [Db.liveSnapshots, List.mem_filter, decide_eq_true_eq] at live ⊢
  obtain ⟨⟨mem, user, isLive⟩, axisKey⟩ := live
  obtain ⟨-, tier, expiry, has, shown, -, expires⟩ := mirrors.sound first mem user
  obtain ⟨-, ⟨top, bestUntil⟩, bestShown, above, longer⟩ :=
    fits (tier, expiry) (mem_shown.2 ⟨_, has, shown⟩)
  obtain ⟨topId, topHas, topShown⟩ := mem_shown.1 bestShown
  have greatest : top = best := by
    refine le_antisymm (isBest.greatest topId top topHas) ?_
    obtain free | attained := isBest.attained
    · rw [free]
      exact Tier.free_le _
    · exact above best (mem_tiersOf.2 attained)
  have stored := mirrors.complete topId (by rw [topHas]; rfl) (by rw [topShown]; rfl) axis
    registered
  obtain ⟨snapshot, found⟩ := Option.isSome_iff_exists.1 stored
  obtain ⟨snapMem, slot⟩ := Table.lookup_eq_some_iff.1 found
  simp only [EntitlementSnapshot.slot, Prod.mk.injEq] at slot
  obtain ⟨snapUser, snapAxis, -, rfl⟩ := slot
  obtain ⟨-, tier', expiry', has', shown', -, expires'⟩ :=
    mirrors.sound snapshot snapMem snapUser
  have longest : expiry' = bestUntil := Option.some.inj (shown'.symm.trans topShown)
  refine ⟨snapshot, ⟨⟨snapMem, snapUser, ?_⟩, snapAxis⟩, ?_⟩
  · have alive : now < expiry := by simpa [EntitlementSnapshot.live, expires] using isLive
    simpa [EntitlementSnapshot.live, expires', longest] using lt_of_lt_of_le alive longer
  · rw [Db.tierShown, topHas, Option.getD_some, greatest]

/-- Each live snapshot has the value of its tier, which goes with the best one. -/
theorem snapshots_alike (mirrors : Mirrors userId db)
    (fits : Fits (db.tiersOf userId) (db.shown userId)) {best : Tier}
    (isBest : IsBest userId db best) {now : Timestamp} {snapshot : EntitlementSnapshot}
    (live : snapshot ∈ db.liveSnapshots userId now) :
    snapshot.source = "subscription" ∧
      (snapshot.axisKey, snapshot.value) ∈ tierDefaults (db.tierShown userId snapshot) ∧
      (db.tierShown userId snapshot = .free ↔ best = .free) ∧
      db.tierShown userId snapshot ≤ best := by
  simp only [Db.liveSnapshots, List.mem_filter, decide_eq_true_eq] at live
  obtain ⟨mem, user, -⟩ := live
  obtain ⟨source, tier, expiry, has, shown, value, -⟩ := mirrors.sound snapshot mem user
  have le := isBest.greatest _ _ has
  have onlyFree := (fits (tier, expiry) (mem_shown.2 ⟨_, has, shown⟩)).1
  rw [Db.tierShown, has, Option.getD_some]
  refine ⟨source, value, ⟨fun free => ?_, fun free => ?_⟩, le⟩
  · obtain isFree | attained := isBest.attained
    · exact isFree
    · exact onlyFree free best (mem_tiersOf.2 attained)
  · exact Tier.eq_free_of_le (free ▸ le)

/-- What fits together resolves to the axes of the tier, at every time. -/
theorem axes_eq_tierDefaults (mirrors : Mirrors userId db)
    (fits : Fits (db.tiersOf userId) (db.shown userId)) (now : Timestamp) :
    (resolveEntitlements tierDefaults userId now db).axes =
      tierDefaults (resolveEntitlements tierDefaults userId now db).tier := by
  have isBest := isBest_resolve tierDefaults userId now db
  rw [tierDefaults_eq]
  generalize same : (resolveEntitlements tierDefaults userId now db).tier = best at isBest ⊢
  unfold resolveEntitlements at same ⊢
  dsimp only at same ⊢
  rw [same]
  refine List.map_congr_left fun axis registered => Prod.ext rfl ?_
  rw [foldl_mergeSnapshot]
  have values : ∀ snapshot ∈ (db.liveSnapshots userId now).filter
      (fun snapshot => snapshot.axisKey = axis.1),
      snapshot.source = "subscription" ∧
        (axis.1, snapshot.value) ∈ tierDefaults (db.tierShown userId snapshot) ∧
        (db.tierShown userId snapshot = .free ↔ best = .free) ∧
        db.tierShown userId snapshot ≤ best := by
    intro snapshot mem
    obtain ⟨live, axisKey⟩ := List.mem_filter.1 mem
    rw [← of_decide_eq_true axisKey]
    exact snapshots_alike mirrors fits isBest live
  have top : ∀ first ∈ (db.liveSnapshots userId now).filter
      (fun snapshot => snapshot.axisKey = axis.1),
      ∃ top ∈ (db.liveSnapshots userId now).filter
        (fun snapshot => snapshot.axisKey = axis.1), db.tierShown userId top = best :=
    fun first => snapshots_fit mirrors fits isBest registered
  generalize (db.liveSnapshots userId now).filter (fun snapshot => snapshot.axisKey = axis.1)
    = snapshots at values top
  cases snapshots with
  | nil => rfl
  | cons first rest =>
      obtain ⟨source, value, alike, le⟩ := values first (by simp)
      have start : mergeValue axis.1 none first.value (sourcePriority first.source) =
          some (first.value, 2) := by
        rw [source]
        rfl
      obtain ⟨value', tier', result, has, lower, above, attained⟩ :=
        foldl_mergeValue rest
          (fun s mem => ⟨(values s (by simp [mem])).1, (values s (by simp [mem])).2.1⟩)
          (fun s mem => (values s (by simp [mem])).2.2.1) value alike
      have greatest : tier' = best := by
        refine le_antisymm ?_ ?_
        · obtain rfl | ⟨s, mem, rfl⟩ := attained
          · exact le
          · exact (values s (by simp [mem])).2.2.2
        · obtain ⟨s, mem, rfl⟩ := top first (by simp)
          obtain rfl | mem := List.mem_cons.1 mem
          · exact lower
          · exact above s mem
      rw [List.foldl_cons, start, result]
      exact (axisValue_of_mem (greatest ▸ has)).symm

end Agreement

end ColabPlatform.Billing
