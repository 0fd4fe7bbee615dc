import ColabPlatform.Billing.EntitlementAxes
import ColabPlatform.Foundation.Maxima
import Mathlib.Order.WithBot

/-!
# The order of the snapshots does not matter

The resolver folds over rows in whatever order the database has them.  On values
that fit their axis `higherValue` is the greater one in a linear order, so the
fold ends with the greatest value among the rows of the strongest source.
-/

namespace ColabPlatform.Billing

open Foundation

/-! ## The resolver over its rows -/

section

-- as where `Subscription.strength` is defined
local instance preorderInt' : Preorder Int := Int.instLinearOrder.toPreorder

/-- `resolve_entitlements` after its two queries. -/
def resolveRows (config : TierConfig) (subs : List Subscription)
    (snapshots : List EntitlementSnapshot) : ResolvedEntitlements :=
  let best := subs.argmax Subscription.strength
  let tier := (best.map Subscription.tier).getD .free
  let resolution := snapshots.foldl mergeSnapshot fun _ => none
  { axes := axisRegistry.map fun axis =>
      (axis.1, match resolution axis.1 with
        | some (value, _) => value
        | none => config.axisValue tier axis)
    tier
    subscriptionStatus := best.map Subscription.status
    currentPeriodEnd := best.map Subscription.currentPeriodEnd }

theorem resolveEntitlements_eq (config : TierConfig) (userId : Uuid) (now : Timestamp) (db : Db) :
    resolveEntitlements config userId now db =
      resolveRows config (db.activeSubscriptions userId) (db.liveSnapshots userId now) :=
  rfl

end

-- the order of the standings, the same under any import
local instance partialOrderInt : PartialOrder Int := Int.instLinearOrder.toPartialOrder

/-! ## Values -/

/-- The `choices` of `AXIS_REGISTRY` -/
def axisChoices (axisKey : String) : List String :=
  match axisKey with
  | "picked_for_you_priority" => ["none", "standard", "high"]
  | "mockup_fidelity" => ["off", "basic", "advanced"]
  | "support_priority" => ["std", "fast", "fastest"]
  | _ => []

/-- A value is an integer, a truth value or one of the choices, as its axis asks. -/
def WellTyped (axisKey : String) (value : AxisValue) : Prop :=
  match axisType axisKey with
  | .int => ∃ n, value = .int n
  | .bool => ∃ b, value = .bool b
  | .enum => ∃ choice ∈ axisChoices axisKey, value = .text choice

/-- Where a value stands on its axis: -1 is above every other integer. -/
def standing (axisKey : String) (value : AxisValue) : WithTop Int :=
  match axisType axisKey, value with
  | .int, .int n => if n = -1 then ⊤ else (n : WithTop Int)
  | .bool, .bool b => (b.toInt : WithTop Int)
  | .enum, value => ((enumRank value : Int) : WithTop Int)
  | _, _ => ((0 : Int) : WithTop Int)

/-- The rows of an axis. -/
def rowsOn (axisKey : String) (snapshots : List EntitlementSnapshot) : List EntitlementSnapshot :=
  snapshots.filter fun row => row.axisKey = axisKey

/-- The rows of an axis whose source has the highest priority that any row of it has. -/
def topRows (axisKey : String) (snapshots : List EntitlementSnapshot) : List EntitlementSnapshot :=
  (rowsOn axisKey snapshots).filter fun row =>
    (rowsOn axisKey snapshots).all fun row' =>
      sourcePriority row'.source ≤ sourcePriority row.source

/-- What is resolved from rows in any order. -/
structure ResolvesBest (config : TierConfig) (subs : List Subscription)
    (snapshots : List EntitlementSnapshot) : Prop where
  order_free : ∀ subs' snapshots', subs.Perm subs' → snapshots.Perm snapshots' →
    resolveRows config subs' snapshots' = resolveRows config subs snapshots
  greatest : ∀ axis ∈ axisRegistry, rowsOn axis.1 snapshots ≠ [] →
    ∃ row ∈ topRows axis.1 snapshots,
      (axis.1, row.value) ∈ (resolveRows config subs snapshots).axes ∧
        ∀ row' ∈ topRows axis.1 snapshots, standing axis.1 row'.value ≤ standing axis.1 row.value

/-! ## One axis -/

theorem enumRank_inj {axisKey a b : String} (memA : a ∈ axisChoices axisKey)
    (memB : b ∈ axisChoices axisKey) (same : enumRank (.text a) = enumRank (.text b)) : a = b := by
  have all : ∀ x ∈ axisChoices axisKey, ∀ y ∈ axisChoices axisKey,
      enumRank (.text x) = enumRank (.text y) → x = y := by
    unfold axisChoices
    split <;> decide
  exact all a memA b memB same

theorem standing_of_enum {axisKey : String} (type : axisType axisKey = .enum) (value : AxisValue) :
    standing axisKey value = ((enumRank value : Int) : WithTop Int) := by
  unfold standing
  rw [type]

theorem standing_inj {axisKey : String} {a b : AxisValue} (typedA : WellTyped axisKey a)
    (typedB : WellTyped axisKey b) (same : standing axisKey a = standing axisKey b) : a = b := by
  unfold WellTyped at typedA typedB
  cases type : axisType axisKey with
  | int =>
      unfold standing at same
      rw [type] at typedA typedB same
      obtain ⟨n, rfl⟩ := typedA
      obtain ⟨m, rfl⟩ := typedB
      by_cases top : n = -1
      · by_cases top' : m = -1
        · rw [top, top']
        · simp [top, top'] at same
      · by_cases top' : m = -1
        · simp [top, top'] at same
        · simpa [top, top'] using same
  | bool =>
      unfold standing at same
      rw [type] at typedA typedB same
      obtain ⟨n, rfl⟩ := typedA
      obtain ⟨m, rfl⟩ := typedB
      cases n <;> cases m <;> simp at same ⊢
  | enum =>
      rw [standing_of_enum type, standing_of_enum type] at same
      rw [type] at typedA typedB
      obtain ⟨n, memN, rfl⟩ := typedA
      obtain ⟨m, memM, rfl⟩ := typedB
      have ranks : enumRank (.text n) = enumRank (.text m) := by exact_mod_cast same
      rw [enumRank_inj memN memM ranks]

/-- `higherValue` is the greater one of two values of an axis. -/
theorem higherValue_cases {axisKey : String} {a b : AxisValue} (typedA : WellTyped axisKey a)
    (typedB : WellTyped axisKey b) :
    (higherValue axisKey a b = a ∧ standing axisKey b ≤ standing axisKey a) ∨
      (higherValue axisKey a b = b ∧ standing axisKey a ≤ standing axisKey b) := by
  unfold WellTyped at typedA typedB
  unfold higherValue
  cases type : axisType axisKey with
  | int =>
      unfold standing
      rw [type] at typedA typedB ⊢
      obtain ⟨n, rfl⟩ := typedA
      obtain ⟨m, rfl⟩ := typedB
      by_cases top : n = -1
      · simp [top]
      · by_cases top' : m = -1
        · simp [top, top']
        · by_cases less : n < m
          · simp [top, top', AxisValue.greater, less, less.le]
          · simp [top, top', AxisValue.greater, less, not_lt.1 less]
  | bool =>
      unfold standing
      rw [type] at typedA typedB ⊢
      obtain ⟨n, rfl⟩ := typedA
      obtain ⟨m, rfl⟩ := typedB
      cases n <;> cases m <;> simp [AxisValue.truthy]
  | enum =>
      rw [standing_of_enum type, standing_of_enum type]
      by_cases less : enumRank b ≤ enumRank a
      · exact Or.inl ⟨if_pos less, by exact_mod_cast less⟩
      · exact Or.inr ⟨if_neg less, by exact_mod_cast (not_le.1 less).le⟩

/-! ## The fold -/

/-- What the fold holds after the given rows of one axis. -/
def ResolvedFrom (axisKey : String) (rows : List EntitlementSnapshot) : AxisResolution → Prop
  | none => rows = []
  | some (value, prio) =>
      (∃ row ∈ rows, row.value = value ∧ sourcePriority row.source = prio) ∧
        ∀ row ∈ rows, sourcePriority row.source < prio ∨
          sourcePriority row.source = prio ∧ standing axisKey row.value ≤ standing axisKey value

theorem ResolvedFrom.merge {axisKey : String} {rows : List EntitlementSnapshot}
    {resolved : AxisResolution} (h : ResolvedFrom axisKey rows resolved)
    {row : EntitlementSnapshot}
    (typed : ∀ r ∈ rows ++ [row], WellTyped axisKey r.value) :
    ResolvedFrom axisKey (rows ++ [row])
      (mergeValue axisKey resolved row.value (sourcePriority row.source)) := by
  have last : row ∈ rows ++ [row] := by simp
  cases resolved with
  | none =>
      have first : rows = [] := h
      subst first
      exact ⟨⟨row, last, rfl, rfl⟩, by simp⟩
  | some best =>
      obtain ⟨value, prio⟩ := best
      obtain ⟨⟨winner, mem, rfl, rfl⟩, others⟩ := h
      have mem' : winner ∈ rows ++ [row] := List.mem_append_left _ mem
      simp only [mergeValue]
      by_cases higher : sourcePriority winner.source < sourcePriority row.source
      · rw [if_pos higher]
        refine ⟨⟨row, last, rfl, rfl⟩, fun r here => ?_⟩
        rcases List.mem_append.1 here with earlier | now
        · refine Or.inl ((others r earlier).elim (·.trans higher) fun same => ?_)
          rw [same.1]
          exact higher
        · rw [List.mem_singleton.1 now]
          exact Or.inr ⟨rfl, le_rfl⟩
      · rw [if_neg higher]
        by_cases same : sourcePriority row.source = sourcePriority winner.source
        · rw [if_pos same]
          rcases higherValue_cases (typed row last) (typed winner mem') with
            ⟨new, greater⟩ | ⟨old, greater⟩
          · rw [new]
            refine ⟨⟨row, last, rfl, rfl⟩, fun r here => ?_⟩
            rcases List.mem_append.1 here with earlier | now
            · rw [same]
              exact (others r earlier).imp_right fun equal => ⟨equal.1, equal.2.trans greater⟩
            · rw [List.mem_singleton.1 now]
              exact Or.inr ⟨rfl, le_rfl⟩
          · rw [old]
            refine ⟨⟨winner, mem', rfl, same.symm⟩, fun r here => ?_⟩
            rcases List.mem_append.1 here with earlier | now
            · rw [same]
              exact others r earlier
            · rw [List.mem_singleton.1 now]
              exact Or.inr ⟨rfl, greater⟩
        · rw [if_neg same]
          refine ⟨⟨winner, mem', rfl, rfl⟩, fun r here => ?_⟩
          rcases List.mem_append.1 here with earlier | now
          · exact others r earlier
          · rw [List.mem_singleton.1 now]
            exact Or.inl (by omega)

theorem resolvedFrom_foldl {axisKey : String} {snapshots : List EntitlementSnapshot}
    (typed : ∀ row ∈ rowsOn axisKey snapshots, WellTyped axisKey row.value) :
    ResolvedFrom axisKey (rowsOn axisKey snapshots)
      (snapshots.foldl mergeSnapshot (fun _ => none) axisKey) := by
  rw [foldl_mergeSnapshot]
  change ResolvedFrom axisKey _ ((rowsOn axisKey snapshots).foldl _ none)
  generalize rowsOn axisKey snapshots = rows at typed ⊢
  induction rows using List.reverseRecOn with
  | nil => exact rfl
  | append_singleton rows row ih =>
      have earlier : ∀ r ∈ rows, WellTyped axisKey r.value := fun r mem =>
        typed r (List.mem_append_left _ mem)
      rw [List.foldl_append]
      exact (ih earlier).merge typed

/-- The fold's outcome is determined by the set of the rows. -/
theorem ResolvedFrom.unique {axisKey : String} {rows rows' : List EntitlementSnapshot}
    (typed : ∀ row ∈ rows, WellTyped axisKey row.value) (same : ∀ row, row ∈ rows ↔ row ∈ rows')
    {resolved resolved' : AxisResolution} (h : ResolvedFrom axisKey rows resolved)
    (h' : ResolvedFrom axisKey rows' resolved') : resolved = resolved' := by
  cases resolved with
  | none =>
      cases resolved' with
      | none => rfl
      | some best' =>
          obtain ⟨⟨winner, mem, -⟩, -⟩ := h'
          have empty : rows = [] := h
          rw [← same, empty] at mem
          cases mem
  | some best =>
      obtain ⟨⟨winner, mem, value, prio⟩, others⟩ := h
      cases resolved' with
      | none =>
          have empty : rows' = [] := h'
          rw [same, empty] at mem
          cases mem
      | some best' =>
          obtain ⟨⟨winner', mem', value', prio'⟩, others'⟩ := h'
          have below := others winner' ((same winner').2 mem')
          have above := others' winner ((same winner).1 mem)
          rw [value', prio'] at below
          rw [value, prio] at above
          have prios : best.2 = best'.2 := by omega
          have values : best.1 = best'.1 := by
            have typedBest := typed winner mem
            have typedBest' := typed winner' ((same winner').2 mem')
            rw [value] at typedBest
            rw [value'] at typedBest'
            apply standing_inj typedBest typedBest'
            apply le_antisymm
            · exact (above.resolve_left (by omega)).2
            · exact (below.resolve_left (by omega)).2
          exact congrArg some (Prod.ext values prios)

theorem mem_topRows {axisKey : String} {snapshots : List EntitlementSnapshot}
    {row : EntitlementSnapshot} :
    row ∈ topRows axisKey snapshots ↔ row ∈ rowsOn axisKey snapshots ∧
      ∀ row' ∈ rowsOn axisKey snapshots,
        sourcePriority row'.source ≤ sourcePriority row.source := by
  simp [topRows]

theorem resolves_best {config : TierConfig} {subs : List Subscription}
    {snapshots : List EntitlementSnapshot}
    (typed : ∀ row ∈ snapshots, row.axisKey ∈ axisRegistry.map Prod.fst →
      WellTyped row.axisKey row.value)
    (distinct : (subs.map Subscription.strength).Nodup) :
    ResolvesBest config subs snapshots := by
  have typedOn : ∀ axis ∈ axisRegistry, ∀ row ∈ rowsOn axis.1 snapshots,
      WellTyped axis.1 row.value := by
    intro axis mem row here
    obtain ⟨stored, key⟩ := List.mem_filter.1 here
    have same : row.axisKey = axis.1 := of_decide_eq_true key
    rw [← same]
    exact typed row stored (same ▸ List.mem_map_of_mem mem)
  constructor
  · intro subs' snapshots' permSubs permSnapshots
    have best := argmax_perm permSubs distinct
    have values : ∀ axis ∈ axisRegistry,
        snapshots'.foldl mergeSnapshot (fun _ => none) axis.1 =
          snapshots.foldl mergeSnapshot (fun _ => none) axis.1 := by
      intro axis mem
      have rows : ∀ row, row ∈ rowsOn axis.1 snapshots ↔ row ∈ rowsOn axis.1 snapshots' :=
        fun row => (permSnapshots.filter _).mem_iff
      have typedOn' : ∀ row ∈ rowsOn axis.1 snapshots', WellTyped axis.1 row.value :=
        fun row here => typedOn axis mem row ((rows row).2 here)
      exact ((resolvedFrom_foldl (typedOn axis mem)).unique (typedOn axis mem) rows
        (resolvedFrom_foldl typedOn')).symm
    simp only [resolveRows, ← best, ResolvedEntitlements.mk.injEq, and_true]
    apply List.map_congr_left
    intro axis mem
    rw [values axis mem]
  · intro axis mem some_row
    have resolved := resolvedFrom_foldl (typedOn axis mem)
    cases outcome : snapshots.foldl mergeSnapshot (fun _ => none) axis.1 with
    | none =>
        rw [outcome] at resolved
        exact absurd resolved some_row
    | some best =>
        rw [outcome] at resolved
        obtain ⟨⟨winner, here, value, prio⟩, others⟩ := resolved
        refine ⟨winner, mem_topRows.2 ⟨here, fun row there => ?_⟩, ?_, fun row top => ?_⟩
        · have below := others row there
          omega
        · refine List.mem_map.2 ⟨axis, mem, ?_⟩
          rw [outcome, value]
        · obtain ⟨there, highest⟩ := mem_topRows.1 top
          have least := highest winner here
          rw [value]
          exact ((others row there).resolve_left (by omega)).2

def feedRow (source : String) (value : Int) : EntitlementSnapshot :=
  { userId := ⟨"u"⟩, axisKey := "feed_profiles_per_day", value := .int value, source,
    sourceRef := ⟨source⟩, expiresAt := none, updatedAt := 0 }

theorem resolves_best_feed :
    ResolvesBest tierDefaults [] [feedRow "grant" 100, feedRow "subscription" (-1),
      feedRow "grant" 40] := by
  apply resolves_best
  · simp only [List.forall_mem_cons, List.not_mem_nil, false_imp_iff, implies_true, and_true]
    exact ⟨fun _ => ⟨100, rfl⟩, fun _ => ⟨-1, rfl⟩, fun _ => ⟨40, rfl⟩⟩
  · exact List.nodup_nil

end ColabPlatform.Billing
