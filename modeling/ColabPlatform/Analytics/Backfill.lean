import ColabPlatform.Analytics.RollupIsolation
import ColabPlatform.Analytics.Sources

/-!
# Running the rollup again

A run upserts the groups that its queries yield and removes nothing.  The rows of a group
that was there in an earlier run and has no rows in the source tables any more stay.
-/

namespace ColabPlatform.Analytics

open Foundation

/-! ## Groups of a run -/

theorem dims_mem_rollups_iff {σ κ ρ : Type} [DecidableEq κ] {day : Int} {metric : Metric}
    {dims : ρ → Dims} {value : ρ → Option ℚ} {countN : ρ → Int} {key : σ → κ} {rows : List σ}
    {f : κ × List σ → ρ} (dimsOf : κ → Dims) (same : ∀ group, dims (f group) = dimsOf group.1)
    {d : Dims} :
    d ∈ (rollups day metric dims value countN ((groupRows key rows).map f)).map KpiRollup.dims ↔
      ∃ row ∈ rows, d = dimsOf (key row) := by
  rw [← exists_group_iff (P := fun k => d = dimsOf k)]
  simp only [rollups, List.map_map, List.mem_map, Function.comp_apply, same, eq_comm]

theorem Sources.mem_actives_iff {s : Sources} {day : Int} {id : String} :
    id ∈ s.actives day ↔ ∃ event ∈ s.events, dateOf event.ts = day ∧
      event.event = "app_active" ∧ event.userId = some id := by
  simp [actives, eventsOf, and_assoc, and_left_comm]

/-- What the queries yield are the groups that the tables hold. -/
theorem Sources.dims_mem_yields_iff (s : Sources) (day : Int) (metric : Metric) (dims : Dims) :
    dims ∈ (metric.yields day (s.warehouse day)).map KpiRollup.dims ↔
      s.HasGroup day metric dims := by
  cases metric with
  | onboardingCompletion =>
      refine (dims_mem_rollups_iff (fun step => [("step", step)]) fun _ => rfl).trans ?_
      have funnel : (∃ event ∈ s.events, dateOf event.ts = day) ↔
          ∃ funnel ∈ groupRows AppEvent.userId (s.eventsOf day), True := by
        rw [exists_group_iff (P := fun _ => True)]
        simp [eventsOf]
      unfold HasGroup
      rw [funnel]
      simp only [funnelSteps, List.mem_flatMap, List.mem_map]
      constructor
      · rintro ⟨row, ⟨funnel, mem, step, memStep, rfl⟩, rfl⟩
        exact ⟨⟨funnel, mem, trivial⟩, step, memStep, rfl⟩
      · rintro ⟨⟨funnel, mem, -⟩, step, memStep, rfl⟩
        exact ⟨_, ⟨funnel, mem, step, memStep, rfl⟩, rfl⟩
  | dauSplit =>
      refine (dims_mem_rollups_iff (fun segment => [("segment", segment)])
        fun _ => rfl).trans ?_
      simp [mem_actives_iff, HasGroup, and_assoc]
  | profileHealthDist =>
      refine (dims_mem_rollups_iff (fun bucket => [("bucket", bucketLabel bucket)])
        fun _ => rfl).trans ?_
      simp only [healthScores, HasGroup, List.mem_filterMap, List.mem_filter, decide_eq_true_eq]
      constructor
      · rintro ⟨score, ⟨profile, ⟨mem, old⟩, found⟩, rfl⟩
        exact ⟨profile, mem, old, score, found, rfl⟩
      · rintro ⟨profile, mem, old, score, found, rfl⟩
        exact ⟨score, ⟨profile, ⟨mem, old⟩, found⟩, rfl⟩
  | requestRatio =>
      refine (dims_mem_rollups_iff (fun status => [("outcome", status)])
        fun _ => rfl).trans ?_
      simp [HasGroup, and_assoc]
  | collabFeedback =>
      refine (dims_mem_rollups_iff
        (fun vote : String × String => [("axis", vote.1), ("direction", vote.2)])
        fun _ => rfl).trans ?_
      simp [HasGroup, and_assoc]
  | supportCsat =>
      refine (dims_mem_rollups_iff (fun category => [("category", category)])
        fun _ => rfl).trans ?_
      simp [ratings, HasGroup, and_assoc]
  | pctReported =>
      change dims ∈ [[]] ↔ _
      simp [HasGroup]

theorem Sources.succeeds (s : Sources) (day : Int) (metric : Metric) :
    metric.succeeds day (s.warehouse day) = true := by
  cases metric <;> exact List.all_eq_true.2 fun _ _ => rfl

/-- The rows that a run upserts. -/
def Sources.rollups (s : Sources) (day : Int) : List KpiRollup :=
  metrics.flatMap (Metric.yields day (s.warehouse day))

theorem Sources.rollupDay_table (s : Sources) (day : Int) (table : KpiTable) :
    (rollupDay day (s.warehouse day) table).2 = storeAll (s.rollups day) table := by
  have all : metrics.all (Metric.succeeds day (s.warehouse day)) = true :=
    List.all_eq_true.2 fun metric _ => s.succeeds day metric
  rw [Analytics.rollupDay_table, if_pos all, rollups]

theorem mem_metrics (metric : Metric) : metric ∈ metrics := by
  cases metric <;> decide

theorem Sources.exists_rollup_iff {s : Sources} {day : Int} {metric : Metric} {dims : Dims} :
    (∃ row ∈ s.rollups day, row.slot = (day, metric.key, dims)) ↔ s.HasGroup day metric dims := by
  rw [← s.dims_mem_yields_iff]
  simp only [rollups, List.mem_flatMap, List.mem_map]
  constructor
  · rintro ⟨row, ⟨other, -, mem⟩, same⟩
    simp only [KpiRollup.slot, Prod.mk.injEq] at same
    have key : other.key = metric.key := by rw [← key_of_mem_yields mem, same.2.1]
    exact ⟨row, Metric.key_inj key ▸ mem, same.2.2⟩
  · rintro ⟨row, mem, rfl⟩
    obtain ⟨rowDay, rowKey⟩ := owned_of_mem_yields mem
    exact ⟨row, ⟨metric, mem_metrics metric, mem⟩, by rw [KpiRollup.slot, rowDay, rowKey]⟩

theorem Sources.day_of_mem_rollups {s : Sources} {day : Int} {row : KpiRollup}
    (mem : row ∈ s.rollups day) : row.day = day := by
  obtain ⟨metric, -, mem⟩ := List.mem_flatMap.1 mem
  exact (owned_of_mem_yields mem).1

/-! ## Running again -/

/-- A slot that is written holds the same whatever was in the table. -/
theorem lookup_storeAll_of_mem {rows : List KpiRollup} {slot : Int × String × Dims}
    (written : ∃ row ∈ rows, row.slot = slot) :
    ∃ row, ∀ table : KpiTable, (storeAll rows table).lookup slot = some row := by
  induction rows with
  | nil => simp at written
  | cons row rows ih =>
      by_cases again : ∃ later ∈ rows, later.slot = slot
      · obtain ⟨last, holds⟩ := ih again
        exact ⟨last, fun table => holds (upsertRow row table)⟩
      · refine ⟨row, fun table => ?_⟩
        have same : row.slot = slot := by simpa [again] using written
        change (storeAll rows (upsertRow row table)).lookup slot = some row
        rw [lookup_storeAll_of_ne (fun later mem there => again ⟨later, mem, there⟩),
          lookup_upsertRow, if_pos same]

/-- The table after a run in one state of the source tables and then one in another. -/
def backfilled (day : Int) (first second : Sources) (table : KpiTable) : KpiTable :=
  (rollupDay day (second.warehouse day) (rollupDay day (first.warehouse day) table).2).2

/-- The day has the rows of a run on an empty table, the other days have theirs, and nothing
comes of a further run. -/
structure BackfillExact (day : Int) (first second : Sources) (table : KpiTable) : Prop where
  fresh : ∀ (metric : Metric) (dims : Dims),
    (backfilled day first second table).lookup (day, metric.key, dims) =
      (rollupDay day (second.warehouse day) Table.empty).2.lookup (day, metric.key, dims)
  otherDays : ∀ slot : Int × String × Dims, slot.1 ≠ day →
    (backfilled day first second table).lookup slot = table.lookup slot
  again : ∀ slot, (rollupDay day (second.warehouse day)
    (backfilled day first second table)).2.lookup slot =
      (backfilled day first second table).lookup slot

section

variable {day : Int} {first second : Sources} {table : KpiTable}

theorem backfilled_eq : backfilled day first second table =
    storeAll (second.rollups day) (storeAll (first.rollups day) table) := by
  rw [backfilled, Sources.rollupDay_table, Sources.rollupDay_table]

theorem lookup_backfilled_otherDays {slot : Int × String × Dims} (other : slot.1 ≠ day) :
    (backfilled day first second table).lookup slot = table.lookup slot := by
  have unwritten : ∀ s : Sources, ∀ row ∈ s.rollups day, row.slot ≠ slot := by
    intro s row mem same
    apply other
    rw [← same]
    exact Sources.day_of_mem_rollups mem
  rw [backfilled_eq, lookup_storeAll_of_ne (unwritten second),
    lookup_storeAll_of_ne (unwritten first)]

theorem lookup_rollup_backfilled (slot : Int × String × Dims) :
    (rollupDay day (second.warehouse day) (backfilled day first second table)).2.lookup slot =
      (backfilled day first second table).lookup slot := by
  rw [Sources.rollupDay_table, backfilled_eq]
  by_cases written : ∃ row ∈ second.rollups day, row.slot = slot
  · obtain ⟨row, holds⟩ := lookup_storeAll_of_mem written
    rw [holds, holds]
  · exact lookup_storeAll_of_ne (fun row mem there => written ⟨row, mem, there⟩) _

/-- A row is right when its group was written again, or never was there. -/
theorem lookup_backfilled_eq_fresh_iff (metric : Metric) (dims : Dims) :
    (backfilled day first second table).lookup (day, metric.key, dims) =
        (rollupDay day (second.warehouse day) Table.empty).2.lookup (day, metric.key, dims) ↔
      ((table.lookup (day, metric.key, dims)).isSome ∨ first.HasGroup day metric dims →
        second.HasGroup day metric dims) := by
  rw [Sources.rollupDay_table, backfilled_eq, ← Sources.exists_rollup_iff (s := first),
    ← Sources.exists_rollup_iff (s := second)]
  by_cases again : ∃ row ∈ second.rollups day, row.slot = (day, metric.key, dims)
  · obtain ⟨row, holds⟩ := lookup_storeAll_of_mem again
    rw [holds, holds]
    exact iff_of_true rfl fun _ => again
  · have unwritten := fun row mem there => again ⟨row, mem, there⟩
    rw [lookup_storeAll_of_ne unwritten, lookup_storeAll_of_ne unwritten, Table.lookup_empty]
    by_cases before : ∃ row ∈ first.rollups day, row.slot = (day, metric.key, dims)
    · obtain ⟨row, holds⟩ := lookup_storeAll_of_mem before
      rw [holds]
      exact iff_of_false (by simp) fun kept => again (kept (.inr before))
    · rw [lookup_storeAll_of_ne fun row mem there => before ⟨row, mem, there⟩]
      simp only [again, before, or_false, imp_false, Bool.not_eq_true,
        Option.isSome_eq_false_iff, Option.isNone_iff_eq_none]

end

end ColabPlatform.Analytics
