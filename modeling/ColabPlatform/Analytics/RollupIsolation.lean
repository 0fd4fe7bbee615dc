import ColabPlatform.Analytics.Rollup

/-!
# When the metrics of a rollup are isolated

All metrics share one transaction.  After the first statement that raises, the
later metrics fail too and the earlier ones are discarded with the block, so
that a failure is isolated only if nothing came after it and nothing before it
had changed a row.
-/

namespace ColabPlatform.Analytics

open Foundation

/-! ## Storing rows -/

theorem lookup_upsertRow (row : KpiRollup) (table : KpiTable) (slot : Int × String × Dims) :
    (upsertRow row table).lookup slot = if row.slot = slot then some row else table.lookup slot := by
  unfold upsertRow
  cases inserted : table.insert? row with
  | some t => exact Table.lookup_insert inserted slot
  | none =>
      change (table.modify row.slot row.updated (slot_updated row)).lookup slot = _
      rw [Table.lookup_modify]
      by_cases same : row.slot = slot
      · rw [if_pos same, if_pos same]
        have taken := (Table.insert?_eq_none_iff_of_null rfl).1 inserted
        obtain ⟨old, found⟩ := Option.ne_none_iff_exists'.1 taken
        have slots : old.slot = row.slot := Table.key_of_lookup found
        simp only [KpiRollup.slot, Prod.mk.injEq] at slots
        obtain ⟨day, key, dims⟩ := slots
        rw [← same, found]
        simp [KpiRollup.updated, day, key, dims]
      · rw [if_neg same, if_neg same]

/-- Rows of other slots do not change what is stored in a slot. -/
theorem lookup_storeAll_of_ne {rows : List KpiRollup} {slot : Int × String × Dims}
    (others : ∀ row ∈ rows, row.slot ≠ slot) (table : KpiTable) :
    (storeAll rows table).lookup slot = table.lookup slot := by
  induction rows generalizing table with
  | nil => rfl
  | cons row rows ih =>
      rw [List.forall_mem_cons] at others
      change (storeAll rows (upsertRow row table)).lookup slot = _
      rw [ih others.2, lookup_upsertRow, if_neg others.1]

/-- What is stored in a slot depends on what was there before, not on the rest of the table. -/
theorem lookup_storeAll_congr (rows : List KpiRollup) {table table' : KpiTable}
    {slot : Int × String × Dims} (same : table.lookup slot = table'.lookup slot) :
    (storeAll rows table).lookup slot = (storeAll rows table').lookup slot := by
  induction rows generalizing table table' with
  | nil => exact same
  | cons row rows ih =>
      apply ih
      rw [lookup_upsertRow, lookup_upsertRow, same]

theorem storeAll_append (rows rows' : List KpiRollup) (table : KpiTable) :
    storeAll (rows ++ rows') table = storeAll rows' (storeAll rows table) := by
  simp [storeAll]

/-! ## One metric -/

/-- No statement of the metric raises by itself. -/
def Metric.succeeds (day : Int) (w : Warehouse) (metric : Metric) : Bool :=
  match metric.rows day w with
  | .error _ => false
  | .ok rows => rows.all fun row => (w.refused row).isNone

theorem Metric.key_inj {metric metric' : Metric} (same : metric.key = metric'.key) :
    metric = metric' := by
  cases metric <;> cases metric' <;> first | rfl | exact absurd same (by decide)

theorem effect_upserts (w : Warehouse) (rows : List KpiRollup) (table : KpiTable) :
    if rows.all fun row => (w.refused row).isNone then
      Block.effect (rows.map (upsertRollup w)) table = .ok (storeAll rows table)
    else ∃ text, Block.effect (rows.map (upsertRollup w)) table = .error text := by
  induction rows generalizing table with
  | nil => exact rfl
  | cons row rows ih =>
      unfold Block.effect at ih ⊢
      rw [List.map_cons, List.foldlM_cons, List.all_cons]
      cases refused : w.refused row with
      | some text =>
          rw [show upsertRollup w row table = .error text by simp [upsertRollup, refused]]
          exact ⟨text, rfl⟩
      | none =>
          rw [show upsertRollup w row table = .ok (upsertRow row table) by
            simp [upsertRollup, refused]]
          exact ih (upsertRow row table)

theorem effect_of_succeeds {day : Int} {w : Warehouse} {metric : Metric}
    (succeeds : metric.succeeds day w = true) (table : KpiTable) :
    Block.effect (metric.statements day w) table =
      .ok (storeAll (metric.yields day w) table) := by
  unfold Metric.succeeds at succeeds
  unfold Metric.statements Metric.yields
  cases found : metric.rows day w with
  | error text =>
      rw [found] at succeeds
      cases succeeds
  | ok rows =>
      rw [found] at succeeds
      have upserts := effect_upserts w rows table
      rw [if_pos succeeds] at upserts
      exact upserts

theorem effect_of_fails {day : Int} {w : Warehouse} {metric : Metric}
    (fails : metric.succeeds day w = false) (table : KpiTable) :
    ∃ text, Block.effect (metric.statements day w) table = .error text := by
  unfold Metric.succeeds at fails
  unfold Metric.statements
  cases found : metric.rows day w with
  | error text => exact ⟨text, rfl⟩
  | ok rows =>
      rw [found] at fails
      have upserts := effect_upserts w rows table
      rw [if_neg (Bool.eq_false_iff.1 fails)] at upserts
      exact upserts

theorem statements_ne_nil (day : Int) (w : Warehouse) (metric : Metric) :
    metric.statements day w ≠ [] := by
  unfold Metric.statements
  split <;> simp

theorem owned_of_mem_rollups {ρ : Type} {day : Int} {metric : Metric} {dims : ρ → Dims}
    {value : ρ → Option ℚ} {countN : ρ → Int} {rows : List ρ} {row : KpiRollup}
    (mem : row ∈ rollups day metric dims value countN rows) :
    row.day = day ∧ row.key = metric.key := by
  obtain ⟨_, -, rfl⟩ := List.mem_map.1 mem
  exact ⟨rfl, rfl⟩

theorem forall_mem_of_map {α : Type} {P : KpiRollup → Prop} {result : Except String α}
    {f : α → List KpiRollup} (holds : ∀ a, ∀ row ∈ f a, P row) {rows : List KpiRollup}
    (found : result.map f = .ok rows) {row : KpiRollup} (mem : row ∈ rows) : P row := by
  cases result with
  | error text => cases found
  | ok a =>
      cases found
      exact holds a row mem

/-- The rows of a metric are of the day and carry its key. -/
theorem owned_of_mem_yields {day : Int} {w : Warehouse} {metric : Metric} {row : KpiRollup}
    (mem : row ∈ metric.yields day w) : row.day = day ∧ row.key = metric.key := by
  unfold Metric.yields at mem
  cases found : metric.rows day w with
  | error text =>
      rw [found] at mem
      cases mem
  | ok rows =>
      rw [found] at mem
      cases metric <;> exact forall_mem_of_map (fun _ _ mem => owned_of_mem_rollups mem) found mem

theorem key_of_mem_yields {day : Int} {w : Warehouse} {metric : Metric} {row : KpiRollup}
    (mem : row ∈ metric.yields day w) : row.key = metric.key := (owned_of_mem_yields mem).2

/-! ## All metrics -/

/-- The block after a metric whose statements raise. -/
theorem failed_of_fails {day : Int} {w : Warehouse} {metric : Metric} {b : Block KpiTable}
    (live : b.failed = false) (fails : metric.succeeds day w = false) :
    ∃ text b', b.script abortedText (metric.statements day w) = (.error text, b') ∧
      b'.failed = true ∧ b'.committed = b.committed := by
  obtain ⟨text, raised⟩ := effect_of_fails fails b.working
  obtain ⟨outcome, failed, committed⟩ := @Block.script_of_error _ _ abortedText _ live _ _ raised
  exact ⟨text, _, Prod.ext outcome rfl, failed, committed⟩

/-- The metrics before the first one that raises are the ones that report success. -/
theorem mem_attempts_iff {day : Int} {w : Warehouse} {ms : List Metric} {b : Block KpiTable}
    (live : b.failed = false) {metric : Metric} :
    (metric, Except.ok ()) ∈ (b.attempts abortedText
        (ms.map fun metric => (metric, metric.statements day w))).1 ↔
      metric ∈ ms.takeWhile (Metric.succeeds day w) := by
  induction ms generalizing b with
  | nil => simp [Block.attempts]
  | cons first ms ih =>
      rw [List.map_cons]
      cases succeeds : first.succeeds day w with
      | true =>
          have done : b.script abortedText (first.statements day w) = _ :=
            Block.script_of_ok live (effect_of_succeeds succeeds b.working)
          have later := @ih { b with working := storeAll (first.yields day w) b.working } live
          rw [List.takeWhile_cons_of_pos succeeds, List.mem_cons, ← later]
          simp [Block.attempts, done]
      | false =>
          obtain ⟨text, b', raised, failed, -⟩ := failed_of_fails live succeeds
          have statements : ∀ s ∈ ms.map fun metric => (metric, metric.statements day w),
              s.2 ≠ [] := by
            rw [List.forall_mem_map]
            exact fun metric _ => statements_ne_nil day w metric
          rw [List.takeWhile_cons_of_neg (by simp [succeeds])]
          simp [Block.attempts, raised, Block.attempts_of_failed failed statements]

/-- One metric that raises discards the rows of all. -/
theorem commit_attempts {day : Int} {w : Warehouse} {ms : List Metric} {b : Block KpiTable}
    (live : b.failed = false) :
    (b.attempts abortedText (ms.map fun metric => (metric, metric.statements day w))).2.commit =
      if ms.all (Metric.succeeds day w) then
        storeAll (ms.flatMap (Metric.yields day w)) b.working
      else b.committed := by
  induction ms generalizing b with
  | nil => simp [Block.attempts, Block.commit, live, storeAll]
  | cons first ms ih =>
      rw [List.map_cons, List.all_cons, List.flatMap_cons, storeAll_append]
      cases succeeds : first.succeeds day w with
      | true =>
          have done : b.script abortedText (first.statements day w) = _ :=
            Block.script_of_ok live (effect_of_succeeds succeeds b.working)
          have later := @ih { b with working := storeAll (first.yields day w) b.working } live
          rw [Bool.true_and, ← later]
          simp [Block.attempts, done]
      | false =>
          obtain ⟨text, b', raised, failed, committed⟩ := failed_of_fails live succeeds
          have statements : ∀ s ∈ ms.map fun metric => (metric, metric.statements day w),
              s.2 ≠ [] := by
            rw [List.forall_mem_map]
            exact fun metric _ => statements_ne_nil day w metric
          simp [Block.attempts, raised, Block.attempts_of_failed failed statements, Block.commit,
            failed, committed]

/-- In the slots of a metric only the rows of that metric are stored. -/
theorem lookup_storeAll_flatMap {day : Int} {w : Warehouse} {ms : List Metric} (nodup : ms.Nodup)
    {metric : Metric} (mem : metric ∈ ms) {slot : Int × String × Dims}
    (own : slot.2.1 = metric.key) (table : KpiTable) :
    (storeAll (ms.flatMap (Metric.yields day w)) table).lookup slot =
      (storeAll (metric.yields day w) table).lookup slot := by
  induction ms generalizing table with
  | nil => cases mem
  | cons first ms ih =>
      rw [List.nodup_cons] at nodup
      rw [List.flatMap_cons, storeAll_append]
      rcases List.mem_cons.1 mem with rfl | later
      · apply lookup_storeAll_of_ne
        intro row found same
        obtain ⟨other, there, yielded⟩ := List.mem_flatMap.1 found
        have keys : other.key = metric.key := by
          rw [← own, ← same, ← key_of_mem_yields yielded]
          rfl
        exact nodup.1 (Metric.key_inj keys ▸ there)
      · rw [ih nodup.2 later]
        apply lookup_storeAll_congr
        apply lookup_storeAll_of_ne
        intro row yielded same
        have keys : first.key = metric.key := by
          rw [← own, ← same, ← key_of_mem_yields yielded]
          rfl
        exact nodup.1 (Metric.key_inj keys ▸ later)

/-! ## Isolation -/

theorem Metric.succeeds_iff {day : Int} {w : Warehouse} {metric : Metric} :
    metric.succeeds day w = true ↔
      ¬ metric.Raises day w ∧ ∀ row ∈ metric.yields day w, w.refused row = none := by
  unfold Metric.succeeds Metric.Raises Metric.yields
  cases metric.rows day w with
  | error text => simp
  | ok rows => simp

theorem status_iff {day : Int} {w : Warehouse} {table : KpiTable} {metric : Metric} :
    (metric, Except.ok ()) ∈ (rollupDay day w table).1 ↔
      metric ∈ metrics.takeWhile (Metric.succeeds day w) := by
  rw [← mem_attempts_iff (b := Block.start table) rfl]
  rfl

theorem rollupDay_table (day : Int) (w : Warehouse) (table : KpiTable) :
    (rollupDay day w table).2 =
      if metrics.all (Metric.succeeds day w) then
        storeAll (metrics.flatMap (Metric.yields day w)) table
      else table := by
  have committed := @commit_attempts day w metrics (Block.start table) rfl
  exact committed

theorem nodup_metrics : metrics.Nodup := by decide

section Isolation

variable {day : Int} {w : Warehouse} {table : KpiTable}

theorem Isolates.succeeds (isolates : Isolates day w table) {metric : Metric}
    (mem : metric ∈ metrics) (fine : ¬ metric.Raises day w) : metric.succeeds day w = true :=
  List.mem_takeWhile_imp (status_iff.1 ((isolates.status metric mem).2 fine))

theorem Isolates.accepted (isolates : Isolates day w table) {metric : Metric}
    (mem : metric ∈ metrics) : ∀ row ∈ metric.yields day w, w.refused row = none := by
  intro row yielded
  by_cases raises : metric.Raises day w
  · obtain ⟨text, raised⟩ := raises
    simp [Metric.yields, raised] at yielded
  · exact (Metric.succeeds_iff.1 (isolates.succeeds mem raises)).2 row yielded

/-- When a query raises, those before the first that raises have stored nothing. -/
theorem Isolates.unstored (isolates : Isolates day w table)
    (raised : ¬ ∀ metric ∈ metrics, ¬ metric.Raises day w) {metric : Metric}
    (mem : metric ∈ metrics) (fine : ¬ metric.Raises day w) {slot : Int × String × Dims}
    (own : slot.2.1 = metric.key) :
    (storeAll (metric.yields day w) table).lookup slot = table.lookup slot := by
  have some_fails : ¬ metrics.all (Metric.succeeds day w) = true := fun all =>
    raised fun metric mem => (Metric.succeeds_iff.1 (List.all_eq_true.1 all metric mem)).1
  have persisted := isolates.persisted metric mem fine slot own
  rw [rollupDay_table, if_neg some_fails] at persisted
  exact persisted.symm

variable (accepted : ∀ metric ∈ metrics, ∀ row ∈ metric.yields day w, w.refused row = none)
include accepted

theorem succeeds_iff_of_accepted {metric : Metric} (mem : metric ∈ metrics) :
    metric.succeeds day w = true ↔ ¬ metric.Raises day w := by
  rw [Metric.succeeds_iff, and_iff_left (accepted metric mem)]

theorem status_iff_of_last (last : metrics.Pairwise fun metric later =>
      ¬ later.Raises day w → ¬ metric.Raises day w) {metric : Metric} (mem : metric ∈ metrics) :
    (metric, Except.ok ()) ∈ (rollupDay day w table).1 ↔ ¬ metric.Raises day w := by
  have ordered : metrics.Pairwise fun metric later =>
      later.succeeds day w → metric.succeeds day w := by
    apply last.imp_of_mem
    intro metric later mem memLater fine now
    have laterFine := (succeeds_iff_of_accepted accepted memLater).1 now
    exact (succeeds_iff_of_accepted accepted mem).2 (fine laterFine)
  rw [status_iff, mem_takeWhile_iff ordered mem, succeeds_iff_of_accepted accepted mem]

end Isolation

/-- Failures are isolated exactly when every upsert is accepted and either no query
raises, or the queries that raise are the last ones and nothing had to be stored. -/
theorem rollup_isolates_iff (day : Int) (w : Warehouse) (table : KpiTable) :
    Isolates day w table ↔
      (∀ metric ∈ metrics, ∀ row ∈ metric.yields day w, w.refused row = none) ∧
      ((∀ metric ∈ metrics, ¬ metric.Raises day w) ∨
        metrics.Pairwise (fun metric later => ¬ later.Raises day w → ¬ metric.Raises day w) ∧
        ∀ metric ∈ metrics, ¬ metric.Raises day w → ∀ slot, slot.2.1 = metric.key →
          (storeAll (metric.yields day w) table).lookup slot = table.lookup slot) := by
  constructor
  · intro isolates
    refine ⟨fun metric mem => isolates.accepted mem, ?_⟩
    by_cases fine : ∀ metric ∈ metrics, ¬ metric.Raises day w
    · exact .inl fine
    · have last := pairwise_of_mem_takeWhile nodup_metrics fun metric mem =>
        status_iff.symm.trans (isolates.status metric mem)
      exact .inr ⟨last, fun metric mem now slot own => isolates.unstored fine mem now own⟩
  · rintro ⟨accepted, queries⟩
    have last : metrics.Pairwise fun metric later =>
        ¬ later.Raises day w → ¬ metric.Raises day w := by
      rcases queries with fine | ⟨last, -⟩
      · exact List.pairwise_of_forall_mem_list fun metric mem _ _ _ => fine metric mem
      · exact last
    refine ⟨fun metric mem => status_iff_of_last accepted last mem,
      fun metric mem fine slot own => ?_, fun metric mem raises slot own => ?_⟩
    · rw [rollupDay_table]
      split_ifs with all
      · exact lookup_storeAll_flatMap nodup_metrics mem own table
      · rcases queries with none_raises | ⟨-, stored⟩
        · refine absurd (List.all_eq_true.2 fun metric mem => ?_) all
          exact (succeeds_iff_of_accepted accepted mem).2 (none_raises metric mem)
        · exact (stored metric mem fine slot own).symm
    · have fails : ¬ metrics.all (Metric.succeeds day w) = true := fun all =>
        (succeeds_iff_of_accepted accepted mem).1 (List.all_eq_true.1 all metric mem) raises
      rw [rollupDay_table, if_neg fails]

/-- A warehouse whose tables are empty. -/
def emptyWarehouse : Warehouse where
  onboardingCompletion := .ok []
  dauSplit := .ok []
  profileHealthDist := .ok []
  requestRatio := .ok []
  collabFeedback := .ok []
  supportCsat := .ok []
  pctReported := .ok ⟨0, 0⟩
  refused := fun _ => none

/-- The first query raises: no other metric is computed and the last one is not stored. -/
theorem not_isolated :
    ¬ ∀ day w table, Isolates day w table := by
  intro isolates
  have now := isolates 20000
    { emptyWarehouse with onboardingCompletion := .error "relation does not exist" }
    Table.empty
  have status := (now.status .dauSplit (by decide)).2 (by rintro ⟨text, raised⟩; cases raised)
  rw [status_iff] at status
  revert status
  decide

end ColabPlatform.Analytics
