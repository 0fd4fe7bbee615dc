import ColabPlatform.Foundation.Block
import ColabPlatform.Foundation.Table
import Mathlib.Algebra.Order.Field.Rat

/-!
# The nightly KPI rollup

Seven metrics are computed one after the other in one transaction, each in a
`try … except` of its own.  What the queries yield is given: they read other
tables than the one that the rollup writes.
-/

namespace ColabPlatform.Analytics

open Foundation

/-! ## Rows -/

inductive Metric where
  | onboardingCompletion
  | dauSplit
  | profileHealthDist
  | requestRatio
  | collabFeedback
  | supportCsat
  | pctReported
  deriving DecidableEq, Repr

def Metric.key : Metric → String
  | .onboardingCompletion => "onboarding_completion"
  | .dauSplit => "dau_split"
  | .profileHealthDist => "profile_health_dist"
  | .requestRatio => "request_ratio"
  | .collabFeedback => "collab_feedback"
  | .supportCsat => "support_csat"
  | .pctReported => "pct_reported"

/-- The metrics in the order in which they run. -/
def metrics : List Metric :=
  [.onboardingCompletion, .dauSplit, .profileHealthDist, .requestRatio, .collabFeedback,
    .supportCsat, .pctReported]

/-- A JSON object with its keys sorted. -/
abbrev Dims := List (String × String)

/-- A row of `kpi_rollup`; its day is a day number. -/
structure KpiRollup where
  day : Int
  key : String
  dims : Dims
  value : Option ℚ
  countN : Int
  deriving DecidableEq, Repr

def KpiRollup.slot (row : KpiRollup) : Int × String × Dims := (row.day, row.key, row.dims)

abbrev KpiTable := Table KpiRollup KpiRollup.slot (noAlt KpiRollup)

/-! ## What the queries yield -/

structure StepRow where
  step : String
  value : Option ℚ
  countN : Int

/-- A row of `dau_split` or `request_ratio`, by its segment or status. -/
structure GroupRow where
  group : String
  value : ℚ
  countN : Int

structure BucketRow where
  bucket : Int
  value : ℚ
  countN : Int

structure FeedbackRow where
  axis : String
  direction : String
  value : ℚ
  countN : Int

structure CsatRow where
  category : String
  value : Option ℚ
  countN : Int

structure ReportedRow where
  reportedN : Int
  dauN : Int

/-- The results of the queries, or the text of what they raise, and the upserts that are refused. -/
structure Warehouse where
  onboardingCompletion : Except String (List StepRow)
  dauSplit : Except String (List GroupRow)
  profileHealthDist : Except String (List BucketRow)
  requestRatio : Except String (List GroupRow)
  collabFeedback : Except String (List FeedbackRow)
  supportCsat : Except String (List CsatRow)
  pctReported : Except String ReportedRow
  refused : KpiRollup → Option String

/-! ## The seven metrics -/

/-- The rows that a metric upserts for what its query yields. -/
def rollups {ρ : Type} (day : Int) (metric : Metric) (dims : ρ → Dims) (value : ρ → Option ℚ)
    (countN : ρ → Int) (rows : List ρ) : List KpiRollup :=
  rows.map fun row => ⟨day, metric.key, dims row, value row, countN row⟩

def runOnboardingCompletion (day : Int) (w : Warehouse) : Except String (List KpiRollup) :=
  w.onboardingCompletion.map (rollups day .onboardingCompletion (fun row => [("step", row.step)])
    (fun row => row.value) (fun row => row.countN))

def runDauSplit (day : Int) (w : Warehouse) : Except String (List KpiRollup) :=
  w.dauSplit.map (rollups day .dauSplit (fun row => [("segment", row.group)])
    (fun row => some row.value) (fun row => row.countN))

/-- `bucket_labels` -/
def bucketLabel (bucket : Int) : String :=
  if bucket = 1 then "0.0-0.2"
  else if bucket = 2 then "0.2-0.4"
  else if bucket = 3 then "0.4-0.6"
  else if bucket = 4 then "0.6-0.8"
  else if bucket = 5 then "0.8-1.0"
  else "bucket_" ++ toString bucket

def runProfileHealthDist (day : Int) (w : Warehouse) : Except String (List KpiRollup) :=
  w.profileHealthDist.map (rollups day .profileHealthDist
    (fun row => [("bucket", bucketLabel row.bucket)]) (fun row => some row.value)
    (fun row => row.countN))

def runRequestRatio (day : Int) (w : Warehouse) : Except String (List KpiRollup) :=
  w.requestRatio.map (rollups day .requestRatio (fun row => [("outcome", row.group)])
    (fun row => some row.value) (fun row => row.countN))

def runCollabFeedback (day : Int) (w : Warehouse) : Except String (List KpiRollup) :=
  w.collabFeedback.map (rollups day .collabFeedback
    (fun row => [("axis", row.axis), ("direction", row.direction)]) (fun row => some row.value)
    (fun row => row.countN))

def runSupportCsat (day : Int) (w : Warehouse) : Except String (List KpiRollup) :=
  w.supportCsat.map (rollups day .supportCsat (fun row => [("category", row.category)])
    (fun row => row.value) (fun row => row.countN))

/-- One row whatever the query counts; without active users it has no value. -/
def runPctReported (day : Int) (w : Warehouse) : Except String (List KpiRollup) :=
  w.pctReported.map fun row => rollups day .pctReported (fun _ => [])
    (fun row : ReportedRow =>
      if row.dauN > 0 then some ((row.reportedN : ℚ) / row.dauN) else none)
    (fun row => row.dauN) [row]

/-- The rows that a metric upserts, or what its query raises. -/
def Metric.rows (day : Int) (w : Warehouse) : Metric → Except String (List KpiRollup)
  | .onboardingCompletion => runOnboardingCompletion day w
  | .dauSplit => runDauSplit day w
  | .profileHealthDist => runProfileHealthDist day w
  | .requestRatio => runRequestRatio day w
  | .collabFeedback => runCollabFeedback day w
  | .supportCsat => runSupportCsat day w
  | .pctReported => runPctReported day w

/-! ## The transaction -/

/-- `DO UPDATE SET` with `row` for `EXCLUDED` -/
def KpiRollup.updated (row old : KpiRollup) : KpiRollup :=
  { old with value := row.value, countN := row.countN }

theorem slot_updated (row old : KpiRollup) : (row.updated old).slot = old.slot := rfl

/-- `ON CONFLICT … DO UPDATE` -/
def upsertRow (row : KpiRollup) (table : KpiTable) : KpiTable :=
  match table.insert? row with
  | some inserted => inserted
  | none => table.modify row.slot row.updated (slot_updated row)

/-- `_upsert_rollup` -/
def upsertRollup (w : Warehouse) (row : KpiRollup) (table : KpiTable) : Except String KpiTable :=
  match w.refused row with
  | some text => .error text
  | none => .ok (upsertRow row table)

/-- The statements of a metric: its query, and an upsert for each row. -/
def Metric.statements (day : Int) (w : Warehouse) (metric : Metric) :
    List (KpiTable → Except String KpiTable) :=
  match metric.rows day w with
  | .error text => [fun _ => .error text]
  | .ok rows => .ok :: rows.map (upsertRollup w)

def abortedText : String :=
  "current transaction is aborted, commands ignored until end of transaction block"

/-- `rollup_day`: the status of each metric, and the table after the commit. -/
def rollupDay (day : Int) (w : Warehouse) (table : KpiTable) :
    List (Metric × Except String Unit) × KpiTable :=
  let (status, block) := (Block.start table).attempts abortedText
    (metrics.map fun metric => (metric, metric.statements day w))
  (status, block.commit)

/-! ## Isolation -/

/-- The query of the metric raises. -/
def Metric.Raises (day : Int) (w : Warehouse) (metric : Metric) : Prop :=
  ∃ text, metric.rows day w = .error text

/-- The rows that the query of a metric yields, none if it raises. -/
def Metric.yields (day : Int) (w : Warehouse) (metric : Metric) : List KpiRollup :=
  match metric.rows day w with
  | .error _ => []
  | .ok rows => rows

/-- The table with the rows stored, in their order. -/
def storeAll (rows : List KpiRollup) (table : KpiTable) : KpiTable :=
  rows.foldl (fun table row => upsertRow row table) table

/-- The failures of some metrics leave the others as if those had not been there. -/
structure Isolates (day : Int) (w : Warehouse) (table : KpiTable) : Prop where
  status : ∀ metric ∈ metrics, (metric, Except.ok ()) ∈ (rollupDay day w table).1 ↔
    ¬ metric.Raises day w
  persisted : ∀ metric ∈ metrics, ¬ metric.Raises day w → ∀ slot, slot.2.1 = metric.key →
    (rollupDay day w table).2.lookup slot = (storeAll (metric.yields day w) table).lookup slot
  unchanged : ∀ metric ∈ metrics, metric.Raises day w → ∀ slot, slot.2.1 = metric.key →
    (rollupDay day w table).2.lookup slot = table.lookup slot

end ColabPlatform.Analytics
