import PoolOperator.Number.Shortest
import PoolOperator.Operation

/-!
# Metrics

What the operator counts and measures, in the text format of Prometheus
(`Metrics.lines`).  Events are counted by label.  The durations of the
reconciliations go into a histogram for each controller.  A metric appears in
the text with its first sample.
-/

namespace PoolOperator

/-! ## Histograms -/

/-- A summary of observed numbers. -/
structure Histogram where
  /-- How many observations are within each of the bounds. -/
  within : List Nat
  /-- The sum of the observations. -/
  sum : Binary64
  /-- The number of the observations. -/
  count : Nat
  deriving DecidableEq, Repr, Inhabited

namespace Histogram

/-- The bounds, in seconds. -/
def bounds : List Binary64 :=
  [.ofDecimal false 1 (-1), .ofDecimal false 5 (-1), .ofNat 1, .ofNat 2, .ofNat 5, .ofNat 10,
    .ofNat 30]

/-- A histogram without observations. -/
def empty : Histogram := ⟨bounds.map fun _ => 0, .zero false, 0⟩

/-- The histogram with one more observation. -/
def observe (histogram : Histogram) (value : Binary64) : Histogram where
  within := List.zipWith (fun bound count => if value.le bound then count + 1 else count) bounds
    histogram.within
  sum := histogram.sum.add value
  count := histogram.count + 1

end Histogram

/-! ## All metrics -/

/-- What was counted and measured. -/
structure Metrics where
  /-- Reconciliations, by controller. -/
  reconciliations : Fields Nat := []
  /-- Failed reconciliations, by controller. -/
  reconciliationErrors : Fields Nat := []
  /-- Applied objects, by outcome. -/
  objectsApplied : Fields Nat := []
  /-- Objects that were refused or could not be merged, by category. -/
  mergeErrors : Fields Nat := []
  /-- Durations of reconciliations, by controller. -/
  durations : Fields Histogram := []
  deriving DecidableEq, Repr, Inhabited

namespace Counter

/-- The name of a metric that counts. -/
def name : Counter → String
  | .reconciliations => "reconciliations_total"
  | .reconciliationErrors => "reconciliation_errors_total"
  | .objectsApplied => "objects_applied_total"
  | .mergeErrors => "merge_errors_total"

/-- What the labels of a metric are called. -/
def labelName : Counter → String
  | .reconciliations => "controller"
  | .reconciliationErrors => "controller"
  | .objectsApplied => "operation"
  | .mergeErrors => "category"

/-- What a metric is about. -/
def about : Counter → String
  | .reconciliations => "Total number of reconciliations"
  | .reconciliationErrors => "Total number of reconciliation errors"
  | .objectsApplied => "Total number of objects applied to the cluster"
  | .mergeErrors => "Total number of objects rejected by admission validation or the merge"

end Counter

namespace Metrics

/-- Metrics without any sample. -/
def empty : Metrics := {}

/-- The counts of a metric. -/
def counts (metrics : Metrics) : Counter → Fields Nat
  | .reconciliations => metrics.reconciliations
  | .reconciliationErrors => metrics.reconciliationErrors
  | .objectsApplied => metrics.objectsApplied
  | .mergeErrors => metrics.mergeErrors

/-- The count under a label. -/
def count (metrics : Metrics) (counter : Counter) (label : String) : Nat :=
  ((metrics.counts counter).find? label).getD 0

/-- Puts counts in place of those of a metric. -/
def setCounts (metrics : Metrics) (counts : Fields Nat) : Counter → Metrics
  | .reconciliations => { metrics with reconciliations := counts }
  | .reconciliationErrors => { metrics with reconciliationErrors := counts }
  | .objectsApplied => { metrics with objectsApplied := counts }
  | .mergeErrors => { metrics with mergeErrors := counts }

/-- Counts an event. -/
def increment (metrics : Metrics) (counter : Counter) (label : String) : Metrics :=
  metrics.setCounts ((metrics.counts counter).put label (metrics.count counter label + 1)) counter

/-- Records the duration of a reconciliation, in seconds. -/
def observe (metrics : Metrics) (controller : String) (duration : Binary64) : Metrics :=
  let histogram := (metrics.durations.find? controller).getD .empty
  { metrics with durations := metrics.durations.put controller (histogram.observe duration) }

/-! ## Look-up after a change -/

theorem counts_setCounts_self (metrics : Metrics) (counts : Fields Nat) (counter : Counter) :
    (metrics.setCounts counts counter).counts counter = counts := by
  cases counter <;> rfl

theorem counts_setCounts_ne (metrics : Metrics) (counts : Fields Nat) {counter other : Counter}
    (different : other ≠ counter) :
    (metrics.setCounts counts counter).counts other = metrics.counts other := by
  cases counter <;> cases other <;> first | rfl | exact absurd rfl different

/-- An event raises its count by one. -/
theorem count_increment_self (metrics : Metrics) (counter : Counter) (label : String) :
    (metrics.increment counter label).count counter label = metrics.count counter label + 1 := by
  simp [count, increment, counts_setCounts_self, Fields.find?_put_self]

/-! ## Text -/

/-- What all names of metrics begin with. -/
def family : String := "metallb_operator_"

/-- The name of the metric with the durations. -/
def durationName : String := "reconciliation_duration_seconds"

/-- A character of a label as it is written. -/
def labelChar : Char → List Char
  | '\\' => ['\\', '\\']
  | '"' => ['\\', '"']
  | '\n' => ['\\', 'n']
  | char => [char]

/-- A name with its labels. -/
def labelled (name : String) (labels : List (String × String)) : String :=
  let texts := labels.map fun (label, value) =>
    label ++ "=\"" ++ String.ofList (value.toList.flatMap labelChar) ++ "\""
  name ++ "\x7b" ++ ",".intercalate texts ++ "\x7d"

/-- The lines of a metric: what it is, and its samples.  None without a
sample. -/
def withHeader (name about type : String) (samples : List String) : List String :=
  if samples.isEmpty then []
  else s!"# HELP {family}{name} {about}" :: s!"# TYPE {family}{name} {type}" :: samples

/-- The lines of a metric that counts. -/
def countLines (metrics : Metrics) (counter : Counter) : List String :=
  withHeader counter.name counter.about "counter" <|
    (metrics.counts counter).map fun (label, count) =>
      labelled (family ++ counter.name) [(counter.labelName, label)] ++ " " ++ toString count

/-- The lines of a histogram. -/
def histogramLines (controller : String) (histogram : Histogram) : List String :=
  let line (part : String) (labels : List (String × String)) (value : String) : String :=
    labelled (family ++ durationName ++ part) (("controller", controller) :: labels) ++ " " ++ value
  List.zipWith (fun bound count => line "_bucket" [("le", bound.plainText)] (toString count))
      Histogram.bounds histogram.within
    ++ [line "_bucket" [("le", "+Inf")] (toString histogram.count),
        line "_sum" [] histogram.sum.plainText,
        line "_count" [] (toString histogram.count)]

/-- The lines of the durations. -/
def durationLines (metrics : Metrics) : List String :=
  withHeader durationName "Duration of reconciliation in seconds" "histogram" <|
    metrics.durations.flatMap fun (controller, histogram) => histogramLines controller histogram

/-- The lines of all metrics, in the order of their names. -/
def lines (metrics : Metrics) : List String :=
  metrics.countLines .mergeErrors ++ metrics.countLines .objectsApplied ++ metrics.durationLines
    ++ metrics.countLines .reconciliationErrors ++ metrics.countLines .reconciliations

/-- The counts of all metrics, under their names and labels.  Of a histogram it
is the number of its observations. -/
def samples (metrics : Metrics) : Fields Nat :=
  let counted (counter : Counter) : List (String × Nat) :=
    (metrics.counts counter).map fun (label, count) =>
      (labelled counter.name [(counter.labelName, label)], count)
  let measured := metrics.durations.map fun (controller, histogram) =>
    (labelled (durationName ++ "_count") [("controller", controller)], histogram.count)
  .ofList <| counted .mergeErrors ++ counted .objectsApplied ++ measured
    ++ counted .reconciliationErrors ++ counted .reconciliations

end Metrics

end PoolOperator
