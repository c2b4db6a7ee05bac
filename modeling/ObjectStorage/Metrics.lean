import ObjectStorage.World

/-!
# Metrics

From the measured operations three metrics are computed, each by service and operation: the number
of requests, the number of errors, also by kind, and the durations, of which only the number is
kept.

* `Metrics.requests`, `Metrics.errors` — the numbers;
* `Metrics.report` — all metrics in words, in the order of their names and labels.
-/

namespace ObjectStorage.Metrics

/-- The number of requests of an operation. -/
def requests (samples : List Sample) (scheme : Scheme) (operation : Operation) : Nat :=
  samples.countP fun s => s.scheme = scheme ∧ s.operation = operation

/-- The number of errors of a kind of an operation. -/
def errors (samples : List Sample) (scheme : Scheme) (operation : Operation) (kind : ErrorKind) :
    Nat :=
  samples.countP fun s => s.scheme = scheme ∧ s.operation = operation ∧ s.failure = some kind

/-- A metric with its labels in alphabetical order. -/
def metric (name : String) (labels : List (String × String)) : String :=
  name ++ "\x7b" ++ ",".intercalate (labels.map fun (k, v) => k ++ "=" ++ v) ++ "\x7d"

/-- The metrics of one service and operation. -/
def ofOperation (samples : List Sample) (scheme : Scheme) (operation : Operation) : List String :=
  let labels := [("operation", operation.name), ("service", scheme.name)]
  let count := requests samples scheme operation
  if count = 0 then []
  else
    (ErrorKind.names.filterMap fun (kind, kindName) =>
      let count := errors samples scheme operation kind
      if count = 0 then none
      else some (metric "opendal_errors_total" (("kind", kindName) :: labels) ++ s!" {count}")) ++
    [metric "opendal_requests_duration_seconds" labels ++ s!" {count} samples",
      metric "opendal_requests_total" labels ++ s!" {count}"]

/-- Every metric that was measured, in order. -/
def report (samples : List Sample) : List String :=
  (Scheme.all.flatMap fun scheme => Operation.all.flatMap (ofOperation samples scheme)).mergeSort
    fun a b => a ≤ b

end ObjectStorage.Metrics
