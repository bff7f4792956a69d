import Bayeux.Table

namespace Bayeux

/-!
# Metrics

A table holds counters and gauges.  Touching one brings it into the table, also when it
is changed by zero.
-/

inductive Metric where
  | admissionsGranted
  | admissionsRejected
  | admissionUnderflows
  /-- A gauge: the connections held right now. -/
  | heldConnections
  | sweeps
  | browsersSwept
  | requests (outcome transport : String)
  | malformedBatches
deriving DecidableEq, Repr

/-- The name, with its labels sorted. -/
def Metric.name : Metric → String
  | admissionsGranted => "bayeux_admissions_granted_total"
  | admissionsRejected => "bayeux_admissions_rejected_total"
  | admissionUnderflows => "bayeux_admission_underflows_total"
  | heldConnections => "bayeux_suspended_connections"
  | sweeps => "bayeux_sweeps_total"
  | browsersSwept => "bayeux_browsers_swept_total"
  | requests outcome transport =>
    "bayeux_requests_total\x7boutcome=" ++ outcome ++ ",transport=" ++ transport ++ "\x7d"
  | malformedBatches => "bayeux_malformed_batches_total"

abbrev Metrics := Table Metric Int

namespace Metrics

def add (metrics : Metrics) (metric : Metric) (amount : Int) : Metrics :=
  metrics.insert metric (metrics.getD metric 0 + amount)

end Metrics

end Bayeux
