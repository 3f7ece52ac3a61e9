namespace AgentSync

/-- What a counter counts. -/
structure Metric where
  name : String
  /-- Values by label, in the order of the labels. -/
  labels : List (String × String)
  deriving DecidableEq, Repr, Inhabited

namespace Metric

/-- Requests to the hub that came to an end, by their outcome. -/
def requests (agent method outcome : String) : Metric :=
  ⟨"outpost_upstream_requests_total",
    [("agent", agent), ("method", method), ("outcome", outcome)]⟩

/-- Observed times of requests to the hub. -/
def requestDurations (agent method outcome : String) : Metric :=
  ⟨"outpost_upstream_request_duration_seconds",
    [("agent", agent), ("method", method), ("outcome", outcome)]⟩

/-- Rows of a table that the hub took. -/
def rowsPushed (table : String) : Metric := ⟨"outpost_rows_pushed_total", [("table", table)]⟩

/-- Pages of a table that were the same on both sides. -/
def pagesSkipped (table : String) : Metric :=
  ⟨"outpost_reconcile_pages_skipped_total", [("table", table)]⟩

/-- The name followed by the labels in braces. -/
def text (metric : Metric) : String :=
  let labels := metric.labels.map fun (label, value) => label ++ "=" ++ value
  metric.name ++ "\x7b" ++ ",".intercalate labels ++ "\x7d"

end Metric

/-- Counts by metric; one that is not listed stands at zero. -/
structure Metrics where
  counts : List (Metric × Nat)
  deriving Repr, Inhabited

namespace Metrics

def get (metrics : Metrics) (metric : Metric) : Nat :=
  ((metrics.counts.find? (·.1 = metric)).map (·.2)).getD 0

def addTo (metric : Metric) (amount : Nat) : List (Metric × Nat) → List (Metric × Nat)
  | [] => [(metric, amount)]
  | (other, count) :: rest =>
    if other = metric then (other, count + amount) :: rest
    else (other, count) :: addTo metric amount rest

def add (metrics : Metrics) (metric : Metric) (amount : Nat) : Metrics :=
  ⟨addTo metric amount metrics.counts⟩

/-- What was counted since an earlier state; counters that did not move are left out. -/
def since (metrics earlier : Metrics) : List (Metric × Nat) :=
  (metrics.counts.map fun (metric, count) => (metric, count - earlier.get metric)).filter (·.2 ≠ 0)

end Metrics

end AgentSync
