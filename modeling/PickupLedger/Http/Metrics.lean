import PickupLedger.Service.Program

/-!
# Metrics

Requests are counted under their method, the template of their resource and the
status of their answer; their durations are counted under the first two.  A line of
the metrics is a name, the labels of what was counted, and the count; only what has
been counted has a line, and the lines are sorted (`Metrics.lines`).
-/

namespace PickupLedger.Http

/-- What requests are counted under. -/
structure RequestLabel where
  method : String
  path : String
  status : Nat
  deriving DecidableEq, Repr

/-- **The requests counted so far.** -/
structure RequestCounts where
  counts : List (RequestLabel × Nat)
  deriving Repr

namespace RequestCounts

/-- No requests. -/
def zero : RequestCounts := ⟨[]⟩

/-- Counts with one more of a label. -/
def bump (label : RequestLabel) : List (RequestLabel × Nat) → List (RequestLabel × Nat)
  | [] => [(label, 1)]
  | e :: es => if e.1 = label then (label, e.2 + 1) :: es else e :: bump label es

/-- **The counts after one more request.** -/
def add (c : RequestCounts) (label : RequestLabel) : RequestCounts := ⟨bump label c.counts⟩

/-- All counts of a list together. -/
def together : List (RequestLabel × Nat) → Nat
  | [] => 0
  | e :: es => e.2 + together es

/-- How many requests have been counted under a label. -/
def get (c : RequestCounts) (label : RequestLabel) : Nat :=
  together (c.counts.filter fun e => e.1 = label)

/-- How many requests have been counted. -/
def total (c : RequestCounts) : Nat := together c.counts

/-- How many requests of a method and path have been counted. -/
def timed (c : RequestCounts) (method path : String) : Nat :=
  together (c.counts.filter fun e => e.1.method = method && e.1.path = path)

theorem total_add (c : RequestCounts) (label : RequestLabel) :
    (c.add label).total = c.total + 1 := by
  obtain ⟨es⟩ := c
  simp only [add, total]
  induction es with
  | nil => rfl
  | cons e es ih =>
    simp only [bump]
    split
    · simp only [together]; omega
    · simp only [together, ih]; omega

end RequestCounts

namespace Metrics

/-- The name that something is counted under. -/
def counterName : Counter → String
  | .pointsCreated => "pvz_created_total"
  | .receptionsCreated => "receptions_created_total"
  | .receptionsClosed => "receptions_closed_total"
  | .productsAdded => "products_added_total"
  | .productsRemoved => "products_removed_total"

/-- All that the service counts. -/
def counters : List Counter :=
  [.pointsCreated, .receptionsCreated, .receptionsClosed, .productsAdded, .productsRemoved]

/-- A label with its value. -/
def label (name value : String) : String := name ++ "=\x22" ++ value ++ "\x22"

/-- A line: a name, its labels, and a count. -/
def line (name : String) (labels : List String) (count : Nat) : String :=
  let tags := if labels.isEmpty then "" else "\x7b" ++ ",".intercalate labels ++ "\x7d"
  name ++ tags ++ " " ++ String.ofList (Text.decimal count)

/-- The lines of what the service counts. -/
def counterLines (c : Counters) : List String :=
  (counters.filter fun x => 0 < c.get x).map fun x => line (counterName x) [] (c.get x)

/-- The lines of the requests. -/
def requestLines (c : RequestCounts) : List String :=
  c.counts.map fun e =>
    line "http_requests_total"
      [label "method" e.1.method, label "path" e.1.path,
        label "status" (String.ofList (Text.decimal e.1.status))] e.2

/-- The lines of the durations. -/
def durationLines (c : RequestCounts) : List String :=
  ((c.counts.map fun e => (e.1.method, e.1.path)).eraseDups).map fun (method, path) =>
    line "http_request_duration_seconds_count" [label "method" method, label "path" path]
      (c.timed method path)

/-- **All lines**, sorted. -/
def lines (c : Counters) (requests : RequestCounts) : List String :=
  (counterLines c ++ requestLines requests ++ durationLines requests).mergeSort fun a b => a ≤ b

/-- The lines as a text. -/
def text (c : Counters) (requests : RequestCounts) : String :=
  String.join ((lines c requests).map fun l => l ++ "\n")

end Metrics
end PickupLedger.Http
