import LinkReliability.Document
import LinkReliability.Timestamp

/-!
# The health of a service

Check results are folded into a record with four states. A service becomes healthy after a number
of passes in a row and unhealthy after a number of failures in a row. In between, an unhealthy
service that passes once is recovering, and a recovering one that fails once is unhealthy again.
-/

namespace LinkReliability

inductive HealthState where
  /-- Neither proven healthy nor proven unhealthy. -/
  | unknown
  | healthy
  | unhealthy
  | recovering
deriving DecidableEq, Repr

namespace HealthState

def name : HealthState → String
  | unknown => "unknown"
  | healthy => "healthy"
  | unhealthy => "unhealthy"
  | recovering => "recovering"

def named? : String → Option HealthState
  | "unknown" => some unknown
  | "healthy" => some healthy
  | "unhealthy" => some unhealthy
  | "recovering" => some recovering
  | _ => none

def ofDocument? : Document → Option HealthState := Document.choice? named?

def toDocument (s : HealthState) : Document := .text s.name

end HealthState

structure CheckResult where
  healthy : Bool
  reason : String
  latency : Duration
  timestamp : Timestamp
deriving DecidableEq, Repr

namespace CheckResult

def ofDocument? (d : Document) : Option CheckResult :=
  match d.fields? ["healthy", "reason", "latency_ms", "timestamp"] with
  | some [healthy, reason, latency, timestamp] => do
    let healthy ← Document.required? Document.bool? healthy
    let reason ← Document.required? Document.text? reason
    let latency ← Document.required? Document.duration? latency
    let timestamp ← Document.required? Document.text? timestamp
    let timestamp ← Timestamp.ofText? timestamp
    some ⟨healthy, reason, latency, timestamp⟩
  | _ => none

def toDocument (r : CheckResult) : Document :=
  .record [
    ("healthy", .bool r.healthy),
    ("reason", .text r.reason),
    ("latency_ms", .ofDuration r.latency),
    ("timestamp", .text r.timestamp.text)]

end CheckResult

/-- How many equal results in a row decide. -/
structure Thresholds where
  passes : Nat
  fails : Nat
deriving DecidableEq, Repr

structure Health where
  state : HealthState
  consecutivePasses : Nat
  consecutiveFails : Nat
  lastResult : Option CheckResult
  totalChecks : Nat
  totalPasses : Nat
  totalFails : Nat
deriving DecidableEq, Repr

namespace Health

def fresh : Health := ⟨.unknown, 0, 0, none, 0, 0, 0⟩

def pass (t : Thresholds) (h : Health) : Health :=
  let streak := h.consecutivePasses + 1
  let h := { h with
    consecutivePasses := streak
    consecutiveFails := 0
    totalPasses := h.totalPasses + 1 }
  match h.state with
  | .healthy => h
  | .unhealthy =>
    if t.passes ≤ streak then { h with state := .healthy, consecutivePasses := 0 }
    else { h with state := .recovering }
  | _ => if t.passes ≤ streak then { h with state := .healthy, consecutivePasses := 0 } else h

def fail (t : Thresholds) (h : Health) : Health :=
  let streak := h.consecutiveFails + 1
  let h := { h with
    consecutiveFails := streak
    consecutivePasses := 0
    totalFails := h.totalFails + 1 }
  match h.state with
  | .unhealthy => h
  | .recovering =>
    if t.fails ≤ streak then { h with state := .unhealthy, consecutiveFails := 0 }
    else { h with state := .unhealthy }
  | _ => if t.fails ≤ streak then { h with state := .unhealthy, consecutiveFails := 0 } else h

def apply (t : Thresholds) (r : CheckResult) (h : Health) : Health :=
  let h := if r.healthy then h.pass t else h.fail t
  { h with totalChecks := h.totalChecks + 1, lastResult := some r }

/-- The state before the result, if the result changes it. -/
def transition? (t : Thresholds) (r : CheckResult) (h : Health) : Option HealthState :=
  if (h.apply t r).state = h.state then none else some h.state

def passPercent (h : Health) : Float :=
  if h.totalChecks = 0 then 0.0
  else Nat.toFloat h.totalPasses / Nat.toFloat h.totalChecks * 100.0

def roundToTenth (x : Float) : Float := (x * 10.0).round / 10.0

def lastResultDocument (r : CheckResult) : Document :=
  .record [
    ("healthy", .bool r.healthy),
    ("reason", .text r.reason),
    ("latency_ms", .float (r.latency.seconds * 1000.0))]

/-- The status of a service for operators; the percentage has one place. -/
def status (name : String) (h : Health) : Document :=
  .record [
    ("name", .text name),
    ("state", h.state.toDocument),
    ("consecutive_passes", .nat h.consecutivePasses),
    ("consecutive_fails", .nat h.consecutiveFails),
    ("last_check", .ofOption (fun r => .text r.timestamp.text) h.lastResult),
    ("last_result", .ofOption lastResultDocument h.lastResult),
    ("uptime_percent", .float (roundToTenth h.passPercent)),
    ("total_checks", .nat h.totalChecks)]

end Health

end LinkReliability
