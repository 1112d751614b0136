import LinkReliability.Monitor
import LinkReliability.Proofs.NameMap.Order
import LinkReliability.Proofs.RollingWindow.Suffix

/-!
# Runs of the monitor

The links and the reconnect loops of a bridge report to the monitor in any order. A record touches
one part of it: transitions the services, errors the log of errors, messages their counters.
-/

namespace LinkReliability

namespace Monitor

/-- An error is reported with what caused it, or by its text alone. -/
inductive Fault where
  | failure (f : Failure)
  | message (text : String)
deriving DecidableEq, Repr

namespace Fault

def text : Fault → String
  | failure f => f.text
  | message s => s

def category : Fault → Category
  | failure f => Category.ofFailure f
  | message s => (Category.ofMessage? s).getD .unknown

end Fault

structure ErrorReport where
  stamp : Reading
  service : String
  fault : Fault
deriving DecidableEq, Repr

structure Transition where
  stamp : Reading
  service : String
  kind : EventKind
  detail : String
deriving DecidableEq, Repr

inductive Record where
  | transition (t : Transition)
  | error (e : ErrorReport)
  | sent (now : Instant) (direction : Direction)
  | failed (direction : Direction) (requeued : Bool)
deriving DecidableEq, Repr

def reportError (m : Monitor) (e : ErrorReport) : Monitor :=
  match e.fault with
  | .failure f => (m.recordFailure e.stamp e.service f).2
  | .message s => (m.recordErrorMessage e.stamp e.service s).2

def record (m : Monitor) : Record → Monitor
  | .transition t => m.recordConnectionEvent t.stamp t.service t.kind t.detail
  | .error e => m.reportError e
  | .sent now direction => m.recordSent now direction
  | .failed direction requeued => m.recordFailed direction requeued

def run (records : List Record) (m : Monitor) : Monitor := records.foldl record m

theorem run_concat (records : List Record) (r : Record) (m : Monitor) :
    m.run (records ++ [r]) = (m.run records).record r := List.foldl_append

def Record.transition? : Record → Option Transition
  | .transition t => some t
  | _ => none

def Record.error? : Record → Option ErrorReport
  | .error e => some e
  | _ => none

def transitions (records : List Record) : List Transition := records.filterMap Record.transition?

def errorReports (records : List Record) : List ErrorReport := records.filterMap Record.error?

def ErrorReport.entry (e : ErrorReport) : Entry ErrorEvent :=
  ⟨e.stamp.now, ⟨e.stamp.wall, e.service, e.fault.category,
    String.ofList (e.fault.text.toList.take ErrorEvent.messageLimit)⟩⟩

theorem reportError_eq (m : Monitor) (e : ErrorReport) :
    m.reportError e = { m with errorEvents := m.errorEvents.push e.entry.stamp e.entry.value } := by
  obtain ⟨stamp, service, fault⟩ := e
  cases fault <;> rfl

theorem config_record (m : Monitor) (r : Record) : (m.record r).config = m.config := by
  cases r with
  | error e => simp only [record, reportError_eq]
  | _ => rfl

theorem started_record (m : Monitor) (r : Record) : (m.record r).started = m.started := by
  cases r with
  | error e => simp only [record, reportError_eq]
  | _ => rfl

theorem errorEvents_record (m : Monitor) (r : Record) :
    (m.record r).errorEvents =
      m.errorEvents.pushAll (r.error?.toList.map ErrorReport.entry) := by
  cases r with
  | error e =>
      simp only [record, reportError_eq]
      rfl
  | _ => rfl

theorem services_record (m : Monitor) (r : Record) :
    (m.record r).services =
      r.transition?.elim m.services (fun t => m.servicesAfter t.stamp t.service t.kind) := by
  cases r with
  | error e => simp only [record, reportError_eq, Record.transition?, Option.elim_none]
  | _ => rfl

theorem config_run (records : List Record) (m : Monitor) : (m.run records).config = m.config := by
  induction records using List.reverseRecOn with
  | nil => rfl
  | append_singleton records r ih => rw [run_concat, config_record, ih]

theorem started_run (records : List Record) (m : Monitor) :
    (m.run records).started = m.started := by
  induction records using List.reverseRecOn with
  | nil => rfl
  | append_singleton records r ih => rw [run_concat, started_record, ih]

theorem errorEvents_run (records : List Record) (m : Monitor) :
    (m.run records).errorEvents =
      m.errorEvents.pushAll ((errorReports records).map ErrorReport.entry) := by
  induction records using List.reverseRecOn with
  | nil => rfl
  | append_singleton records r ih =>
      rw [run_concat, errorEvents_record, ih, errorReports, errorReports, List.filterMap_append,
        List.map_append, RollingWindow.pushAll, RollingWindow.pushAll, RollingWindow.pushAll,
        List.foldl_append]
      cases r <;> rfl

theorem validate_thresholds {config : Config} (hv : config.validate = .ok ()) :
    config.services ≠ [] ∧
      config.degradedErrorThreshold.val ≤ config.pauseErrorThreshold.val := by
  simp only [Config.validate, ConfigError.check_eq_ok, List.forall_mem_cons, Bool.not_eq_true',
    List.isEmpty_eq_false_iff, decide_eq_true_eq] at hv
  obtain ⟨hservices, -, -, -, -, horder, -⟩ := hv
  exact ⟨hservices, horder⟩

/-- A monitor is created on settings that are valid, and then knows the services in them. -/
theorem create_eq_ok {config : Config} {started : Instant} {m : Monitor}
    (h : create config started = .ok m) :
    config.validate = .ok () ∧ m.config = config ∧ m.started = started ∧
      (∀ name, m.services.get? name = if name ∈ config.services then some Service.fresh else none) ∧
      m.errorEvents = RollingWindow.empty config.windowSize.val := by
  unfold create at h
  cases hv : config.validate with
  | error e => simp [hv, bind, Except.bind] at h
  | ok u =>
      rw [hv] at h
      obtain rfl := Except.ok.inj h
      exact ⟨rfl, rfl, rfl, NameMap.get?_ofList_const config.services Service.fresh, rfl⟩

end Monitor

end LinkReliability
