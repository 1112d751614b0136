import LinkReliability.Monitor.Config
import LinkReliability.Monitor.Event
import LinkReliability.NameMap
import LinkReliability.RollingWindow

/-!
# The health monitor of a bridge

All links report their transitions, messages and errors to one monitor. From the record of each
service and the recent errors it derives the status of the bridge, the reason when something is
wrong, and a summary.
-/

namespace LinkReliability

namespace Monitor

structure Service where
  /-- The beginning of the current connection, if there is one. -/
  connectedSince : Option Instant
  lastConnected : Option Timestamp
  lastDisconnected : Option Timestamp
  reconnectCount : Nat
  /-- The length of all connections that are over. -/
  uptime : Duration
deriving DecidableEq, Repr

namespace Service

def fresh : Service := ⟨none, none, none, 0, Duration.zero⟩

def isConnected (s : Service) : Bool := s.connectedSince.isSome

def connect (stamp : Reading) (s : Service) : Service :=
  match s.connectedSince with
  | some _ => s
  | none =>
    { s with
      connectedSince := some stamp.now
      lastConnected := some stamp.wall
      reconnectCount := s.reconnectCount + 1 }

def uptimeAt (now : Instant) (s : Service) : Duration :=
  match s.connectedSince with
  | some since => s.uptime + now.since since
  | none => s.uptime

def disconnect (stamp : Reading) (s : Service) : Service :=
  { s with
    connectedSince := none
    lastDisconnected := some stamp.wall
    uptime := s.uptimeAt stamp.now }

end Service

end Monitor

structure Monitor where
  config : Monitor.Config
  started : Instant
  services : NameMap Monitor.Service
  sent : DirectionCounts
  failed : DirectionCounts
  requeued : Nat
  connectionEvents : RollingWindow ConnectionEvent
  errorEvents : RollingWindow ErrorEvent
  messageTimes : RollingWindow Unit
deriving DecidableEq

namespace Monitor

def create (config : Config) (now : Instant) : Except ConfigError Monitor := do
  config.validate
  return {
    config := config
    started := now
    services := NameMap.ofList (config.services.map (fun s => (s, Service.fresh)))
    sent := DirectionCounts.zero
    failed := DirectionCounts.zero
    requeued := 0
    connectionEvents := RollingWindow.empty config.windowSize.val
    errorEvents := RollingWindow.empty config.windowSize.val
    messageTimes := RollingWindow.empty config.windowSize.val }

/-! ## Recording -/

def serviceOrFresh (m : Monitor) (service : String) : Service :=
  (m.services.get? service).getD Service.fresh

/-- The services after a transition. A retry says nothing about the connection. -/
def servicesAfter (m : Monitor) (stamp : Reading) (service : String) (kind : EventKind) :
    NameMap Service :=
  match kind with
  | .connected => m.services.insert service ((m.serviceOrFresh service).connect stamp)
  | .disconnected => m.services.insert service ((m.serviceOrFresh service).disconnect stamp)
  | .error => m.services.insert service ((m.serviceOrFresh service).disconnect stamp)
  | .retry => m.services

def recordConnectionEvent (m : Monitor) (stamp : Reading) (service : String) (kind : EventKind)
    (detail : String) : Monitor :=
  { m with
    services := m.servicesAfter stamp service kind
    connectionEvents := m.connectionEvents.push stamp.now ⟨stamp.wall, service, kind, detail⟩ }

def recordSent (m : Monitor) (now : Instant) (direction : Direction) : Monitor :=
  { m with sent := m.sent.add direction, messageTimes := m.messageTimes.push now () }

/-- A failed message is requeued when its owner keeps it for a later try. -/
def recordFailed (m : Monitor) (direction : Direction) (requeued : Bool) : Monitor :=
  { m with
    failed := m.failed.add direction
    requeued := if requeued then m.requeued + 1 else m.requeued }

def recordCategorised (m : Monitor) (stamp : Reading) (service : String) (category : Category)
    (message : String) : Monitor :=
  let kept := String.ofList (message.toList.take ErrorEvent.messageLimit)
  { m with errorEvents := m.errorEvents.push stamp.now ⟨stamp.wall, service, category, kept⟩ }

def recordFailure (m : Monitor) (stamp : Reading) (service : String) (failure : Failure) :
    Category × Monitor :=
  let category := Category.ofFailure failure
  (category, m.recordCategorised stamp service category failure.text)

def recordErrorMessage (m : Monitor) (stamp : Reading) (service message : String) :
    Category × Monitor :=
  let category := (Category.ofMessage? message).getD .unknown
  (category, m.recordCategorised stamp service category message)

/-! ## Views -/

def perMinute (count : Nat) (window : Duration) : Float :=
  Nat.toFloat count / window.seconds * 60.0

def messageRate (m : Monitor) (now : Instant) (window : Duration) : Float :=
  if window.isZero then 0.0 else perMinute (m.messageTimes.countWithin now window) window

def errorCounts (m : Monitor) (now : Instant) (window : Duration) : ErrorCounts :=
  ErrorCounts.ofCategories ((m.errorEvents.within now window).map ErrorEvent.category)

def uptime (m : Monitor) (now : Instant) (service : String) : Duration :=
  match m.services.get? service with
  | some s => s.uptimeAt now
  | none => Duration.zero

/-- The part of the life of the monitor that `service` has been connected, in percent. -/
def uptimePercent (m : Monitor) (now : Instant) (service : String) : Float :=
  let total := now.since m.started
  if total.isZero then 0.0
  else
    let percent := (m.uptime now service).seconds / total.seconds * 100.0
    if percent < 100.0 then percent else 100.0

def isConnected (m : Monitor) (service : String) : Bool :=
  match m.services.get? service with
  | some s => s.isConnected
  | none => false

def connectedCount (m : Monitor) : Nat := (m.services.values.filter Service.isConnected).length

def recentErrors (m : Monitor) (now : Instant) : Nat :=
  m.errorEvents.countWithin now m.config.errorWindow

def status (m : Monitor) (now : Instant) : BridgeStatus :=
  if m.connectedCount = 0 then .offline
  else if m.connectedCount = m.services.size ∧
      m.recentErrors now < m.config.degradedErrorThreshold.val then .healthy
  else .degraded

def disconnectedNames (m : Monitor) : List String :=
  (m.services.entries.filter (fun e => !e.2.isConnected)).map Prod.fst

def errorRateClause (errors : Nat) : String :=
  "High error rate (" ++ Nat.repr errors ++ "/min)"

/-- The parts of the reason: each disconnected service, and then the errors if they are many. -/
def degradedClauses (m : Monitor) (now : Instant) : List String :=
  m.disconnectedNames.map (fun name => name ++ " disconnected") ++
    (if m.config.degradedErrorThreshold.val ≤ m.recentErrors now
      then [errorRateClause (m.recentErrors now)] else [])

def degradedReason? (m : Monitor) (now : Instant) : Option String :=
  match m.degradedClauses now with
  | [] => none
  | clauses => some ("; ".intercalate clauses)

/-- Some link is up and the errors are below the threshold. -/
def isHealthy (m : Monitor) (now : Instant) : Bool :=
  m.services.values.any Service.isConnected &&
    m.recentErrors now < m.config.degradedErrorThreshold.val

/-- Forwarding should halt: no link is up, or there are too many errors. -/
def shouldPause (m : Monitor) (now : Instant) : Bool :=
  m.status now == .offline || m.config.pauseErrorThreshold.val < m.recentErrors now

def recentErrorEvents (m : Monitor) (n : Nat) : List ErrorEvent := m.errorEvents.latest n

def recentConnectionEvents (m : Monitor) (n : Nat) : List ConnectionEvent :=
  m.connectionEvents.latest n

/-! ## The summary -/

structure ConnectionSummary where
  connected : Bool
  uptimePercent : Float
  reconnectCount : Nat
  lastConnected : Option Timestamp
  lastDisconnected : Option Timestamp

structure Summary where
  uptimeSeconds : Float
  connections : NameMap ConnectionSummary
  sent : DirectionCounts
  failed : DirectionCounts
  requeued : Nat
  ratePerMinute : Float
  errors : ErrorCounts
  status : BridgeStatus
  degradedReason : Option String

def connectionSummary (m : Monitor) (now : Instant) (name : String) (s : Service) :
    ConnectionSummary :=
  ⟨s.isConnected, m.uptimePercent now name, s.reconnectCount, s.lastConnected,
    s.lastDisconnected⟩

def summary (m : Monitor) (now : Instant) : Summary where
  uptimeSeconds := (now.since m.started).seconds
  connections := ⟨m.services.entries.map (fun e => (e.1, m.connectionSummary now e.1 e.2))⟩
  sent := m.sent
  failed := m.failed
  requeued := m.requeued
  ratePerMinute := perMinute (m.messageTimes.countWithin now m.config.rateWindow)
    m.config.rateWindow
  errors := m.errorCounts now m.config.rateWindow
  status := m.status now
  degradedReason := m.degradedReason? now

def ConnectionSummary.toDocument (s : ConnectionSummary) : Document :=
  .record [
    ("connected", .bool s.connected),
    ("uptime_percent", .float s.uptimePercent),
    ("reconnect_count", .nat s.reconnectCount),
    ("last_connected", .ofOption (fun t => .text t.text) s.lastConnected),
    ("last_disconnected", .ofOption (fun t => .text t.text) s.lastDisconnected)]

def Summary.toDocument (s : Summary) : Document :=
  .record [
    ("uptime_seconds", .float s.uptimeSeconds),
    ("connections", .record (s.connections.map ConnectionSummary.toDocument).entries),
    ("messages", .record [
      ("sent", s.sent.toDocument),
      ("failed", s.failed.toDocument),
      ("requeued", .nat s.requeued),
      ("rate_per_min", .float s.ratePerMinute)]),
    ("errors", s.errors.toDocument),
    ("bridge_status", s.status.toDocument),
    ("degraded_reason", .ofOption .text s.degradedReason)]

def inspect (m : Monitor) (now : Instant) : String :=
  "BridgeHealthMonitor \x7b config: " ++ m.config.inspect ++ ", status: " ++
    (m.status now).inspect ++ " \x7d"

end Monitor

end LinkReliability
