import LinkReliability.Breaker
import LinkReliability.Link.Config
import LinkReliability.LinkError
import LinkReliability.Monitor
import LinkReliability.Queue
import LinkReliability.Reconnect

/-!
# Links

A link joins a breaker, a reconnect strategy and a transmit queue, and reports to the monitor of
the bridge. Packets are let in by the breaker, paced by the strategy, and the outcome of each send
is told to the breaker and to the monitor.
-/

namespace LinkReliability

structure Link where
  name : String
  outbound : Direction
  breaker : Breaker
  strategy : Reconnect
  queue : Queue

namespace Link

def create (name : String) (config : Config) : Except ConfigError Link := do
  let breaker ← Breaker.create name config.breaker
  let strategy ← Reconnect.create name config.reconnect
  let queue ← Queue.create name config.queue
  return ⟨name, config.outbound, breaker, strategy, queue⟩

/-- A packet is refused while the breaker is open, and when the queue is full. -/
def submit (now : Instant) (p : Packet) (l : Link) : Except LinkError Unit × Link :=
  let (allowed, breaker) := l.breaker.allowRequest now
  let l := { l with breaker := breaker }
  if allowed then
    match l.queue.enqueue p with
    | (true, queue) => (.ok (), { l with queue := queue })
    | (false, queue) => (.error (.queueFull l.name), { l with queue := queue })
  else (.error (.circuitOpen l.name), l)

/-! ## Sends -/

/-- The failure that a send is reported with, if its text can be formatted. A panic is reported as
a failure of its own. -/
def sendFailure? : Outcome Unit → Option Failure
  | .failed f => some f
  | .panicked m => some (Failure.ofText (panicText m))
  | _ => none

def isSuccess : Outcome Unit → Bool
  | .done _ => true
  | _ => false

/-- Tells the breaker and the monitor how a send ended. A failure that cannot be formatted counts,
but leaves no error event. -/
def reportSend (stamp : Reading) (o : Outcome Unit) (l : Link) (m : Monitor) : Link × Monitor :=
  if isSuccess o then
    ({ l with breaker := l.breaker.recordSuccess }, m.recordSent stamp.now l.outbound)
  else
    let l := { l with breaker := l.breaker.recordFailure stamp.now }
    let m := m.recordFailed l.outbound false
    match sendFailure? o with
    | some f => (l, (m.recordFailure stamp l.name f).2)
    | none => (l, m)

/-! ## Connecting -/

inductive ConnectPhase where
  | idle
  | attempting (number : Nat)
  | backingOff (delay : Duration)
  | connected
  | failed (error : LinkError)
  /-- The connector panicked, or its failure could not be formatted. -/
  | unwound
deriving DecidableEq

structure Connecting where
  calls : Nat
  phase : ConnectPhase
deriving DecidableEq

namespace Connecting

def fresh : Connecting := ⟨0, .idle⟩

def isOver (c : Connecting) : Bool :=
  match c.phase with
  | .connected => true
  | .failed _ => true
  | .unwound => true
  | _ => false

end Connecting

/-- Calls the connector once more. Attempts are numbered from the first failure on. -/
def beginAttempt (l : Link) (c : Connecting) : Connecting :=
  match c.phase with
  | .idle => ⟨c.calls + 1, .attempting (l.strategy.attempts + 1)⟩
  | _ => c

def attemptText (number : Nat) : String := "attempt " ++ Nat.repr number

/-- The connection stands: the attempts are cleared, and the breaker is closed. -/
def attemptSucceeded (stamp : Reading) (number : Nat) (l : Link) (m : Monitor) : Link × Monitor :=
  ({ l with
      strategy := l.strategy.recordSuccess stamp.now
      breaker := l.breaker.reset },
    m.recordConnectionEvent stamp l.name .connected (attemptText number))

/-- The failure is recorded, and the delay is the one for the attempts before it. The link is given
up when the attempts are spent. -/
def attemptFailed (stamp : Reading) (number : Nat) (f : Failure) (offset : Float) (l : Link)
    (m : Monitor) : ConnectPhase × Link × Monitor :=
  let (_, m) := m.recordFailure stamp l.name f
  let m := m.recordConnectionEvent stamp l.name .retry (attemptText number ++ ": " ++ f.text)
  let delay := l.strategy.delay l.strategy.attempts offset
  let l := { l with strategy := l.strategy.recordFailure }
  if l.strategy.shouldRetry then (.backingOff delay, l, m)
  else (.failed (.attemptsExhausted l.name number), l, m)

/-- The outcome of the attempt under way; `offset` is the jitter of the delay that follows. -/
def endAttempt (stamp : Reading) (o : Outcome Unit) (offset : Float) (c : Connecting) (l : Link)
    (m : Monitor) : Connecting × Link × Monitor :=
  match c.phase with
  | .attempting number =>
    match o with
    | .done _ => (⟨c.calls, .connected⟩, l.attemptSucceeded stamp number m)
    | .failed f =>
      let (phase, l, m) := l.attemptFailed stamp number f offset m
      (⟨c.calls, phase⟩, l, m)
    | _ => (⟨c.calls, .unwound⟩, l, m)
  | _ => (c, l, m)

def endBackOff (c : Connecting) : Connecting :=
  match c.phase with
  | .backingOff _ => ⟨c.calls, .idle⟩
  | _ => c

/-- The loop is cut short, in an attempt or in a back-off. -/
def cancelConnecting (l : Link) (c : Connecting) : Connecting :=
  if c.isOver then c else ⟨c.calls, .failed (.cancelled l.name)⟩

def markDisconnected (stamp : Reading) (detail : String) (l : Link) (m : Monitor) : Monitor :=
  m.recordConnectionEvent stamp l.name .disconnected detail

/-! ## Reports -/

def snapshot (now : Instant) (l : Link) : Document × Link :=
  let (breaker, b) := l.breaker.snapshot now
  (.record [
    ("name", .text l.name),
    ("breaker", breaker.toDocument),
    ("reconnect", (l.strategy.snapshot now).toDocument),
    ("queue", l.queue.stats.toDocument)], { l with breaker := b })

def inspect (now : Instant) (l : Link) (m : Monitor) : String × Link :=
  let (breaker, b) := l.breaker.inspect now
  ("LinkGuard \x7b name: " ++ Text.quoted l.name ++ ", breaker: " ++ breaker ++ ", strategy: " ++
    l.strategy.inspect ++ ", queue: " ++ l.queue.inspect ++ ", monitor: " ++ m.inspect now ++
    " \x7d", { l with breaker := b })

end Link

end LinkReliability
