import LinkReliability.Breaker.Config
import LinkReliability.Clock
import LinkReliability.Text.Quoted

/-!
# The circuit breaker of a link

The breaker counts failures in a row and opens when they reach the threshold. An open breaker
rejects requests; the first read after the recovery timeout finds it half open, and then the next
success closes it and the next failure opens it again. Nothing runs in the background.

An operation reads the clock once, and where it needs the time again it takes the same reading: the
clock stands still within an operation.
-/

namespace LinkReliability

inductive CircuitState where
  | closed
  | opened
  | halfOpen
deriving DecidableEq, Repr

namespace CircuitState

def name : CircuitState → String
  | closed => "closed"
  | opened => "open"
  | halfOpen => "half_open"

def named? : String → Option CircuitState
  | "closed" => some closed
  | "open" => some opened
  | "half_open" => some halfOpen
  | _ => none

def label : CircuitState → String
  | closed => "CLOSED"
  | opened => "OPEN"
  | halfOpen => "HALF_OPEN"

def inspect : CircuitState → String
  | closed => "Closed"
  | opened => "Open"
  | halfOpen => "HalfOpen"

def ofDocument? : Document → Option CircuitState := Document.choice? named?

def toDocument (s : CircuitState) : Document := .text s.name

end CircuitState

/-- The largest value of a failure or attempt counter; counting stops there. -/
def counterMax : Nat := Nat.pow 2 32 - 1

def countUp (n : Nat) : Nat := if n < counterMax then n + 1 else counterMax

theorem countUp_of_lt {n : Nat} (h : n < counterMax) : countUp n = n + 1 := if_pos h

theorem countUp_min (n : Nat) : countUp (min n counterMax) = min (n + 1) counterMax := by
  unfold countUp
  split <;> omega

namespace Breaker

inductive Phase where
  | closed
  | opened (since : Instant)
  | halfOpen
deriving DecidableEq, Repr

def Phase.state : Phase → CircuitState
  | closed => .closed
  | opened _ => .opened
  | halfOpen => .halfOpen

end Breaker

structure Breaker where
  name : String
  config : Breaker.Config
  phase : Breaker.Phase
  failures : Nat
deriving DecidableEq, Repr

namespace Breaker

def create (name : String) (config : Config) : Except ConfigError Breaker := do
  config.validate
  return ⟨name, config, .closed, 0⟩

/-- An open breaker whose recovery timeout is over becomes half open. -/
def refresh (now : Instant) (b : Breaker) : Breaker :=
  match b.phase with
  | .opened since =>
    if b.config.recoveryTimeout ≤ now.since since then { b with phase := .halfOpen } else b
  | _ => b

def state (now : Instant) (b : Breaker) : CircuitState × Breaker :=
  let b := b.refresh now
  (b.phase.state, b)

def allowRequest (now : Instant) (b : Breaker) : Bool × Breaker :=
  let (state, b) := b.state now
  (state != .opened, b)

def recordSuccess (b : Breaker) : Breaker := { b with phase := .closed, failures := 0 }

def recordFailure (now : Instant) (b : Breaker) : Breaker :=
  let b := b.refresh now
  let b := { b with failures := countUp b.failures }
  match b.phase with
  | .halfOpen => { b with phase := .opened now }
  | .closed =>
    if b.config.failureThreshold.val ≤ b.failures then { b with phase := .opened now } else b
  | .opened _ => b

def reset (b : Breaker) : Breaker := { b with phase := .closed, failures := 0 }

/-! ## Reports -/

structure Snapshot where
  state : CircuitState
  failures : Nat
  failureThreshold : Count32
  recoveryTimeout : Duration
  /-- Time until an open breaker lets a request through, and zero in the other states. -/
  retryIn : Duration
deriving DecidableEq, Repr

def snapshot (now : Instant) (b : Breaker) : Snapshot × Breaker :=
  let b := b.refresh now
  let retryIn :=
    match b.phase with
    | .opened since => b.config.recoveryTimeout - now.since since
    | _ => Duration.zero
  (⟨b.phase.state, b.failures, b.config.failureThreshold, b.config.recoveryTimeout, retryIn⟩, b)

def Snapshot.toDocument (s : Snapshot) : Document :=
  .record [
    ("state", s.state.toDocument),
    ("failures", .nat s.failures),
    ("failure_threshold", .ofCount s.failureThreshold),
    ("recovery_timeout", .ofDuration s.recoveryTimeout),
    ("retry_in", .ofDuration s.retryIn)]

/-- The breaker in one line of text; the state is read for it. -/
def inspect (now : Instant) (b : Breaker) : String × Breaker :=
  let (state, b) := b.state now
  ("CircuitBreaker \x7b name: " ++ Text.quoted b.name ++ ", config: " ++ b.config.inspect ++
    ", state: " ++ state.inspect ++ ", failures: " ++ Nat.repr b.failures ++ " \x7d", b)

end Breaker

end LinkReliability
