import LinkReliability.Breaker
import LinkReliability.Reconnect.Config

/-!
# The reconnect strategy of a link

While a link is down the strategy says how long to wait before the next attempt: the delay grows
geometrically up to a bound and is moved by a random jitter. When a link comes back after at least
one failed attempt, the transmit path is throttled along a linear ramp.
-/

namespace LinkReliability

structure Reconnect where
  name : String
  config : Reconnect.Config
  attempts : Nat
  /-- When the latest ramp began; a ramp that is over is kept. -/
  rampStart : Option Instant

namespace Reconnect

def create (name : String) (config : Config) : Except ConfigError Reconnect := do
  config.validate
  return ⟨name, config, 0, none⟩

/-! ## Delays -/

/-- Powers by repeated squaring; `acc` holds the factors already taken. -/
def powerFrom (acc base : Float) (n : Nat) : Float :=
  let acc := if n % 2 = 1 then acc * base else acc
  if h : n / 2 = 0 then acc else powerFrom acc (base * base) (n / 2)
termination_by n
decreasing_by omega

def maxExponent : Nat := Nat.pow 2 31 - 1

def power (base : Float) (n : Nat) : Float :=
  powerFrom 1.0 base (if n ≤ maxExponent then n else maxExponent)

/-- The smaller of two numbers, and the second if the first is no number. -/
def lesser (x y : Float) : Float := if x < y then x else y

/-- The delay before jitter: `initial · multiplier ^ attempt`, at most the longest delay. -/
def baseDelay (s : Reconnect) (attempt : Nat) : Duration :=
  let grown := s.config.initialDelay.seconds * power s.config.multiplier attempt
  (Duration.ofSeconds? (lesser grown s.config.maxDelay.seconds)).getD s.config.maxDelay

/-- The largest distance, in seconds, between a delay and its base. -/
def jitterRange (s : Reconnect) (attempt : Nat) : Float :=
  (s.baseDelay attempt).seconds * s.config.jitter

/-- The delay for `attempt`, moved by `offset` seconds that were drawn from the jitter range. If the
range is empty nothing is drawn and the delay stays where it is. -/
def delay (s : Reconnect) (attempt : Nat) (offset : Float) : Duration :=
  let offset := if 0.0 < s.jitterRange attempt then offset else 0.0
  let moved := (s.baseDelay attempt).seconds + offset
  (Duration.ofSeconds? (if moved < 0.0 then 0.0 else moved)).getD Duration.zero

def hasJitter (s : Reconnect) : Bool := 0.0 < s.config.jitter

/-! ## Attempts -/

def shouldRetry (s : Reconnect) : Bool := s.attempts < s.config.maxAttempts.val

def recordFailure (s : Reconnect) : Reconnect := { s with attempts := countUp s.attempts }

/-- A success after failed attempts begins a new ramp. -/
def recordSuccess (now : Instant) (s : Reconnect) : Reconnect :=
  let recovered := 0 < s.attempts ∧ ¬ s.config.slowStartDuration.isZero
  { s with attempts := 0, rampStart := if recovered then some now else s.rampStart }

def reset (s : Reconnect) : Reconnect := { s with attempts := 0, rampStart := none }

/-! ## The ramp -/

/-- The time since the beginning of the ramp, as long as the ramp lasts. -/
def rampAge? (now : Instant) (s : Reconnect) : Option Duration :=
  s.rampStart.bind (fun start =>
    let age := now.since start
    if s.config.slowStartDuration.isZero ∨ s.config.slowStartDuration ≤ age then none
    else some age)

def rampFloor : Float := 0.1

def rampFactor (age length : Duration) : Float :=
  let factor := rampFloor + (1.0 - rampFloor) * (age.seconds / length.seconds)
  if factor < rampFloor then rampFloor else if 1.0 < factor then 1.0 else factor

/-- The part of the full throughput that is allowed at `now`. -/
def throughputFactor (now : Instant) (s : Reconnect) : Float :=
  match s.rampAge? now with
  | none => 1.0
  | some age => rampFactor age s.config.slowStartDuration

def pacingFor (s : Reconnect) (factor : Float) : Duration :=
  let rest := 1.0 - factor
  s.config.maxPacingDelay.scale (if rest < 0.0 then 0.0 else rest)

/-- How long the transmit path waits before each packet. -/
def interPacketDelay (now : Instant) (s : Reconnect) : Duration :=
  s.pacingFor (s.throughputFactor now)

def inSlowStart (now : Instant) (s : Reconnect) : Bool := s.throughputFactor now < 1.0

/-! ## Reports -/

structure Snapshot where
  attempts : Nat
  maxAttempts : Count32
  throughputFactor : Float
  interPacketDelay : Duration
  inSlowStart : Bool

def snapshot (now : Instant) (s : Reconnect) : Snapshot :=
  ⟨s.attempts, s.config.maxAttempts, s.throughputFactor now, s.interPacketDelay now,
    s.inSlowStart now⟩

def Snapshot.toDocument (s : Snapshot) : Document :=
  .record [
    ("attempts", .nat s.attempts),
    ("max_attempts", .ofCount s.maxAttempts),
    ("throughput_factor", .float s.throughputFactor),
    ("inter_packet_delay", .ofDuration s.interPacketDelay),
    ("in_slow_start", .bool s.inSlowStart)]

def inspect (s : Reconnect) : String :=
  "ReconnectStrategy \x7b name: " ++ Text.quoted s.name ++ ", config: " ++ s.config.inspect ++
    ", attempts: " ++ Nat.repr s.attempts ++ " \x7d"

end Reconnect

end LinkReliability
