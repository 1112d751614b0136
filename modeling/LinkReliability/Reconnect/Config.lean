import LinkReliability.ConfigError

/-!
# Settings of a reconnect strategy
-/

namespace LinkReliability.Reconnect

structure Config where
  initialDelay : Duration
  /-- No delay before jitter is longer. -/
  maxDelay : Duration
  /-- Growth of the delay from one attempt to the next. -/
  multiplier : Float
  /-- How far a delay may move to either side, as a fraction of it. -/
  jitter : Float
  /-- Failed attempts after which the link is given up. -/
  maxAttempts : Count32
  /-- Length of the throughput ramp after an outage; zero turns it off. -/
  slowStartDuration : Duration
  /-- The delay between packets where the ramp begins. -/
  maxPacingDelay : Duration

namespace Config

/-- For a serial radio: slow to come back, with little airtime. -/
def meshRadio : Config where
  initialDelay := Duration.ofSecs 2
  maxDelay := Duration.ofSecs 60
  multiplier := 2.0
  jitter := 0.15
  maxAttempts := 10
  slowStartDuration := Duration.ofSecs 30
  maxPacingDelay := Duration.ofSecs 2

/-- For the overlay transport: quick to reconnect, with more bandwidth. -/
def overlayNetwork : Config where
  initialDelay := Duration.ofSecs 1
  maxDelay := Duration.ofSecs 30
  multiplier := 1.5
  jitter := 0.10
  maxAttempts := 20
  slowStartDuration := Duration.ofSecs 15
  maxPacingDelay := Duration.ofMillis 500

def standard : Config := meshRadio

def validate (c : Config) : Except ConfigError Unit :=
  ConfigError.check [
    (!c.initialDelay.isZero, ConfigError.mustBePositive "initial_delay"),
    (c.initialDelay ≤ c.maxDelay, ⟨"max_delay", "must be >= initial_delay"⟩),
    (c.multiplier.isFinite && 1.0 ≤ c.multiplier,
      ⟨"multiplier", "must be a finite value >= 1.0"⟩),
    (0.0 ≤ c.jitter && c.jitter < 1.0, ⟨"jitter", "must be in [0.0, 1.0)"⟩),
    (0 < c.maxAttempts.val, ConfigError.mustBePositive "max_attempts")]

/-- A call of the builder. -/
inductive Setting where
  | initialDelay (d : Duration)
  | maxDelay (d : Duration)
  | multiplier (x : Float)
  | jitter (x : Float)
  | noJitter
  | maxAttempts (n : Count32)
  | slowStart (duration maxPacingDelay : Duration)

def set (c : Config) : Setting → Config
  | .initialDelay d => { c with initialDelay := d }
  | .maxDelay d => { c with maxDelay := d }
  | .multiplier x => { c with multiplier := x }
  | .jitter x => { c with jitter := x }
  | .noJitter => { c with jitter := 0.0 }
  | .maxAttempts n => { c with maxAttempts := n }
  | .slowStart duration maxPacingDelay =>
    { c with slowStartDuration := duration, maxPacingDelay := maxPacingDelay }

/-- The standard settings with changes made one after the other, if they are valid in the end. -/
def build (settings : List Setting) : Except ConfigError Config :=
  ConfigError.checked validate (settings.foldl set standard)

def fieldNames : List String :=
  ["initial_delay", "max_delay", "multiplier", "jitter", "max_attempts", "slow_start_duration",
    "max_pacing_delay"]

def ofDocument? (d : Document) : Option Config :=
  match d.fields? fieldNames with
  | some [initial, max, multiplier, jitter, attempts, slowStart, pacing] => do
    let initial ← Document.optional? standard.initialDelay Document.duration? initial
    let max ← Document.optional? standard.maxDelay Document.duration? max
    let multiplier ← Document.optional? standard.multiplier Document.float? multiplier
    let jitter ← Document.optional? standard.jitter Document.float? jitter
    let attempts ← Document.optional? standard.maxAttempts Document.count32? attempts
    let slowStart ← Document.optional? standard.slowStartDuration Document.duration? slowStart
    let pacing ← Document.optional? standard.maxPacingDelay Document.duration? pacing
    some ⟨initial, max, multiplier, jitter, attempts, slowStart, pacing⟩
  | _ => none

def toDocument (c : Config) : Document :=
  .record [
    ("initial_delay", .ofDuration c.initialDelay),
    ("max_delay", .ofDuration c.maxDelay),
    ("multiplier", .float c.multiplier),
    ("jitter", .float c.jitter),
    ("max_attempts", .ofCount c.maxAttempts),
    ("slow_start_duration", .ofDuration c.slowStartDuration),
    ("max_pacing_delay", .ofDuration c.maxPacingDelay)]

def inspect (c : Config) : String :=
  "ReconnectConfig \x7b initial_delay: " ++ c.initialDelay.text ++
    ", max_delay: " ++ c.maxDelay.text ++
    ", multiplier: " ++ Decimal.general c.multiplier ++
    ", jitter: " ++ Decimal.general c.jitter ++
    ", max_attempts: " ++ Nat.repr c.maxAttempts.val ++
    ", slow_start_duration: " ++ c.slowStartDuration.text ++
    ", max_pacing_delay: " ++ c.maxPacingDelay.text ++ " \x7d"

end Config

end LinkReliability.Reconnect
