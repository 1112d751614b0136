import LinkReliability.ConfigError

/-!
# Settings of a circuit breaker
-/

namespace LinkReliability.Breaker

structure Config where
  /-- Failures in a row that open the breaker. -/
  failureThreshold : Count32
  /-- How long the breaker stays open. -/
  recoveryTimeout : Duration
deriving DecidableEq, Repr

namespace Config

def standard : Config := ⟨5, Duration.ofSecs 30⟩

def validate (c : Config) : Except ConfigError Unit :=
  ConfigError.check [
    (0 < c.failureThreshold.val, ConfigError.mustBePositive "failure_threshold"),
    (!c.recoveryTimeout.isZero, ConfigError.mustBePositive "recovery_timeout")]

/-- A call of the builder. -/
inductive Setting where
  | failureThreshold (n : Count32)
  | recoveryTimeout (d : Duration)

def set (c : Config) : Setting → Config
  | .failureThreshold n => { c with failureThreshold := n }
  | .recoveryTimeout d => { c with recoveryTimeout := d }

/-- The standard settings with changes made one after the other, if they are valid in the end. -/
def build (settings : List Setting) : Except ConfigError Config :=
  ConfigError.checked validate (settings.foldl set standard)

def fieldNames : List String := ["failure_threshold", "recovery_timeout"]

def ofDocument? (d : Document) : Option Config :=
  match d.fields? fieldNames with
  | some [threshold, timeout] => do
    let threshold ← Document.optional? standard.failureThreshold Document.count32? threshold
    let timeout ← Document.optional? standard.recoveryTimeout Document.duration? timeout
    some ⟨threshold, timeout⟩
  | _ => none

def toDocument (c : Config) : Document :=
  .record [
    ("failure_threshold", .ofCount c.failureThreshold),
    ("recovery_timeout", .ofDuration c.recoveryTimeout)]

def inspect (c : Config) : String :=
  "CircuitBreakerConfig \x7b failure_threshold: " ++ Nat.repr c.failureThreshold.val ++
    ", recovery_timeout: " ++ c.recoveryTimeout.text ++ " \x7d"

end Config

end LinkReliability.Breaker
