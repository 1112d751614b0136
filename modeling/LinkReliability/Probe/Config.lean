import LinkReliability.ConfigError

/-!
# Settings of the health probe
-/

namespace LinkReliability.Probe

structure Config where
  /-- The pause between two cycles. -/
  interval : Duration
  /-- Failures in a row that make a service unhealthy. -/
  fails : Count32
  /-- Passes in a row that make a service healthy. -/
  passes : Count32
  /-- How long a single check may take. -/
  checkTimeout : Duration
deriving DecidableEq, Repr

namespace Config

def standard : Config := ⟨Duration.ofSecs 30, 3, 2, Duration.ofSecs 10⟩

def validate (c : Config) : Except ConfigError Unit :=
  ConfigError.check [
    (!c.interval.isZero, ConfigError.mustBePositive "interval"),
    (0 < c.fails.val, ConfigError.mustBePositive "fails"),
    (0 < c.passes.val, ConfigError.mustBePositive "passes"),
    (!c.checkTimeout.isZero, ConfigError.mustBePositive "check_timeout")]

/-- A call of the builder. -/
inductive Setting where
  | interval (d : Duration)
  | fails (n : Count32)
  | passes (n : Count32)
  | checkTimeout (d : Duration)

def set (c : Config) : Setting → Config
  | .interval d => { c with interval := d }
  | .fails n => { c with fails := n }
  | .passes n => { c with passes := n }
  | .checkTimeout d => { c with checkTimeout := d }

/-- The standard settings with changes made one after the other, if they are valid in the end. -/
def build (settings : List Setting) : Except ConfigError Config :=
  ConfigError.checked validate (settings.foldl set standard)

def fieldNames : List String := ["interval", "fails", "passes", "check_timeout"]

def ofDocument? (d : Document) : Option Config :=
  match d.fields? fieldNames with
  | some [interval, fails, passes, timeout] => do
    let interval ← Document.optional? standard.interval Document.duration? interval
    let fails ← Document.optional? standard.fails Document.count32? fails
    let passes ← Document.optional? standard.passes Document.count32? passes
    let timeout ← Document.optional? standard.checkTimeout Document.duration? timeout
    some ⟨interval, fails, passes, timeout⟩
  | _ => none

def toDocument (c : Config) : Document :=
  .record [
    ("interval", .ofDuration c.interval),
    ("fails", .ofCount c.fails),
    ("passes", .ofCount c.passes),
    ("check_timeout", .ofDuration c.checkTimeout)]

def inspect (c : Config) : String :=
  "ProbeConfig \x7b interval: " ++ c.interval.text ++ ", fails: " ++ Nat.repr c.fails.val ++
    ", passes: " ++ Nat.repr c.passes.val ++ ", check_timeout: " ++ c.checkTimeout.text ++ " \x7d"

end Config

end LinkReliability.Probe
