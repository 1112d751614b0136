import LinkReliability.ConfigError
import LinkReliability.Text.Quoted

/-!
# Settings of the health monitor
-/

namespace LinkReliability.Monitor

structure Config where
  /-- The services that are known from the start. -/
  services : List String
  /-- How many entries each log keeps. -/
  windowSize : Count64
  /-- How far back the errors count that decide the status. -/
  errorWindow : Duration
  /-- The number of errors at which the bridge is degraded. -/
  degradedErrorThreshold : Count64
  /-- The number of errors above which bridging pauses. -/
  pauseErrorThreshold : Count64
  /-- How far back the rates of the summary look. -/
  rateWindow : Duration
deriving DecidableEq, Repr

namespace Config

def standard : Config where
  services := ["mesh", "overlay"]
  windowSize := 1000
  errorWindow := Duration.ofSecs 60
  degradedErrorThreshold := 10
  pauseErrorThreshold := 20
  rateWindow := Duration.ofSecs 300

def validate (c : Config) : Except ConfigError Unit :=
  ConfigError.check [
    (!c.services.isEmpty, ⟨"services", "at least one service is required"⟩),
    (0 < c.windowSize.val, ConfigError.mustBePositive "window_size"),
    (!c.errorWindow.isZero, ConfigError.mustBePositive "error_window"),
    (!c.rateWindow.isZero, ConfigError.mustBePositive "rate_window"),
    (0 < c.degradedErrorThreshold.val, ConfigError.mustBePositive "degraded_error_threshold"),
    (c.degradedErrorThreshold ≤ c.pauseErrorThreshold,
      ⟨"pause_error_threshold", "must be >= degraded_error_threshold"⟩)]

/-- A call of the builder. -/
inductive Setting where
  | services (names : List String)
  | windowSize (n : Count64)
  | errorWindow (d : Duration)
  | errorThresholds (degraded pause : Count64)
  | rateWindow (d : Duration)

def set (c : Config) : Setting → Config
  | .services names => { c with services := names }
  | .windowSize n => { c with windowSize := n }
  | .errorWindow d => { c with errorWindow := d }
  | .errorThresholds degraded pause =>
    { c with degradedErrorThreshold := degraded, pauseErrorThreshold := pause }
  | .rateWindow d => { c with rateWindow := d }

/-- The standard settings with changes made one after the other, if they are valid in the end. -/
def build (settings : List Setting) : Except ConfigError Config :=
  ConfigError.checked validate (settings.foldl set standard)

def fieldNames : List String :=
  ["services", "window_size", "error_window", "degraded_error_threshold",
    "pause_error_threshold", "rate_window"]

def ofDocument? (d : Document) : Option Config :=
  match d.fields? fieldNames with
  | some [services, size, errorWindow, degraded, pause, rateWindow] => do
    let services ← Document.optional? standard.services Document.texts? services
    let size ← Document.optional? standard.windowSize Document.count64? size
    let errorWindow ← Document.optional? standard.errorWindow Document.duration? errorWindow
    let degraded ← Document.optional? standard.degradedErrorThreshold Document.count64? degraded
    let pause ← Document.optional? standard.pauseErrorThreshold Document.count64? pause
    let rateWindow ← Document.optional? standard.rateWindow Document.duration? rateWindow
    some ⟨services, size, errorWindow, degraded, pause, rateWindow⟩
  | _ => none

def toDocument (c : Config) : Document :=
  .record [
    ("services", .ofTexts c.services),
    ("window_size", .ofCount c.windowSize),
    ("error_window", .ofDuration c.errorWindow),
    ("degraded_error_threshold", .ofCount c.degradedErrorThreshold),
    ("pause_error_threshold", .ofCount c.pauseErrorThreshold),
    ("rate_window", .ofDuration c.rateWindow)]

def inspect (c : Config) : String :=
  "MonitorConfig \x7b services: " ++ Text.quotedList c.services ++
    ", window_size: " ++ Nat.repr c.windowSize.val ++
    ", error_window: " ++ c.errorWindow.text ++
    ", degraded_error_threshold: " ++ Nat.repr c.degradedErrorThreshold.val ++
    ", pause_error_threshold: " ++ Nat.repr c.pauseErrorThreshold.val ++
    ", rate_window: " ++ c.rateWindow.text ++ " \x7d"

end Config

end LinkReliability.Monitor
