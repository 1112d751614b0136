import LinkReliability.Probe
import LinkReliability.Text.Input

/-!
# Checks of ports and system units

A port is healthy when a connection to it succeeds. For a system unit the service manager is asked
whether it is active. What it prints decides; its exit code does not.
-/

namespace LinkReliability.Check

namespace TcpPort

/-- How the connect went. -/
inductive Answer where
  | connected
  | refused (code : Nat)
  /-- The socket failed for a reason that has no number. -/
  | failed (text : String)
  | timedOut

def verdict : Answer → Probe.Verdict
  | .connected => ⟨true, "connected"⟩
  | .refused code => ⟨false, "connect_failed_" ++ Nat.repr code⟩
  | .failed text => ⟨false, "socket_error: " ++ text⟩
  | .timedOut => ⟨false, "timeout"⟩

end TcpPort

namespace SystemUnit

def arguments (unit : String) : List String := ["is-active", unit]

/-- How the command went. -/
inductive Answer where
  | printed (output : List UInt8)
  | notFound
  | failed (text : String)
  | timedOut

/-- The number of characters of a failure that are kept. -/
def reasonLimit : Nat := 100

/-- No argument of a command can hold a NUL. -/
def refusal? (unit : String) : Option Answer :=
  if unit.toList.contains (Char.ofNat 0) then some (.failed "nul byte found in provided data")
  else none

def verdict : Answer → Probe.Verdict
  | .printed output =>
    let status := String.ofList (Text.trim (Text.decodeUtf8 output))
    if status = "active" then ⟨true, "active"⟩ else ⟨false, "status_" ++ status⟩
  | .notFound => ⟨false, "systemctl_not_found"⟩
  | .failed text => ⟨false, String.ofList (text.toList.take reasonLimit)⟩
  | .timedOut => ⟨false, "timeout"⟩

/-- The verdict on a unit, where `ask` runs the command with its arguments. -/
def check (unit : String) (ask : List String → Answer) : Probe.Verdict :=
  verdict ((refusal? unit).getD (ask (arguments unit)))

end SystemUnit

end LinkReliability.Check
