import LinkReliability.Monitor.Config
import LinkReliability.Probe.Config

/-!
# Settings of a bridge
-/

namespace LinkReliability.Bridge

structure Config where
  monitor : Monitor.Config
  probe : Probe.Config
deriving DecidableEq, Repr

namespace Config

def standard : Config := ⟨Monitor.Config.standard, Probe.Config.standard⟩

def fieldNames : List String := ["monitor", "probe"]

def ofDocument? (d : Document) : Option Config :=
  match d.fields? fieldNames with
  | some [monitor, probe] => do
    let monitor ← Document.optional? standard.monitor Monitor.Config.ofDocument? monitor
    let probe ← Document.optional? standard.probe Probe.Config.ofDocument? probe
    some ⟨monitor, probe⟩
  | _ => none

def toDocument (c : Config) : Document :=
  .record [("monitor", c.monitor.toDocument), ("probe", c.probe.toDocument)]

end Config

end LinkReliability.Bridge
