import LinkReliability.Bridge.Config
import LinkReliability.Link
import LinkReliability.Probe

/-!
# Bridges

A bridge owns the monitor and the probe that its links share. A link is known by its number, which
it keeps for good: after its name has been given to another one, or to none, its worker may still
be at work and the probe may still read its breaker.
-/

namespace LinkReliability

structure Bridge where
  monitor : Monitor
  probe : Probe
  /-- Every link that was ever opened. -/
  links : List Link
  /-- The numbers of the links that are open. -/
  opened : NameMap Nat

namespace Bridge

/-- The settings of the monitor are checked before those of the probe. -/
def create (config : Config) (now : Instant) : Except ConfigError Bridge := do
  let monitor ← Monitor.create config.monitor now
  let probe ← Probe.create config.probe
  return ⟨monitor, probe, [], NameMap.empty⟩

def link? (b : Bridge) (k : Nat) : Option Link := b.links[k]?

def setLink (b : Bridge) (k : Nat) (l : Link) : Bridge := { b with links := b.links.set k l }

/-- Nobody holds link `k` any more: its worker, if it is tracked, is told to stop. -/
def abandon (k : Nat) (b : Bridge) : Bridge :=
  match b.link? k with
  | some l =>
    if l.queue.tracked.isSome then b.setLink k { l with queue := l.queue.cancel } else b
  | none => b

/-- The new link takes the name over from the old one, if there is one. The probe checks its
breaker, unless a check has that name already. -/
def openLink (name : String) (config : Link.Config) (b : Bridge) : Except ConfigError Bridge := do
  let link ← Link.create name config
  let k := b.links.length
  let probe :=
    if b.probe.services.contains name then b.probe else b.probe.register name (.breaker k)
  let next := { b with
    probe := probe
    links := b.links ++ [link]
    opened := b.opened.insert name k }
  match b.opened.get? name with
  | some old => return next.abandon old
  | none => return next

def dropLink (name : String) (b : Bridge) : Bool × Bridge :=
  match b.opened.get? name with
  | some k => (true, { b with opened := b.opened.erase name }.abandon k)
  | none => (false, b)

def breakerVerdict (now : Instant) (k : Nat) (b : Bridge) : Probe.Verdict × Bridge :=
  match b.link? k with
  | some l =>
    let (state, breaker) := l.breaker.state now
    let b := b.setLink k { l with breaker := breaker }
    match state with
    | .closed => (⟨true, "circuit_closed"⟩, b)
    | .halfOpen => (⟨true, "circuit_half_open"⟩, b)
    | .opened => (⟨false, "circuit_open"⟩, b)
  | none => (⟨true, "circuit_closed"⟩, b)

def reportSend (stamp : Reading) (k : Nat) (o : Outcome Unit) (b : Bridge) : Bridge :=
  match b.link? k with
  | some l =>
    let (l, monitor) := l.reportSend stamp o b.monitor
    { b with monitor := monitor }.setLink k l
  | none => b

def report (now : Instant) (b : Bridge) : Document :=
  .record [("bridge", (b.monitor.summary now).toDocument), ("probes", b.probe.allStatus)]

end Bridge

end LinkReliability
