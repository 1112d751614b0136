import LinkReliability.Clock
import LinkReliability.Collaborator
import LinkReliability.Health
import LinkReliability.NameMap
import LinkReliability.Probe.Config
import LinkReliability.Text.Quoted

/-!
# The health probe

Checks are registered by name. A loop runs them one after the other in the order of their names,
then pauses and starts again; a single check can also be run by hand. Each result is folded into
the health of its service, and subscribers hear of the transitions. As with the queue, all that
happens is one of a few small steps.
-/

namespace LinkReliability

namespace Probe

structure Verdict where
  healthy : Bool
  reason : String
deriving DecidableEq, Repr

inductive Check where
  | scripted (script : Script Verdict)
  /-- The check that reads the breaker of a link, by the number of the link. -/
  | breaker (link : Nat)
deriving DecidableEq

structure Registration where
  check : Check
  health : Health
deriving DecidableEq

/-! ## Subscribers -/

inductive Event where
  | stateChange
  | healthy
  | unhealthy
deriving DecidableEq, Repr

namespace Event

def covers : Event → HealthState → Bool
  | stateChange, _ => true
  | healthy, s => s = .healthy
  | unhealthy, s => s = .unhealthy

end Event

structure Subscription where
  id : String
  event : Event
  /-- Whether the subscriber panics once it has heard. -/
  panics : Bool
deriving DecidableEq, Repr

structure Delivery where
  id : String
  service : String
  state : HealthState
deriving DecidableEq, Repr

/-- The subscribers that hear of a transition, in the order of their subscription. A panic of one
stays with it. -/
def deliveries (subscriptions : List Subscription) (service : String) (state : HealthState) :
    List Delivery :=
  (subscriptions.filter (fun s => s.event.covers state)).map (fun s => ⟨s.id, service, state⟩)

/-! ## Checks under way -/

structure CheckRun where
  service : String
  started : Instant
  call : Call Verdict
  deadline : Tick
deriving DecidableEq

namespace CheckRun

/-- A check that ends together with its deadline is in time. -/
def timedOut (r : CheckRun) : Bool := r.deadline < r.call.ends

def ends (r : CheckRun) : Tick := if r.timedOut then r.deadline else r.call.ends

/-- How far the check moves the clock. A check that is given up does nothing more. -/
def advance (r : CheckRun) : Duration := if r.timedOut then Duration.zero else r.call.advance

/-- The verdict that counts. There is none when the text of a failure cannot be formatted. -/
def verdict? (r : CheckRun) : Option Verdict :=
  if r.timedOut then some ⟨false, "timeout"⟩
  else
    match r.call.outcome with
    | .done v => some v
    | .failed f => some ⟨false, "check_exception: " ++ f.text⟩
    | .panicked m => some ⟨false, "check_exception: " ++ panicText m⟩
    | .unprintable => none

end CheckRun

/-! ## The loop -/

inductive LoopPhase where
  | top
  /-- Within a cycle, with the services still to be checked. -/
  | cycle (rest : List String)
  | checking (run : CheckRun) (rest : List String)
  | pausing (wake : Tick)
  | finished
deriving DecidableEq

structure Loop where
  cancelled : Bool
  phase : LoopPhase
deriving DecidableEq

namespace Loop

def spawned : Loop := ⟨false, .top⟩

def isFinished (l : Loop) : Bool := l.phase = .finished

end Loop

end Probe

structure Probe where
  config : Probe.Config
  services : NameMap Probe.Registration
  subscriptions : List Probe.Subscription
  /-- What subscribers have heard, oldest first. -/
  delivered : List Probe.Delivery
  loopErrors : Nat
  /-- Every loop that was ever started, the latest last. -/
  loops : List Probe.Loop
  /-- The loop that the next stop will take. -/
  tracked : Option Nat
  /-- The loops whose ends are waited for, each by the stop that took it. -/
  awaited : List Nat
deriving DecidableEq

namespace Probe

def create (config : Config) : Except ConfigError Probe := do
  config.validate
  return {
    config := config
    services := NameMap.empty
    subscriptions := []
    delivered := []
    loopErrors := 0
    loops := []
    tracked := none
    awaited := [] }

def thresholds (p : Probe) : Thresholds := ⟨p.config.passes.val, p.config.fails.val⟩

/-- Registers or replaces the check of a service, whose health starts afresh. -/
def register (name : String) (check : Check) (p : Probe) : Probe :=
  { p with services := p.services.insert name ⟨check, Health.fresh⟩ }

def subscribe (s : Subscription) (p : Probe) : Probe :=
  { p with subscriptions := p.subscriptions ++ [s] }

def check? (p : Probe) (name : String) : Option Check := (p.services.get? name).map (·.check)

def setCheck (name : String) (check : Check) (p : Probe) : Probe :=
  { p with services := p.services.modify name (fun r => { r with check := check }) }

/-! ## Results -/

def notify (service : String) (state : HealthState) (p : Probe) : Probe :=
  { p with delivered := p.delivered ++ deliveries p.subscriptions service state }

/-- Folds a result into the health of its service. The subscribers that hear of a transition are
called in the same step, as if no other thread could come in between. -/
def fold (name : String) (result : CheckResult) (p : Probe) : Probe :=
  match p.services.get? name with
  | none => p
  | some r =>
    let health := r.health.apply p.thresholds result
    let folded := { p with services := p.services.insert name { r with health := health } }
    match r.health.transition? p.thresholds result with
    | some _ => folded.notify name health.state
    | none => folded

def conclude (stamp : Reading) (run : CheckRun) (p : Probe) : Option (CheckResult × Probe) :=
  run.verdict?.map (fun v =>
    let result : CheckResult :=
      ⟨v.healthy, v.reason, stamp.now.since run.started, stamp.wall⟩
    (result, p.fold run.service result))

def unregisteredReason : String := "no_check_registered"

/-- The result where no check is registered. It counts for no service, and its time is that of the
system, whatever clock the probe has. -/
def unregistered (systemTime : Timestamp) : CheckResult :=
  ⟨false, unregisteredReason, Duration.zero, systemTime⟩

/-! ## The owner -/

def loop? (p : Probe) (k : Nat) : Option Loop := p.loops[k]?

def isRunning (p : Probe) : Bool :=
  match p.tracked.bind p.loop? with
  | some l => !l.isFinished
  | none => false

def start (p : Probe) : Probe :=
  if p.isRunning then p
  else { p with loops := p.loops ++ [Loop.spawned], tracked := some p.loops.length }

/-- Takes the loop out of its place, tells it to stop and begins to wait for its end. Meanwhile
others may start and stop the probe. -/
def requestStop (p : Probe) : Probe :=
  match p.tracked with
  | none => p
  | some k =>
    { p with
      loops := p.loops.modify k (fun l => { l with cancelled := true })
      tracked := none
      awaited := p.awaited ++ [k] }

def loopFinished (p : Probe) (k : Nat) : Bool :=
  match p.loop? k with
  | some l => l.isFinished
  | none => true

/-- The wait for loop `k` is over: either it ended, or it is put back into its place, unless
another one is there. -/
def endStop (k : Nat) (p : Probe) : Probe :=
  if k ∈ p.awaited then
    let p := { p with awaited := p.awaited.erase k }
    if p.loopFinished k ∨ p.tracked.isSome then p else { p with tracked := some k }
  else p

def loopName : String := "health-probe"

/-! ## Steps of the loop -/

def setPhase (p : Probe) (k : Nat) (phase : LoopPhase) : Probe :=
  { p with loops := p.loops.modify k (fun l => { l with phase := phase }) }

/-- A cycle covers the services that are registered at its beginning. -/
def enterCycle (k : Nat) (p : Probe) : Probe :=
  match p.loop? k with
  | some ⟨cancelled, .top⟩ =>
    if cancelled then p.setPhase k .finished else p.setPhase k (.cycle p.services.keys)
  | _ => p

def beginCheck (k : Nat) (run : CheckRun) (p : Probe) : Probe :=
  match p.loop? k with
  | some ⟨_, .cycle (_ :: rest)⟩ => p.setPhase k (.checking run rest)
  | _ => p

def skipCheck (k : Nat) (p : Probe) : Probe :=
  match p.loop? k with
  | some ⟨_, .cycle (_ :: rest)⟩ => p.setPhase k (.cycle rest)
  | _ => p

/-- The longest pause after a cycle that broke off. -/
def errorPause : Duration := Duration.ofSecs 5

/-- The check under way ends. If its end cannot be told, the cycle breaks off: that counts as an
error of the loop, and the pause is short. -/
def endCheck (k : Nat) (now : Tick) (stamp : Reading) (p : Probe) : Probe :=
  match p.loop? k with
  | some ⟨_, .checking run rest⟩ =>
    match p.conclude stamp run with
    | some (_, p) => p.setPhase k (.cycle rest)
    | none =>
      { p with loopErrors := p.loopErrors + 1 }.setPhase k
        (.pausing (now.after (p.config.interval.min errorPause)))
  | _ => p

def endCycle (k : Nat) (now : Tick) (p : Probe) : Probe :=
  match p.loop? k with
  | some ⟨_, .cycle []⟩ => p.setPhase k (.pausing (now.after p.config.interval))
  | _ => p

def endPause (k : Nat) (p : Probe) : Probe :=
  match p.loop? k with
  | some ⟨_, .pausing _⟩ => p.setPhase k .top
  | _ => p

/-- A loop that is told to stop ends in a pause, in a check, which is dropped, or before its next
check. It may also begin that check and end in it. -/
def exitLoop (k : Nat) (p : Probe) : Probe :=
  match p.loop? k with
  | some ⟨true, .cycle (_ :: _)⟩ => p.setPhase k .finished
  | some ⟨true, .checking _ _⟩ => p.setPhase k .finished
  | some ⟨true, .pausing _⟩ => p.setPhase k .finished
  | _ => p

/-! ## Reports -/

def health? (p : Probe) (name : String) : Option Health := (p.services.get? name).map (·.health)

def state? (p : Probe) (name : String) : Option HealthState := (p.health? name).map (·.state)

/-- Only a service that is proven healthy is healthy. -/
def isHealthy (p : Probe) (name : String) : Bool := p.state? name = some .healthy

def status? (p : Probe) (name : String) : Option Document := (p.health? name).map (·.status name)

def allStatus (p : Probe) : Document :=
  .record (p.services.entries.map (fun e => (e.1, e.2.health.status e.1)))

def inspect (p : Probe) : String :=
  "ActiveHealthProbe \x7b config: " ++ p.config.inspect ++ ", services: " ++
    Text.quotedList p.services.keys ++ ", running: " ++ toString p.isRunning ++ " \x7d"

end Probe

end LinkReliability
