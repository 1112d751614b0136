import LinkReliability.Bridge
import LinkReliability.Timeline.QueueRun

/-!
# A bridge at work

A bridge whose links have scripted senders, whose probe has scripted checks, and whose clock is
advanced by hand and by the scripts.
-/

namespace LinkReliability

structure Transport where
  sender : Script Unit
  /-- The sends begun since the log was last read, the latest first. -/
  log : List SendRecord

structure BridgeRun where
  tick : Tick
  clock : ManualClock
  bridge : Bridge
  transports : List Transport

namespace BridgeRun

def now (r : BridgeRun) : Instant := r.clock.now

def read (r : BridgeRun) : Reading := r.clock.read

def setProbe (r : BridgeRun) (p : Probe) : BridgeRun :=
  { r with bridge := { r.bridge with probe := p } }

def setMonitor (r : BridgeRun) (m : Monitor) : BridgeRun :=
  { r with bridge := { r.bridge with monitor := m } }

def setLink (r : BridgeRun) (k : Nat) (l : Link) : BridgeRun :=
  { r with bridge := r.bridge.setLink k l }

/-! ## Links -/

/-- The worker of link `k` is paced by its strategy, and its sends are reported. -/
def surroundings (k : Nat) : Queue.Surroundings BridgeRun where
  pause r := (some ((r.bridge.link? k).elim Duration.zero (·.strategy.interPacketDelay r.now)), r)
  begin p r :=
    match r.transports[k]? with
    | none => (⟨r.tick, Duration.zero, .done ()⟩, r)
    | some t =>
      let (reply, sender) := t.sender.next ()
      let t : Transport := ⟨sender, ⟨r.tick, p⟩ :: t.log⟩
      (reply.callAt r.tick, { r with transports := r.transports.set k t })
  finish call r :=
    let r := { r with clock := r.clock.advance call.advance }
    (Link.isSuccess call.outcome,
      { r with bridge := r.bridge.reportSend r.read k call.outcome })

def settleLink (k : Nat) (r : BridgeRun) : BridgeRun :=
  match r.bridge.link? k with
  | none => r
  | some l =>
    let (queue, r) := Queue.drain (surroundings k) r.tick l.queue r
    match r.bridge.link? k with
    | some l => r.setLink k { l with queue := queue }
    | none => r

/-! ## Checks -/

def beginCheck (name : String) (r : BridgeRun) : Option Probe.CheckRun × BridgeRun :=
  let probe := r.bridge.probe
  let deadline := r.tick.after probe.config.checkTimeout
  match probe.check? name with
  | none => (none, r)
  | some (.scripted script) =>
    let (reply, script) := script.next ⟨true, "ok"⟩
    (some ⟨name, r.now, reply.callAt r.tick, deadline⟩,
      r.setProbe (probe.setCheck name (.scripted script)))
  | some (.breaker k) =>
    let (verdict, bridge) := r.bridge.breakerVerdict r.now k
    (some ⟨name, r.now, ⟨r.tick, Duration.zero, .done verdict⟩, deadline⟩,
      { r with bridge := bridge })

/-- What the check of a loop, or one by hand, does to the clock at its end. -/
def afterCheck (run : Probe.CheckRun) (r : BridgeRun) : BridgeRun :=
  { r with clock := r.clock.advance run.advance }

def stepLoop? (k : Nat) (r : BridgeRun) : Option BridgeRun :=
  let probe := r.bridge.probe
  match probe.loop? k with
  | none => none
  | some l =>
    match l.phase with
    | .top => some (r.setProbe (probe.enterCycle k))
    | .cycle [] => some (r.setProbe (probe.endCycle k r.tick))
    | .cycle (name :: _) =>
      match r.beginCheck name with
      | (some run, r) => some (r.setProbe (r.bridge.probe.beginCheck k run))
      | (none, r) => some (r.setProbe (r.bridge.probe.skipCheck k))
    | .checking run _ =>
      if l.cancelled then some (r.setProbe (probe.exitLoop k))
      else if run.ends ≤ r.tick then
        let r := r.afterCheck run
        some (r.setProbe (probe.endCheck k r.tick r.read))
      else none
    | .pausing wake =>
      if l.cancelled then some (r.setProbe (probe.exitLoop k))
      else if wake ≤ r.tick then some (r.setProbe (probe.endPause k))
      else none
    | .finished => none

def runLoop (k : Nat) : Nat → BridgeRun → BridgeRun
  | 0, r => r
  | steps + 1, r =>
    match r.stepLoop? k with
    | none => r
    | some r => runLoop k steps r

/-- Enough for a loop to go through a cycle. -/
def loopBound (r : BridgeRun) : Nat := 2 * r.bridge.probe.services.size + 8

/-! ## The timeline -/

def settle (now : Tick) (r : BridgeRun) : BridgeRun :=
  let r := { r with tick := now }
  let r := (List.range r.bridge.links.length).foldl (fun r k => r.settleLink k) r
  (List.range r.bridge.probe.loops.length).foldl (fun r k => runLoop k r.loopBound r) r

def loopDues (p : Probe) : List Tick :=
  p.loops.filterMap (fun l =>
    match l.phase with
    | .checking run _ => some run.ends
    | .pausing wake => some wake
    | _ => none)

def dues (r : BridgeRun) : List Tick :=
  r.bridge.links.flatMap (fun l => l.queue.dues) ++ loopDues r.bridge.probe

def timeline : Timeline BridgeRun := ⟨settle, dues⟩

def waitUntil (target : Tick) (r : BridgeRun) : BridgeRun :=
  if target ≤ r.tick then r else timeline.runTo target r.tick r

def sleep (d : Duration) (r : BridgeRun) : BridgeRun := r.waitUntil (r.tick.after d)

/-- Waits until `ended` holds or the timeout is over. There is no wait in the one case, and none
either with a timeout of zero. -/
def waitFor (ended : BridgeRun → Bool) (timeout : Duration) (r : BridgeRun) : BridgeRun :=
  if ended r ∨ timeout.isZero then r
  else (timeline.runUntil ended (r.tick.after timeout) r.tick r).2

/-! ## What the application does -/

inductive CheckAnswer where
  | concluded (result : CheckResult)
  | unregistered
  | unwound
deriving DecidableEq

/-- What the caller of a check gets, unless the check unwinds. -/
def CheckAnswer.result? (systemTime : Timestamp) : CheckAnswer → Option CheckResult
  | concluded result => some result
  | unregistered => some (Probe.unregistered systemTime)
  | unwound => none

def checkNow (name : String) (r : BridgeRun) : CheckAnswer × BridgeRun :=
  match r.beginCheck name with
  | (none, r) => (.unregistered, r)
  | (some run, r) =>
    let r := (r.waitUntil run.ends).afterCheck run
    match r.bridge.probe.conclude r.read run with
    | some (result, probe) => (.concluded result, r.setProbe probe)
    | none => (.unwound, r)

def stopProbe (timeout : Duration) (r : BridgeRun) : Except LinkError Unit × BridgeRun :=
  match r.bridge.probe.tracked with
  | none => (.ok (), r)
  | some k =>
    let r := r.setProbe r.bridge.probe.requestStop
    let r := r.waitFor (fun r => r.bridge.probe.loopFinished k) timeout
    let answer : Except LinkError Unit :=
      if r.bridge.probe.loopFinished k then .ok ()
      else .error (.shutdownTimeout Probe.loopName timeout)
    (answer, r.setProbe (r.bridge.probe.endStop k))

def openLink (name : String) (config : Link.Config) (sender : Script Unit) (r : BridgeRun) :
    Except ConfigError BridgeRun := do
  let bridge ← r.bridge.openLink name config
  return { r with bridge := bridge, transports := r.transports ++ [⟨sender, []⟩] }

def stopAnswer (k : Nat) (r : BridgeRun) : Queue.StopAnswer :=
  match r.bridge.link? k with
  | some l => l.queue.stopAnswer
  | none => .stopped

def stopLink (k : Nat) (timeout : Duration) (r : BridgeRun) :
    Except LinkError Unit × BridgeRun :=
  match r.bridge.link? k with
  | none => (.ok (), r)
  | some l =>
    let r := r.setLink k { l with queue := l.queue.requestStop }
    let r := r.waitFor (fun r => r.stopAnswer k ≠ .timedOut) timeout
    let answer : Except LinkError Unit :=
      match r.stopAnswer k with
      | .stopped => .ok ()
      | .panicked => .error (.workerPanicked Queue.workerName "")
      | .timedOut => .error (.shutdownTimeout Queue.workerName timeout)
    match r.bridge.link? k with
    | some l => (answer, r.setLink k { l with queue := l.queue.endStop })
    | none => (answer, r)

/-! ## Connecting -/

/-- Waits until `target`, but no longer than until `cancel`; true if the wait was not cut short. -/
def waitUnlessCancelled (cancel : Option Tick) (target : Tick) (r : BridgeRun) :
    Bool × BridgeRun :=
  let (inTime, ending) := r.tick.wait cancel target
  (inTime, r.waitUntil ending)

def endAttempt (k : Nat) (l : Link) (call : Call Unit) (offset : Float) (c : Link.Connecting)
    (r : BridgeRun) : Link.Connecting × BridgeRun :=
  let r := { r with clock := r.clock.advance call.advance }
  let (c, l, m) := l.endAttempt r.read call.outcome offset c r.bridge.monitor
  (c, (r.setMonitor m).setLink k l)

/-- The back-off after a failed attempt, if another attempt is to follow. -/
def backOff (cancel : Option Tick) (l : Link) (c : Link.Connecting) (r : BridgeRun) :
    Link.Connecting × BridgeRun :=
  match c.phase with
  | .backingOff delay =>
    let (inTime, r) := r.waitUnlessCancelled cancel (r.tick.after delay)
    (if inTime then Link.endBackOff c else l.cancelConnecting c, r)
  | _ => (c, r)

/-- One round of the reconnect loop of link `k`: an attempt, and a back-off if it failed. The jitter
moves the delay by `offset`. -/
def connectRound (k : Nat) (cancel : Option Tick) (offset : Float) (c : Link.Connecting)
    (script : Script Unit) (r : BridgeRun) : Link.Connecting × Script Unit × BridgeRun :=
  match r.bridge.link? k with
  | none => (c, script, r)
  | some l =>
    let c := l.beginAttempt c
    let (reply, script) := script.next ()
    let call := reply.callAt r.tick
    let (inTime, r) := r.waitUnlessCancelled cancel call.ends
    match inTime, r.bridge.link? k with
    | true, some l =>
      let (c, r) := r.endAttempt k l call offset c
      let (c, r) := r.backOff cancel l c
      (c, script, r)
    | _, _ => (l.cancelConnecting c, script, r)

/-- Rounds until the loop is over, and at most `rounds` of them. The jitter of a delay depends on
the number of calls before it. -/
def connectRounds (k : Nat) (cancel : Option Tick) (offsets : Nat → Float) :
    Nat → Link.Connecting → Script Unit → BridgeRun → Link.Connecting × BridgeRun
  | 0, c, _, r => (c, r)
  | rounds + 1, c, script, r =>
    if c.isOver then (c, r)
    else
      let (c, script, r) := r.connectRound k cancel (offsets c.calls) c script
      connectRounds k cancel offsets rounds c script r

/-- Connects link `k`. Every failed attempt uses up one of those that are left, so the loop is over
after one round more than there are. -/
def connectWith (k : Nat) (script : Script Unit) (cancel : Option Tick) (offsets : Nat → Float)
    (r : BridgeRun) : Link.Connecting × BridgeRun :=
  let left := (r.bridge.link? k).elim 0
    (fun l => l.strategy.config.maxAttempts.val - l.strategy.attempts)
  connectRounds k cancel offsets (left + 1) Link.Connecting.fresh script r

/-- Connects link `k` with all jitter at zero. -/
def connect (k : Nat) (script : Script Unit) (cancel : Option Tick) (r : BridgeRun) :
    Link.Connecting × BridgeRun := r.connectWith k script cancel (fun _ => 0.0)

end BridgeRun

end LinkReliability
