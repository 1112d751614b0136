import LinkReliability.Clock
import LinkReliability.Timeline.Drain

/-!
# A queue at work

A queue with a scripted sender and, if it has one, a scripted pacing function.
-/

namespace LinkReliability

/-- A packet and the time at which its send began. -/
structure SendRecord where
  tick : Tick
  packet : Packet
deriving DecidableEq

structure QueueRun where
  tick : Tick
  clock : ManualClock
  queue : Queue
  sender : Script Unit
  pacing : Option (Script Duration)
  /-- The sends begun since the log was last read, the latest first. -/
  log : List SendRecord

namespace QueueRun

def surroundings : Queue.Surroundings QueueRun where
  pause r :=
    match r.pacing with
    | none => (some Duration.zero, r)
    | some script =>
      let (reply, script) := script.next Duration.zero
      let r := { r with pacing := some script }
      match reply.outcome with
      | .done d => (some d, r)
      | _ => (none, r)
  begin p r :=
    let (reply, sender) := r.sender.next ()
    (reply.callAt r.tick, { r with sender := sender, log := ⟨r.tick, p⟩ :: r.log })
  finish call r :=
    let success := match call.outcome with
      | .done _ => true
      | _ => false
    (success, { r with clock := r.clock.advance call.advance })

def settle (now : Tick) (r : QueueRun) : QueueRun :=
  let r := { r with tick := now }
  let (queue, r) := Queue.drain surroundings now r.queue r
  { r with queue := queue }

def timeline : Timeline QueueRun := ⟨settle, fun r => r.queue.dues⟩

def sleep (d : Duration) (r : QueueRun) : QueueRun :=
  timeline.runTo (r.tick.after d) r.tick r

/-- Stops the worker and waits for its end. -/
def stop (timeout : Duration) (r : QueueRun) : Queue.StopAnswer × QueueRun :=
  let r := { r with queue := r.queue.requestStop }
  let ended (r : QueueRun) : Bool := r.queue.stopAnswer ≠ .timedOut
  let r := if ended r ∨ timeout.isZero then r
    else (timeline.runUntil ended (r.tick.after timeout) r.tick r).2
  (r.queue.stopAnswer, { r with queue := r.queue.endStop })

/-- The sends begun since the last call, the earliest first. -/
def readLog (r : QueueRun) : List SendRecord × QueueRun :=
  (r.log.reverse, { r with log := [] })

end QueueRun

end LinkReliability
