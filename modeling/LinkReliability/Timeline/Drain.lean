import LinkReliability.Queue
import LinkReliability.Timeline

/-!
# Draining a queue

A worker of a queue takes its steps one after the other until it has to wait: for a packet, for
the end of a pause or for the end of a send.
-/

namespace LinkReliability.Queue

/-- What surrounds the workers of a queue: the pacing function, which has no answer when it panics,
and the sender, with what is done when a send ends. -/
structure Surroundings (σ : Type) where
  pause : σ → Option Duration × σ
  begin : Packet → σ → Call Unit × σ
  /-- Takes note of the end of a send, and tells whether it succeeded. -/
  finish : Call Unit → σ → Bool × σ

variable {σ : Type}

/-- The end of the wait for a pause; a pause of no length is none. -/
def wakeAfter (now : Tick) (d : Duration) : Option Tick :=
  if d.isZero then none else some (now.after d)

def stepWorker? (env : Surroundings σ) (now : Tick) (k : Nat) (q : Queue) (s : σ) :
    Option (Queue × σ) :=
  match q.worker? k with
  | none => none
  | some w =>
    match w.phase with
    | .looking => some (q.look k, s)
    | .dry => some (q.consult k, s)
    | .asleep woken => if w.cancelled ∨ woken then some (q.rouse k, s) else none
    | .holding _ =>
      match env.pause s with
      | (none, s) => some (q.pacePanicked k, s)
      | (some d, s) => some (q.pace k (wakeAfter now d), s)
    | .pacing _ wake =>
      if w.cancelled then some (q.putBack k, s)
      else if wake ≤ now then some (q.paced k, s)
      else none
    | .ready p =>
      let (call, s) := env.begin p s
      some (q.handOver k call, s)
    | .sending _ call =>
      if call.ends ≤ now then
        let (success, s) := env.finish call s
        some (q.sendEnded k success, s)
      else none
    | .finished _ => none

def runWorker (env : Surroundings σ) (now : Tick) (k : Nat) : Nat → Queue → σ → Queue × σ
  | 0, q, s => (q, s)
  | steps + 1, q, s =>
    match stepWorker? env now k q s with
    | none => (q, s)
    | some (q, s) => runWorker env now k steps q s

/-- Enough for a worker to hand over every packet and to fall asleep. -/
def stepBound (q : Queue) : Nat := 4 * q.items.length + 12

/-- Lets every worker go on until it has to wait. -/
def drain (env : Surroundings σ) (now : Tick) (q : Queue) (s : σ) : Queue × σ :=
  (List.range q.workers.length).foldl
    (fun (q, s) k => runWorker env now k q.stepBound q s) (q, s)

def dues (q : Queue) : List Tick :=
  q.workers.filterMap (fun w =>
    match w.phase with
    | .pacing _ wake => some wake
    | .sending _ call => some call.ends
    | _ => none)

/-- What an owner hears at the end of a wait for a worker. -/
inductive StopAnswer where
  | stopped
  | panicked
  | timedOut
deriving DecidableEq, Repr

/-- Where there is no worker there is nothing to wait for. -/
def stopAnswer (q : Queue) : StopAnswer :=
  if q.awaited.isNone then .stopped
  else
    match q.awaitedExit? with
    | some .returned => .stopped
    | some .panicked => .panicked
    | none => .timedOut

def workerName : String := "tx-drain"

end LinkReliability.Queue
