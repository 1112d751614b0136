import LinkReliability.Collaborator
import LinkReliability.Queue.Config
import LinkReliability.Text.Quoted

/-!
# The transmit queue of a link

Producers add packets to a bounded queue and a worker hands them to the sender, first in, first
out, with a pause before each. Everything that happens is one of a few small steps, so that steps
of producers, of the owner and of the worker can be put in any order.
-/

namespace LinkReliability

abbrev Packet := ByteArray

instance : DecidableEq Packet := ByteArray.instDecidableEq

namespace Queue

inductive Exit where
  | returned
  | panicked
deriving DecidableEq, Repr

inductive Phase where
  /-- About to take the first packet. -/
  | looking
  /-- Found the queue empty and about to consult the signal. -/
  | dry
  /-- Waiting for the signal, which has come or not. -/
  | asleep (woken : Bool)
  /-- Took a packet and is about to ask for the pause. -/
  | holding (packet : Packet)
  | pacing (packet : Packet) (wake : Tick)
  /-- About to hand the packet over. -/
  | ready (packet : Packet)
  | sending (packet : Packet) (call : Call Unit)
  | finished (exit : Exit)
deriving DecidableEq

/-- The packet that was taken from the queue and not handed over. -/
def Phase.held? : Phase → Option Packet
  | holding p => some p
  | pacing p _ => some p
  | ready p => some p
  | _ => none

structure Worker where
  cancelled : Bool
  phase : Phase
deriving DecidableEq

namespace Worker

def spawned : Worker := ⟨false, .looking⟩

def isFinished (w : Worker) : Bool :=
  match w.phase with
  | .finished _ => true
  | _ => false

end Worker

end Queue

structure Queue where
  name : String
  config : Queue.Config
  /-- The packets that wait, front first. -/
  items : List Packet
  dropped : Nat
  sent : Nat
  sendErrors : Nat
  /-- A signal that came while no worker was waiting for it. -/
  permit : Bool
  /-- Every worker that was ever started, the latest last. -/
  workers : List Queue.Worker
  /-- The worker that the owner knows of. -/
  tracked : Option Nat
  /-- The worker whose end the owner waits for. -/
  awaited : Option Nat
deriving DecidableEq

namespace Queue

def create (name : String) (config : Config) : Except ConfigError Queue := do
  config.validate
  return {
    name := name
    config := config
    items := []
    dropped := 0
    sent := 0
    sendErrors := 0
    permit := false
    workers := []
    tracked := none
    awaited := none }

def worker? (q : Queue) (k : Nat) : Option Worker := q.workers[k]?

def setPhase (q : Queue) (k : Nat) (phase : Phase) : Queue :=
  { q with workers := q.workers.modify k (fun w => { w with phase := phase }) }

/-! ## Producers -/

def push (p : Packet) (q : Queue) : Bool × Queue :=
  if q.items.length < q.config.capacity.val then (true, { q with items := q.items ++ [p] })
  else (false, { q with dropped := q.dropped + 1 })

/-- The first worker that waits for the signal and has not got it. -/
def sleeper? (q : Queue) : Option Nat := q.workers.findIdx? (fun w => w.phase = .asleep false)

/-- Wakes one sleeper, or else leaves the signal for the next worker that looks for it. -/
def signal (q : Queue) : Queue :=
  match q.sleeper? with
  | some k => q.setPhase k (.asleep true)
  | none => { q with permit := true }

/-- Adds a packet and then signals; a packet that finds no room is dropped and counted. -/
def enqueue (p : Packet) (q : Queue) : Bool × Queue :=
  match q.push p with
  | (true, q) => (true, q.signal)
  | (false, q) => (false, q)

def clear (q : Queue) : Nat × Queue := (q.items.length, { q with items := [] })

/-! ## The owner -/

def isRunning (q : Queue) : Bool :=
  match q.tracked.bind q.worker? with
  | some w => !w.isFinished
  | none => false

def start (q : Queue) : Queue :=
  if q.isRunning then q
  else { q with workers := q.workers ++ [Worker.spawned], tracked := some q.workers.length }

def cancel (q : Queue) : Queue :=
  { q with
    workers := q.workers.modify (q.workers.length - 1) (fun w => { w with cancelled := true }) }

def requestStop (q : Queue) : Queue := { q.cancel with tracked := none, awaited := q.tracked }

def awaitedExit? (q : Queue) : Option Exit :=
  match q.awaited.bind q.worker? with
  | some ⟨_, .finished e⟩ => some e
  | _ => none

/-- The wait is over: either the worker ended, or it is tracked as before. -/
def endStop (q : Queue) : Queue :=
  match q.awaitedExit? with
  | some _ => { q with awaited := none }
  | none => { q with tracked := q.awaited, awaited := none }

/-! ## The worker -/

def look (k : Nat) (q : Queue) : Queue :=
  match q.worker? k with
  | some ⟨_, .looking⟩ =>
    match q.items with
    | p :: rest => { q with items := rest }.setPhase k (.holding p)
    | [] => q.setPhase k .dry
  | _ => q

/-- An empty queue is the place where a worker that was told to stop ends. -/
def consult (k : Nat) (q : Queue) : Queue :=
  match q.worker? k with
  | some ⟨cancelled, .dry⟩ =>
    if cancelled then q.setPhase k (.finished .returned)
    else if q.permit then { q with permit := false }.setPhase k .looking
    else q.setPhase k (.asleep false)
  | _ => q

/-- A sleeper ends when it is told to stop, passing on a signal it got, and looks again when the
signal came. -/
def rouse (k : Nat) (q : Queue) : Queue :=
  match q.worker? k with
  | some ⟨cancelled, .asleep woken⟩ =>
    if cancelled then
      let q := q.setPhase k (.finished .returned)
      if woken then q.signal else q
    else if woken then q.setPhase k .looking
    else q
  | _ => q

/-- A worker that is told to stop while a signal is there for it may see the signal first, and then
looks again. -/
def heed (k : Nat) (q : Queue) : Queue :=
  match q.worker? k with
  | some ⟨_, .dry⟩ => if q.permit then { q with permit := false }.setPhase k .looking else q
  | some ⟨_, .asleep true⟩ => q.setPhase k .looking
  | _ => q

/-- The answer of the pacing function: no pause, or one that ends at `wake`. -/
def pace (k : Nat) (wake : Option Tick) (q : Queue) : Queue :=
  match q.worker? k with
  | some ⟨_, .holding p⟩ =>
    match wake with
    | none => q.setPhase k (.ready p)
    | some t => q.setPhase k (.pacing p t)
  | _ => q

def pacePanicked (k : Nat) (q : Queue) : Queue :=
  match q.worker? k with
  | some ⟨_, .holding _⟩ => q.setPhase k (.finished .panicked)
  | _ => q

def paced (k : Nat) (q : Queue) : Queue :=
  match q.worker? k with
  | some ⟨_, .pacing p _⟩ => q.setPhase k (.ready p)
  | _ => q

/-- A worker that is told to stop in a pause puts its packet back to the front, whether or not
there is room. -/
def putBack (k : Nat) (q : Queue) : Queue :=
  match q.worker? k with
  | some ⟨true, .pacing p _⟩ =>
    { q with items := p :: q.items }.setPhase k (.finished .returned)
  | _ => q

def handOver (k : Nat) (call : Call Unit) (q : Queue) : Queue :=
  match q.worker? k with
  | some ⟨_, .ready p⟩ => q.setPhase k (.sending p call)
  | _ => q

/-- The send is over and counts once. A worker that was told to stop ends here. -/
def sendEnded (k : Nat) (success : Bool) (q : Queue) : Queue :=
  match q.worker? k with
  | some ⟨cancelled, .sending _ _⟩ =>
    let q := if success then { q with sent := q.sent + 1 }
      else { q with sendErrors := q.sendErrors + 1 }
    q.setPhase k (if cancelled then .finished .returned else .looking)
  | _ => q

/-! ## Reports -/

structure Stats where
  pending : Nat
  capacity : Nat
  dropped : Nat
  sent : Nat
  sendErrors : Nat
deriving DecidableEq, Repr

def pending (q : Queue) : Nat := q.items.length

def stats (q : Queue) : Stats := ⟨q.pending, q.config.capacity.val, q.dropped, q.sent, q.sendErrors⟩

def Stats.fields (s : Stats) : List (String × Document) := [
  ("pending", .nat s.pending),
  ("capacity", .nat s.capacity),
  ("dropped", .nat s.dropped),
  ("sent", .nat s.sent),
  ("send_errors", .nat s.sendErrors)]

def Stats.toDocument (s : Stats) : Document := .record s.fields

def Stats.inspect (s : Stats) : String :=
  "TxQueueStats \x7b pending: " ++ Nat.repr s.pending ++ ", capacity: " ++ Nat.repr s.capacity ++
    ", dropped: " ++ Nat.repr s.dropped ++ ", sent: " ++ Nat.repr s.sent ++ ", send_errors: " ++
    Nat.repr s.sendErrors ++ " \x7d"

def inspect (q : Queue) : String :=
  "TxQueue \x7b name: " ++ Text.quoted q.name ++ ", config: " ++ q.config.inspect ++
    ", stats: " ++ q.stats.inspect ++ ", running: " ++ toString q.isRunning ++ " \x7d"

end Queue

end LinkReliability
