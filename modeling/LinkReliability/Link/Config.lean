import LinkReliability.Breaker.Config
import LinkReliability.Monitor.Event
import LinkReliability.Queue.Config
import LinkReliability.Reconnect.Config

/-!
# Settings of a link
-/

namespace LinkReliability.Link

structure Config where
  breaker : Breaker.Config
  reconnect : Reconnect.Config
  queue : Queue.Config
  /-- The way of the messages that are sent over the link. -/
  outbound : Direction

namespace Config

def meshRadio : Config :=
  ⟨Breaker.Config.standard, Reconnect.Config.meshRadio, Queue.Config.standard, .overlayToMesh⟩

def overlayNetwork : Config :=
  ⟨Breaker.Config.standard, Reconnect.Config.overlayNetwork, Queue.Config.standard,
    .meshToOverlay⟩

def withBreaker (breaker : Breaker.Config) (c : Config) : Config := { c with breaker := breaker }

def withReconnect (reconnect : Reconnect.Config) (c : Config) : Config :=
  { c with reconnect := reconnect }

def withQueue (queue : Queue.Config) (c : Config) : Config := { c with queue := queue }

def fieldNames : List String := ["breaker", "reconnect", "queue", "outbound"]

/-- All parts have to be there. -/
def ofDocument? (d : Document) : Option Config :=
  match d.fields? fieldNames with
  | some [breaker, reconnect, queue, outbound] => do
    let breaker ← Document.required? Breaker.Config.ofDocument? breaker
    let reconnect ← Document.required? Reconnect.Config.ofDocument? reconnect
    let queue ← Document.required? Queue.Config.ofDocument? queue
    let outbound ← Document.required? Direction.ofDocument? outbound
    some ⟨breaker, reconnect, queue, outbound⟩
  | _ => none

def toDocument (c : Config) : Document :=
  .record [
    ("breaker", c.breaker.toDocument),
    ("reconnect", c.reconnect.toDocument),
    ("queue", c.queue.toDocument),
    ("outbound", c.outbound.toDocument)]

end Config

end LinkReliability.Link
