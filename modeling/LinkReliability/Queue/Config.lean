import LinkReliability.ConfigError

/-!
# Settings of a transmit queue
-/

namespace LinkReliability.Queue

structure Config where
  /-- Packets held before new ones are rejected. -/
  capacity : Count64
deriving DecidableEq, Repr

namespace Config

def standard : Config := ⟨32⟩

/-- The capacity is checked only when a queue is created. -/
def withCapacity (n : Count64) : Config := ⟨n⟩

def validate (c : Config) : Except ConfigError Unit :=
  ConfigError.check [(0 < c.capacity.val, ConfigError.mustBePositive "capacity")]

def fieldNames : List String := ["capacity"]

def ofDocument? (d : Document) : Option Config :=
  match d.fields? fieldNames with
  | some [capacity] => do
    let capacity ← Document.optional? standard.capacity Document.count64? capacity
    some ⟨capacity⟩
  | _ => none

def toDocument (c : Config) : Document := .record [("capacity", .ofCount c.capacity)]

def inspect (c : Config) : String :=
  "TxQueueConfig \x7b capacity: " ++ Nat.repr c.capacity.val ++ " \x7d"

end Config

end LinkReliability.Queue
