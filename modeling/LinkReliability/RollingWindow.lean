import LinkReliability.Clock

/-!
# Rolling windows

A bounded log of stamped entries, oldest first. When it is full, a new entry takes the place of
the oldest.
-/

namespace LinkReliability

structure Entry (α : Type) where
  stamp : Instant
  value : α
deriving DecidableEq, Repr

structure RollingWindow (α : Type) where
  capacity : Nat
  entries : List (Entry α)
deriving DecidableEq, Repr

namespace RollingWindow

variable {α : Type}

def empty (capacity : Nat) : RollingWindow α := ⟨capacity, []⟩

def push (w : RollingWindow α) (stamp : Instant) (value : α) : RollingWindow α :=
  if w.capacity = 0 then w
  else
    let kept := if w.entries.length = w.capacity then w.entries.drop 1 else w.entries
    { w with entries := kept ++ [⟨stamp, value⟩] }

def size (w : RollingWindow α) : Nat := w.entries.length

def isEmpty (w : RollingWindow α) : Bool := w.entries.isEmpty

/-- The values stamped no earlier than `length` before `now`, oldest first. -/
def within (w : RollingWindow α) (now : Instant) (length : Duration) : List α :=
  (w.entries.filter (fun e => now ≤ e.stamp + length.nanos)).map Entry.value

def countWithin (w : RollingWindow α) (now : Instant) (length : Duration) : Nat :=
  (w.within now length).length

/-- The `n` most recent values, newest last. -/
def latest (w : RollingWindow α) (n : Nat) : List α :=
  (w.entries.drop (w.entries.length - n)).map Entry.value

end RollingWindow

end LinkReliability
