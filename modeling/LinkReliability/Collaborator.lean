import LinkReliability.Duration
import LinkReliability.Failure

/-!
# Collaborators

Senders, connectors, health checks and pacing functions are supplied by the application. A call of
one takes some time and ends in a result, a failure or a panic. A script is a collaborator whose
answers are laid down in advance.
-/

namespace LinkReliability

/-- Milliseconds of running time, in which all waiting is measured. -/
abbrev Tick := Nat

/-- No wait is longer than thirty years of 365 days, in milliseconds. -/
def longestWait : Nat := 946080000000

def Tick.after (now : Tick) (d : Duration) : Tick := now + Nat.min d.ceilMillis longestWait

inductive Outcome (α : Type) where
  | done (value : α)
  | failed (failure : Failure)
  /-- A failure whose text cannot be formatted: whoever asks for the text panics. -/
  | unprintable
  /-- A panic, with its message if that is known. -/
  | panicked (message : Option String)
deriving DecidableEq, Repr

def panicText : Option String → String
  | some message => "panicked: " ++ message
  | none => "panicked"

/-- One answer of a script: it takes `delay` of running time, at the end of which the clock is
advanced. -/
structure Reply (α : Type) where
  delay : Duration
  advance : Duration
  outcome : Outcome α
deriving DecidableEq, Repr

namespace Reply

variable {α : Type}

def immediate (outcome : Outcome α) : Reply α := ⟨Duration.zero, Duration.zero, outcome⟩

end Reply

structure Call (α : Type) where
  ends : Tick
  advance : Duration
  outcome : Outcome α
deriving DecidableEq, Repr

def Reply.callAt {α : Type} (now : Tick) (r : Reply α) : Call α :=
  ⟨now.after r.delay, r.advance, r.outcome⟩

/-- The answers to come. The last one is given over and over, and an empty script succeeds. -/
structure Script (α : Type) where
  replies : List (Reply α)
deriving DecidableEq, Repr

namespace Script

variable {α : Type}

def next (success : α) (s : Script α) : Reply α × Script α :=
  match s.replies with
  | [] => (Reply.immediate (.done success), s)
  | [r] => (r, s)
  | r :: rest => (r, ⟨rest⟩)

end Script

end LinkReliability
