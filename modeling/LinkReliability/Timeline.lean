import LinkReliability.Collaborator

/-!
# Running time

Work takes no time. A system that waits for some moments does what it can at one moment, and then
the earliest moment that it waits for comes next.
-/

namespace LinkReliability

/-- A wait from `now` to `target` that can be cut short at the moment `cut`: whether it lasted to
the end, and when it was over. A moment that has passed already cuts off even a wait of no
length. -/
def Tick.wait (now : Tick) (cut : Option Tick) (target : Tick) : Bool × Tick :=
  match cut with
  | none => (true, max now target)
  | some c =>
    if c ≤ now then (false, now)
    else if target ≤ now then (true, now)
    else if c ≤ target then (false, c)
    else (true, target)

structure Timeline (σ : Type) where
  /-- Does everything that can be done at a moment. -/
  settle : Tick → σ → σ
  /-- The moments that are waited for. -/
  dues : σ → List Tick

namespace Timeline

variable {σ : Type}

/-- The earliest of the moments after `now`, but no later than `target`. -/
def nextDue (now target : Tick) (dues : List Tick) : Tick :=
  dues.foldl (fun next d => if now < d ∧ d < next then d else next) target

/-- Lets time pass until `target`, or until `ended` holds of a settled state. -/
def runUntil (t : Timeline σ) (ended : σ → Bool) (target now : Tick) (s : σ) : Tick × σ :=
  let s := t.settle now s
  if ended s then (now, s)
  else if h : target ≤ now then (now, s)
  else t.runUntil ended target (max (now + 1) (nextDue now target (t.dues s))) s
termination_by target - now
decreasing_by
  exact Nat.sub_lt_sub_left (Nat.lt_of_not_le h) (Nat.le_max_left (now + 1) _)

def runTo (t : Timeline σ) (target now : Tick) (s : σ) : σ :=
  (t.runUntil (fun _ => false) target now s).2

end Timeline

end LinkReliability
