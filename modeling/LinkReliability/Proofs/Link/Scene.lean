import LinkReliability.Proofs.Bridge.Undisturbed
import LinkReliability.Proofs.Breaker.Open
import LinkReliability.Proofs.Link.Desk
import LinkReliability.Proofs.Queue.Stock

/-!
# A link at work

Callers submit packets, the owner starts and stops the worker and clears the queue, the worker
takes its steps, reconnect loops come and go, the breaker is read, and the clock is advanced. All
of this comes in any order. Packets enter only through submissions, and everything that happens is
stamped by the one clock.
-/

namespace LinkReliability.Link

structure Scene where
  desk : Desk
  /-- The reconnect loops, the latest last. -/
  connecting : List Connecting
  now : Instant
  /-- The sends that were begun. -/
  begun : Nat

inductive Move where
  | submit (p : Packet)
  /-- A step of the desk, made now. -/
  | part (a : Action)
  /-- Somebody reads the breaker. -/
  | read
  | connect
  | beginAttempt (i : Nat)
  | endAttempt (i : Nat) (wall : Timestamp) (o : Outcome Unit) (offset : Float) (m : Monitor)
  | endBackOff (i : Nat)
  | cancel (i : Nat)
  | advance (d : Duration)

/-- The same step at another time. -/
def Action.at (now : Instant) : Action → Action
  | .ask _ => .ask now
  | .note stamp => .note ⟨now, stamp.wall⟩
  | a => a

/-- No caller is left between the breaker and the queue. -/
def Move.isWhole : Move → Bool
  | .part (.ask _) => false
  | .part (.offer _) => false
  | .part .announce => false
  | _ => true

namespace Desk

def setBreaker (d : Desk) (b : Breaker) : Desk := { d with link := { d.link with breaker := b } }

/-- A submission with nothing in between. -/
def submit (now : Instant) (p : Packet) (d : Desk) : Desk :=
  { d with
    link := (d.link.submit now p).2
    answers := d.answers ++ [(d.link.submit now p).1]
    calls := d.calls ++ [⟨now, .allowRequest⟩] }

/-- The packets that were taken. -/
def taken (d : Desk) : Nat := accepted d.answers + d.announcing

/-- The step of the queue that a step of the desk makes. -/
def queueAction? (d : Desk) : Action → Option Queue.Action
  | .ask _ => none
  | .offer p => if d.admitted = 0 then none else some (.push p)
  | .announce => if d.announcing = 0 then none else some .signal
  | .clear => some .clear
  | .step a => if a.isInner then some a else none
  | .reply _ => none
  | .note _ => none
  | .count =>
    match d.report with
    | some ⟨worker, o, []⟩ => some (.sendEnded worker (isSuccess o))
    | _ => none

/-- The step begins a send. -/
def handsOver (d : Desk) (a : Action) : Bool :=
  (d.queueAction? a).any d.link.queue.handsOver

end Desk

namespace Scene

def begin (l : Link) (now : Instant) : Scene := ⟨Desk.blank l, [], now, 0⟩

def act (s : Scene) : Move → Scene
  | .submit p => { s with desk := s.desk.submit s.now p }
  | .part a =>
    { s with
      desk := s.desk.act (a.at s.now)
      begun := s.begun + if s.desk.handsOver (a.at s.now) then 1 else 0 }
  | .read => { s with desk := s.desk.setBreaker (s.desk.link.breaker.state s.now).2 }
  | .connect => { s with connecting := s.connecting ++ [Connecting.fresh] }
  | .beginAttempt i => { s with connecting := s.connecting.modify i s.desk.link.beginAttempt }
  | .endAttempt i wall o offset m =>
    match s.connecting[i]? with
    | some c =>
      let (c, l, _) := s.desk.link.endAttempt ⟨s.now, wall⟩ o offset c m
      { s with connecting := s.connecting.set i c, desk := { s.desk with link := l } }
    | none => s
  | .endBackOff i => { s with connecting := s.connecting.modify i endBackOff }
  | .cancel i => { s with connecting := s.connecting.modify i s.desk.link.cancelConnecting }
  | .advance d => { s with now := s.now + d.nanos }

def run (moves : List Move) (s : Scene) : Scene := moves.foldl act s

/-- Read now, the breaker is open. -/
def IsOpen (s : Scene) : Prop := s.desk.link.breaker.IsOpen s.now

instance (s : Scene) : Decidable s.IsOpen := inferInstanceAs (Decidable (Breaker.IsOpen _ _))

/-- The packets that wait and the one that the worker holds. -/
def stock (s : Scene) : Nat := s.desk.link.queue.stock

end Scene

theorem endAttempt_breaker (stamp : Reading) (o : Outcome Unit) (offset : Float) (c : Connecting)
    (l : Link) (m : Monitor) :
    (l.endAttempt stamp o offset c m).2.1.breaker = l.breaker ∨
      (l.endAttempt stamp o offset c m).2.1.breaker = l.breaker.reset := by
  unfold endAttempt
  split
  · cases o with
    | done v => exact .inr rfl
    | failed f =>
        left
        dsimp only [attemptFailed]
        split <;> rfl
    | unprintable | panicked m => exact .inl rfl
  · exact .inl rfl

/-! ## The queue and the breaker of a desk -/

namespace Desk

variable {d : Desk}

theorem queue_act (d : Desk) (a : Action) :
    (d.act a).link.queue = (d.queueAction? a).elim d.link.queue d.link.queue.act := by
  cases a with
  | ask now =>
      simp only [act, ask, queueAction?]
      split <;> rfl
  | offer p =>
      by_cases h : d.admitted = 0
      · simp only [act, offer, queueAction?, if_pos h, Option.elim_none]
      · simp only [act, offer, queueAction?, if_neg h, Option.elim_some, Queue.act]
        rcases d.link.queue.push p with ⟨pushed, q⟩
        cases pushed <;> rfl
  | announce =>
      by_cases h : d.announcing = 0
      · simp only [act, announce, queueAction?, if_pos h, Option.elim_none]
      · simp only [act, announce, queueAction?, if_neg h]
        rfl
  | clear => rfl
  | step a =>
      by_cases h : a.isInner = true
      · simp only [act, queueAction?, if_pos h]
        rfl
      · simp only [act, queueAction?, if_neg h, Option.elim_none]
  | reply worker =>
      simp only [act, reply, queueAction?]
      split <;> rfl
  | note stamp =>
      simp only [act, note, queueAction?]
      split
      · rw [Note.tellLink_eq]
        rfl
      · rfl
  | count =>
      cases hr : d.report with
      | none => simp only [act, count, queueAction?, hr, Option.elim_none]
      | some r =>
          obtain ⟨worker, o, rest⟩ := r
          cases rest with
          | nil =>
              simp only [act, count, queueAction?, hr]
              rfl
          | cons n rest => simp only [act, count, queueAction?, hr, Option.elim_none]

/-- A step of a desk makes one call of the breaker, or none, which changes it as little as a look at
its counter does. -/
theorem breaker_act (d : Desk) (now : Instant) (a : Action) :
    ∃ o, (d.act (a.at now)).link.breaker = (d.link.breaker.act ⟨now, o⟩).2 := by
  cases a with
  | ask t =>
      refine ⟨.allowRequest, ?_⟩
      simp only [Action.at, act, ask]
      split <;> rfl
  | offer p =>
      refine ⟨.failures, ?_⟩
      simp only [Action.at, act, offer]
      split
      · rfl
      · split <;> rfl
  | announce =>
      refine ⟨.failures, ?_⟩
      simp only [Action.at, act, announce]
      split <;> rfl
  | clear => exact ⟨.failures, rfl⟩
  | step a =>
      refine ⟨.failures, ?_⟩
      simp only [Action.at, act]
      split <;> rfl
  | reply worker =>
      refine ⟨.failures, ?_⟩
      simp only [Action.at, act, reply]
      split <;> rfl
  | note stamp =>
      simp only [Action.at, act, note]
      split
      · next worker o n rest hr =>
          cases n with
          | verdict success =>
              cases success with
              | true => exact ⟨.recordSuccess, rfl⟩
              | false => exact ⟨.recordFailure, rfl⟩
          | message success => exact ⟨.failures, rfl⟩
          | error f => exact ⟨.failures, rfl⟩
      · exact ⟨.failures, rfl⟩
  | count =>
      refine ⟨.failures, ?_⟩
      simp only [Action.at, act, count]
      split <;> rfl

theorem breaker_submit (d : Desk) (now : Instant) (p : Packet) :
    (d.submit now p).link.breaker = (d.link.breaker.allowRequest now).2 := by
  simp only [Desk.submit, Link.submit]
  split
  · split <;> rfl
  · rfl

theorem queue_submit (d : Desk) (now : Instant) (p : Packet) :
    (d.submit now p).link.queue = d.link.queue ∨
      (d.submit now p).link.queue = (d.link.queue.enqueue p).2 := by
  simp only [Desk.submit, Link.submit]
  split
  · right
    split <;> next h => exact (congrArg Prod.snd h).symm
  · exact .inl rfl

end Desk

namespace Scene

/-- Whatever happens makes one call of the breaker at most. -/
theorem breaker_act (s : Scene) (e : Move) :
    ∃ o, (s.act e).desk.link.breaker = (s.desk.link.breaker.act ⟨s.now, o⟩).2 := by
  cases e with
  | submit p => exact ⟨.allowRequest, s.desk.breaker_submit s.now p⟩
  | part a => exact s.desk.breaker_act s.now a
  | read => exact ⟨.state, rfl⟩
  | endAttempt i wall o offset m =>
      simp only [act]
      split
      · next c hc =>
          rcases endAttempt_breaker ⟨s.now, wall⟩ o offset c s.desk.link m with h | h
          · exact ⟨.failures, h⟩
          · exact ⟨.reset, h⟩
      · exact ⟨.failures, rfl⟩
  | _ => exact ⟨.failures, rfl⟩

/-- The queue and the callers are where they were. -/
structure Untouched (s' s : Scene) : Prop where
  queue : s'.desk.link.queue = s.desk.link.queue
  admitted : s'.desk.admitted = s.desk.admitted
  announcing : s'.desk.announcing = s.desk.announcing
  answers : s'.desk.answers = s.desk.answers
  begun : s'.begun = s.begun
  now : s'.now = s.now

theorem untouched_endAttempt (s : Scene) (i : Nat) (wall : Timestamp) (o : Outcome Unit)
    (offset : Float) (m : Monitor) : Untouched (s.act (.endAttempt i wall o offset m)) s := by
  simp only [act]
  split
  · next c hc =>
      exact ⟨endAttempt_queue ⟨s.now, wall⟩ o offset c s.desk.link m, rfl, rfl, rfl, rfl, rfl⟩
  · exact ⟨rfl, rfl, rfl, rfl, rfl, rfl⟩

end Scene

end LinkReliability.Link
