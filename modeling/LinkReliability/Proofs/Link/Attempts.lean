import LinkReliability.Link
import LinkReliability.Proofs.RollingWindow.Suffix
import Mathlib.Data.List.Induction

/-!
# Attempts to connect

The answers of a connector, the events that each failure leaves behind, and what the end of one
attempt does to the link and to the monitor.
-/

namespace LinkReliability

/-! ## The answers of a connector -/

namespace Script

variable {α : Type}

def after (success : α) (s : Script α) : Nat → Script α
  | 0 => s
  | n + 1 => ((s.after success n).next success).2

/-- The answer to call `n`, counted from zero. -/
def reply (success : α) (s : Script α) (n : Nat) : Reply α := ((s.after success n).next success).1

theorem next_after (success : α) (s : Script α) (n : Nat) :
    (s.after success n).next success = (s.reply success n, s.after success (n + 1)) := rfl

/-- The first calls fail, each in its way. -/
def FailsWith (s : Script Unit) (failures : List Failure) : Prop :=
  ∀ i (h : i < failures.length), (s.reply () i).outcome = .failed failures[i]

theorem FailsWith.take {s : Script Unit} {failures : List Failure} (h : s.FailsWith failures)
    (n : Nat) : s.FailsWith (failures.take n) := by
  intro i hi
  rw [List.getElem_take]
  exact h i (Nat.lt_of_lt_of_le hi (List.length_take_le' n failures))

theorem failsWith_concat {s : Script Unit} {failures : List Failure} {f : Failure} :
    s.FailsWith (failures ++ [f]) ↔
      s.FailsWith failures ∧ (s.reply () failures.length).outcome = .failed f := by
  unfold FailsWith
  constructor
  · intro h
    constructor
    · intro i hi
      rw [h i (by simp; omega), List.getElem_append_left hi]
    · rw [h failures.length (by simp), List.getElem_concat_length rfl]
  · rintro ⟨hinit, hlast⟩ i hi
    rw [List.length_append, List.length_singleton] at hi
    rcases Nat.lt_succ_iff_lt_or_eq.mp hi with hlt | rfl
    · rw [hinit i hlt, List.getElem_append_left hlt]
    · rw [hlast, List.getElem_concat_length rfl]

end Script

/-! ## The events of the attempts -/

/-- A failed attempt and the reading of the clock at its end. -/
structure FailedAttempt where
  stamp : Reading
  failure : Failure

namespace FailedAttempt

def errorEntry (service : String) (a : FailedAttempt) : Entry ErrorEvent :=
  ⟨a.stamp.now, ⟨a.stamp.wall, service, Category.ofFailure a.failure,
    String.ofList (a.failure.text.toList.take ErrorEvent.messageLimit)⟩⟩

def retryEntry (service : String) (number : Nat) (a : FailedAttempt) : Entry ConnectionEvent :=
  ⟨a.stamp.now, ⟨a.stamp.wall, service, .retry,
    Link.attemptText number ++ ": " ++ a.failure.text⟩⟩

/-- One event for each attempt, numbered on from `before`. -/
def retryEntries (service : String) (before : Nat) (attempts : List FailedAttempt) :
    List (Entry ConnectionEvent) :=
  attempts.mapIdx fun i a => a.retryEntry service (before + i + 1)

end FailedAttempt

def Monitor.afterFailures (m : Monitor) (service : String) (before : Nat)
    (attempts : List FailedAttempt) : Monitor :=
  { m with
    errorEvents := m.errorEvents.pushAll (attempts.map (·.errorEntry service))
    connectionEvents :=
      m.connectionEvents.pushAll (FailedAttempt.retryEntries service before attempts) }

theorem Monitor.afterFailures_concat (m : Monitor) (service : String) (before : Nat)
    (attempts : List FailedAttempt) (stamp : Reading) (f : Failure) :
    m.afterFailures service before (attempts ++ [⟨stamp, f⟩]) =
      ((m.afterFailures service before attempts).recordFailure stamp service
        f).2.recordConnectionEvent stamp service .retry
          (Link.attemptText (before + attempts.length + 1) ++ ": " ++ f.text) := by
  simp only [afterFailures, FailedAttempt.retryEntries, List.map_append, List.map_cons,
    List.map_nil, List.mapIdx_concat, RollingWindow.pushAll_concat]
  rfl

def Link.afterFailures (l : Link) (n : Nat) : Link :=
  { l with strategy := { l.strategy with attempts := l.strategy.attempts + n } }

theorem Monitor.isConnected_recordConnected (m : Monitor) (stamp : Reading)
    (service detail : String) :
    (m.recordConnectionEvent stamp service .connected detail).isConnected service = true := by
  have hconnect : ∀ s : Monitor.Service, (s.connect stamp).isConnected = true := by
    intro s
    unfold Monitor.Service.connect Monitor.Service.isConnected
    split
    · next h => rw [h]; rfl
    · rfl
  simp only [isConnected, recordConnectionEvent, servicesAfter, NameMap.get?_insert, if_pos,
    hconnect]

/-- The attempts that a loop can make: those that are left, and one in any case. -/
def Link.budget (l : Link) : Nat :=
  max 1 (l.strategy.config.maxAttempts.val - l.strategy.attempts)

theorem Link.budget_pos (l : Link) : 0 < l.budget := Nat.le_max_left 1 _

theorem Link.more_of_lt_budget (l : Link) {α : Type} {failures : List α}
    (h : failures.length < l.budget) : failures = [] ∨
      l.strategy.attempts + failures.length < l.strategy.config.maxAttempts.val := by
  unfold budget at h
  rw [← List.length_eq_zero_iff]
  omega

theorem Link.maxAttempts_le_counterMax (l : Link) :
    l.strategy.config.maxAttempts.val ≤ counterMax :=
  Nat.le_pred_of_lt l.strategy.config.maxAttempts.isLt

theorem Link.room_of_budget (l : Link) (room : l.strategy.attempts < counterMax) :
    l.strategy.attempts + l.budget ≤ counterMax := by
  have := l.maxAttempts_le_counterMax
  unfold budget
  omega

theorem Link.room_of_lt_budget (l : Link) {α : Type} {failures : List α}
    (h : failures.length < l.budget) :
    failures = [] ∨ l.strategy.attempts + failures.length ≤ counterMax :=
  (l.more_of_lt_budget h).imp_right
    (fun more => Nat.le_trans (Nat.le_of_lt more) l.maxAttempts_le_counterMax)

/-! ## The end of an attempt -/

/-- Where the loop goes after failure `n + 1`. -/
def Link.phaseAfterFailure (l : Link) (offset : Float) (n : Nat) : Link.ConnectPhase :=
  if l.strategy.attempts + n + 1 < l.strategy.config.maxAttempts.val
  then .backingOff (l.strategy.delay (l.strategy.attempts + n) offset)
  else .failed (.attemptsExhausted l.name (l.strategy.attempts + n + 1))

/-- A failure is recorded under the number of the attempt, and counted. -/
theorem Link.endAttempt_fails (l : Link) (m : Monitor) (calls : Nat) (stamp : Reading) (f : Failure)
    (offset : Float) (room : l.strategy.attempts < counterMax) :
    l.endAttempt stamp (.failed f) offset (l.beginAttempt ⟨calls, .idle⟩) m =
      (⟨calls + 1, l.phaseAfterFailure offset 0⟩, l.afterFailures 1,
        (m.recordFailure stamp l.name f).2.recordConnectionEvent stamp l.name .retry
          (attemptText (l.strategy.attempts + 1) ++ ": " ++ f.text)) := by
  have hcount : l.strategy.recordFailure = (l.afterFailures 1).strategy := by
    simp only [afterFailures, Reconnect.recordFailure, countUp_of_lt room]
  simp only [beginAttempt, endAttempt, attemptFailed, hcount]
  unfold phaseAfterFailure
  by_cases hmore : l.strategy.attempts + 1 < l.strategy.config.maxAttempts.val
  · have hretry : (l.afterFailures 1).strategy.shouldRetry = true := decide_eq_true hmore
    rw [if_pos hretry, Nat.add_zero, if_pos hmore]
    rfl
  · have hretry : ¬ (l.afterFailures 1).strategy.shouldRetry = true :=
      fun h => hmore (of_decide_eq_true h)
    rw [if_neg hretry, Nat.add_zero, if_neg hmore]
    rfl

/-- Only the name and the strategy of a link decide where its loop goes. -/
theorem Link.phaseAfterFailure_eq {l l' : Link} {n : Nat} (hname : l'.name = l.name)
    (hstrategy : l'.strategy = (l.afterFailures n).strategy) (offset : Float) :
    l'.phaseAfterFailure offset 0 = l.phaseAfterFailure offset n := by
  simp only [phaseAfterFailure, hname, hstrategy, afterFailures, Nat.add_zero]
  rfl

theorem Link.endAttempt_failed (l : Link) (m : Monitor) (attempts : List FailedAttempt)
    (stamp : Reading) (f : Failure) (offset : Float) (calls : Nat)
    (room : l.strategy.attempts + attempts.length < counterMax) :
    (l.afterFailures attempts.length).endAttempt stamp (.failed f) offset
        ((l.afterFailures attempts.length).beginAttempt ⟨calls, .idle⟩)
        (m.afterFailures l.name l.strategy.attempts attempts) =
      (⟨calls + 1, l.phaseAfterFailure offset attempts.length⟩,
        l.afterFailures (attempts.length + 1),
        m.afterFailures l.name l.strategy.attempts (attempts ++ [⟨stamp, f⟩])) := by
  have hname : (l.afterFailures attempts.length).name = l.name := rfl
  rw [Link.endAttempt_fails _ _ _ _ _ _ room, Link.phaseAfterFailure_eq hname rfl,
    Monitor.afterFailures_concat]
  rfl

/-- The link once it is connected after `n` failures. -/
def Link.afterSuccess (l : Link) (now : Instant) (n : Nat) : Link :=
  { l with
    strategy := { l.strategy with
      attempts := 0
      rampStart :=
        if 0 < l.strategy.attempts + n ∧ ¬ l.strategy.config.slowStartDuration.isZero then some now
        else l.strategy.rampStart }
    breaker := { l.breaker with phase := .closed, failures := 0 } }

theorem Link.endAttempt_done (l : Link) (m : Monitor) (n : Nat) (stamp : Reading)
    (offset : Float) (calls : Nat) :
    (l.afterFailures n).endAttempt stamp (.done ()) offset
        ((l.afterFailures n).beginAttempt ⟨calls, .idle⟩) m =
      (⟨calls + 1, .connected⟩, l.afterSuccess stamp.now n,
        m.recordConnectionEvent stamp l.name .connected
          (attemptText (l.strategy.attempts + n + 1))) := rfl

end LinkReliability
