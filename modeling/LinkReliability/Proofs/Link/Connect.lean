import LinkReliability.Proofs.Bridge.Undisturbed
import LinkReliability.Proofs.Link.Rounds

/-!
# What a reconnect loop leaves behind

A link that is connected with back-off makes one call for each failure and one for the success, if
there is one before the attempts are spent. Each failure leaves an error and a retry event with the
number of the attempt, and the end of the loop leaves what the last call came to.
-/

namespace LinkReliability

namespace BridgeRun

/-- Where an undisturbed loop stands after the failed attempts. -/
structure Trying (k : Nat) (start : BridgeRun) (l : Link) (attempts : List FailedAttempt)
    (r : BridgeRun) : Prop where
  reached : Reached k start r
  link : r.bridge.link? k = some (l.afterFailures attempts.length)
  monitor : r.bridge.monitor =
    start.bridge.monitor.afterFailures l.name l.strategy.attempts attempts

/-- The link and the monitor after a success, which is recorded at the reading of the clock. -/
structure Connected (k : Nat) (start : BridgeRun) (l : Link) (attempts : List FailedAttempt)
    (r : BridgeRun) : Prop where
  link : r.bridge.link? k = some (l.afterSuccess r.now attempts.length)
  monitor : r.bridge.monitor =
    (start.bridge.monitor.afterFailures l.name l.strategy.attempts attempts).recordConnectionEvent
      r.read l.name .connected (Link.attemptText (l.strategy.attempts + attempts.length + 1))

section Undisturbed

variable {k : Nat} {start r : BridgeRun} {l : Link} {attempts : List FailedAttempt}

theorem Trying.waited (t : Trying k start l attempts r) (h : Undisturbed k start)
    (target : Tick) : Trying k start l attempts (r.waitUntil target) := by
  obtain ⟨hlink, hmonitor⟩ := h r t.reached target
  exact ⟨.waited target t.reached, hlink.trans t.link, hmonitor.trans t.monitor⟩

theorem Trying.failed (t : Trying k start l attempts r) (call : Call Unit) (calls : Nat)
    (offset : Float) {f : Failure} (failed : call.outcome = .failed f)
    (room : l.strategy.attempts + attempts.length < counterMax) :
    Trying k start l (attempts ++ [⟨(r.clock.advance call.advance).read, f⟩])
      (r.endAttempt k (l.afterFailures attempts.length) call offset
        ((l.afterFailures attempts.length).beginAttempt ⟨calls, .idle⟩)).2 := by
  have reached := Reached.ended call offset
    ((l.afterFailures attempts.length).beginAttempt ⟨calls, .idle⟩) t.link t.reached
  have ends := Link.endAttempt_failed l start.bridge.monitor attempts
    (r.clock.advance call.advance).read f offset calls room
  rw [← t.monitor] at ends
  have link := (endAttempt_fails t.link failed calls offset room).2
  refine ⟨reached, ?_, ?_⟩
  · rw [link, List.length_append, List.length_singleton]
    rfl
  · simp only [endAttempt, failed, BridgeRun.read, ends]
    rfl

/-- Undisturbed, the loop leaves nothing but the events of the failed attempts and their count. -/
theorem Trail.trying {notes : List Note} (trail : Trail Waited k start notes r)
    (hl : start.bridge.link? k = some l) (alone : Undisturbed k start)
    (room : notes = [] ∨ l.strategy.attempts + notes.length ≤ counterMax) :
    Trying k start l (notes.map Note.attempt) r := by
  induction trail with
  | start => exact ⟨.start, hl, rfl⟩
  | between before between ih =>
      obtain ⟨target, rfl⟩ := between
      exact (ih room).waited alone target
  | @failed notes r l₁ call f before link outcome calls offset ih =>
      have hroom := room.resolve_left (by simp)
      rw [List.length_append, List.length_singleton] at hroom
      have t := ih (.inr (Nat.le_of_succ_le hroom))
      obtain rfl := Option.some.inj (t.link.symm.trans link)
      rw [List.map_append]
      exact t.failed call calls offset outcome (by
        rw [List.length_map]
        exact hroom)

theorem Trying.succeeded (t : Trying k start l attempts r) (call : Call Unit) (calls : Nat)
    (offset : Float) (succeeded : call.outcome = .done ()) :
    Connected k start l attempts
      (r.endAttempt k (l.afterFailures attempts.length) call offset
        ((l.afterFailures attempts.length).beginAttempt ⟨calls, .idle⟩)).2 := by
  have ends := Link.endAttempt_done l r.bridge.monitor attempts.length
    (r.clock.advance call.advance).read offset calls
  rw [t.monitor] at ends
  simp only [endAttempt, succeeded, t.monitor, BridgeRun.read, ends]
  exact ⟨link?_setLink _ _ _ t.link, rfl⟩

theorem connectWith_succeeds (hl : r.bridge.link? k = some l) (alone : Undisturbed k r)
    (script : Script Unit) (offsets : Nat → Float) (failures : List Failure)
    (failing : script.FailsWith failures) (early : failures.length < l.budget)
    (succeeding : (script.reply () failures.length).outcome = .done ()) :
    ∃ attempts r', attempts.map FailedAttempt.failure = failures ∧
      r.connectWith k script none offsets = (⟨failures.length + 1, .connected⟩, r') ∧
      Connected k r l attempts r' := by
  have spared : ∀ c ∈ (none : Option Tick),
      attemptEnd l script offsets r.tick failures.length < c := by simp
  obtain ⟨notes, r₁, l₁, call, rfl, a, hrun⟩ :=
    connectWith_connects hl failing early succeeding spared
  rw [List.length_map] at early succeeding
  have t := a.trail.trying hl alone (l.room_of_lt_budget early)
  obtain rfl := Option.some.inj (t.link.symm.trans a.link)
  refine ⟨notes.map Note.attempt, _, by simp, hrun, ?_⟩
  exact t.succeeded call notes.length (offsets notes.length) (a.outcome.trans succeeding)

theorem connectWith_exhausts (hl : r.bridge.link? k = some l) (alone : Undisturbed k r)
    (room : l.strategy.attempts < counterMax) (script : Script Unit) (offsets : Nat → Float)
    (failures : List Failure) (failing : script.FailsWith failures)
    (spent : failures.length = l.budget) :
    ∃ attempts r', attempts.map FailedAttempt.failure = failures ∧
      r.connectWith k script none offsets =
        (⟨l.budget, .failed (.attemptsExhausted l.name (l.strategy.attempts + l.budget))⟩, r') ∧
      Trying k r l attempts r' := by
  have spared : ∀ c ∈ (none : Option Tick),
      attemptEnd l script offsets r.tick (failures.length - 1) < c := by simp
  obtain ⟨notes, r', rfl, trail, hrun⟩ := connectWith_spends hl room failing spent spared
  rw [List.length_map] at spent
  exact ⟨notes.map Note.attempt, r', by simp, hrun,
    trail.trying hl alone (.inr (spent ▸ l.room_of_budget room))⟩

end Undisturbed

/-- The loop accounts for every attempt. When the first success comes before the attempts are spent,
the link is connected by that call; and when it does not, the link is given up with the last
failure and its breaker and the services stand as they were. Either way every failure has left one
error event and one retry event. -/
theorem connectWith_accounts (k : Nat) (r : BridgeRun) (l : Link) (script : Script Unit)
    (offsets : Nat → Float) (failures : List Failure) (hl : r.bridge.link? k = some l)
    (alone : Undisturbed k r) (room : l.strategy.attempts < counterMax)
    (failing : script.FailsWith failures) :
    (failures.length < l.budget → (script.reply () failures.length).outcome = .done () →
      ∃ attempts r', attempts.map FailedAttempt.failure = failures ∧
        r.connectWith k script none offsets = (⟨failures.length + 1, .connected⟩, r') ∧
        r'.bridge.link? k = some (l.afterSuccess r'.now failures.length) ∧
        r'.bridge.monitor =
          (r.bridge.monitor.afterFailures l.name l.strategy.attempts
            attempts).recordConnectionEvent r'.read l.name .connected
              (Link.attemptText (l.strategy.attempts + failures.length + 1)) ∧
        r'.bridge.monitor.isConnected l.name = true) ∧
    (failures.length = l.budget →
      ∃ attempts r', attempts.map FailedAttempt.failure = failures ∧
        r.connectWith k script none offsets =
          (⟨l.budget, .failed (.attemptsExhausted l.name (l.strategy.attempts + l.budget))⟩, r') ∧
        r'.bridge.link? k = some (l.afterFailures l.budget) ∧
        r'.bridge.monitor =
          r.bridge.monitor.afterFailures l.name l.strategy.attempts attempts) := by
  constructor
  · intro early succeeding
    obtain ⟨attempts, r', hfailures, hrun, connected⟩ := connectWith_succeeds hl alone script
      offsets failures failing early succeeding
    have hlength : attempts.length = failures.length := by rw [← hfailures, List.length_map]
    have hlink := connected.link
    have hmonitor := connected.monitor
    rw [hlength] at hlink hmonitor
    refine ⟨attempts, r', hfailures, hrun, hlink, hmonitor, ?_⟩
    rw [hmonitor]
    exact Monitor.isConnected_recordConnected _ _ _ _
  · intro spent
    obtain ⟨attempts, r', hfailures, hrun, failed⟩ := connectWith_exhausts hl alone room script
      offsets failures failing spent
    have hlength : attempts.length = l.budget := by rw [← spent, ← hfailures, List.length_map]
    refine ⟨attempts, r', hfailures, hrun, ?_, failed.monitor⟩
    rw [← hlength]
    exact failed.link

/-- A radio link that has two of its ten attempts left and an open breaker. -/
def weakRadio : Link where
  name := "mesh"
  outbound := .overlayToMesh
  breaker := ⟨"mesh", Breaker.Config.standard, .opened 0, 7⟩
  strategy := ⟨"mesh", Reconnect.Config.meshRadio, 8, none⟩
  queue := ⟨"mesh", Queue.Config.standard, [], 0, 0, 0, false, [], none, none⟩

/-- A bridge with this link alone, on which nothing is started. -/
def weakBridge : BridgeRun where
  tick := 0
  clock := ManualClock.startingAt (Timestamp.ofEpochNanos 0)
  bridge :=
    ⟨⟨Monitor.Config.standard, 0, ⟨[("mesh", Monitor.Service.fresh)]⟩, DirectionCounts.zero,
        DirectionCounts.zero, 0, RollingWindow.empty 1000, RollingWindow.empty 1000,
        RollingWindow.empty 1000⟩,
      ⟨Probe.Config.standard, NameMap.empty, [], [], 0, [], none, []⟩, [weakRadio],
      NameMap.empty⟩
  transports := []

def refused : Failure := Failure.ofText "connection refused"

def refusedOnce : Script Unit :=
  ⟨[Reply.immediate (.failed refused), Reply.immediate (.done ())]⟩

theorem weakBridge_rests : weakBridge.Rests := by
  refine ⟨fun l hl w hw => ?_, fun p hp => ?_⟩
  · rw [List.mem_singleton.mp hl] at hw
    cases hw
  · cases hp

theorem connectWith_accounts_weakBridge :
    weakBridge.bridge.link? 0 = some weakRadio ∧ Undisturbed 0 weakBridge ∧
      weakRadio.strategy.attempts < counterMax ∧ refusedOnce.FailsWith [refused] ∧
      ∃ attempts r', attempts.map FailedAttempt.failure = [refused] ∧
        weakBridge.connectWith 0 refusedOnce none (fun _ => 0.0) = (⟨2, .connected⟩, r') ∧
        r'.bridge.link? 0 = some (weakRadio.afterSuccess r'.now 1) ∧
        r'.bridge.monitor =
          (weakBridge.bridge.monitor.afterFailures "mesh" 8 attempts).recordConnectionEvent
            r'.read "mesh" .connected (Link.attemptText 10) ∧
        r'.bridge.monitor.isConnected "mesh" = true := by
  have link : weakBridge.bridge.link? 0 = some weakRadio := rfl
  have alone : Undisturbed 0 weakBridge := undisturbed_of_rests 0 weakBridge weakBridge_rests
  have room : weakRadio.strategy.attempts < counterMax := by decide
  have failing : refusedOnce.FailsWith [refused] := by
    intro i hi
    obtain rfl : i = 0 := Nat.lt_one_iff.mp hi
    rfl
  have accounts := connectWith_accounts 0 weakBridge weakRadio refusedOnce (fun _ => 0.0) [refused]
    link alone room failing
  exact ⟨link, alone, room, failing, accounts.1 (by decide) rfl⟩

end BridgeRun

end LinkReliability
