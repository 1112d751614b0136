import LinkReliability.Proofs.Link.Connect
import Mathlib.Data.Nat.Find

/-!
# Reconnect loops that are cut short

A token that fires in an attempt or in a back-off ends the loop with an error of its own, and leaves
what the failed attempts before it have left. The next call goes on counting where the last one was
cut short: through all the calls the attempts are numbered without a gap, and they are spent when
there have been as many as one call may make.
-/

namespace LinkReliability.BridgeRun

variable {k : Nat} {start r r' : BridgeRun} {l : Link} {script : Script Unit}
  {offsets : Nat → Float}

/-! ## One call -/

/-- The token fires at `c` when the first `n` attempts have ended and the next one has not. If it
fires just as an attempt ends, this attempt has not ended yet. -/
def CutAfter (l : Link) (script : Script Unit) (offsets : Nat → Float) (begin c : Tick) (n : Nat) :
    Prop :=
  (∀ i < n, attemptEnd l script offsets begin i < c) ∧ c ≤ attemptEnd l script offsets begin n

theorem exists_cutAfter {begin c : Tick} {n : Nat} (h : c ≤ attemptEnd l script offsets begin n) :
    ∃ i ≤ n, CutAfter l script offsets begin c i := by
  have hex : ∃ i, c ≤ attemptEnd l script offsets begin i := ⟨n, h⟩
  exact ⟨Nat.find hex, Nat.find_min' hex h,
    fun i hi => Nat.lt_of_not_le (Nat.find_min hex hi), Nat.find_spec hex⟩

theorem connectWith_cut (hl : r.bridge.link? k = some l) {failures : List Failure}
    (failing : script.FailsWith failures) (early : failures.length < l.budget) {c : Tick}
    (cut : CutAfter l script offsets r.tick c failures.length) :
    ∃ calls notes r', notes.map (·.attempt.failure) = failures ∧ Trail Waited k r notes r' ∧
      r.connectWith k script (some c) offsets = (⟨calls, .failed (.cancelled l.name)⟩, r') := by
  obtain ⟨ended, next⟩ := cut
  by_cases resumed : failures = [] ∨ attemptBegin l script offsets r.tick failures.length < c
  · -- The token fires in an attempt.
    have spared : failures = [] ∨
        ∀ c' ∈ some c, attemptBegin l script offsets r.tick failures.length < c' :=
      resumed.imp_right (fun h c' hc' => Option.some.inj hc' ▸ h)
    obtain ⟨notes, r₁, rfl, u, rounds⟩ := connectRounds_failing (stands_of_link hl) failing
      (l.more_of_lt_budget early) spared
    rw [List.length_map] at early next
    obtain ⟨n, hrounds⟩ := connectWith_eq hl script (some c) offsets early
    obtain ⟨r', trail, round⟩ := u.cut_in_attempt next (offsets notes.length)
    refine ⟨notes.length + 1, notes, r', rfl, trail, ?_⟩
    rw [hrounds, rounds, connectRounds_last round rfl rfl]
  · -- The token fires in the back-off after the last failure.
    obtain ⟨hne, hback⟩ := not_or.1 resumed
    obtain ⟨init, f, rfl⟩ := (List.eq_nil_or_concat' failures).resolve_left hne
    obtain ⟨hinit, hlast⟩ := Script.failsWith_concat.mp failing
    have more := (l.more_of_lt_budget early).resolve_left hne
    rw [List.length_append, List.length_singleton] at early ended hback more
    have inTime := ended init.length (Nat.lt_succ_self _)
    have early' : init.length < l.budget := Nat.lt_of_succ_lt early
    have spared : ∀ c' ∈ some c, attemptBegin l script offsets r.tick init.length < c' := by
      rintro c' ⟨⟩
      exact Nat.lt_of_le_of_lt (attemptBegin_le_attemptEnd ..) inTime
    obtain ⟨notes, r₁, rfl, u, rounds⟩ := connectRounds_failing (stands_of_link hl) hinit
      (l.more_of_lt_budget early') (.inr spared)
    rw [List.length_map] at early' hlast hback inTime more
    obtain ⟨n, hrounds⟩ := connectWith_eq hl script (some c) offsets early'
    obtain ⟨note, r', hfailure, trail, round⟩ := u.cut_in_backOff (stands_of_link hl) inTime
      (Nat.le_of_not_lt hback) hlast more
    refine ⟨notes.length + 1, notes ++ [note], r', by simp [hfailure], trail, ?_⟩
    rw [hrounds, rounds, connectRounds_last round rfl rfl]

/-- What a call comes to that was cut short after these failures. -/
structure CutShort (k : Nat) (r : BridgeRun) (l : Link) (failures : List Failure)
    (answer : Link.Connecting × BridgeRun) : Prop where
  cancelled : answer.1.phase = .failed (.cancelled l.name)
  /-- The failures are counted, and the ramp is the one that there was before. -/
  counted : Stands k (l.afterFailures failures.length) answer.2
  /-- All that the loop has done, other than to wait, was to record the failures. -/
  recorded : Recorded Waited k r (l.strategy.attempts + 1) failures answer.2
  /-- If nobody else has acted on them, the link and the monitor are as before, except for the
  count and for the events of the failures. -/
  neutral : Undisturbed k r → ∃ attempts, attempts.map FailedAttempt.failure = failures ∧
    answer.2.bridge.link? k = some (l.afterFailures failures.length) ∧
    answer.2.bridge.monitor =
      r.bridge.monitor.afterFailures l.name l.strategy.attempts attempts ∧
    answer.2.bridge.monitor.services = r.bridge.monitor.services

theorem cutShort_of_cutAfter (hl : r.bridge.link? k = some l) {failures : List Failure}
    (failing : script.FailsWith failures) (early : failures.length < l.budget) {c : Tick}
    (cut : CutAfter l script offsets r.tick c failures.length) :
    CutShort k r l failures (r.connectWith k script (some c) offsets) := by
  obtain ⟨calls, notes, r', rfl, trail, hrun⟩ := connectWith_cut hl failing early cut
  rw [List.length_map] at early
  have room := l.room_of_lt_budget early
  obtain ⟨stands, numbers⟩ := trail.stands (fun _ _ h => congrArg (·[k]?) h.strategies)
    (stands_of_link hl) room
  rw [hrun]
  refine ⟨rfl, ?_, ⟨notes, trail, rfl, ?_⟩, fun alone => ?_⟩
  · rw [List.length_map]
    exact stands
  · rw [List.length_map]
    exact numbers
  · have t := trail.trying hl alone room
    have hlink := t.link
    rw [List.length_map] at hlink
    refine ⟨notes.map Note.attempt, by simp, ?_, t.monitor, ?_⟩
    · rw [List.length_map]
      exact hlink
    · change r'.bridge.monitor.services = r.bridge.monitor.services
      rw [t.monitor]
      rfl

/-! ## One call after the other -/

/-- Others have acted, and have left the strategy of link `k` alone. -/
def Elsewhere (k : Nat) (r r' : BridgeRun) : Prop := r'.strategies[k]? = r.strategies[k]?

theorem Waited.elsewhere (h : Waited r r') : Elsewhere k r r' := congrArg (·[k]?) h.strategies

/-- Calls that were cut short, one after the other, and the failures of all of them. Others have
acted before, between and after the calls. -/
inductive CutCalls (k : Nat) (start : BridgeRun) : List Failure → BridgeRun → Prop
  | none : CutCalls k start [] start
  | meanwhile {failures : List Failure} {r r' : BridgeRun} (before : CutCalls k start failures r)
      (elsewhere : Elsewhere k r r') : CutCalls k start failures r'
  | call {failures more : List Failure} {r : BridgeRun} {l : Link} {script : Script Unit}
      {offsets : Nat → Float} {c : Tick} (before : CutCalls k start failures r)
      (link : r.bridge.link? k = some l) (failing : script.FailsWith more)
      (early : more.length < l.budget) (cut : CutAfter l script offsets r.tick c more.length) :
      CutCalls k start (failures ++ more) (r.connectWith k script (some c) offsets).2

theorem Recorded.stands {failures : List Failure}
    (recorded : Recorded (Elsewhere k) k start (l.strategy.attempts + 1) failures r)
    (hl : Stands k l start) (room : l.strategy.attempts + failures.length ≤ counterMax) :
    Stands k (l.afterFailures failures.length) r := by
  obtain ⟨notes, trail, rfl, -⟩ := recorded
  rw [List.length_map] at room ⊢
  exact (trail.stands (fun _ _ h => h) hl (.inr room)).1

/-- A loop that records some failures more goes on with their numbers. -/
theorem Recorded.append {notes : List Note} {failures : List Failure}
    (before : Recorded (Elsewhere k) k start (l.strategy.attempts + 1) failures r)
    (after : Trail Waited k r notes r') (hl : Stands k l start)
    (room : l.strategy.attempts + failures.length + notes.length ≤ counterMax) :
    Recorded (Elsewhere k) k start (l.strategy.attempts + 1)
      (failures ++ notes.map (·.attempt.failure)) r' := by
  obtain ⟨earlier, trail, rfl, -⟩ := before
  have total := trail.append (after.mono (fun _ _ h => h.elsewhere))
  have hlength : (earlier.map (·.attempt.failure) ++ notes.map (·.attempt.failure)).length =
      (earlier ++ notes).length := by
    simp
  rw [List.length_map, Nat.add_assoc, ← List.length_append] at room
  refine ⟨earlier ++ notes, total, by simp, ?_⟩
  rw [hlength]
  exact (total.stands (fun _ _ h => h) hl (.inr room)).2

/-- The calls have recorded their failures and nothing else, and have left attempts to spend. -/
theorem CutCalls.recorded {failures : List Failure} (calls : CutCalls k start failures r)
    (hl : Stands k l start) (left : l.strategy.attempts < l.strategy.config.maxAttempts.val) :
    l.strategy.attempts + failures.length < l.strategy.config.maxAttempts.val ∧
      Recorded (Elsewhere k) k start (l.strategy.attempts + 1) failures r := by
  have hmax := l.maxAttempts_le_counterMax
  induction calls with
  | none => exact ⟨left, [], .start, rfl, rfl⟩
  | meanwhile before elsewhere ih =>
      obtain ⟨left, notes, trail, hfailures, numbers⟩ := ih
      exact ⟨left, notes, .between trail elsewhere, hfailures, numbers⟩
  | @call failures more r l₁ script offsets c before link failing early cut ih =>
      obtain ⟨left, recorded⟩ := ih
      obtain ⟨l', hl', -, hstrategy⟩ := stands_iff.1 (recorded.stands hl (by omega))
      obtain rfl := Option.some.inj (hl'.symm.trans link)
      obtain ⟨calls, notes, r', rfl, trail, hrun⟩ := connectWith_cut link failing early cut
      have left' : l.strategy.attempts + failures.length + notes.length <
          l.strategy.config.maxAttempts.val := by
        rw [Link.budget, hstrategy] at early
        simp only [Link.afterFailures, List.length_map] at early
        omega
      rw [hrun]
      refine ⟨?_, recorded.append trail hl (by omega)⟩
      rw [List.length_append, List.length_map, ← Nat.add_assoc]
      exact left'

/-- What comes of a call after calls that were cut short, if it is not cut short itself. -/
structure Resumes (k : Nat) (start : BridgeRun) (l : Link) (failures : List Failure)
    (r : BridgeRun) : Prop where
  recorded : Recorded (Elsewhere k) k start (l.strategy.attempts + 1) failures r
  /-- The attempts are spent when there have been as many in all as one call may make. -/
  exhausts : ∀ {l' script cancel offsets rest}, r.bridge.link? k = some l' →
    script.FailsWith rest →
    l.strategy.attempts + failures.length + rest.length = l.strategy.config.maxAttempts.val →
    (∀ c ∈ cancel, attemptEnd l' script offsets r.tick (rest.length - 1) < c) →
    ∃ r', r.connectWith k script cancel offsets =
        (⟨rest.length, .failed (.attemptsExhausted l.name l.strategy.config.maxAttempts.val)⟩,
          r') ∧
      Recorded (Elsewhere k) k start (l.strategy.attempts + 1) (failures ++ rest) r'
  /-- A success has the number after those of all the failures. -/
  connects : ∀ {l' script cancel offsets rest}, r.bridge.link? k = some l' →
    script.FailsWith rest →
    l.strategy.attempts + failures.length + rest.length < l.strategy.config.maxAttempts.val →
    (script.reply () rest.length).outcome = .done () →
    (∀ c ∈ cancel, attemptEnd l' script offsets r.tick rest.length < c) →
    ∃ r₁ l₁ call, r.connectWith k script cancel offsets =
        (⟨rest.length + 1, .connected⟩, (r₁.endAttempt k l₁ call (offsets rest.length)
          ⟨rest.length + 1,
            .attempting (l.strategy.attempts + (failures ++ rest).length + 1)⟩).2) ∧
      r₁.bridge.link? k = some l₁ ∧ call.outcome = .done () ∧
      Recorded (Elsewhere k) k start (l.strategy.attempts + 1) (failures ++ rest) r₁

theorem CutCalls.resumes {failures : List Failure} (calls : CutCalls k start failures r)
    (hl : Stands k l start) (left : l.strategy.attempts < l.strategy.config.maxAttempts.val) :
    Resumes k start l failures r := by
  obtain ⟨more, recorded⟩ := calls.recorded hl left
  have hmax := l.maxAttempts_le_counterMax
  have stands := recorded.stands hl (by omega)
  have hlink {l' : Link} (link : r.bridge.link? k = some l') : l'.name = l.name ∧
      l'.strategy.attempts = l.strategy.attempts + failures.length ∧
      l'.budget = l.strategy.config.maxAttempts.val - (l.strategy.attempts + failures.length) := by
    obtain ⟨l₁, hl₁, hname, hstrategy⟩ := stands_iff.1 stands
    obtain rfl := Option.some.inj (hl₁.symm.trans link)
    refine ⟨hname, congrArg Reconnect.attempts hstrategy, ?_⟩
    rw [Link.budget, hstrategy]
    simp only [Link.afterFailures]
    omega
  refine ⟨recorded, ?_, ?_⟩
  · intro l' script cancel offsets rest link failing spent spared
    obtain ⟨hname, hattempts, hbudget⟩ := hlink link
    obtain ⟨notes, r', rfl, trail, hrun⟩ := connectWith_spends link (by omega) failing (by omega)
      spared
    rw [List.length_map] at spent ⊢
    refine ⟨r', ?_, recorded.append trail hl (by omega)⟩
    have hnumber : l'.strategy.attempts + l'.budget = l.strategy.config.maxAttempts.val := by omega
    have hcalls : l'.budget = notes.length := by omega
    rw [hrun, hnumber, hcalls, hname]
  · intro l' script cancel offsets rest link failing early succeeding spared
    obtain ⟨hname, hattempts, hbudget⟩ := hlink link
    obtain ⟨notes, r₁, l₁, call, rfl, a, hrun⟩ := connectWith_connects link failing (by omega)
      succeeding spared
    rw [List.length_map] at early succeeding ⊢
    have hnumber : l₁.strategy.attempts =
        l.strategy.attempts + (failures ++ notes.map (·.attempt.failure)).length := by
      rw [a.strategy, List.length_append, List.length_map, ← Nat.add_assoc, ← hattempts]
      rfl
    have hbegun : l₁.beginAttempt ⟨notes.length, .idle⟩ = ⟨notes.length + 1, .attempting
        (l.strategy.attempts + (failures ++ notes.map (·.attempt.failure)).length + 1)⟩ := by
      simp only [Link.beginAttempt, hnumber]
    rw [hbegun, List.length_map] at hrun
    exact ⟨r₁, l₁, call, hrun, a.link, a.outcome.trans succeeding,
      recorded.append a.trail hl (by omega)⟩

/-! ## Cancelling is neutral -/

/-- Whenever the token of a call fires before the last attempt has ended, the call is cut short after
the failures till then, and these are all that it leaves behind. However many calls are cut short,
one that is not goes on from there: the failures of all the calls are numbered on without a gap or a
repetition, and the one that brings them up to the attempts allowed gives the link up. -/
theorem cancelled_connect_resumes (k : Nat) (start : BridgeRun) (l : Link)
    (hl : start.bridge.link? k = some l) :
    (∀ script offsets failures c, script.FailsWith failures → failures.length < l.budget →
      c ≤ attemptEnd l script offsets start.tick failures.length →
      ∃ n ≤ failures.length, CutAfter l script offsets start.tick c n ∧
        CutShort k start l (failures.take n) (start.connectWith k script (some c) offsets)) ∧
    (l.strategy.attempts < l.strategy.config.maxAttempts.val →
      ∀ failures r, CutCalls k start failures r → Resumes k start l failures r) := by
  refine ⟨?_, fun left failures r calls => calls.resumes (stands_of_link hl) left⟩
  intro script offsets failures c failing early fires
  obtain ⟨n, hn, cut⟩ := exists_cutAfter fires
  have hlength : (failures.take n).length = n := List.length_take_of_le hn
  refine ⟨n, hn, cut, cutShort_of_cutAfter hl (failing.take n) ?_ ?_⟩
  · rw [hlength]
    exact Nat.lt_of_le_of_lt hn early
  · rw [hlength]
    exact cut

/-- The radio with no failed attempt so far. -/
def restedRadio : Link := { weakRadio with strategy := { weakRadio.strategy with attempts := 0 } }

def restedBridge : BridgeRun :=
  { weakBridge with bridge := { weakBridge.bridge with links := [restedRadio] } }

/-- Every call is refused after five milliseconds. -/
def alwaysRefused : Script Unit := ⟨[⟨Duration.ofMillis 5, Duration.zero, .failed refused⟩]⟩

theorem alwaysRefused_failsWith (n : Nat) : alwaysRefused.FailsWith (List.replicate n refused) := by
  intro i hi
  have hafter : alwaysRefused.after () i = alwaysRefused := by
    clear hi
    induction i with
    | zero => rfl
    | succ i ih => rw [Script.after, ih]; rfl
  rw [Script.reply, hafter, List.getElem_replicate]
  rfl

/-- A first call is cut short in the back-off after its first failure or in its second attempt, and
a second one spends the nine attempts that are left. -/
theorem cancelled_connect_resumes_restedBridge :
    restedBridge.bridge.link? 0 = some restedRadio ∧ Undisturbed 0 restedBridge ∧
      CutShort 0 restedBridge restedRadio [refused]
        (restedBridge.connectWith 0 alwaysRefused (some 6) (fun _ => 0.0)) ∧
      ∃ r', (restedBridge.connectWith 0 alwaysRefused (some 6) (fun _ => 0.0)).2.connectWith 0
          alwaysRefused none (fun _ => 0.0) = (⟨9, .failed (.attemptsExhausted "mesh" 10)⟩, r') ∧
        Recorded (Elsewhere 0) 0 restedBridge 1 (List.replicate 10 refused) r' := by
  have link : restedBridge.bridge.link? 0 = some restedRadio := rfl
  have rests : restedBridge.Rests := by
    refine ⟨fun l hl w hw => ?_, weakBridge_rests.loops⟩
    rw [List.mem_singleton.mp hl] at hw
    cases hw
  have theory := cancelled_connect_resumes 0 restedBridge restedRadio link
  have first : attemptEnd restedRadio alwaysRefused (fun _ => 0.0) restedBridge.tick 0 = 5 := by
    decide
  have second : 6 ≤ attemptEnd restedRadio alwaysRefused (fun _ => 0.0) restedBridge.tick 1 := by
    have hbegin := attemptEnd_le_attemptBegin restedRadio alwaysRefused (fun _ => 0.0)
      restedBridge.tick 0
    have htime : Nat.min (alwaysRefused.reply () 1).delay.ceilMillis longestWait = 5 := by decide
    rw [first] at hbegin
    rw [attemptEnd, Tick.after, htime]
    exact Nat.le_trans (by decide) (Nat.add_le_add_right hbegin 5)
  obtain ⟨n, hn, cut, short⟩ := theory.1 alwaysRefused (fun _ => 0.0) [refused] 6
    (alwaysRefused_failsWith 1) (by decide) second
  obtain rfl : n = 1 := by
    refine Nat.le_antisymm hn (Nat.pos_of_ne_zero ?_)
    rintro rfl
    have hfires := cut.2
    rw [first] at hfires
    exact absurd hfires (by decide)
  have calls : CutCalls 0 restedBridge [refused] _ :=
    .call .none link (alwaysRefused_failsWith 1) (by decide) cut
  obtain ⟨l', hl', -⟩ := stands_iff.1 short.counted
  have unspared : ∀ c ∈ (none : Option Tick), attemptEnd l' alwaysRefused (fun _ => 0.0)
      (restedBridge.connectWith 0 alwaysRefused (some 6) (fun _ => 0.0)).2.tick
      ((List.replicate 9 refused).length - 1) < c := by simp
  exact ⟨link, undisturbed_of_rests 0 restedBridge rests, short,
    (theory.2 (by decide) [refused] _ calls).exhausts hl' (alwaysRefused_failsWith 9) (by decide)
      unspared⟩

end LinkReliability.BridgeRun
