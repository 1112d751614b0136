import LinkReliability.Link
import LinkReliability.Proofs.Health.Counters
import LinkReliability.Proofs.Reconnect.History

/-!
# Counters and their width

Results in a row and failed attempts are kept in 32 bits. The number that a counter is raised to is
computed here without a limit, and compared with the width: a counter of results overflows once a
service has confirmed its state often enough without a break, and the number of an attempt overflows
after the count of failures has stopped at its largest value.
-/

namespace LinkReliability

namespace Health

/-- The state that results equal to `b` lead to. -/
def goal (b : Bool) : HealthState := if b then .healthy else .unhealthy

/-- The number of results equal to `b` that lead there. -/
def needed (t : Thresholds) (b : Bool) : Nat := if b then t.passes else t.fails

def counter (b : Bool) (h : Health) : Nat := if b then h.consecutivePasses else h.consecutiveFails

/-- What a result raises its counter to. A transition clears the counter only then. -/
def increment (r : CheckResult) (h : Health) : Nat := h.counter r.healthy + 1

/-- The service was not yet in the state that the results at the end lead to when enough of them
had come, so that the counter was cleared. -/
def Cleared (t : Thresholds) (b : Bool) (rs : List Bool) : Prop :=
  needed t b ≤ trailing b rs ∧
    verdict t (rs.take (rs.length - trailing b rs + (needed t b - 1))) ≠ goal b

instance (t : Thresholds) (b : Bool) (rs : List Bool) : Decidable (Cleared t b rs) :=
  inferInstanceAs (Decidable (_ ∧ _))

section Counter

variable {t : Thresholds} {rs : List Bool} {h : Health}

/-! ## One result -/

/-- A result raises its counter, which is cleared if that brings the service to a new state. -/
theorem counter_apply (t : Thresholds) (h : Health) (r : CheckResult) :
    (h.apply t r).counter r.healthy =
      if h.state ≠ goal r.healthy ∧ needed t r.healthy ≤ h.increment r then 0
      else h.increment r := by
  unfold increment Health.apply
  cases r.healthy with
  | true =>
      rcases pass_cases t h with ⟨hs, hreach, heq⟩ | ⟨hshort, heq⟩
      · rw [if_pos rfl, heq]
        exact (if_pos ⟨hs, hreach⟩).symm
      · rw [if_pos rfl, heq]
        exact (if_neg fun hreached => Nat.not_le.2 (hshort hreached.1) hreached.2).symm
  | false =>
      rcases fail_cases t h with ⟨hs, hreach, heq⟩ | ⟨hshort, heq⟩
      · rw [if_neg Bool.false_ne_true, heq]
        exact (if_pos ⟨hs, hreach⟩).symm
      · rw [if_neg Bool.false_ne_true, heq]
        exact (if_neg fun hreached => Nat.not_le.2 (hshort hreached.1) hreached.2).symm

theorem counter_apply_other (t : Thresholds) (h : Health) {r : CheckResult} {b : Bool}
    (hb : r.healthy ≠ b) : (h.apply t r).counter b = 0 := by
  unfold Health.apply
  cases hr : r.healthy with
  | true =>
      obtain rfl : b = false := by simpa [hr] using hb
      rcases pass_cases t h with ⟨-, -, heq⟩ | ⟨-, heq⟩ <;> simp [heq, counter]
  | false =>
      obtain rfl : b = true := by simpa [hr] using hb
      rcases fail_cases t h with ⟨-, -, heq⟩ | ⟨-, heq⟩ <;> simp [heq, counter]

theorem Follows.counter_eq (f : Follows t rs h) {b : Bool} (hs : h.state ≠ goal b) :
    h.counter b = trailing b rs := by
  cases b with
  | true => exact f.passes_eq hs
  | false => exact f.fails_eq hs

theorem Streaks.counter_lt (c : Streaks t rs h) {b : Bool} (hs : h.state ≠ goal b) :
    h.counter b < needed t b := by
  cases b with
  | true => exact c.passes_lt hs
  | false => exact c.fails_lt hs

/-! ## Whole histories -/

theorem trailing_le_length (b : Bool) (rs : List Bool) : trailing b rs ≤ rs.length := by
  induction rs using List.reverseRecOn with
  | nil => exact Nat.le_refl 0
  | append_singleton rs r ih =>
      rw [trailing_concat, List.length_append, List.length_singleton]
      split <;> omega

/-- One more result equal to `b` may clear the counter at the threshold, and not after it. -/
theorem cleared_concat {b : Bool} :
    Cleared t b (rs ++ [b]) ↔
      Cleared t b rs ∨ needed t b = trailing b rs + 1 ∧ verdict t rs ≠ goal b := by
  have htrailing : trailing b (rs ++ [b]) = trailing b rs + 1 := by
    rw [trailing_concat, if_pos rfl]
  have hbound := trailing_le_length b rs
  have hlength : (rs ++ [b]).length - (trailing b rs + 1) = rs.length - trailing b rs := by
    rw [List.length_append, List.length_singleton]
    omega
  unfold Cleared
  rw [htrailing, hlength]
  -- the threshold was passed before, is reached by this very result, or is still out of reach
  rcases Nat.lt_trichotomy (needed t b) (trailing b rs + 1) with hlt | heq | hgt
  · have hwithin : rs.length - trailing b rs + (needed t b - 1) ≤ rs.length := by omega
    rw [List.take_append_of_le_length hwithin]
    have hpast : needed t b ≤ trailing b rs := by omega
    simp [hpast, hlt.le, hlt.ne]
  · have hall : rs.length - trailing b rs + (needed t b - 1) = rs.length := by omega
    have hshort : ¬ needed t b ≤ trailing b rs := by omega
    rw [hall, List.take_left']
    · simp [heq]
    · rfl
  · have hshort : ¬ needed t b ≤ trailing b rs + 1 := by omega
    have hbefore : ¬ needed t b ≤ trailing b rs := by omega
    simp [hshort, hbefore, hgt.ne']

/-- The results at the end that the counter of their kind still holds. -/
def held (t : Thresholds) (b : Bool) (rs : List Bool) : Nat :=
  trailing b rs - if Cleared t b rs then needed t b else 0

theorem held_concat {b : Bool} :
    held t b (rs ++ [b]) =
      if needed t b = trailing b rs + 1 ∧ verdict t rs ≠ goal b then 0 else held t b rs + 1 := by
  have htrailing : trailing b (rs ++ [b]) = trailing b rs + 1 := by
    rw [trailing_concat, if_pos rfl]
  unfold held
  by_cases hbefore : Cleared t b rs
  · have hpast : needed t b ≤ trailing b rs := hbefore.1
    have hnow : ¬ (needed t b = trailing b rs + 1 ∧ verdict t rs ≠ goal b) := by omega
    rw [htrailing, if_pos (cleared_concat.2 (.inl hbefore)), if_pos hbefore, if_neg hnow]
    omega
  · by_cases hnow : needed t b = trailing b rs + 1 ∧ verdict t rs ≠ goal b
    · rw [htrailing, if_pos (cleared_concat.2 (.inr hnow)), if_pos hnow, hnow.1, Nat.sub_self]
    · have hnever : ¬ Cleared t b (rs ++ [b]) := fun h => (cleared_concat.1 h).elim hbefore hnow
      rw [htrailing, if_neg hnever, if_neg hbefore, if_neg hnow, Nat.sub_zero, Nat.sub_zero]

theorem counter_folded (hp : 0 < t.passes) (hf : 0 < t.fails) (results : List CheckResult)
    (b : Bool) : (folded t results).counter b = held t b (outcomes results) := by
  induction results using List.reverseRecOn with
  | nil => cases b <;> exact (Nat.zero_sub _).symm
  | append_singleton results r ih =>
      have hfollows := follows_folded hp hf results
      have hstreaks := streaks_folded hp hf results
      rw [folded_concat, outcomes_concat]
      by_cases hr : r.healthy = b
      · subst hr
        -- short of its goal a service has counted the whole run, so it is one result away from the
        -- threshold exactly if the run is
        have hreached : (folded t results).state ≠ goal r.healthy ∧
              needed t r.healthy ≤ (folded t results).increment r ↔
            needed t r.healthy = trailing r.healthy (outcomes results) + 1 ∧
              (folded t results).state ≠ goal r.healthy := by
          rw [and_comm]
          refine and_congr_left fun hs => ?_
          have hcount := hfollows.counter_eq hs
          have hbelow := hstreaks.counter_lt hs
          unfold increment
          omega
        rw [counter_apply, held_concat, ← hfollows.state_eq]
        exact if_congr hreached rfl (congrArg (· + 1) ih)
      · have hzero : trailing b (outcomes results ++ [r.healthy]) = 0 := by
          rw [trailing_concat, if_neg hr]
        rw [counter_apply_other t _ hr, held, hzero, Nat.zero_sub]

theorem increment_folded (hp : 0 < t.passes) (hf : 0 < t.fails) (results : List CheckResult)
    (r : CheckResult) :
    (folded t results).increment r = held t r.healthy (outcomes results) + 1 := by
  rw [increment, counter_folded hp hf]

theorem held_le_length (t : Thresholds) (b : Bool) (rs : List Bool) : held t b rs ≤ rs.length :=
  Nat.le_trans (Nat.sub_le _ _) (trailing_le_length b rs)

/-- Until a service is in the state that its results lead to, the threshold bounds their counter. -/
theorem increment_le_needed (hp : 0 < t.passes) (hf : 0 < t.fails) (results : List CheckResult)
    {r : CheckResult} (hs : (folded t results).state ≠ goal r.healthy) :
    (folded t results).increment r ≤ needed t r.healthy :=
  (streaks_folded hp hf results).counter_lt hs

/-! ## Equal results -/

theorem trailing_replicate (n : Nat) (b : Bool) : trailing b (List.replicate n b) = n := by
  induction n with
  | zero => rfl
  | succ n ih => rw [List.replicate_succ', trailing_concat, if_pos rfl, ih]

theorem outcomes_resultsAt (rs : List Bool) : outcomes (resultsAt rs) = rs := by
  unfold outcomes resultsAt
  rw [List.map_map]
  exact List.map_id rs

/-- Where one result too few leaves a service short of its state, the counter lacks those that the
threshold took. -/
theorem increment_replicate (hp : 0 < t.passes) (hf : 0 < t.fails) {n : Nat} {r : CheckResult}
    (hn : needed t r.healthy ≤ n)
    (hshort : verdict t (List.replicate (needed t r.healthy - 1) r.healthy) ≠ goal r.healthy) :
    (folded t (resultsAt (List.replicate n r.healthy))).increment r =
      n - needed t r.healthy + 1 := by
  have hwithin : min (needed t r.healthy - 1) n = needed t r.healthy - 1 := by omega
  have hcleared : Cleared t r.healthy (List.replicate n r.healthy) := by
    unfold Cleared
    rw [trailing_replicate, List.length_replicate, Nat.sub_self, Nat.zero_add, List.take_replicate,
      hwithin]
    exact ⟨hn, hshort⟩
  rw [increment_folded hp hf, outcomes_resultsAt, held, trailing_replicate, if_pos hcleared]

end Counter

end Health

theorem Probe.needed_lt (p : Probe) (b : Bool) : Health.needed p.thresholds b < Nat.pow 2 32 := by
  cases b with
  | true => exact p.config.passes.isLt
  | false => exact p.config.fails.isLt

/-! ## The number of an attempt -/

namespace Reconnect

section Attempts

variable {name : String} {c : Config} {s : Reconnect}

theorem attempts_run (h : create name c = .ok s) (history : List Event) :
    (s.run history).attempts = min (failuresSince history) counterMax :=
  ((Follows.of_create h).run history).attempts_eq

theorem failuresSince_replicate (n : Nat) (now : Instant) :
    failuresSince (List.replicate n ⟨now, .failure⟩) = n := by
  induction n with
  | zero => rfl
  | succ n ih => rw [List.replicate_succ', failuresSince_concat, if_pos rfl, ih]

/-- The count of failures stops at its largest value, and the next attempt is numbered past it. -/
theorem attempts_replicate (h : create name c = .ok s) {n : Nat} (hn : counterMax ≤ n)
    (now : Instant) : (s.run (List.replicate n ⟨now, .failure⟩)).attempts + 1 = counterMax + 1 := by
  rw [attempts_run h, failuresSince_replicate, Nat.min_eq_right hn]

end Attempts

end Reconnect

theorem Link.beginAttempt_idle (l : Link) {cn : Link.Connecting} (h : cn.phase = .idle) :
    (l.beginAttempt cn).phase = .attempting (l.strategy.attempts + 1) := by
  unfold beginAttempt
  rw [h]

/-! ## Both -/

theorem succ_lt_width_iff (n : Nat) : n + 1 < Nat.pow 2 32 ↔ n < counterMax := by
  unfold counterMax
  omega

/-- A counter of results leaves its width exactly if it still holds the largest number of results
in a row, which takes as many results and a state that they confirm. The number of an attempt leaves
its width exactly if the count of failures has stopped at its largest value. -/
theorem increments_fit_iff (t : Thresholds) (hp : 1 ≤ t.passes) (hf : 1 ≤ t.fails)
    (results : List CheckResult) (r : CheckResult) :
    ((Health.folded t results).apply t r).counter r.healthy =
        (if (Health.folded t results).state ≠ Health.goal r.healthy ∧
            Health.needed t r.healthy ≤ (Health.folded t results).increment r then 0
        else (Health.folded t results).increment r) ∧
      ((Health.folded t results).increment r < Nat.pow 2 32 ↔
        Health.held t r.healthy (Health.outcomes results) < counterMax) ∧
      (results.length < counterMax → (Health.folded t results).increment r < Nat.pow 2 32) ∧
      (∀ p : Probe, p.thresholds = t → (Health.folded t results).state ≠ Health.goal r.healthy →
        (Health.folded t results).increment r < Nat.pow 2 32) ∧
      ∀ (name : String) (c : Reconnect.Config) (s : Reconnect), Reconnect.create name c = .ok s →
        ∀ history : List Reconnect.Event,
          ((s.run history).attempts + 1 < Nat.pow 2 32 ↔
            Reconnect.failuresSince history < counterMax) ∧
          ∀ (l : Link) (cn : Link.Connecting), l.strategy = s.run history → cn.phase = .idle →
            (l.beginAttempt cn).phase = .attempting ((s.run history).attempts + 1) := by
  have hheld : (Health.folded t results).increment r < Nat.pow 2 32 ↔
      Health.held t r.healthy (Health.outcomes results) < counterMax := by
    rw [Health.increment_folded hp hf, succ_lt_width_iff]
  refine ⟨Health.counter_apply t _ r, hheld, ?_, ?_, ?_⟩
  · intro hlength
    have hle := Health.held_le_length t r.healthy (Health.outcomes results)
    rw [Health.outcomes, List.length_map] at hle
    exact hheld.2 (Nat.lt_of_le_of_lt hle hlength)
  · rintro p rfl hs
    exact Nat.lt_of_le_of_lt (Health.increment_le_needed hp hf results hs) (p.needed_lt _)
  · intro name c s h history
    refine ⟨?_, ?_⟩
    · rw [succ_lt_width_iff, Reconnect.attempts_run h]
      omega
    · rintro l cn hl hidle
      rw [l.beginAttempt_idle hidle, hl]

/-- Two passes make this service healthy. The third counts as the first of a new run, and a fourth
would be its second. -/
theorem increments_fit_iff_thirdPass :
    1 ≤ (⟨2, 3⟩ : Thresholds).passes ∧ 1 ≤ (⟨2, 3⟩ : Thresholds).fails ∧
      (Health.folded ⟨2, 3⟩ (Health.resultsAt [true, true, true])).increment
        ⟨true, "", Duration.zero, Timestamp.ofEpochNanos 0⟩ < Nat.pow 2 32 ∧
      ∃ s, Reconnect.create "mesh" Reconnect.Config.meshRadio = .ok s ∧
        (s.run Reconnect.failedAgain).attempts + 1 < Nat.pow 2 32 := by
  have hs : Reconnect.create "mesh" Reconnect.Config.meshRadio = .ok _ := rfl
  obtain ⟨-, hheld, -, -, hattempts⟩ := increments_fit_iff ⟨2, 3⟩ (by decide) (by decide)
    (Health.resultsAt [true, true, true]) ⟨true, "", Duration.zero, Timestamp.ofEpochNanos 0⟩
  refine ⟨by decide, by decide, hheld.2 (by decide), _, hs, ?_⟩
  exact (hattempts _ _ _ hs Reconnect.failedAgain).1.2 (by decide)

/-- Neither number stays within its width: a healthy service that keeps passing, and a link that
fails once too often. -/
theorem increments_reach_width :
    (Health.folded ⟨2, 3⟩ (Health.resultsAt (List.replicate (Nat.pow 2 32 + 1) true))).increment
        ⟨true, "", Duration.zero, Timestamp.ofEpochNanos 0⟩ = Nat.pow 2 32 ∧
      ∃ s, Reconnect.create "mesh" Reconnect.Config.meshRadio = .ok s ∧
        (s.run (List.replicate counterMax ⟨0, .failure⟩)).attempts + 1 = Nat.pow 2 32 := by
  have hs : Reconnect.create "mesh" Reconnect.Config.meshRadio = .ok _ := rfl
  refine ⟨?_, _, hs, Reconnect.attempts_replicate hs (Nat.le_refl _) 0⟩
  exact Health.increment_replicate (t := ⟨2, 3⟩)
    (r := ⟨true, "", Duration.zero, Timestamp.ofEpochNanos 0⟩) (by decide) (by decide) (by decide)
    (by decide)

end LinkReliability
