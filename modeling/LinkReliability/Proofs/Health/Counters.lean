import LinkReliability.Proofs.Health.Hysteresis
import Mathlib.Data.Bool.Count

/-!
# The counters of a service

A service counts passes and failures in a row. A result clears the counter of the other kind, and
the transition to healthy or unhealthy clears the counter that brought it about; only the single
failure that ends a recovery leaves its counter as it is. What the counters can be in each of the
four states is kept by every result.
-/

namespace LinkReliability.Health

variable {t : Thresholds} {rs : List Bool} {h : Health}

/-! ## What the counters can be -/

/-- What the counters of passes and failures in a row say in each state, after the results `rs`. -/
structure Streaks (t : Thresholds) (rs : List Bool) (h : Health) : Prop where
  exclusive : h.consecutivePasses = 0 ∨ h.consecutiveFails = 0
  passes_le : h.consecutivePasses ≤ trailing true rs
  fails_le : h.consecutiveFails ≤ trailing false rs
  passes_lt : h.state ≠ .healthy → h.consecutivePasses < t.passes
  fails_lt : h.state ≠ .unhealthy → h.consecutiveFails < t.fails
  unhealthy : h.state = .unhealthy → h.consecutivePasses = 0
  recovering : h.state = .recovering →
    2 ≤ t.passes ∧ h.consecutivePasses = trailing true rs ∧ 1 ≤ h.consecutivePasses ∧
      h.consecutiveFails = 0

theorem streaks_fresh (hp : 0 < t.passes) (hf : 0 < t.fails) : Streaks t [] fresh where
  exclusive := .inl rfl
  passes_le := Nat.le_refl 0
  fails_le := Nat.le_refl 0
  passes_lt _ := hp
  fails_lt _ := hf
  unhealthy := nofun
  recovering := nofun

theorem Streaks.pass (hf : 0 < t.fails) (f : Follows t rs h) (c : Streaks t rs h) :
    Streaks t (rs ++ [true]) (h.pass t) := by
  have hpasses : trailing true (rs ++ [true]) = trailing true rs + 1 := by simp [trailing_concat]
  rcases pass_cases t h with ⟨-, -, hreached⟩ | ⟨hshort, hcounted⟩
  · rw [hreached]
    exact {
      exclusive := .inl rfl
      passes_le := Nat.zero_le _
      fails_le := Nat.zero_le _
      passes_lt := fun h => absurd rfl h
      fails_lt := fun _ => hf
      unhealthy := nofun
      recovering := nofun }
  · rw [hcounted]
    have hstate : ∀ s, (if h.state = .unhealthy then .recovering else h.state) = s →
        s ≠ .unhealthy ∧ (s ≠ .healthy → h.state ≠ .healthy) := by
      rintro _ rfl
      split <;> simp_all
    exact {
      exclusive := .inr rfl
      passes_le := by rw [hpasses]; exact Nat.succ_le_succ c.passes_le
      fails_le := Nat.zero_le _
      passes_lt := fun h => hshort ((hstate _ rfl).2 h)
      fails_lt := fun _ => hf
      unhealthy := fun h => absurd h (hstate _ rfl).1
      recovering := fun hs => by
        have hcount := f.passes_eq ((hstate _ hs).2 nofun)
        have := hshort ((hstate _ hs).2 nofun)
        refine ⟨by omega, ?_, Nat.le_add_left 1 _, rfl⟩
        rw [hpasses, ← hcount] }

theorem Streaks.fail (hp : 0 < t.passes) (c : Streaks t rs h) :
    Streaks t (rs ++ [false]) (h.fail t) := by
  have hfails : trailing false (rs ++ [false]) = trailing false rs + 1 := by simp [trailing_concat]
  rcases fail_cases t h with ⟨-, -, hreached⟩ | ⟨hshort, hcounted⟩
  · rw [hreached]
    exact {
      exclusive := .inl rfl
      passes_le := Nat.zero_le _
      fails_le := Nat.zero_le _
      passes_lt := fun _ => hp
      fails_lt := fun h => absurd rfl h
      unhealthy := fun _ => rfl
      recovering := nofun }
  · rw [hcounted]
    have hstate : ∀ s, (if h.state = .recovering then .unhealthy else h.state) = s →
        s ≠ .recovering ∧ (s ≠ .unhealthy → h.state ≠ .unhealthy) := by
      rintro _ rfl
      split <;> simp_all
    exact {
      exclusive := .inl rfl
      passes_le := Nat.zero_le _
      fails_le := by rw [hfails]; exact Nat.succ_le_succ c.fails_le
      passes_lt := fun _ => hp
      fails_lt := fun h => hshort ((hstate _ rfl).2 h)
      unhealthy := fun _ => rfl
      recovering := fun h => absurd h (hstate _ rfl).1 }

theorem Streaks.apply (hp : 0 < t.passes) (hf : 0 < t.fails) (f : Follows t rs h)
    (c : Streaks t rs h) (r : CheckResult) : Streaks t (rs ++ [r.healthy]) (h.apply t r) := by
  unfold Health.apply
  cases r.healthy with
  | true => exact { c.pass hf f with }
  | false => exact { c.fail hp with }

theorem streaks_folded (hp : 0 < t.passes) (hf : 0 < t.fails) (results : List CheckResult) :
    Streaks t (outcomes results) (folded t results) := by
  induction results using List.reverseRecOn with
  | nil => exact streaks_fresh hp hf
  | append_singleton results r ih =>
      rw [outcomes_concat, folded_concat]
      exact ih.apply hp hf (follows_folded hp hf results) r

/-! ## The totals -/

theorem totals_apply (t : Thresholds) (h : Health) (r : CheckResult) :
    (h.apply t r).totalPasses = h.totalPasses + [r.healthy].count true ∧
      (h.apply t r).totalFails = h.totalFails + [r.healthy].count false := by
  unfold Health.apply
  cases r.healthy with
  | true => rcases pass_cases t h with ⟨-, -, heq⟩ | ⟨-, heq⟩ <;> simp [heq]
  | false => rcases fail_cases t h with ⟨-, -, heq⟩ | ⟨-, heq⟩ <;> simp [heq]

theorem totals_folded (t : Thresholds) (results : List CheckResult) :
    (folded t results).totalPasses = (outcomes results).count true ∧
      (folded t results).totalFails = (outcomes results).count false := by
  induction results using List.reverseRecOn with
  | nil => exact ⟨rfl, rfl⟩
  | append_singleton results r ih =>
      obtain ⟨hpasses, hfails⟩ := totals_apply t (folded t results) r
      rw [outcomes_concat, folded_concat, List.count_append, List.count_append, ← ih.1, ← ih.2]
      exact ⟨hpasses, hfails⟩

/-! ## Every history -/

/-- An unhealthy service has no passes in a row, so that it takes the one pass of a threshold of one
to be healthy again. -/
theorem Streaks.passes_eq_one (c : Streaks t rs h) (hp : 0 < t.passes) (hs : h.state = .unhealthy)
    {r : CheckResult} (hr : (h.apply t r).state = .healthy) : t.passes = 1 := by
  unfold Health.apply at hr
  cases hhealthy : r.healthy with
  | true =>
      rw [hhealthy, if_pos rfl] at hr
      rcases pass_cases t h with ⟨-, hreach, -⟩ | ⟨-, hcounted⟩
      · rw [c.unhealthy hs] at hreach
        omega
      · simp [hcounted, hs] at hr
  | false =>
      rw [hhealthy] at hr
      rcases fail_cases t h with ⟨-, -, hreached⟩ | ⟨-, hcounted⟩
      · simp [hreached] at hr
      · simp [hcounted, hs] at hr

/-- Since its registration a service has counted every result, and its counters of results in a row
say what its state allows them to say. -/
theorem counters_consistent (t : Thresholds) (hp : 1 ≤ t.passes) (hf : 1 ≤ t.fails)
    (results : List CheckResult) :
    (folded t results).totalChecks = results.length ∧
      (folded t results).totalPasses + (folded t results).totalFails = results.length ∧
      Streaks t (outcomes results) (folded t results) ∧
      (∀ r : CheckResult, (folded t results).state = .unhealthy →
        ((folded t results).apply t r).state = .healthy → t.passes = 1) ∧
      ∀ (p : Probe) (name : String) (check : Probe.Check) (events : List (String × CheckResult)),
        p.thresholds = t → Probe.resultsOf name events = results →
          (Probe.foldAll events (p.register name check)).health? name =
            some (folded t results) := by
  have hstreaks := streaks_folded hp hf results
  refine ⟨totalChecks_folded t results, ?_, hstreaks, ?_, ?_⟩
  · obtain ⟨hpasses, hfails⟩ := totals_folded t results
    rw [hpasses, hfails, List.count_true_add_count_false]
    exact List.length_map _
  · intro r hs hr
    exact hstreaks.passes_eq_one hp hs hr
  · rintro p name check events rfl rfl
    exact Probe.health?_foldAll name check p events

/-- Three failures make a healthy service unhealthy, and the next pass leaves it recovering with a
counter of one. -/
theorem counters_consistent_relapse :
    1 ≤ (⟨2, 3⟩ : Thresholds).passes ∧ 1 ≤ (⟨2, 3⟩ : Thresholds).fails ∧
      (folded ⟨2, 3⟩ (resultsAt [true, true, false, false, false, true])).state = .recovering ∧
      (folded ⟨2, 3⟩ (resultsAt [true, true, false, false, false, true])).totalChecks = 6 ∧
      (folded ⟨2, 3⟩ (resultsAt [true, true, false, false, false, true])).consecutivePasses = 1 ∧
      (folded ⟨2, 3⟩ (resultsAt [true, true, false, false, false, true])).consecutiveFails = 0 := by
  obtain ⟨hchecks, -, hstreaks, -, -⟩ := counters_consistent ⟨2, 3⟩ (by decide) (by decide)
    (resultsAt [true, true, false, false, false, true])
  have hstate :
      (folded ⟨2, 3⟩ (resultsAt [true, true, false, false, false, true])).state = .recovering := rfl
  obtain ⟨-, hpasses, -, hfails⟩ := hstreaks.recovering hstate
  exact ⟨by decide, by decide, hstate, hchecks, hpasses.trans (by decide), hfails⟩

end LinkReliability.Health
