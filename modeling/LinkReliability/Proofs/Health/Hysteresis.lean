import LinkReliability.Probe
import Mathlib.Data.List.Induction
import Mathlib.Data.Nat.Find

/-!
# What the health of a service says of its results

The health of a service is kept with two counters that results and transitions clear. Here it is
read off the results themselves: a position ends a streak when the results up to it, as many as
the threshold asks for, are all alike, and the later of the last two streaks decides.
-/

namespace LinkReliability.Health

/-- The `n` results that end with the `k`-th are all equal to `b`. -/
def EndsStreak (b : Bool) (n : Nat) (rs : List Bool) (k : Nat) : Prop :=
  n ≤ k ∧ (rs.take k).drop (k - n) = List.replicate n b

instance (b : Bool) (n : Nat) (rs : List Bool) : DecidablePred (EndsStreak b n rs) :=
  fun _ => inferInstanceAs (Decidable (_ ∧ _))

/-- The last position that ends a streak. Positions count from one, and zero stands for none. -/
def lastStreak (b : Bool) (n : Nat) (rs : List Bool) : Nat :=
  Nat.findGreatest (EndsStreak b n rs) rs.length

def verdict (t : Thresholds) (rs : List Bool) : HealthState :=
  let lastPasses := lastStreak true t.passes rs
  let lastFails := lastStreak false t.fails rs
  if lastPasses = 0 ∧ lastFails = 0 then .unknown
  else if lastFails < lastPasses then .healthy
  else if rs.getLast? = some true then .recovering
  else .unhealthy

/-- How many results at the end are equal to `b`. -/
def trailing (b : Bool) (rs : List Bool) : Nat :=
  rs.foldl (fun n r => if r = b then n + 1 else 0) 0

/-! ## Streaks -/

theorem trailing_concat (b : Bool) (rs : List Bool) (r : Bool) :
    trailing b (rs ++ [r]) = if r = b then trailing b rs + 1 else 0 := by
  simp only [trailing, List.foldl_append, List.foldl_cons, List.foldl_nil]

theorem EndsStreak.le_length {b : Bool} {n : Nat} {rs : List Bool} {k : Nat} (hn : 0 < n)
    (h : EndsStreak b n rs k) : k ≤ rs.length := by
  have hlen := congrArg List.length h.2
  simp only [List.length_drop, List.length_take, List.length_replicate] at hlen
  have := h.1
  omega

theorem endsStreak_concat_of_le {b : Bool} {n : Nat} {rs : List Bool} {k : Nat}
    (hk : k ≤ rs.length) (r : Bool) :
    EndsStreak b n (rs ++ [r]) k ↔ EndsStreak b n rs k := by
  unfold EndsStreak
  rw [List.take_append_of_le_length hk]

theorem endsStreak_length_iff (b : Bool) (n : Nat) (rs : List Bool) :
    EndsStreak b n rs rs.length ↔ n ≤ trailing b rs := by
  induction rs using List.reverseRecOn generalizing n with
  | nil =>
      cases n with
      | zero => simp [EndsStreak, trailing]
      | succ n => simp [EndsStreak, trailing]
  | append_singleton rs r ih =>
      rw [trailing_concat]
      cases n with
      | zero => simp [EndsStreak]
      | succ n =>
          have step : EndsStreak b (n + 1) (rs ++ [r]) (rs ++ [r]).length ↔
              EndsStreak b n rs rs.length ∧ r = b := by
            unfold EndsStreak
            rw [List.take_length, List.take_length, List.length_append, List.length_singleton,
              Nat.add_sub_add_right, List.drop_append_of_le_length (Nat.sub_le ..),
              List.replicate_succ']
            constructor
            · rintro ⟨hle, h⟩
              obtain ⟨hrest, hr⟩ := List.append_inj' h rfl
              exact ⟨⟨by omega, hrest⟩, List.singleton_inj.mp hr⟩
            · rintro ⟨⟨hle, h⟩, rfl⟩
              exact ⟨by omega, by rw [h]⟩
          rw [step, ih]
          by_cases hr : r = b
          · simp [hr]
          · simp [hr]

theorem findGreatest_endsStreak_concat (b : Bool) (n : Nat) (rs : List Bool) (r : Bool) (m : Nat)
    (hm : m ≤ rs.length) :
    Nat.findGreatest (EndsStreak b n (rs ++ [r])) m = Nat.findGreatest (EndsStreak b n rs) m := by
  induction m with
  | zero => rfl
  | succ m ih =>
      rw [Nat.findGreatest_succ, Nat.findGreatest_succ, ih (Nat.le_of_succ_le hm)]
      simp only [endsStreak_concat_of_le hm r]

theorem lastStreak_concat (b : Bool) (n : Nat) (rs : List Bool) (r : Bool) :
    lastStreak b n (rs ++ [r]) =
      if n ≤ trailing b (rs ++ [r]) then rs.length + 1 else lastStreak b n rs := by
  have here := endsStreak_length_iff b n (rs ++ [r])
  unfold lastStreak
  rw [List.length_append, List.length_singleton] at here ⊢
  rw [Nat.findGreatest_succ, findGreatest_endsStreak_concat b n rs r rs.length le_rfl]
  simp only [here]

theorem lastStreak_le_length (b : Bool) (n : Nat) (rs : List Bool) :
    lastStreak b n rs ≤ rs.length := Nat.findGreatest_le rs.length

/-! ## One more result -/

theorem verdict_concat_pass (t : Thresholds) (hf : 0 < t.fails) (rs : List Bool) :
    verdict t (rs ++ [true]) =
      if t.passes ≤ trailing true rs + 1 then .healthy
      else match verdict t rs with
        | .unhealthy => .recovering
        | s => s := by
  have hpass : trailing true (rs ++ [true]) = trailing true rs + 1 := by simp [trailing_concat]
  have hfail : ¬ t.fails ≤ trailing false (rs ++ [true]) := by
    have hnone : trailing false (rs ++ [true]) = 0 := by simp [trailing_concat]
    omega
  have hlast : (rs ++ [true]).getLast? = some true := List.getLast?_concat
  have hbound := lastStreak_le_length false t.fails rs
  unfold verdict
  rw [lastStreak_concat true, lastStreak_concat false, if_neg hfail, hpass, hlast]
  by_cases hreach : t.passes ≤ trailing true rs + 1
  · have hlater : lastStreak false t.fails rs < rs.length + 1 := by omega
    simp only [if_pos hreach, if_pos hlater]
    rw [if_neg (by omega)]
  · simp only [if_neg hreach]
    split_ifs <;> rfl

theorem verdict_concat_fail (t : Thresholds) (hp : 0 < t.passes) (rs : List Bool) :
    verdict t (rs ++ [false]) =
      if t.fails ≤ trailing false rs + 1 then .unhealthy
      else match verdict t rs with
        | .recovering => .unhealthy
        | s => s := by
  have hfail : trailing false (rs ++ [false]) = trailing false rs + 1 := by simp [trailing_concat]
  have hpass : ¬ t.passes ≤ trailing true (rs ++ [false]) := by
    have hnone : trailing true (rs ++ [false]) = 0 := by simp [trailing_concat]
    omega
  have hlast : (rs ++ [false]).getLast? ≠ some true := by simp
  have hbound := lastStreak_le_length true t.passes rs
  unfold verdict
  rw [lastStreak_concat true, lastStreak_concat false, if_neg hpass, hfail, if_neg hlast]
  by_cases hreach : t.fails ≤ trailing false rs + 1
  · have hlater : ¬ rs.length + 1 < lastStreak true t.passes rs := by omega
    simp only [if_pos hreach, if_neg hlater]
    rw [if_neg (by omega)]
  · simp only [if_neg hreach]
    split_ifs <;> rfl

/-! ## What a result does -/

/-- A pass either makes the service healthy and clears the counter of passes, or it is counted. -/
theorem pass_cases (t : Thresholds) (h : Health) :
    (h.state ≠ .healthy ∧ t.passes ≤ h.consecutivePasses + 1 ∧
      h.pass t = { h with
        state := .healthy, consecutivePasses := 0, consecutiveFails := 0,
        totalPasses := h.totalPasses + 1 }) ∨
    ((h.state ≠ .healthy → h.consecutivePasses + 1 < t.passes) ∧
      h.pass t = { h with
        state := if h.state = .unhealthy then .recovering else h.state
        consecutivePasses := h.consecutivePasses + 1, consecutiveFails := 0,
        totalPasses := h.totalPasses + 1 }) := by
  cases hs : h.state with
  | healthy => simp [pass, hs]
  | unknown | unhealthy | recovering =>
      by_cases hreach : t.passes ≤ h.consecutivePasses + 1
      · simp [pass, hs, hreach]
      · have hshort : h.consecutivePasses + 1 < t.passes := by omega
        simp [pass, hs, hreach, hshort]

/-- A failure either makes the service unhealthy and clears the counter of failures, or it is
counted. -/
theorem fail_cases (t : Thresholds) (h : Health) :
    (h.state ≠ .unhealthy ∧ t.fails ≤ h.consecutiveFails + 1 ∧
      h.fail t = { h with
        state := .unhealthy, consecutiveFails := 0, consecutivePasses := 0,
        totalFails := h.totalFails + 1 }) ∨
    ((h.state ≠ .unhealthy → h.consecutiveFails + 1 < t.fails) ∧
      h.fail t = { h with
        state := if h.state = .recovering then .unhealthy else h.state
        consecutiveFails := h.consecutiveFails + 1, consecutivePasses := 0,
        totalFails := h.totalFails + 1 }) := by
  cases hs : h.state with
  | unhealthy => simp [fail, hs]
  | unknown | healthy | recovering =>
      by_cases hreach : t.fails ≤ h.consecutiveFails + 1
      · simp [fail, hs, hreach]
      · have hshort : h.consecutiveFails + 1 < t.fails := by omega
        simp [fail, hs, hreach, hshort]

/-! ## The counters -/

/-- The counters are the ends of the history, each except in the state that clears it. -/
structure Follows (t : Thresholds) (rs : List Bool) (h : Health) : Prop where
  state_eq : h.state = verdict t rs
  passes_eq : h.state ≠ .healthy → h.consecutivePasses = trailing true rs
  fails_eq : h.state ≠ .unhealthy → h.consecutiveFails = trailing false rs

theorem follows_fresh (t : Thresholds) : Follows t [] fresh :=
  ⟨rfl, fun _ => rfl, fun _ => rfl⟩

theorem Follows.pass {t : Thresholds} (hf : 0 < t.fails) {rs : List Bool} {h : Health}
    (f : Follows t rs h) : Follows t (rs ++ [true]) (h.pass t) := by
  have hpasses : trailing true (rs ++ [true]) = trailing true rs + 1 := by simp [trailing_concat]
  have hfails : trailing false (rs ++ [true]) = 0 := by simp [trailing_concat]
  have hverdict := verdict_concat_pass t hf rs
  rw [← f.state_eq] at hverdict
  rcases pass_cases t h with ⟨hs, hreach, heq⟩ | ⟨hshort, heq⟩
  · rw [f.passes_eq hs] at hreach
    rw [if_pos hreach] at hverdict
    rw [heq]
    exact ⟨hverdict.symm, absurd rfl, fun _ => hfails.symm⟩
  · rw [heq]
    cases hs : h.state with
    | healthy => exact ⟨by simp [hverdict, hs], absurd rfl, fun _ => hfails.symm⟩
    | unhealthy | unknown | recovering =>
        have hne : h.state ≠ .healthy := by simp [hs]
        have hcount := f.passes_eq hne
        have hmore : ¬ t.passes ≤ trailing true rs + 1 := hcount ▸ Nat.not_le.2 (hshort hne)
        rw [if_neg hmore, hs] at hverdict
        exact ⟨hverdict.symm, fun _ => by rw [hpasses, hcount], fun _ => hfails.symm⟩

theorem Follows.fail {t : Thresholds} (hp : 0 < t.passes) {rs : List Bool} {h : Health}
    (f : Follows t rs h) : Follows t (rs ++ [false]) (h.fail t) := by
  have hpasses : trailing true (rs ++ [false]) = 0 := by simp [trailing_concat]
  have hfails : trailing false (rs ++ [false]) = trailing false rs + 1 := by simp [trailing_concat]
  have hverdict := verdict_concat_fail t hp rs
  rw [← f.state_eq] at hverdict
  rcases fail_cases t h with ⟨hs, hreach, heq⟩ | ⟨hshort, heq⟩
  · rw [f.fails_eq hs] at hreach
    rw [if_pos hreach] at hverdict
    rw [heq]
    exact ⟨hverdict.symm, fun _ => hpasses.symm, absurd rfl⟩
  · rw [heq]
    cases hs : h.state with
    | unhealthy => exact ⟨by simp [hverdict, hs], fun _ => hpasses.symm, absurd rfl⟩
    | healthy | unknown | recovering =>
        have hne : h.state ≠ .unhealthy := by simp [hs]
        have hcount := f.fails_eq hne
        have hmore : ¬ t.fails ≤ trailing false rs + 1 := hcount ▸ Nat.not_le.2 (hshort hne)
        rw [if_neg hmore, hs] at hverdict
        exact ⟨hverdict.symm, fun _ => hpasses.symm, fun _ => by rw [hfails, hcount]⟩

theorem Follows.apply {t : Thresholds} (hp : 0 < t.passes) (hf : 0 < t.fails) {rs : List Bool}
    {h : Health} (f : Follows t rs h) (r : CheckResult) :
    Follows t (rs ++ [r.healthy]) (h.apply t r) := by
  unfold Health.apply
  cases hr : r.healthy with
  | true =>
      have after := f.pass hf
      exact ⟨after.state_eq, after.passes_eq, after.fails_eq⟩
  | false =>
      have after := f.fail hp
      exact ⟨after.state_eq, after.passes_eq, after.fails_eq⟩

theorem totalChecks_pass (t : Thresholds) (h : Health) : (h.pass t).totalChecks = h.totalChecks := by
  rcases pass_cases t h with ⟨-, -, heq⟩ | ⟨-, heq⟩ <;> rw [heq]

theorem totalChecks_fail (t : Thresholds) (h : Health) : (h.fail t).totalChecks = h.totalChecks := by
  rcases fail_cases t h with ⟨-, -, heq⟩ | ⟨-, heq⟩ <;> rw [heq]

/-! ## Whole histories -/

def outcomes (results : List CheckResult) : List Bool := results.map (·.healthy)

def folded (t : Thresholds) (results : List CheckResult) : Health :=
  results.foldl (fun h r => h.apply t r) fresh

theorem outcomes_concat (results : List CheckResult) (r : CheckResult) :
    outcomes (results ++ [r]) = outcomes results ++ [r.healthy] := List.map_append

theorem folded_concat (t : Thresholds) (results : List CheckResult) (r : CheckResult) :
    folded t (results ++ [r]) = (folded t results).apply t r := List.foldl_append

theorem totalChecks_folded (t : Thresholds) (results : List CheckResult) :
    (folded t results).totalChecks = results.length := by
  induction results using List.reverseRecOn with
  | nil => rfl
  | append_singleton results r ih =>
      rw [folded_concat, List.length_append, List.length_singleton, ← ih]
      unfold Health.apply
      cases r.healthy with
      | true => exact congrArg (· + 1) (totalChecks_pass t _)
      | false => exact congrArg (· + 1) (totalChecks_fail t _)

theorem follows_folded {t : Thresholds} (hp : 0 < t.passes) (hf : 0 < t.fails)
    (results : List CheckResult) : Follows t (outcomes results) (folded t results) := by
  induction results using List.reverseRecOn with
  | nil => exact follows_fresh t
  | append_singleton results r ih =>
      rw [outcomes_concat, folded_concat]
      exact ih.apply hp hf r

/-- The last streak to reach its threshold is one of passes. -/
def PassedLast (t : Thresholds) (rs : List Bool) : Prop :=
  ∃ k, EndsStreak true t.passes rs k ∧ ∀ j, EndsStreak false t.fails rs j → j < k

theorem verdict_eq_healthy {t : Thresholds} (hp : 0 < t.passes) (hf : 0 < t.fails)
    (rs : List Bool) : verdict t rs = .healthy ↔ PassedLast t rs := by
  have hlt : verdict t rs = .healthy ↔
      lastStreak false t.fails rs < lastStreak true t.passes rs := by
    unfold verdict
    dsimp only
    split_ifs <;> simp <;> omega
  rw [hlt]
  constructor
  · intro h
    have hpass : EndsStreak true t.passes rs (lastStreak true t.passes rs) :=
      Nat.findGreatest_of_ne_zero rfl (Nat.ne_zero_of_lt h)
    refine ⟨_, hpass, fun j hj => ?_⟩
    exact Nat.lt_of_le_of_lt (Nat.le_findGreatest (hj.le_length hf) hj) h
  · rintro ⟨k, hk, hlater⟩
    have hle : k ≤ lastStreak true t.passes rs := Nat.le_findGreatest (hk.le_length hp) hk
    by_cases hnone : lastStreak false t.fails rs = 0
    · have := hk.1
      omega
    · have hfail : EndsStreak false t.fails rs (lastStreak false t.fails rs) :=
        Nat.findGreatest_of_ne_zero rfl hnone
      exact Nat.lt_of_lt_of_le (hlater _ hfail) hle

end LinkReliability.Health

namespace LinkReliability.Probe

/-- The results of all services as they come in. -/
def foldAll (events : List (String × CheckResult)) (p : Probe) : Probe :=
  events.foldl (fun p e => p.fold e.1 e.2) p

def resultsOf (name : String) (events : List (String × CheckResult)) : List CheckResult :=
  (events.filter fun e => e.1 = name).map Prod.snd

theorem thresholds_fold (name : String) (r : CheckResult) (p : Probe) :
    (p.fold name r).thresholds = p.thresholds := by
  unfold fold
  split
  · rfl
  · dsimp only
    split <;> rfl

theorem services_fold (name : String) (r : CheckResult) (p : Probe) :
    (p.fold name r).services =
      p.services.modify name fun s => { s with health := s.health.apply p.thresholds r } := by
  unfold fold NameMap.modify
  cases p.services.get? name with
  | none => rfl
  | some s =>
      dsimp only
      split <;> rfl

theorem health?_fold (name other : String) (r : CheckResult) (p : Probe) :
    (p.fold name r).health? other =
      if other = name then (p.health? name).map (·.apply p.thresholds r) else p.health? other := by
  unfold health?
  rw [services_fold, NameMap.get?_modify]
  split
  · simp only [Option.map_map, Function.comp_def]
  · rfl

theorem foldAll_concat (events : List (String × CheckResult)) (e : String × CheckResult)
    (p : Probe) : foldAll (events ++ [e]) p = (foldAll events p).fold e.1 e.2 := List.foldl_append

theorem thresholds_foldAll (events : List (String × CheckResult)) (p : Probe) :
    (foldAll events p).thresholds = p.thresholds := by
  induction events using List.reverseRecOn with
  | nil => rfl
  | append_singleton events e ih => rw [foldAll_concat, thresholds_fold, ih]

/-- Each service is judged by its own results. -/
theorem health?_foldAll (name : String) (check : Check) (p : Probe)
    (events : List (String × CheckResult)) :
    (foldAll events (p.register name check)).health? name =
      some (Health.folded p.thresholds (resultsOf name events)) := by
  induction events using List.reverseRecOn with
  | nil => simp [foldAll, register, health?, NameMap.get?_insert, resultsOf, Health.folded]
  | append_singleton events e ih =>
      rw [foldAll_concat, health?_fold, thresholds_foldAll]
      by_cases h : name = e.1
      · subst h
        have own : resultsOf e.1 (events ++ [e]) = resultsOf e.1 events ++ [e.2] := by
          simp [resultsOf]
        rw [if_pos rfl, ih, own, Health.folded_concat]
        rfl
      · have other : resultsOf name (events ++ [e]) = resultsOf name events := by
          simp [resultsOf, Ne.symm h]
        rw [if_neg h, ih, other]

end LinkReliability.Probe

namespace LinkReliability.Health

/-- The results alone, seen through their streaks, say in which state a service is, whether it is
healthy, and which results changed its state. -/
theorem state_eq_verdict (t : Thresholds) (hp : 1 ≤ t.passes) (hf : 1 ≤ t.fails)
    (results : List CheckResult) :
    (folded t results).state = verdict t (outcomes results) ∧
      (∀ r : CheckResult,
        (folded t results).transition? t r =
          if verdict t (outcomes (results ++ [r])) = verdict t (outcomes results) then none
          else some (verdict t (outcomes results))) ∧
      ∀ (p : Probe) (name : String) (check : Probe.Check) (events : List (String × CheckResult)),
        p.thresholds = t → Probe.resultsOf name events = results →
          ((Probe.foldAll events (p.register name check)).isHealthy name = true ↔
            PassedLast t (outcomes results)) := by
  have follows := fun rs => (follows_folded (t := t) hp hf rs).state_eq
  refine ⟨follows results, ?_, ?_⟩
  · intro r
    unfold transition?
    rw [← folded_concat, follows, follows]
  · rintro p name check events rfl rfl
    have health := Probe.health?_foldAll name check p events
    rw [← verdict_eq_healthy hp hf, ← follows]
    simp [Probe.isHealthy, Probe.state?, health]

def resultsAt (healthy : List Bool) : List CheckResult :=
  healthy.map fun b => ⟨b, "", Duration.zero, Timestamp.ofEpochNanos 0⟩

/-- Two passes prove a service, two failures disprove it, and the next pass leaves it recovering. -/
theorem state_eq_verdict_recovering :
    (folded ⟨2, 2⟩ (resultsAt [true, true, false, false, true])).state = .recovering ∧
      (folded ⟨2, 2⟩ (resultsAt [true, true, false, false])).transition? ⟨2, 2⟩
        ⟨true, "", Duration.zero, Timestamp.ofEpochNanos 0⟩ = some .unhealthy := by
  have recovering := (state_eq_verdict ⟨2, 2⟩ (by decide) (by decide)
    (resultsAt [true, true, false, false, true])).1
  have changes := (state_eq_verdict ⟨2, 2⟩ (by decide) (by decide)
    (resultsAt [true, true, false, false])).2.1 ⟨true, "", Duration.zero, Timestamp.ofEpochNanos 0⟩
  refine ⟨recovering.trans ?_, changes.trans ?_⟩
  · decide
  · decide

end LinkReliability.Health
