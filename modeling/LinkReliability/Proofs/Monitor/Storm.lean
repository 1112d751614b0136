import LinkReliability.Proofs.Monitor.Run

/-!
# Storms of errors

A monitor counts recent errors in a log of limited size. A storm that passes a threshold is seen as
long as the log has room for that many errors; the settings are checked without regard to this, and
with too small a log no storm is ever large enough.
-/

namespace LinkReliability.Monitor

def ErrorReport.isRecent (length : Duration) (now : Instant) (e : ErrorReport) : Bool :=
  now ≤ e.stamp.now + length.nanos

/-- The number of errors on record that are stamped no earlier than `length` before `now`. -/
def stormSize (length : Duration) (now : Instant) (records : List Record) : Nat :=
  (errorReports records).countP (ErrorReport.isRecent length now)

/-- The stamps of the errors never decrease. -/
def ErrorsInOrder (records : List Record) : Prop :=
  (errorReports records).Pairwise (fun a b => a.stamp.now ≤ b.stamp.now)

instance (records : List Record) : Decidable (ErrorsInOrder records) :=
  inferInstanceAs (Decidable (List.Pairwise _ _))

/-- The reason of the monitor has a clause on the rate of errors. -/
def BlamesErrorRate (m : Monitor) (now : Instant) : Prop :=
  ∃ clauses, m.degradedReason? now = some ("; ".intercalate clauses) ∧
    errorRateClause (m.recentErrors now) ∈ clauses

/-- What a storm of the given size has to bring about. -/
structure Trips (m : Monitor) (now : Instant) (storm : Nat) : Prop where
  pauses : m.config.pauseErrorThreshold.val < storm → m.shouldPause now = true
  degrades : m.config.degradedErrorThreshold.val ≤ storm →
    m.status now ≠ .healthy ∧ m.isHealthy now = false ∧ m.BlamesErrorRate now

/-! ## What the count decides -/

section Thresholds

variable {m : Monitor} {now : Instant}

theorem status_ne_healthy (h : m.config.degradedErrorThreshold.val ≤ m.recentErrors now) :
    m.status now ≠ .healthy := by
  have hcount : ¬ (m.connectedCount = m.services.size ∧
      m.recentErrors now < m.config.degradedErrorThreshold.val) := fun hc => Nat.not_lt.2 h hc.2
  unfold status
  rw [if_neg hcount]
  split <;> exact fun heq => BridgeStatus.noConfusion heq

theorem isHealthy_eq_false (h : m.config.degradedErrorThreshold.val ≤ m.recentErrors now) :
    m.isHealthy now = false := by
  rw [isHealthy, decide_eq_false (Nat.not_lt.2 h), Bool.and_false]

theorem blamesErrorRate (h : m.config.degradedErrorThreshold.val ≤ m.recentErrors now) :
    m.BlamesErrorRate now := by
  have hmem : errorRateClause (m.recentErrors now) ∈ m.degradedClauses now := by
    rw [degradedClauses, if_pos h]
    exact List.mem_append_right _ List.mem_cons_self
  refine ⟨m.degradedClauses now, ?_, hmem⟩
  unfold degradedReason?
  split
  · next hnone => rw [hnone] at hmem; cases hmem
  · rfl

theorem shouldPause_of_lt (h : m.config.pauseErrorThreshold.val < m.recentErrors now) :
    m.shouldPause now = true := by
  rw [shouldPause, decide_eq_true h, Bool.or_true]

/-- As long as a link is up, nothing but the errors can stop the bridge. -/
theorem shouldPause_eq_of_connected {name : String} {s : Service}
    (hs : m.services.get? name = some s) (hup : s.isConnected = true) :
    m.shouldPause now = decide (m.config.pauseErrorThreshold.val < m.recentErrors now) := by
  have hmem : s ∈ m.services.values.filter Service.isConnected :=
    List.mem_filter.2 ⟨List.mem_map.2 ⟨(name, s), NameMap.mem_entries_of_get? hs, rfl⟩, hup⟩
  have hcount : m.connectedCount ≠ 0 := Nat.ne_of_gt (List.length_pos_of_mem hmem)
  have hstatus : (m.status now == .offline) = false := by
    unfold status
    rw [if_neg hcount]
    split <;> rfl
  rw [shouldPause, hstatus, Bool.false_or]

end Thresholds

/-! ## What the log keeps -/

theorem recentErrors_run {config : Config} {started : Instant} {m : Monitor}
    (hm : create config started = .ok m) {records : List Record} (hr : ErrorsInOrder records)
    (now : Instant) :
    (m.run records).recentErrors now =
      min config.windowSize.val (stormSize config.errorWindow now records) := by
  obtain ⟨-, hconfig, -, -, hlog⟩ := create_eq_ok hm
  have hsorted : ((errorReports records).map ErrorReport.entry).Pairwise
      (fun a b => a.stamp ≤ b.stamp) := List.pairwise_map.2 hr
  rw [recentErrors, config_run, hconfig, errorEvents_run, hlog,
    RollingWindow.countWithin_pushAll _ hsorted, List.countP_map]
  rfl

/-! ## A storm on a connected bridge -/

/-- The service comes up, and then `n` errors are recorded at once. -/
def stormOn (service : String) (n : Nat) : List Record :=
  .transition ⟨⟨0, ⟨0, 0⟩⟩, service, .connected, ""⟩ ::
    List.replicate n (.error ⟨⟨0, ⟨0, 0⟩⟩, service, .message "timeout"⟩)

theorem errorReports_stormOn (service : String) (n : Nat) :
    errorReports (stormOn service n) =
      List.replicate n ⟨⟨0, ⟨0, 0⟩⟩, service, .message "timeout"⟩ := by
  rw [stormOn, errorReports, List.filterMap_cons_none rfl]
  exact List.filterMap_replicate_of_some rfl

theorem errorsInOrder_stormOn (service : String) (n : Nat) : ErrorsInOrder (stormOn service n) := by
  rw [ErrorsInOrder, errorReports_stormOn]
  exact List.pairwise_replicate.2 (Or.inr (Nat.le_refl _))

theorem stormSize_stormOn (length : Duration) (service : String) (n : Nat) :
    stormSize length 0 (stormOn service n) = n := by
  have hall : ∀ e ∈ errorReports (stormOn service n), e.isRecent length 0 = true :=
    fun e _ => decide_eq_true (Nat.zero_le _)
  rw [stormSize, List.countP_eq_length.2 hall, errorReports_stormOn, List.length_replicate]

theorem connected_stormOn (m : Monitor) (service : String) (n : Nat) :
    ∃ s, (m.run (stormOn service n)).services.get? service = some s ∧ s.isConnected = true := by
  induction n with
  | zero =>
      refine ⟨(m.serviceOrFresh service).connect ⟨0, ⟨0, 0⟩⟩, ?_, ?_⟩
      · exact (NameMap.get?_insert m.services service service _).trans (if_pos rfl)
      · unfold Service.connect Service.isConnected
        split
        · next h => rw [h]; rfl
        · rfl
  | succ n ih =>
      have hlast : stormOn service (n + 1) =
          stormOn service n ++ [.error ⟨⟨0, ⟨0, 0⟩⟩, service, .message "timeout"⟩] := by
        rw [stormOn, List.replicate_succ', ← List.cons_append, ← stormOn]
      rw [hlast, run_concat, services_record]
      exact ih

/-! ## When storms trip the thresholds -/

/-- Settings that are valid let every storm trip the thresholds if, and only if, the log has room
for one error more than the pause threshold. -/
theorem storm_trips_iff {config : Config} (hv : config.validate = .ok ()) :
    (∀ started m records now, create config started = .ok m → ErrorsInOrder records →
        Trips (m.run records) now (stormSize config.errorWindow now records)) ↔
      config.pauseErrorThreshold.val < config.windowSize.val := by
  obtain ⟨hservices, hthresholds⟩ := validate_thresholds hv
  constructor
  · intro htrips
    obtain ⟨m, hm⟩ : ∃ m, create config 0 = .ok m := ⟨_, by rw [create, hv]; rfl⟩
    obtain ⟨service, rest, -⟩ := List.exists_cons_of_ne_nil hservices
    have horder := errorsInOrder_stormOn service (config.pauseErrorThreshold.val + 1)
    obtain ⟨s, hs, hup⟩ := connected_stormOn m service (config.pauseErrorThreshold.val + 1)
    have hpause := (htrips 0 m _ 0 hm horder).pauses
    rw [shouldPause_eq_of_connected hs hup, recentErrors_run hm horder, config_run,
      (create_eq_ok hm).2.1, stormSize_stormOn, decide_eq_true_eq] at hpause
    have := hpause (Nat.lt_succ_self _)
    omega
  · intro hroom started m records now hm hr
    have hcount := recentErrors_run hm hr now
    have hconfig : (m.run records).config = config :=
      (config_run records m).trans (create_eq_ok hm).2.1
    constructor
    · intro hstorm
      apply shouldPause_of_lt
      rw [hconfig] at hstorm ⊢
      omega
    · intro hstorm
      have hmany : (m.run records).config.degradedErrorThreshold.val ≤
          (m.run records).recentErrors now := by
        rw [hconfig] at hstorm ⊢
        omega
      exact ⟨status_ne_healthy hmany, isHealthy_eq_false hmany, blamesErrorRate hmany⟩

theorem storm_trips_iff_standard :
    Config.standard.validate = .ok () ∧
      ∀ started m records now, create Config.standard started = .ok m → ErrorsInOrder records →
        Trips (m.run records) now (stormSize Config.standard.errorWindow now records) :=
  ⟨rfl, (storm_trips_iff rfl).2 (by decide)⟩

/-- Valid settings with a log for a single error and thresholds of two. -/
def forgetful : Config := ⟨["mesh"], 1, Duration.ofSecs 60, 2, 2, Duration.ofSecs 60⟩

/-- Three errors at once pass both thresholds of these settings, and nothing comes of it. -/
theorem storm_hidden_by_small_log :
    forgetful.validate = .ok () ∧ ErrorsInOrder (stormOn "mesh" 3) ∧
      stormSize forgetful.errorWindow 0 (stormOn "mesh" 3) = 3 ∧
      ∃ m, create forgetful 0 = .ok m ∧
        (m.run (stormOn "mesh" 3)).shouldPause 0 = false ∧
        (m.run (stormOn "mesh" 3)).status 0 = .healthy ∧
        (m.run (stormOn "mesh" 3)).isHealthy 0 = true ∧
        (m.run (stormOn "mesh" 3)).degradedReason? 0 = none := by
  refine ⟨rfl, by decide, by decide, _, rfl, ?_, ?_, ?_, ?_⟩ <;> rfl

end LinkReliability.Monitor
