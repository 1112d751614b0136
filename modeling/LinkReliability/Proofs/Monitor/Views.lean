import LinkReliability.Proofs.Monitor.Run

/-!
# The views of the monitor

Status, reason, health and pause are read off the connections and the recent errors, each in its
own way. They never contradict each other: the settings put the threshold for a pause no lower than
the one for a degraded bridge, and a monitor always knows at least one service.
-/

namespace LinkReliability.Monitor

/-- What the views rely on. -/
structure Orderly (m : Monitor) : Prop where
  sorted : m.services.Sorted
  known : m.services.entries ≠ []
  thresholds : m.config.degradedErrorThreshold.val ≤ m.config.pauseErrorThreshold.val

section Orderly

variable {m : Monitor}

theorem services_create {config : Config} {started : Instant}
    (h : create config started = .ok m) :
    m.services = NameMap.ofList (config.services.map (fun s => (s, Service.fresh))) := by
  unfold create at h
  cases hv : config.validate with
  | error e => simp [hv, bind, Except.bind] at h
  | ok u =>
      rw [hv] at h
      obtain rfl := Except.ok.inj h
      rfl

theorem Orderly.of_create {config : Config} {started : Instant}
    (h : create config started = .ok m) : m.Orderly := by
  obtain ⟨hvalid, hconfig, -, hget, -⟩ := create_eq_ok h
  obtain ⟨hservices, hthresholds⟩ := validate_thresholds hvalid
  constructor
  · rw [services_create h]
    exact NameMap.sorted_ofList _
  · obtain ⟨service, rest, hcons⟩ := List.exists_cons_of_ne_nil hservices
    have hmem : service ∈ config.services := by rw [hcons]; exact List.mem_cons_self
    have hfound := (hget service).trans (if_pos hmem)
    exact List.ne_nil_of_mem (NameMap.mem_entries_of_get? hfound)
  · rw [hconfig]
    exact hthresholds

theorem entries_insert_ne_nil (services : NameMap Service) (name : String) (s : Service) :
    (services.insert name s).entries ≠ [] := by
  have hfound : (services.insert name s).get? name = some s := by
    rw [NameMap.get?_insert, if_pos rfl]
  exact List.ne_nil_of_mem (NameMap.mem_entries_of_get? hfound)

theorem Orderly.record (h : m.Orderly) (r : Record) : (m.record r).Orderly := by
  have hservices : (m.record r).services = m.services ∨
      ∃ name s, (m.record r).services = m.services.insert name s := by
    rw [services_record]
    cases r.transition? with
    | none => exact .inl rfl
    | some t =>
        rw [Option.elim_some]
        cases t.kind with
        | retry => exact .inl rfl
        | _ => exact .inr ⟨_, _, rfl⟩
  constructor
  · rcases hservices with heq | ⟨name, s, heq⟩
    · rw [heq]
      exact h.sorted
    · rw [heq]
      exact h.sorted.insert name s
  · rcases hservices with heq | ⟨name, s, heq⟩
    · rw [heq]
      exact h.known
    · rw [heq]
      exact entries_insert_ne_nil m.services name s
  · rw [config_record]
    exact h.thresholds

theorem Orderly.run (h : m.Orderly) (records : List Record) : (m.run records).Orderly := by
  induction records generalizing m with
  | nil => exact h
  | cons r records ih => exact ih (h.record r)

end Orderly

/-! ## What each view amounts to -/

section Views

variable {m : Monitor} {now : Instant}

theorem mem_disconnectedNames (h : m.services.Sorted) (name : String) :
    name ∈ m.disconnectedNames ↔ m.services.contains name = true ∧ m.isConnected name = false := by
  unfold disconnectedNames isConnected NameMap.contains
  rw [List.mem_map]
  constructor
  · rintro ⟨⟨n, s⟩, hmem, rfl⟩
    obtain ⟨hentry, hdown⟩ := List.mem_filter.1 hmem
    rw [h.get?_eq_some_iff.2 hentry]
    exact ⟨rfl, by simpa using hdown⟩
  · rintro ⟨hknown, hdown⟩
    obtain ⟨s, hs⟩ := Option.isSome_iff_exists.1 hknown
    rw [hs] at hdown
    exact ⟨(name, s), List.mem_filter.2 ⟨h.get?_eq_some_iff.1 hs, by simpa using hdown⟩, rfl⟩

theorem pairwise_disconnectedNames (h : m.services.Sorted) :
    m.disconnectedNames.Pairwise (· < ·) :=
  List.Pairwise.sublist (List.filter_sublist.map Prod.fst) h

/-- Every service is up or is named as down. -/
theorem connectedCount_add_length (m : Monitor) :
    m.connectedCount + m.disconnectedNames.length = m.services.size := by
  unfold connectedCount disconnectedNames NameMap.values NameMap.size
  rw [List.filter_map, List.length_map, List.length_map]
  exact (List.length_eq_length_filter_add (fun e : String × Service => e.2.isConnected)).symm

theorem any_isConnected_iff (m : Monitor) :
    m.services.values.any Service.isConnected = true ↔ m.connectedCount ≠ 0 := by
  unfold connectedCount
  rw [List.any_eq_true, Ne, List.length_eq_zero_iff, List.filter_eq_nil_iff]
  push Not
  rfl

theorem isHealthy_iff :
    m.isHealthy now = true ↔
      m.connectedCount ≠ 0 ∧ m.recentErrors now < m.config.degradedErrorThreshold.val := by
  rw [isHealthy, Bool.and_eq_true, any_isConnected_iff, decide_eq_true_eq]

theorem status_eq_offline_iff : m.status now = .offline ↔ m.connectedCount = 0 := by
  unfold status
  by_cases hzero : m.connectedCount = 0
  · simp [hzero]
  · rw [if_neg hzero]
    split <;> simp [hzero]

theorem status_eq_healthy_iff (h : m.services.entries ≠ []) :
    m.status now = .healthy ↔
      m.disconnectedNames = [] ∧ m.recentErrors now < m.config.degradedErrorThreshold.val := by
  have hsum := m.connectedCount_add_length
  have hsize : 0 < m.services.size := List.length_pos_iff.2 h
  have hall : m.connectedCount = m.services.size ↔ m.disconnectedNames = [] := by
    rw [← List.length_eq_zero_iff]
    omega
  unfold status
  rw [← hall]
  by_cases hzero : m.connectedCount = 0
  · have hnot : m.connectedCount ≠ m.services.size := by omega
    rw [if_pos hzero]
    simp [hnot]
  · rw [if_neg hzero]
    split
    · next hup => simp [hup]
    · next hdown => simp [hdown]

theorem shouldPause_iff :
    m.shouldPause now = true ↔
      m.status now = .offline ∨ m.config.pauseErrorThreshold.val < m.recentErrors now := by
  rw [shouldPause, Bool.or_eq_true, decide_eq_true_eq, beq_iff_eq]

theorem degradedReason?_eq_none_iff :
    m.degradedReason? now = none ↔
      m.disconnectedNames = [] ∧ m.recentErrors now < m.config.degradedErrorThreshold.val := by
  have hclauses : m.degradedReason? now = none ↔ m.degradedClauses now = [] := by
    unfold degradedReason?
    split
    · next hnil => simp [hnil]
    · next hsome => simpa using hsome
  rw [hclauses, degradedClauses, List.append_eq_nil_iff, List.map_eq_nil_iff]
  by_cases hmany : m.config.degradedErrorThreshold.val ≤ m.recentErrors now
  · simp [if_pos hmany, Nat.not_lt.2 hmany]
  · simp [if_neg hmany, Nat.lt_of_not_le hmany]

theorem degradedReason?_eq_some_iff {text : String} :
    m.degradedReason? now = some text ↔
      m.degradedClauses now ≠ [] ∧ text = "; ".intercalate (m.degradedClauses now) := by
  unfold degradedReason?
  split
  · next hnil => simp [hnil]
  · next hsome =>
      rw [Option.some.injEq]
      exact ⟨fun htext => ⟨hsome, htext.symm⟩, fun h => h.2.symm⟩

end Views

/-! ## Agreement -/

/-- The errors in the log that are stamped no earlier than the error window before `now`. -/
def recentLog (m : Monitor) (now : Instant) : List (Entry ErrorEvent) :=
  m.errorEvents.entries.filter (fun e => now ≤ e.stamp + m.config.errorWindow.nanos)

theorem recentErrors_eq (m : Monitor) (now : Instant) :
    m.recentErrors now = (m.recentLog now).length := List.length_map ..

/-- The clause on the rate of errors, if there are as many as the degraded threshold. -/
def rateClauses (m : Monitor) (now : Instant) : List String :=
  if m.config.degradedErrorThreshold.val ≤ (m.recentLog now).length
    then [errorRateClause (m.recentLog now).length] else []

/-- What the views say of each other at one moment. -/
structure ViewsAgree (m : Monitor) (now : Instant) : Prop where
  healthy : m.status now = .healthy ↔ m.degradedReason? now = none
  /-- The reason is on the services that are down, by name, and then on the errors. -/
  reason : ∃ down : List String, down.Pairwise (· < ·) ∧
    (∀ name, name ∈ down ↔ m.services.contains name = true ∧ m.isConnected name = false) ∧
    ∀ text, m.degradedReason? now = some text →
      text = "; ".intercalate (down.map (fun name => name ++ " disconnected") ++ m.rateClauses now)
  offline : m.status now = .offline → m.shouldPause now = true
  isHealthy_of_healthy : m.status now = .healthy → m.isHealthy now = true
  running : m.isHealthy now = true → m.status now ≠ .offline ∧ m.shouldPause now = false
  paused : m.shouldPause now = true → m.status now ≠ .offline →
    ∃ front, m.degradedReason? now =
      some ("; ".intercalate (front ++ [errorRateClause (m.recentLog now).length]))
  summary : (m.summary now).status = m.status now ∧
    (m.summary now).degradedReason = m.degradedReason? now ∧
    (m.summary now).errors = m.errorCounts now m.config.rateWindow

theorem degradedClauses_eq (m : Monitor) (now : Instant) :
    m.degradedClauses now =
      m.disconnectedNames.map (fun name => name ++ " disconnected") ++ m.rateClauses now := by
  rw [degradedClauses, recentErrors_eq, rateClauses]

theorem Orderly.viewsAgree {m : Monitor} (h : m.Orderly) (now : Instant) : ViewsAgree m now := by
  have hthresholds := h.thresholds
  constructor
  · rw [status_eq_healthy_iff h.known, degradedReason?_eq_none_iff]
  · refine ⟨m.disconnectedNames, pairwise_disconnectedNames h.sorted,
      mem_disconnectedNames h.sorted, ?_⟩
    intro text htext
    rw [← degradedClauses_eq]
    exact (degradedReason?_eq_some_iff.1 htext).2
  · intro hoffline
    exact shouldPause_iff.2 (.inl hoffline)
  · intro hhealthy
    have hdown := (status_eq_healthy_iff h.known).1 hhealthy
    have hup : m.connectedCount ≠ 0 := by
      intro hnone
      have hoffline : m.status now = .offline := status_eq_offline_iff.2 hnone
      rw [hhealthy] at hoffline
      cases hoffline
    exact isHealthy_iff.2 ⟨hup, hdown.2⟩
  · intro hhealthy
    obtain ⟨hup, hfew⟩ := isHealthy_iff.1 hhealthy
    have honline : m.status now ≠ .offline := fun hs => hup (status_eq_offline_iff.1 hs)
    refine ⟨honline, Bool.eq_false_iff.2 (fun hpause => ?_)⟩
    rcases shouldPause_iff.1 hpause with hoffline | hmany
    · exact honline hoffline
    · omega
  · intro hpause honline
    have hmany := (shouldPause_iff.1 hpause).resolve_left honline
    rw [recentErrors_eq] at hmany
    have hrate : m.rateClauses now = [errorRateClause (m.recentLog now).length] :=
      if_pos (by omega)
    refine ⟨m.disconnectedNames.map (fun name => name ++ " disconnected"), ?_⟩
    rw [degradedReason?_eq_some_iff, degradedClauses_eq, hrate]
    exact ⟨List.append_ne_nil_of_right_ne_nil _ (List.cons_ne_nil _ _), rfl⟩
  · exact ⟨rfl, rfl, rfl⟩

/-- Whatever was recorded, and whenever the monitor is read. -/
theorem views_agree {config : Config} {started : Instant} {m : Monitor}
    (hm : create config started = .ok m) (records : List Record) (now : Instant) :
    ViewsAgree (m.run records) now :=
  ((Orderly.of_create hm).run records).viewsAgree now

/-- Settings under which a single error degrades the bridge, and a second one pauses it. -/
def touchy : Config := ⟨["mesh", "overlay"], 4, Duration.ofSecs 60, 1, 1, Duration.ofSecs 60⟩

/-- One of the services comes up, one that was not known goes down, and two errors are reported. -/
def patchyRun : List Record := [
  .transition ⟨⟨0, ⟨0, 0⟩⟩, "mesh", .connected, ""⟩,
  .transition ⟨⟨1, ⟨0, 1⟩⟩, "aux", .disconnected, "lost"⟩,
  .error ⟨⟨2, ⟨0, 2⟩⟩, "aux", .message "timeout"⟩,
  .error ⟨⟨3, ⟨0, 3⟩⟩, "mesh", .message "timeout"⟩]

theorem views_agree_patchyRun :
    ∃ m, create touchy 0 = .ok m ∧ ViewsAgree (m.run patchyRun) 5 ∧
      (m.run patchyRun).status 5 = .degraded ∧ (m.run patchyRun).shouldPause 5 = true ∧
      (m.run patchyRun).degradedReason? 5 =
        some "aux disconnected; overlay disconnected; High error rate (2/min)" := by
  have hm : create touchy 0 = .ok _ := rfl
  exact ⟨_, hm, views_agree hm patchyRun 5, by decide, by decide, by decide⟩

end LinkReliability.Monitor
