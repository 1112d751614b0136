import LinkReliability.Proofs.Breaker.Open

/-!
# The time until a breaker lets requests through

A snapshot says how long an open breaker will refuse requests. That time is what is left of the
timeout since the opening, while the gate itself compares the two; here they are shown to agree to
the nanosecond. The time runs down with the clock, and neither the reads of a breaker nor the
failures of an open one move its end.
-/

namespace LinkReliability

theorem Duration.sub_eq_zero {a b : Duration} : a - b = Duration.zero ↔ a ≤ b := by
  change Duration.mk (a.nanos - b.nanos) = Duration.mk 0 ↔ a.nanos ≤ b.nanos
  rw [Duration.mk.injEq]
  exact Nat.sub_eq_zero_iff_le

theorem Duration.sub_le (a b : Duration) : a - b ≤ a := Nat.sub_le a.nanos b.nanos

namespace Breaker

/-- How long the breaker will refuse requests if nothing closes it. -/
def timeLeft (now : Instant) (b : Breaker) : Duration :=
  match b.phase with
  | .opened since => b.config.recoveryTimeout - now.since since
  | _ => Duration.zero

/-- Nothing happens that could open or close the breaker or begin its timeout again: it is read, or
it fails while it is open. -/
def Undisturbed : Breaker → List Event → Prop
  | _, [] => True
  | b, e :: rest =>
    (e.operation.isRead = true ∨ e.operation = .recordFailure ∧ b.IsOpen e.time) ∧
      Undisturbed (b.act e).2 rest

instance decidableUndisturbed : ∀ (b : Breaker) (events : List Event),
    Decidable (Undisturbed b events)
  | _, [] => isTrue trivial
  | b, e :: rest =>
    have := decidableUndisturbed (b.act e).2 rest
    inferInstanceAs (Decidable (_ ∧ _))

section TimeLeft

variable {b b' : Breaker} {now next : Instant}

theorem timeLeft_congr (hphase : b'.phase = b.phase) (hconfig : b'.config = b.config) :
    b'.timeLeft now = b.timeLeft now := by
  unfold timeLeft
  rw [hphase, hconfig]

/-! ## What reads say of it -/

theorem isOpen_iff_timeLeft : b.IsOpen now ↔ b.timeLeft now ≠ Duration.zero := by
  rw [isOpen_iff]
  unfold timeLeft
  rcases b.phase with _ | since | _
  · simp
  · simp [Duration.sub_eq_zero, ← Duration.not_le]
  · simp

theorem allowRequest_eq_true : (b.allowRequest now).1 = true ↔ b.timeLeft now = Duration.zero := by
  have hgate : (b.allowRequest now).1 = true ↔ ¬ b.IsOpen now := by
    change ((b.state now).1 != .opened) = true ↔ ¬ (b.state now).1 = .opened
    exact bne_iff_ne
  rw [hgate, isOpen_iff_timeLeft, not_not]

/-- A breaker that turns half open when it is read had no time left. -/
theorem timeLeft_refresh (hle : now ≤ next) : (b.refresh now).timeLeft next = b.timeLeft next := by
  by_cases hopen : b.IsOpen now
  · rw [refresh_of_isOpen hopen]
  · have hshut : ¬ b.IsOpen next := fun h => hopen (isOpen_of_later hle h)
    have hnone : (b.refresh now).timeLeft next = Duration.zero := by
      unfold timeLeft
      split
      · next since hp => exact absurd hp (phase_refresh_of_not_isOpen hopen since)
      · rfl
    rw [hnone, Classical.not_not.1 (mt isOpen_iff_timeLeft.2 hshut)]

theorem retryIn_eq_timeLeft : (b.snapshot now).1.retryIn = b.timeLeft now := by
  rw [snapshot_retryIn]
  exact timeLeft_refresh (Nat.le_refl now)

theorem timeLeft_le (now : Instant) (b : Breaker) : b.timeLeft now ≤ b.config.recoveryTimeout := by
  unfold timeLeft
  split
  · exact Duration.sub_le _ _
  · exact Nat.zero_le _

/-! ## What moves its end -/

theorem timeLeft_act {e : Event} (hle : e.time ≤ next)
    (h : e.operation.isRead = true ∨ e.operation = .recordFailure ∧ b.IsOpen e.time) :
    (b.act e).2.timeLeft next = b.timeLeft next := by
  obtain ⟨t, o⟩ := e
  rcases h with hread | ⟨rfl, hopen⟩
  · cases o with
    | state | allowRequest | snapshot => exact timeLeft_refresh hle
    | failures => rfl
    | recordSuccess | recordFailure | reset => cases hread
  · exact timeLeft_congr (phase_recordFailure_of_isOpen hopen) (config_act b _)

theorem timeLeft_run {events : List Event} (hle : ∀ e ∈ events, e.time ≤ next)
    (h : Undisturbed b events) : (b.run events).timeLeft next = b.timeLeft next := by
  induction events generalizing b with
  | nil => rfl
  | cons e rest ih =>
      obtain ⟨he, hrest⟩ := h
      obtain ⟨hfirst, hlater⟩ := List.forall_mem_cons.1 hle
      calc (b.run (e :: rest)).timeLeft next = ((b.act e).2.run rest).timeLeft next := rfl
        _ = (b.act e).2.timeLeft next := ih hlater hrest
        _ = b.timeLeft next := timeLeft_act hfirst he

/-! ## How it runs down -/

theorem opened_of_refresh {since : Instant} (h : (b.refresh now).phase = .opened since) :
    b.phase = .opened since := by
  by_cases hopen : b.IsOpen now
  · rwa [refresh_of_isOpen hopen] at h
  · exact absurd h (phase_refresh_of_not_isOpen hopen since)

/-- An opening is one that was there before, or it is stamped now. -/
theorem opened_of_act {e : Event} {since : Instant} (h : (b.act e).2.phase = .opened since) :
    b.phase = .opened since ∨ since = e.time := by
  obtain ⟨t, o⟩ := e
  cases o with
  | state | allowRequest | snapshot => exact .inl (opened_of_refresh h)
  | failures => exact .inl h
  | recordSuccess | reset => cases h
  | recordFailure =>
      have hphase : (b.recordFailure t).phase =
          phaseAfterFailure (b.refresh t).config (countUp (b.refresh t).failures) t
            (b.refresh t).phase := congrArg Breaker.phase (recordFailure_eq t b)
      change (b.recordFailure t).phase = .opened since at h
      rw [hphase] at h
      cases hread : (b.refresh t).phase with
      | closed =>
          rw [hread, phaseAfterFailure] at h
          split at h
          · exact .inr (Phase.opened.inj h).symm
          · cases h
      | opened o =>
          rw [hread] at h
          exact .inl (opened_of_refresh (hread.trans h))
      | halfOpen =>
          rw [hread] at h
          exact .inr (Phase.opened.inj h).symm

/-- The openings of a run lie within the run. -/
theorem opened_of_run {events : List Event} {since : Instant}
    (hnew : ∀ since, b.phase ≠ .opened since) (hpast : ∀ e ∈ events, e.time ≤ now)
    (h : (b.run events).phase = .opened since) : since ≤ now := by
  induction events using List.reverseRecOn with
  | nil => exact absurd h (hnew since)
  | append_singleton events e ih =>
      rw [run_append] at h
      rcases opened_of_act h with hbefore | rfl
      · exact ih (fun x hx => hpast x (List.mem_append_left [e] hx)) hbefore
      · exact hpast e (List.mem_append_right events (List.mem_singleton_self e))

/-- Of an open breaker the time left runs down with the clock. -/
theorem timeLeft_add (h : ∀ since, b.phase = .opened since → since ≤ now) (d : Duration) :
    b.timeLeft (now + d.nanos) = b.timeLeft now - d := by
  unfold timeLeft
  rcases hp : b.phase with _ | since | _
  · exact congrArg Duration.mk (Nat.zero_sub d.nanos).symm
  · have hpast : since ≤ now := h since hp
    have hsince : (now + d.nanos).since since = ⟨(now.since since).nanos + d.nanos⟩ :=
      congrArg Duration.mk (Nat.sub_add_comm hpast)
    simp only [hsince]
    exact congrArg Duration.mk (Nat.sub_add_eq _ _ _)
  · exact congrArg Duration.mk (Nat.zero_sub d.nanos).symm

end TimeLeft

/-- What a snapshot says of the time until the breaker lets requests through is when it does. -/
theorem allowRequest_iff_retryIn_le (name : String) (c : Config) (b : Breaker)
    (created : create name c = .ok b) (history : List Event) (now : Instant)
    (ordered : Ordered (history ++ [⟨now, .snapshot⟩])) (s : Snapshot) (seen : Breaker)
    (taken : (b.run history).snapshot now = (s, seen)) :
    (s.retryIn ≠ Duration.zero ↔ s.state = .opened) ∧ s.retryIn ≤ c.recoveryTimeout ∧
      ∀ (events : List Event) (d : Duration),
        Ordered (⟨now, .snapshot⟩ :: events ++ [⟨now + d.nanos, .allowRequest⟩]) →
        Undisturbed seen events →
          (((seen.run events).allowRequest (now + d.nanos)).1 = true ↔ s.retryIn ≤ d) ∧
            ((seen.run events).snapshot (now + d.nanos)).1.retryIn = s.retryIn - d := by
  obtain ⟨rfl, hc⟩ := create_ok created
  obtain ⟨hhistory, -, hlast⟩ := List.pairwise_append.1 ordered
  have hpast : ∀ e ∈ history, e.time ≤ now := fun e he => hlast e he _ (List.mem_singleton_self _)
  have hconfig := (Agrees.run hc (Agrees.created c name) history hhistory now hpast).config_eq
  have hopenings : ∀ since, (Breaker.run history ⟨name, c, .closed, 0⟩).phase = .opened since →
      since ≤ now := fun since => opened_of_run nofun hpast
  generalize Breaker.run history ⟨name, c, .closed, 0⟩ = reached at taken hconfig hopenings
  obtain rfl : (reached.snapshot now).1 = s := congrArg Prod.fst taken
  obtain rfl : reached.refresh now = seen := congrArg Prod.snd taken
  rw [retryIn_eq_timeLeft]
  refine ⟨isOpen_iff_timeLeft.symm, hconfig ▸ timeLeft_le now reached, ?_⟩
  intro events d hordered hevents
  have hbefore : ∀ e ∈ events, e.time ≤ now + d.nanos := fun e he =>
    (List.pairwise_append.1 hordered).2.2 e (List.mem_cons_of_mem _ he) _
      (List.mem_singleton_self _)
  have hleft : ((reached.refresh now).run events).timeLeft (now + d.nanos) =
      reached.timeLeft now - d := by
    rw [timeLeft_run hbefore hevents, timeLeft_refresh (Nat.le_add_right now d.nanos),
      timeLeft_add hopenings]
  exact ⟨by rw [allowRequest_eq_true, hleft, Duration.sub_eq_zero],
    by rw [retryIn_eq_timeLeft, hleft]⟩

/-- The breaker that opened again at 40, read at 50. Two reads and a failure later it refuses a
request at 69 and lets one through at 70. -/
theorem allowRequest_iff_retryIn_le_reopenedRun :
    ∃ s seen, (Breaker.run reopenedRun ⟨"mesh", ⟨2, ⟨30⟩⟩, .closed, 0⟩).snapshot 50 = (s, seen) ∧
      s.state = .opened ∧ s.retryIn = ⟨20⟩ ∧
      ((seen.run [⟨55, .state⟩, ⟨60, .recordFailure⟩, ⟨65, .snapshot⟩]).allowRequest 69).1 = false ∧
      ((seen.run [⟨55, .state⟩, ⟨60, .recordFailure⟩, ⟨65, .snapshot⟩]).allowRequest 70).1 = true ∧
      ((seen.run [⟨55, .state⟩, ⟨60, .recordFailure⟩]).snapshot 60).1.retryIn = ⟨10⟩ := by
  have hcreated : create "mesh" ⟨2, ⟨30⟩⟩ = .ok ⟨"mesh", ⟨2, ⟨30⟩⟩, .closed, 0⟩ := rfl
  obtain ⟨hopen, -, hlater⟩ := allowRequest_iff_retryIn_le "mesh" ⟨2, ⟨30⟩⟩ _ hcreated reopenedRun
    50 (by decide) _ _ rfl
  have hstate := hopen.1 (by decide)
  have hfailed := (hlater [⟨55, .state⟩, ⟨60, .recordFailure⟩] ⟨10⟩ (by decide) (by decide)).2
  have hrefused := (hlater [⟨55, .state⟩, ⟨60, .recordFailure⟩, ⟨65, .snapshot⟩] ⟨19⟩ (by decide)
    (by decide)).1
  have hallowed := (hlater [⟨55, .state⟩, ⟨60, .recordFailure⟩, ⟨65, .snapshot⟩] ⟨20⟩ (by decide)
    (by decide)).1
  exact ⟨_, _, rfl, hstate, rfl, Bool.eq_false_iff.2 (mt hrefused.1 (by decide)),
    hallowed.2 (by decide), hfailed⟩

end Breaker

end LinkReliability
