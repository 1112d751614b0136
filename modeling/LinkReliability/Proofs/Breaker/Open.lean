import LinkReliability.Proofs.Breaker.Eager

/-!
# While a breaker is open

A breaker is open from the failure that opened it until its timeout is over. Nothing but a success
or a reset ends that earlier, and no failure makes it last longer.
-/

namespace LinkReliability.Breaker

variable {b : Breaker} {now next : Instant}

/-- Read now, the breaker is open. -/
def IsOpen (now : Instant) (b : Breaker) : Prop := (b.state now).1 = .opened

instance (now : Instant) (b : Breaker) : Decidable (b.IsOpen now) :=
  inferInstanceAs (Decidable (_ = _))

theorem isOpen_iff :
    b.IsOpen now ↔ ∃ since, b.phase = .opened since ∧ now.since since < b.config.recoveryTimeout := by
  change (b.refresh now).phase.state = .opened ↔ _
  unfold refresh
  rcases hp : b.phase with _ | since | _
  · simp [hp, Phase.state]
  · by_cases hover : b.config.recoveryTimeout ≤ now.since since
    · simp [hover, Phase.state, Duration.not_lt]
    · simp [hp, hover, Phase.state, ← Duration.not_le]
  · simp [hp, Phase.state]

theorem refresh_of_isOpen (h : b.IsOpen now) : b.refresh now = b := by
  obtain ⟨since, hp, hearly⟩ := isOpen_iff.1 h
  unfold refresh
  rw [hp]
  exact if_neg (Duration.not_le.2 hearly)

theorem allowRequest_of_isOpen (h : b.IsOpen now) : (b.allowRequest now).1 = false := by
  have hstate : (b.state now).1 = .opened := h
  change ((b.state now).1 != .opened) = false
  rw [hstate]
  rfl

theorem phase_refresh_of_not_isOpen (h : ¬ b.IsOpen now) (since : Instant) :
    (b.refresh now).phase ≠ .opened since := by
  intro hp
  apply h
  change (b.refresh now).phase.state = .opened
  rw [hp]
  rfl

theorem isOpen_of_later (hle : now ≤ next) (h : b.IsOpen next) : b.IsOpen now := by
  obtain ⟨since, hp, hearly⟩ := isOpen_iff.1 h
  exact isOpen_iff.2 ⟨since, hp, Nat.lt_of_le_of_lt (since_mono hle since) hearly⟩

theorem config_act (b : Breaker) (e : Event) : (b.act e).2.config = b.config := by
  unfold act
  cases e.operation with
  | state => exact refresh_config e.time b
  | allowRequest => exact refresh_config e.time b
  | failures => rfl
  | snapshot => exact refresh_config e.time b
  | recordSuccess => rfl
  | recordFailure =>
      dsimp only
      rw [recordFailure_eq]
      exact refresh_config e.time b
  | reset => rfl

/-- A failure of an open breaker is counted, and that is all. -/
theorem phase_recordFailure_of_isOpen (h : b.IsOpen now) :
    (b.recordFailure now).phase = b.phase := by
  obtain ⟨since, hp, -⟩ := isOpen_iff.1 h
  rw [recordFailure_eq, refresh_of_isOpen h, hp]
  rfl

/-- An open breaker stays as it is, or closes. -/
theorem phase_act_of_isOpen (h : b.IsOpen now) (o : Operation) :
    (b.act ⟨now, o⟩).2.phase = b.phase ∨ (b.act ⟨now, o⟩).2.phase = .closed := by
  have hfresh := congrArg Breaker.phase (refresh_of_isOpen h)
  cases o with
  | state => exact .inl hfresh
  | allowRequest => exact .inl hfresh
  | failures => exact .inl rfl
  | snapshot => exact .inl hfresh
  | recordSuccess => exact .inr rfl
  | recordFailure => exact .inl (phase_recordFailure_of_isOpen h)
  | reset => exact .inr rfl

/-- A breaker opens at a failure. -/
theorem phase_act_of_opens {o : Operation} (h : ¬ b.IsOpen now)
    (hopen : (b.act ⟨now, o⟩).2.IsOpen now) : (b.act ⟨now, o⟩).2.phase = .opened now := by
  obtain ⟨since, hp, -⟩ := isOpen_iff.1 hopen
  have hread : ∀ b' : Breaker, b' = b.refresh now → b'.phase ≠ .opened since := by
    rintro _ rfl
    exact phase_refresh_of_not_isOpen h since
  cases o with
  | state => exact absurd hp (hread _ rfl)
  | allowRequest => exact absurd hp (hread _ rfl)
  | failures => exact absurd hopen h
  | snapshot => exact absurd hp (hread _ rfl)
  | recordSuccess => cases hp
  | recordFailure =>
      change (b.recordFailure now).phase = .opened since at hp
      change (b.recordFailure now).phase = .opened now
      rw [recordFailure_eq] at hp ⊢
      change phaseAfterFailure _ _ now (b.refresh now).phase = .opened since at hp
      change phaseAfterFailure _ _ now (b.refresh now).phase = .opened now
      cases hphase : (b.refresh now).phase with
      | closed =>
          rw [hphase] at hp
          unfold phaseAfterFailure at hp ⊢
          dsimp only at hp ⊢
          split at hp
          · next hreach => rw [if_pos hreach]
          · cases hp
      | opened o => exact absurd hphase (phase_refresh_of_not_isOpen h o)
      | halfOpen => rfl
  | reset => cases hp

end LinkReliability.Breaker
