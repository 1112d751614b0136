import LinkReliability.Proofs.Health.Hysteresis
import LinkReliability.Proofs.Probe.UnderWay

/-!
# Which results count for a registration

A check is taken from the registration that its service has at the time. When it ends, its result is
folded into the service of this name, whatever the registration is by then. So the health of a
service is made of all the results that came in since it was last registered, of its own checks and
of those of earlier registrations that were still under way.
-/

namespace LinkReliability.Probe.Course

variable {d : Course} {a : Action} {w : Runner}

/-- The results of checks that were taken from the registration that counts now. -/
def own (d : Course) (name : String) : List Folded :=
  (d.results name).filter (fun f => f.registration = d.registrations name)

/-- The results of checks that were taken from an earlier one. -/
def late (d : Course) (name : String) : List Folded :=
  (d.results name).filter (fun f => f.registration < d.registrations name)

/-! ## The account of the results -/

/-- The health of every service is what its results since the last registration make of it. -/
structure Accounted (d : Course) : Prop where
  health? : ∀ name, d.probe.health? name =
    if d.registrations name = 0 then none
    else some (Health.folded d.probe.thresholds ((d.results name).map Folded.result))
  source_le : ∀ w run, d.underWay? w = some run → d.source w ≤ d.registrations run.service
  registration_le : ∀ name, ∀ f ∈ d.results name, f.registration ≤ d.registrations name

theorem registrations_act (d : Course) (a : Action) (name : String) :
    (d.act a).registrations name =
      if a.registered? = some name then d.registrations name + 1 else d.registrations name := rfl

theorem results_act (d : Course) (a : Action) (name : String) :
    (d.act a).results name = d.resultsAfter a name := rfl

theorem registrations_le_act (d : Course) (a : Action) (name : String) :
    d.registrations name ≤ (d.act a).registrations name := by
  rw [registrations_act]
  split <;> omega

theorem thresholds_act (d : Course) (a : Action) :
    (d.act a).probe.thresholds = d.probe.thresholds := by
  unfold thresholds
  rw [config_act]

/-- A check that ends and has a result, which is folded. -/
theorem folded?_eq_some {service : String} {f : Folded} (h : d.folded? a = some (service, f)) :
    ∃ w run, d.underWay? w = some run ∧ service = run.service ∧ f.registration = d.source w := by
  obtain ⟨⟨w, run, stamp⟩, hended, hmap⟩ := Option.bind_eq_some_iff.1 h
  obtain ⟨r, -, heq⟩ := Option.map_eq_some_iff.1 hmap
  obtain ⟨rfl, rfl⟩ := Prod.mk.inj heq
  exact ⟨w, run, (ended?_eq_some.1 hended).1, rfl, rfl⟩

theorem mem_results_act {name : String} {f : Folded} (h : f ∈ (d.act a).results name) :
    f ∈ d.results name ∨ d.folded? a = some (name, f) := by
  rw [results_act] at h
  unfold resultsAfter at h
  split at h
  · cases h
  · split at h
    · next service g hg =>
        split at h
        · next hn =>
            rcases List.mem_append.1 h with hold | hnew
            · exact .inl hold
            · rw [List.mem_singleton.1 hnew, hn]
              exact .inr hg
        · exact .inl h
    · exact .inl h

theorem accounted_begin {config : Config} {p : Probe} (h : create config = .ok p) :
    (begin p).Accounted := by
  rw [create_eq_ok h]
  exact ⟨fun _ => rfl, fun w run hrun => Nat.le_refl _, fun name f hf => by cases hf⟩

theorem Accounted.act (h : d.Accounted) (a : Action) : (d.act a).Accounted := by
  constructor
  · intro name
    rw [health?_act, registrations_act, results_act, thresholds_act]
    unfold resultsAfter
    by_cases hr : a.registered? = some name
    · simp only [if_pos hr, Nat.succ_ne_zero, if_false]
      rfl
    · simp only [if_neg hr]
      rw [h.health? name]
      cases hf : d.folded? a with
      | none => rfl
      | some e =>
          obtain ⟨service, f⟩ := e
          by_cases hn : name = service
          · simp only [if_pos hn, List.map_append, List.map_cons, List.map_nil,
              Health.folded_concat]
            split <;> rfl
          · simp only [if_neg hn]
  · intro w run hrun
    rcases underWay?_of_act hrun with hbefore | hbegun
    · rw [source_of_ne fun run' => begun?_ne_of_underWay hbefore]
      exact Nat.le_trans (h.source_le w run hbefore) (registrations_le_act d a run.service)
    · rw [source_begun hbegun]
      exact registrations_le_act d a run.service
  · intro name f hf
    refine Nat.le_trans ?_ (registrations_le_act d a name)
    rcases mem_results_act hf with hold | hnew
    · exact h.registration_le name f hold
    · obtain ⟨w, run, hrun, rfl, hsource⟩ := folded?_eq_some hnew
      rw [hsource]
      exact h.source_le w run hrun

theorem Accounted.run (h : d.Accounted) (actions : List Action) : (d.run actions).Accounted := by
  induction actions generalizing d with
  | nil => exact h
  | cons a actions ih => exact ih (h.act a)

/-- Every result is one of this registration's own, or a late one. -/
theorem Accounted.length_results (h : d.Accounted) (name : String) :
    (d.results name).length = (d.own name).length + (d.late name).length := by
  have hlate : d.late name = (d.results name).filter
      (fun f => decide ¬decide (f.registration = d.registrations name) = true) := by
    refine List.filter_congr fun f hf => ?_
    have hle := h.registration_le name f hf
    rw [decide_eq_decide, decide_eq_true_eq]
    omega
  rw [hlate, own, ← List.countP_eq_length_filter, ← List.countP_eq_length_filter]
  exact List.length_eq_countP_add_countP _

/-! ## From the beginning of a check to its end -/

/-- How the results of checks count for the registrations. -/
structure Attribution (t : Thresholds) (d : Course) : Prop where
  /-- A service that is registered starts afresh, whatever is under way. -/
  restarts : ∀ name check,
    (d.act (.register name check)).probe.health? name = some Health.fresh ∧
      (d.act (.register name check)).results name = []
  /-- The results since then make the health of the service. They are its own and the late ones. -/
  counts : ∀ name health, d.probe.health? name = some health →
    health = Health.folded t ((d.results name).map Folded.result) ∧
      health.totalChecks = (d.own name).length + (d.late name).length ∧
      (health.totalChecks = (d.own name).length ↔ d.late name = [])
  /-- A result is folded by name. It is a late one if, and only if, the service was registered again
  while the check was under way. -/
  folds : ∀ a w run others b run' stamp r,
    d.begun? a = some (w, run) → (∀ c ∈ others, c.runner? ≠ some w) →
    ((d.act a).run others).ended? b = some (w, run', stamp) → run'.result? stamp = some r →
    let before := (d.act a).run others
    let after := before.act b
    run' = run ∧
      after.probe.health? run.service =
        (before.probe.health? run.service).map (·.apply t r) ∧
      (∀ other, other ≠ run.service → after.probe.health? other = before.probe.health? other) ∧
      after.results run.service =
        before.results run.service ++ [⟨d.registrations run.service, r⟩] ∧
      (d.registrations run.service < after.registrations run.service ↔
        ∃ check, .register run.service check ∈ others)

theorem registered?_eq_some {name : String} :
    a.registered? = some name ↔ ∃ check, a = .register name check := by
  constructor
  · intro h
    cases a with
    | register n check =>
        obtain rfl := Option.some.inj h
        exact ⟨check, rfl⟩
    | _ => cases h
  · rintro ⟨check, rfl⟩
    rfl

theorem registered?_of_begun {run : CheckRun} (h : d.begun? a = some (w, run)) :
    a.registered? = none := by
  cases a <;> first | rfl | cases h

theorem registrations_of_none (h : a.registered? = none) :
    (d.act a).registrations = d.registrations := by
  funext name
  rw [registrations_act, h, if_neg nofun]

theorem lt_registrations_run_iff {others : List Action} {name : String} :
    d.registrations name < (d.run others).registrations name ↔
      ∃ check, .register name check ∈ others := by
  rw [registrations_run, Nat.lt_add_right_iff_pos, List.countP_pos_iff]
  constructor
  · rintro ⟨c, hc, hname⟩
    obtain ⟨check, rfl⟩ := registered?_eq_some.1 (of_decide_eq_true hname)
    exact ⟨check, hc⟩
  · rintro ⟨check, hc⟩
    exact ⟨_, hc, decide_eq_true rfl⟩

theorem Accounted.attribution (h : d.Accounted) : Attribution d.probe.thresholds d := by
  refine ⟨?_, ?_, ?_⟩
  · intro name check
    rw [health?_act, results_act]
    exact ⟨if_pos rfl, if_pos rfl⟩
  · intro name health hhealth
    rw [h.health? name] at hhealth
    split at hhealth
    · cases hhealth
    · obtain rfl := Option.some.inj hhealth
      have htotal := Health.totalChecks_folded d.probe.thresholds
        ((d.results name).map Folded.result)
      rw [List.length_map, h.length_results name] at htotal
      refine ⟨rfl, htotal, ?_⟩
      rw [htotal, Nat.add_eq_left, List.length_eq_zero_iff]
  · intro a w run others b run' stamp r hbegun hothers hended hr
    dsimp only
    have hbegins := registered?_of_begun hbegun
    have hends := registered?_of_ended hended
    obtain ⟨hrun, hsource⟩ := underWay?_run (underWay?_begun hbegun) hothers
    obtain rfl : run' = run :=
      Option.some.inj ((ended?_eq_some.1 hended).1.symm.trans hrun)
    rw [source_begun hbegun] at hsource
    have hfolded : ((d.act a).run others).folded? b =
        some (run'.service, ⟨d.registrations run'.service, r⟩) := by
      rw [folded?_of_ended hended, hr, hsource]
      rfl
    have hthresholds : ((d.act a).run others).probe.thresholds = d.probe.thresholds := by
      unfold thresholds
      rw [config_run, config_act]
    refine ⟨rfl, ?_, ?_, ?_, ?_⟩
    · rw [health?_act, hends, if_neg nofun, hfolded, hthresholds]
      exact if_pos rfl
    · intro other hother
      rw [health?_act, hends, if_neg nofun, hfolded]
      exact if_neg hother
    · rw [results_act]
      unfold resultsAfter
      rw [hends, if_neg nofun, hfolded]
      exact if_pos rfl
    · rw [registrations_of_none hends, ← registrations_of_none hbegins]
      exact lt_registrations_run_iff

/-- Whatever is registered, asked for and under way, and in whatever order. -/
theorem results_counted_by_name {config : Config} {p : Probe} (hp : create config = .ok p)
    (actions : List Action) : Attribution p.thresholds ((begin p).run actions) := by
  have haccounted := (accounted_begin hp).run actions
  have hthresholds : ((begin p).run actions).probe.thresholds = p.thresholds := by
    unfold thresholds
    rw [config_run]
    rfl
  exact hthresholds ▸ haccounted.attribution

/-- A loop has the check of a service under way, which will fail, when the service is registered
again. -/
def replacedMidCheck : List Action := [
  .register "mesh" (.scripted ⟨[]⟩),
  .start,
  .enterCycle 0,
  .beginCheck 0 ⟨0, 0, ⟨50, Duration.zero, .failed (.ofText "down")⟩, none⟩,
  .register "mesh" (.scripted ⟨[]⟩),
  .endCheck 0 50 ⟨0, Timestamp.ofEpochNanos 0⟩]

theorem results_counted_by_name_replacedMidCheck :
    ∃ p, create hasty = .ok p ∧
      Attribution p.thresholds ((begin p).run replacedMidCheck) ∧
      ((begin p).run replacedMidCheck).own "mesh" = [] ∧
      (((begin p).run replacedMidCheck).late "mesh").length = 1 := by
  have hp : create hasty = .ok _ := rfl
  exact ⟨_, hp, results_counted_by_name hp replacedMidCheck, by decide, by decide⟩

/-- The one result that the second registration has is the failure of the first one's check. -/
theorem late_result_replacedMidCheck :
    ∃ p, create hasty = .ok p ∧
      let d := (begin p).run replacedMidCheck
      d.registrations "mesh" = 2 ∧
        (d.results "mesh").map Folded.registration = [1] ∧
        d.probe.state? "mesh" = some .unhealthy ∧
        (d.probe.health? "mesh").map (·.totalChecks) = some 1 := by
  exact ⟨_, rfl, by decide, by decide, by decide, by decide⟩

end LinkReliability.Probe.Course
