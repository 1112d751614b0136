import LinkReliability.Proofs.Health.Hysteresis
import LinkReliability.Proofs.NameMap.Order
import LinkReliability.Proofs.Probe.Course

/-!
# What a step does to a probe

A step of a course either ends a check, or registers a service, or leaves the health of every
service alone. The loops go from phase to phase, each by its own steps.
-/

namespace LinkReliability.Probe

/-- A new probe has no services, and no loop was started. -/
theorem create_eq_ok {config : Config} {p : Probe} (h : create config = .ok p) :
    p = ⟨config, NameMap.empty, [], [], 0, [], none, []⟩ := by
  unfold create at h
  cases hv : config.validate with
  | error e => rw [hv] at h; cases h
  | ok u =>
      rw [hv] at h
      exact (Except.ok.inj h).symm

/-! ## What steps leave alone -/

/-- Only the loops, the owner's side and what the registered checks do from now on may differ. -/
structure Quiet (p' p : Probe) : Prop where
  health? : ∀ name, p'.health? name = p.health? name
  config : p'.config = p.config
  loopErrors : p'.loopErrors = p.loopErrors
  delivered : p'.delivered = p.delivered
  subscriptions : p'.subscriptions = p.subscriptions
  sorted : p.services.Sorted → p'.services.Sorted

theorem Quiet.refl (p : Probe) : Quiet p p := ⟨fun _ => rfl, rfl, rfl, rfl, rfl, id⟩

theorem Quiet.trans {p₂ p₁ p : Probe} (h₂ : Quiet p₂ p₁) (h₁ : Quiet p₁ p) : Quiet p₂ p :=
  ⟨fun name => (h₂.health? name).trans (h₁.health? name), h₂.config.trans h₁.config,
    h₂.loopErrors.trans h₁.loopErrors, h₂.delivered.trans h₁.delivered,
    h₂.subscriptions.trans h₁.subscriptions, h₂.sorted ∘ h₁.sorted⟩

section Quiet

variable (p : Probe) (k : Nat)

theorem quiet_setPhase (phase : LoopPhase) : Quiet (p.setPhase k phase) p :=
  ⟨fun _ => rfl, rfl, rfl, rfl, rfl, id⟩

theorem quiet_adopt (name : String) (next : Option Check) : Quiet (p.adopt name next) p := by
  cases next with
  | none => exact Quiet.refl p
  | some check =>
      refine ⟨fun other => ?_, rfl, rfl, rfl, rfl, fun h => h.modify name _⟩
      unfold adopt setCheck Probe.health?
      rw [Option.elim_some, NameMap.get?_modify]
      by_cases h : other = name
      · rw [if_pos h, h, Option.map_map]
        rfl
      · rw [if_neg h]

theorem quiet_start : Quiet p.start p := by
  unfold start
  split <;> exact ⟨fun _ => rfl, rfl, rfl, rfl, rfl, id⟩

theorem quiet_requestStop : Quiet p.requestStop p := by
  unfold requestStop
  split <;> exact ⟨fun _ => rfl, rfl, rfl, rfl, rfl, id⟩

theorem quiet_endStop : Quiet (p.endStop k) p := by
  unfold endStop
  split
  · dsimp only
    split <;> exact ⟨fun _ => rfl, rfl, rfl, rfl, rfl, id⟩
  · exact Quiet.refl p

theorem quiet_enterCycle : Quiet (p.enterCycle k) p := by
  unfold enterCycle
  split
  · split <;> exact quiet_setPhase p k _
  · exact Quiet.refl p

theorem quiet_beginCheck (run : CheckRun) : Quiet (p.beginCheck k run) p := by
  unfold beginCheck
  split
  · exact quiet_setPhase p k _
  · exact Quiet.refl p

theorem quiet_skipCheck : Quiet (p.skipCheck k) p := by
  unfold skipCheck
  split
  · exact quiet_setPhase p k _
  · exact Quiet.refl p

theorem quiet_endCycle (now : Tick) : Quiet (p.endCycle k now) p := by
  unfold endCycle
  split
  · exact quiet_setPhase p k _
  · exact Quiet.refl p

theorem quiet_endPause : Quiet (p.endPause k) p := by
  unfold endPause
  split
  · exact quiet_setPhase p k _
  · exact Quiet.refl p

theorem quiet_exitLoop : Quiet (p.exitLoop k) p := by
  unfold exitLoop
  split
  · exact quiet_setPhase p k _
  · exact quiet_setPhase p k _
  · exact quiet_setPhase p k _
  · exact Quiet.refl p

end Quiet

theorem health?_register (p : Probe) (name : String) (check : Check) (other : String) :
    (p.register name check).health? other =
      if other = name then some Health.fresh else p.health? other := by
  unfold register Probe.health?
  rw [NameMap.get?_insert]
  split <;> rfl

/-- Folding a result changes the services and what subscribers have heard. -/
theorem fold_frame (p : Probe) (name : String) (r : CheckResult) :
    (p.fold name r).config = p.config ∧ (p.fold name r).loopErrors = p.loopErrors ∧
      (p.fold name r).loops = p.loops := by
  unfold fold
  split
  · exact ⟨rfl, rfl, rfl⟩
  · dsimp only
    split <;> exact ⟨rfl, rfl, rfl⟩

/-! ## Steps of a loop -/

section Phases

variable {p : Probe} {k : Nat}

theorem phase?_eq_some {phase : LoopPhase} :
    p.phase? k = some phase ↔ ∃ cancelled, p.loop? k = some ⟨cancelled, phase⟩ := by
  unfold phase?
  rw [Option.map_eq_some_iff]
  constructor
  · rintro ⟨⟨cancelled, _⟩, hl, rfl⟩
    exact ⟨cancelled, hl⟩
  · rintro ⟨cancelled, hl⟩
    exact ⟨_, hl, rfl⟩

theorem turn?_eq_some {name : String} :
    p.turn? k = some name ↔ ∃ rest, p.phase? k = some (.cycle (name :: rest)) := by
  unfold turn?
  rw [Option.bind_eq_some_iff]
  constructor
  · rintro ⟨phase, hphase, hturn⟩
    match phase, hturn with
    | .cycle (n :: rest), hturn =>
        obtain rfl := Option.some.inj hturn
        exact ⟨rest, hphase⟩
  · rintro ⟨rest, hphase⟩
    exact ⟨_, hphase, rfl⟩

theorem phase?_of_loops {p' : Probe} (h : p'.loops = p.loops) (k : Nat) :
    p'.phase? k = p.phase? k := by
  unfold phase? loop?
  rw [h]

theorem phase?_setPhase (p : Probe) (j k : Nat) (phase : LoopPhase) :
    (p.setPhase j phase).phase? k =
      if j = k then (p.phase? k).map (fun _ => phase) else p.phase? k := by
  unfold setPhase phase? loop?
  rw [List.getElem?_modify]
  by_cases hjk : j = k
  · subst hjk
    cases p.loops[j]? <;> simp
  · cases p.loops[k]? <;> simp [hjk]

theorem phase?_adopt (p : Probe) (name : String) (next : Option Check) (k : Nat) :
    (p.adopt name next).phase? k = p.phase? k := by
  cases next <;> rfl

theorem phase?_requestStop (p : Probe) (k : Nat) : p.requestStop.phase? k = p.phase? k := by
  unfold requestStop
  split
  · rfl
  · next j hj =>
      unfold phase? loop?
      rw [List.getElem?_modify]
      cases p.loops[k]? with
      | none => rfl
      | some l => by_cases hjk : j = k <;> simp [hjk]

theorem phase?_endStop (p : Probe) (j k : Nat) : (p.endStop j).phase? k = p.phase? k := by
  unfold endStop
  split
  · dsimp only
    split <;> rfl
  · rfl

/-- A loop that is started is a new one. -/
theorem phase?_start (p : Probe) (k : Nat) :
    p.start.phase? k = p.phase? k ∨ p.phase? k = none ∧ p.start.phase? k = some .top := by
  unfold start
  split
  · exact .inl rfl
  · unfold phase? loop?
    rcases lt_trichotomy k p.loops.length with hlt | heq | hgt
    · exact .inl (by rw [List.getElem?_append_left hlt])
    · right
      rw [heq, List.getElem?_concat_length, List.getElem?_eq_none le_rfl]
      exact ⟨rfl, rfl⟩
    · left
      rw [List.getElem?_eq_none (Nat.le_of_lt hgt), List.getElem?_eq_none (by rw [List.length_append]; exact hgt)]

theorem beginCheck_eq {name : String} {rest : List String}
    (h : p.phase? k = some (.cycle (name :: rest))) (run : CheckRun) :
    p.beginCheck k run = p.setPhase k (.checking run rest) := by
  obtain ⟨cancelled, hl⟩ := phase?_eq_some.1 h
  simp only [beginCheck, hl]

theorem skipCheck_eq {name : String} {rest : List String}
    (h : p.phase? k = some (.cycle (name :: rest))) : p.skipCheck k = p.setPhase k (.cycle rest) := by
  obtain ⟨cancelled, hl⟩ := phase?_eq_some.1 h
  simp only [skipCheck, hl]

/-- A loop either folds the result of its check and goes on, or it breaks off its cycle. -/
theorem endCheck_eq {run : CheckRun} {rest : List String}
    (h : p.phase? k = some (.checking run rest)) (now : Tick) (stamp : Reading) :
    p.endCheck k now stamp =
      match run.result? stamp with
      | some r => (p.fold run.service r).setPhase k (.cycle rest)
      | none => { p with loopErrors := p.loopErrors + 1 }.setPhase k
          (.pausing (now.after (p.config.interval.min errorPause))) := by
  obtain ⟨cancelled, hl⟩ := phase?_eq_some.1 h
  simp only [endCheck, hl, conclude_eq]
  cases run.result? stamp <;> rfl

theorem endCheck_of_ne (h : ∀ run rest, p.phase? k ≠ some (.checking run rest)) (now : Tick)
    (stamp : Reading) : p.endCheck k now stamp = p := by
  unfold endCheck
  split
  · next run rest hl => exact absurd (phase?_eq_some.2 ⟨_, hl⟩) (h run rest)
  · rfl

end Phases

/-! ## The end of a check -/

/-- The loop counts an error when its check has no result. A caller unwinds. -/
def giveUp (w : Runner) (p : Probe) : Probe :=
  match w with
  | .loop _ => { p with loopErrors := p.loopErrors + 1 }
  | .caller _ => p

/-- What the end of a check makes of the services and of the count of errors. -/
def settle (w : Runner) (run : CheckRun) (stamp : Reading) (p : Probe) : Probe :=
  match run.result? stamp with
  | some r => p.fold run.service r
  | none => p.giveUp w

namespace Course

variable {d : Course} {a : Action} {w : Runner} {run : CheckRun} {stamp : Reading}

theorem underWay?_loop {k : Nat} :
    d.underWay? (.loop k) = some run ↔ ∃ rest, d.probe.phase? k = some (.checking run rest) := by
  unfold underWay?
  rw [Option.bind_eq_some_iff]
  constructor
  · rintro ⟨phase, hphase, hrun⟩
    cases phase with
    | checking run' rest =>
        obtain rfl := Option.some.inj hrun
        exact ⟨rest, hphase⟩
    | _ => cases hrun
  · rintro ⟨rest, hphase⟩
    exact ⟨_, hphase, rfl⟩

theorem underWay?_caller {i : Nat} :
    d.underWay? (.caller i) = some run ↔ d.callers[i]? = some (.waiting run) := by
  unfold underWay?
  rw [Option.bind_eq_some_iff]
  constructor
  · rintro ⟨caller, hcaller, hrun⟩
    cases caller with
    | waiting run' =>
        obtain rfl := Option.some.inj hrun
        exact hcaller
    | _ => cases hrun
  · intro hcaller
    exact ⟨_, hcaller, rfl⟩

/-- Who begins a check, and which one. -/
theorem begun?_eq_some :
    d.begun? a = some (w, run) ↔
      (∃ name t, a = .ask name t ∧ d.probe.isRegistered name = true ∧
        w = .caller d.callers.length ∧ run = t.run d.probe name) ∨
      ∃ k name rest t, a = .beginCheck k t ∧ d.probe.phase? k = some (.cycle (name :: rest)) ∧
        d.probe.isRegistered name = true ∧ w = .loop k ∧ run = t.run d.probe name := by
  constructor
  · intro h
    cases a with
    | ask name t =>
        obtain ⟨hreg, heq⟩ := Option.ite_none_right_eq_some.1 h
        obtain ⟨rfl, rfl⟩ := Prod.mk.inj (Option.some.inj heq)
        exact .inl ⟨name, t, rfl, hreg, rfl, rfl⟩
    | beginCheck k t =>
        cases hturn : d.probe.turn? k with
        | none => simp only [begun?, hturn, reduceCtorEq] at h
        | some name =>
            simp only [begun?, hturn] at h
            obtain ⟨hreg, heq⟩ := Option.ite_none_right_eq_some.1 h
            obtain ⟨rfl, rfl⟩ := Prod.mk.inj (Option.some.inj heq)
            obtain ⟨rest, hphase⟩ := turn?_eq_some.1 hturn
            exact .inr ⟨k, name, rest, t, rfl, hphase, hreg, rfl, rfl⟩
    | _ => cases h
  · rintro (⟨name, t, rfl, hreg, rfl, rfl⟩ | ⟨k, name, rest, t, rfl, hphase, hreg, rfl, rfl⟩)
    · simp only [begun?, if_pos hreg]
    · simp only [begun?, turn?_eq_some.2 ⟨rest, hphase⟩, if_pos hreg]

/-- Who had the check that ends, and what it was. -/
theorem ended?_eq_some :
    d.ended? a = some (w, run, stamp) ↔
      d.underWay? w = some run ∧
        ((∃ i, w = .caller i ∧ a = .answer i stamp) ∨
          ∃ k now, w = .loop k ∧ a = .endCheck k now stamp) := by
  constructor
  · intro h
    cases a with
    | answer i stamp' =>
        obtain ⟨run', hrun, heq⟩ := Option.map_eq_some_iff.1 h
        obtain ⟨rfl, rfl, rfl⟩ : .caller i = w ∧ run' = run ∧ stamp' = stamp := by simpa using heq
        exact ⟨hrun, .inl ⟨i, rfl, rfl⟩⟩
    | endCheck k now stamp' =>
        obtain ⟨run', hrun, heq⟩ := Option.map_eq_some_iff.1 h
        obtain ⟨rfl, rfl, rfl⟩ : .loop k = w ∧ run' = run ∧ stamp' = stamp := by simpa using heq
        exact ⟨hrun, .inr ⟨k, now, rfl, rfl⟩⟩
    | _ => cases h
  · rintro ⟨hrun, ⟨i, rfl, rfl⟩ | ⟨k, now, rfl, rfl⟩⟩
    · simp only [ended?, hrun, Option.map_some]
    · simp only [ended?, hrun, Option.map_some]

theorem quiet_of_ended (h : d.ended? a = some (w, run, stamp)) :
    Quiet (d.act a).probe (d.probe.settle w run stamp) := by
  change Quiet (d.probeAfter a) _
  unfold settle
  obtain ⟨hrun, ⟨i, rfl, rfl⟩ | ⟨k, now, rfl, rfl⟩⟩ := ended?_eq_some.1 h
  · simp only [probeAfter, hrun, conclude_eq]
    cases run.result? stamp with
    | none => exact Quiet.refl d.probe
    | some r => exact Quiet.refl _
  · obtain ⟨rest, hphase⟩ := underWay?_loop.1 hrun
    simp only [probeAfter, endCheck_eq hphase]
    cases run.result? stamp with
    | none => exact quiet_setPhase _ k _
    | some r => exact quiet_setPhase _ k _

/-- A step that ends no check and registers nothing. -/
theorem quiet_of_not_ended (he : d.ended? a = none) (hr : a.registered? = none)
    (hs : a.subscribed? = none) : Quiet (d.act a).probe d.probe := by
  change Quiet (d.probeAfter a) d.probe
  cases a with
  | register n check => cases hr
  | subscribe s => cases hs
  | start => exact quiet_start d.probe
  | requestStop => exact quiet_requestStop d.probe
  | endStop k => exact quiet_endStop d.probe k
  | ask n t =>
      simp only [probeAfter]
      split
      · exact quiet_adopt d.probe n t.next
      · exact Quiet.refl d.probe
  | answer i stamp =>
      have hnone : d.underWay? (.caller i) = none := Option.map_eq_none_iff.1 he
      simp only [probeAfter, hnone]
      exact Quiet.refl d.probe
  | leave i => exact Quiet.refl d.probe
  | enterCycle k => exact quiet_enterCycle d.probe k
  | beginCheck k t =>
      simp only [probeAfter]
      split
      · next n hturn =>
          split
          · exact (quiet_beginCheck _ k _).trans (quiet_adopt d.probe n t.next)
          · exact Quiet.refl d.probe
      · exact Quiet.refl d.probe
  | skipCheck k =>
      simp only [probeAfter]
      split
      · split
        · exact Quiet.refl d.probe
        · exact quiet_skipCheck d.probe k
      · exact Quiet.refl d.probe
  | endCheck k now stamp =>
      have hnone : d.underWay? (.loop k) = none := Option.map_eq_none_iff.1 he
      have hphase : ∀ run rest, d.probe.phase? k ≠ some (.checking run rest) := by
        intro run rest hp
        rw [underWay?_loop.2 ⟨rest, hp⟩] at hnone
        cases hnone
      simp only [probeAfter, endCheck_of_ne hphase]
      exact Quiet.refl d.probe
  | endCycle k now => exact quiet_endCycle d.probe k now
  | endPause k => exact quiet_endPause d.probe k
  | exitLoop k => exact quiet_exitLoop d.probe k

/-- What a step does to the services, the settings, the count of errors and the subscribers. -/
inductive Effect (d : Course) (a : Action) : Prop where
  | registers {name : String} {check : Check} (ha : a = .register name check)
  | subscribes {s : Subscription} (ha : a = .subscribe s)
  | ends {w : Runner} {run : CheckRun} {stamp : Reading} (he : d.ended? a = some (w, run, stamp))
      (hq : Quiet (d.act a).probe (d.probe.settle w run stamp))
  | nothing (hr : a.registered? = none) (hs : a.subscribed? = none) (he : d.ended? a = none)
      (hq : Quiet (d.act a).probe d.probe)

theorem effect (d : Course) (a : Action) : Effect d a := by
  cases he : d.ended? a with
  | some e => exact .ends he (quiet_of_ended he)
  | none =>
      cases a with
      | register name check => exact .registers rfl
      | subscribe s => exact .subscribes rfl
      | _ => exact .nothing rfl rfl he (quiet_of_not_ended he rfl rfl)

theorem registered?_of_ended {e : Runner × CheckRun × Reading} (h : d.ended? a = some e) :
    a.registered? = none := by
  cases a <;> first | rfl | cases h

theorem config_act (d : Course) (a : Action) : (d.act a).probe.config = d.probe.config := by
  cases effect d a with
  | registers ha => rw [ha]; rfl
  | subscribes ha => rw [ha]; rfl
  | nothing hr hs he hq => exact hq.config
  | @ends w run stamp he hq =>
      rw [hq.config]
      unfold settle
      cases run.result? stamp with
      | some r => exact (fold_frame d.probe run.service r).1
      | none => cases w <;> rfl

theorem config_run (actions : List Action) (d : Course) :
    (d.run actions).probe.config = d.probe.config := by
  induction actions generalizing d with
  | nil => rfl
  | cons a actions ih => rw [run_cons, ih, config_act]

theorem folded?_of_ended (h : d.ended? a = some (w, run, stamp)) :
    d.folded? a = (run.result? stamp).map (fun r => (run.service, ⟨d.source w, r⟩)) := by
  rw [folded?, h]
  rfl

/-- The health of a service changes when it is registered and when a result comes in. -/
theorem health?_act (d : Course) (a : Action) (name : String) :
    (d.act a).probe.health? name =
      if a.registered? = some name then some Health.fresh
      else
        match d.folded? a with
        | some (service, f) =>
          if name = service then
            (d.probe.health? name).map (·.apply d.probe.thresholds f.result)
          else d.probe.health? name
        | none => d.probe.health? name := by
  cases effect d a with
  | @registers n check ha =>
      subst ha
      have hr : (Action.register n check).registered? = some n := rfl
      change (d.probe.register n check).health? name = _
      rw [health?_register, hr]
      by_cases hn : name = n
      · rw [if_pos hn, if_pos (congrArg some hn.symm)]
      · rw [if_neg hn, if_neg (fun h => hn (Option.some.inj h).symm)]
        rfl
  | subscribes ha => rw [ha]; rfl
  | nothing hr hs he hq =>
      rw [hr, if_neg nofun, hq.health? name, folded?, he]
      rfl
  | @ends w run stamp he hq =>
      rw [registered?_of_ended he, if_neg nofun, hq.health? name, folded?_of_ended he]
      unfold settle
      cases run.result? stamp with
      | none => cases w <;> rfl
      | some r =>
          rw [Option.map_some, health?_fold]
          by_cases hn : name = run.service
          · rw [if_pos hn, hn]
            simp only [if_true]
          · simp only [if_neg hn]

theorem sorted_act (h : d.probe.services.Sorted) (a : Action) :
    (d.act a).probe.services.Sorted := by
  cases effect d a with
  | @registers n check ha =>
      rw [ha]
      exact h.insert n _
  | subscribes ha =>
      rw [ha]
      exact h
  | nothing hr hs he hq => exact hq.sorted h
  | @ends w run stamp he hq =>
      apply hq.sorted
      unfold settle
      cases run.result? stamp with
      | some r =>
          change (d.probe.fold run.service r).services.Sorted
          rw [services_fold]
          exact h.modify run.service _
      | none => cases w <;> exact h

theorem sorted_run (h : d.probe.services.Sorted) (actions : List Action) :
    (d.run actions).probe.services.Sorted := by
  induction actions generalizing d with
  | nil => exact h
  | cons a actions ih => exact ih (sorted_act h a)

theorem sorted_begin {config : Config} {p : Probe} (h : create config = .ok p) :
    (begin p).probe.services.Sorted := by
  rw [create_eq_ok h]
  exact List.Pairwise.nil

/-- A service that is registered stays so. -/
theorem isRegistered_act {name : String} (h : d.probe.isRegistered name = true) (a : Action) :
    (d.act a).probe.isRegistered name = true := by
  unfold isRegistered at h ⊢
  rw [health?_act]
  split
  · rfl
  · split
    · split
      · rw [Option.isSome_map]
        exact h
      · exact h
    · exact h

theorem isRegistered_run {name : String} (h : d.probe.isRegistered name = true)
    (actions : List Action) : (d.run actions).probe.isRegistered name = true := by
  induction actions generalizing d with
  | nil => exact h
  | cons a actions ih => exact ih (isRegistered_act h a)

/-! ### The loops -/

/-- One step of loop `k`, with its phases before and after. -/
inductive Turn (d : Course) (k : Nat) : Action → LoopPhase → LoopPhase → Prop where
  | enter : d.probe.loop? k = some ⟨false, .top⟩ →
      Turn d k (.enterCycle k) .top (.cycle d.probe.services.keys)
  | refuse : d.probe.loop? k = some ⟨true, .top⟩ → Turn d k (.enterCycle k) .top .finished
  | begin {t : Attempt} {name : String} {rest : List String} :
      d.probe.isRegistered name = true →
      Turn d k (.beginCheck k t) (.cycle (name :: rest)) (.checking (t.run d.probe name) rest)
  | skip {name : String} {rest : List String} :
      d.probe.isRegistered name = false →
      Turn d k (.skipCheck k) (.cycle (name :: rest)) (.cycle rest)
  | conclude {now : Tick} {stamp : Reading} {run : CheckRun} {rest : List String}
      {r : CheckResult} : run.result? stamp = some r →
      Turn d k (.endCheck k now stamp) (.checking run rest) (.cycle rest)
  | breakOff {now : Tick} {stamp : Reading} {run : CheckRun} {rest : List String} :
      run.result? stamp = none →
      Turn d k (.endCheck k now stamp) (.checking run rest)
        (.pausing (now.after (d.probe.config.interval.min errorPause)))
  | endCycle {now : Tick} :
      Turn d k (.endCycle k now) (.cycle []) (.pausing (now.after d.probe.config.interval))
  | endPause {wake : Tick} : Turn d k (.endPause k) (.pausing wake) .top
  | leaveCycle {name : String} {rest : List String} :
      d.probe.loop? k = some ⟨true, .cycle (name :: rest)⟩ →
      Turn d k (.exitLoop k) (.cycle (name :: rest)) .finished
  | dropCheck {run : CheckRun} {rest : List String} :
      d.probe.loop? k = some ⟨true, .checking run rest⟩ →
      Turn d k (.exitLoop k) (.checking run rest) .finished
  | exit {wake : Tick} : d.probe.loop? k = some ⟨true, .pausing wake⟩ →
      Turn d k (.exitLoop k) (.pausing wake) .finished

theorem Turn.runner? {k : Nat} {φ φ' : LoopPhase} (h : Turn d k a φ φ') :
    a.runner? = some (.loop k) := by
  cases h <;> rfl

theorem phase?_setPhase_self {p : Probe} {k : Nat} {φ : LoopPhase} (h : p.phase? k = some φ)
    (phase : LoopPhase) : (p.setPhase k phase).phase? k = some phase := by
  rw [phase?_setPhase, if_pos rfl, h]
  rfl

/-- Where a loop may be after a step: where it was, or at its start, or one step further. -/
def Moves (d : Course) (a : Action) (k : Nat) : Prop :=
  (d.act a).probe.phase? k = d.probe.phase? k ∨
    (d.probe.phase? k = none ∧ (d.act a).probe.phase? k = some .top) ∨
    ∃ φ φ', d.probe.phase? k = some φ ∧ (d.act a).probe.phase? k = some φ' ∧ Turn d k a φ φ'

theorem moves_of_phase? {k : Nat} (h : (d.probeAfter a).phase? k = d.probe.phase? k) :
    Moves d a k := .inl h

theorem moves_of_turn {j : Nat} {φ φ' : LoopPhase} {p : Probe} (hp : p.phase? = d.probe.phase?)
    (hφ : d.probe.phase? j = some φ) (hturn : Turn d j a φ φ')
    (hact : d.probeAfter a = p.setPhase j φ') (k : Nat) : Moves d a k := by
  have hafter : (d.act a).probe = p.setPhase j φ' := hact
  by_cases hjk : j = k
  · subst hjk
    refine .inr (.inr ⟨φ, φ', hφ, ?_, hturn⟩)
    rw [hafter, phase?_setPhase_self (by rw [hp, hφ])]
  · left
    rw [hafter, phase?_setPhase, if_neg hjk, hp]

theorem phase?_fold (p : Probe) (name : String) (r : CheckResult) :
    (p.fold name r).phase? = p.phase? := funext (phase?_of_loops (fold_frame p name r).2.2)

theorem moves (d : Course) (a : Action) (k : Nat) : Moves d a k := by
  cases a with
  | register name check => exact .inl rfl
  | subscribe s => exact .inl rfl
  | start =>
      rcases phase?_start d.probe k with h | h
      · exact .inl h
      · exact .inr (.inl h)
  | requestStop => exact .inl (phase?_requestStop d.probe k)
  | endStop j => exact .inl (phase?_endStop d.probe j k)
  | ask name t =>
      apply moves_of_phase?
      simp only [probeAfter]
      split
      · exact phase?_adopt d.probe name t.next k
      · rfl
  | answer i stamp =>
      apply moves_of_phase?
      simp only [probeAfter]
      split
      · next run hrun =>
          rw [conclude_eq]
          cases run.result? stamp with
          | none => rfl
          | some r => exact congrFun (phase?_fold d.probe run.service r) k
      · rfl
  | leave i => exact .inl rfl
  | enterCycle j =>
      by_cases htop : ∃ cancelled, d.probe.loop? j = some ⟨cancelled, .top⟩
      · obtain ⟨cancelled, hl⟩ := htop
        have hphase := phase?_eq_some.2 ⟨cancelled, hl⟩
        cases cancelled with
        | true =>
            refine moves_of_turn rfl hphase (.refuse hl) ?_ k
            simp only [probeAfter, enterCycle, hl, if_true]
        | false =>
            refine moves_of_turn rfl hphase (.enter hl) ?_ k
            simp only [probeAfter, enterCycle, hl, Bool.false_eq_true, if_false]
      · apply moves_of_phase?
        simp only [probeAfter, enterCycle]
        split
        · next cancelled hl => exact absurd ⟨cancelled, hl⟩ htop
        · rfl
  | beginCheck j t =>
      cases hturn : d.probe.turn? j with
      | none =>
          apply moves_of_phase?
          simp only [probeAfter, hturn]
      | some name =>
          obtain ⟨rest, hphase⟩ := turn?_eq_some.1 hturn
          by_cases hreg : d.probe.isRegistered name = true
          · have hphase' : (d.probe.adopt name t.next).phase? j = some (.cycle (name :: rest)) := by
              rw [phase?_adopt, hphase]
            refine moves_of_turn (p := d.probe.adopt name t.next)
              (funext (phase?_adopt d.probe name t.next)) hphase (.begin hreg) ?_ k
            simp only [probeAfter, hturn, if_pos hreg, beginCheck_eq hphase']
          · apply moves_of_phase?
            simp only [probeAfter, hturn, if_neg hreg]
  | skipCheck j =>
      cases hturn : d.probe.turn? j with
      | none =>
          apply moves_of_phase?
          simp only [probeAfter, hturn]
      | some name =>
          obtain ⟨rest, hphase⟩ := turn?_eq_some.1 hturn
          by_cases hreg : d.probe.isRegistered name = true
          · apply moves_of_phase?
            simp only [probeAfter, hturn, if_pos hreg]
          · refine moves_of_turn rfl hphase (.skip (by simpa using hreg)) ?_ k
            simp only [probeAfter, hturn, if_neg hreg, skipCheck_eq hphase]
  | endCheck j now stamp =>
      by_cases hchecking : ∃ run rest, d.probe.phase? j = some (.checking run rest)
      · obtain ⟨run, rest, hphase⟩ := hchecking
        cases hr : run.result? stamp with
        | none =>
            refine moves_of_turn (p := d.probe.giveUp (.loop j)) rfl hphase (.breakOff hr) ?_ k
            simp only [probeAfter, endCheck_eq hphase, hr]
            rfl
        | some r =>
            refine moves_of_turn (phase?_fold d.probe run.service r) hphase (.conclude hr) ?_ k
            simp only [probeAfter, endCheck_eq hphase, hr]
      · apply moves_of_phase?
        rw [probeAfter, endCheck_of_ne (fun run rest hphase => hchecking ⟨run, rest, hphase⟩)]
  | endCycle j now =>
      by_cases hcycle : ∃ cancelled, d.probe.loop? j = some ⟨cancelled, .cycle []⟩
      · obtain ⟨cancelled, hl⟩ := hcycle
        refine moves_of_turn rfl (phase?_eq_some.2 ⟨cancelled, hl⟩) .endCycle ?_ k
        simp only [probeAfter, endCycle, hl]
      · apply moves_of_phase?
        simp only [probeAfter, endCycle]
        split
        · next cancelled hl => exact absurd ⟨cancelled, hl⟩ hcycle
        · rfl
  | endPause j =>
      by_cases hpause : ∃ cancelled wake, d.probe.loop? j = some ⟨cancelled, .pausing wake⟩
      · obtain ⟨cancelled, wake, hl⟩ := hpause
        refine moves_of_turn rfl (phase?_eq_some.2 ⟨cancelled, hl⟩) .endPause ?_ k
        simp only [probeAfter, endPause, hl]
      · apply moves_of_phase?
        simp only [probeAfter, endPause]
        split
        · next cancelled wake hl => exact absurd ⟨cancelled, wake, hl⟩ hpause
        · rfl
  | exitLoop j =>
      by_cases hcycle : ∃ name rest, d.probe.loop? j = some ⟨true, .cycle (name :: rest)⟩
      · obtain ⟨name, rest, hl⟩ := hcycle
        refine moves_of_turn rfl (phase?_eq_some.2 ⟨true, hl⟩) (.leaveCycle hl) ?_ k
        simp only [probeAfter, exitLoop, hl]
      by_cases hchecking : ∃ run rest, d.probe.loop? j = some ⟨true, .checking run rest⟩
      · obtain ⟨run, rest, hl⟩ := hchecking
        refine moves_of_turn rfl (phase?_eq_some.2 ⟨true, hl⟩) (.dropCheck hl) ?_ k
        simp only [probeAfter, exitLoop, hl]
      by_cases hpause : ∃ wake, d.probe.loop? j = some ⟨true, .pausing wake⟩
      · obtain ⟨wake, hl⟩ := hpause
        refine moves_of_turn rfl (phase?_eq_some.2 ⟨true, hl⟩) (.exit hl) ?_ k
        simp only [probeAfter, exitLoop, hl]
      apply moves_of_phase?
      simp only [probeAfter, exitLoop]
      split
      · next name rest hl => exact absurd ⟨name, rest, hl⟩ hcycle
      · next run rest hl => exact absurd ⟨run, rest, hl⟩ hchecking
      · next wake hl => exact absurd ⟨wake, hl⟩ hpause
      · rfl

end Course

end LinkReliability.Probe
