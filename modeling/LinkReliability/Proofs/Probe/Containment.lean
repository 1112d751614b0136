import LinkReliability.Proofs.Probe.UnderWay

/-!
# What comes of misbehaving checks

A check may fail, panic or never finish, and it still has one result, which is folded into its
service. The exception is a failure whose text cannot be formatted. It has no result: a caller
unwinds, and a loop breaks off its cycle, so that the services later in the order go without.
-/

namespace LinkReliability.Probe

/-! ## Checks without a result -/

/-- The check fails in time, and the text of its failure cannot be formatted. -/
def CheckRun.Unprintable (run : CheckRun) : Prop :=
  run.timedOut = false ∧ run.call.outcome = .unprintable

instance (run : CheckRun) : Decidable run.Unprintable := inferInstanceAs (Decidable (_ ∧ _))

theorem verdict?_eq_none_iff (run : CheckRun) : run.verdict? = none ↔ run.Unprintable := by
  unfold CheckRun.verdict? CheckRun.Unprintable
  cases run.timedOut with
  | true => simp
  | false => cases run.call.outcome <;> simp

theorem result?_eq_none_iff {run : CheckRun} {stamp : Reading} :
    run.result? stamp = none ↔ run.Unprintable := by
  rw [CheckRun.result?, Option.map_eq_none_iff, verdict?_eq_none_iff]

theorem prints_of_result {run : CheckRun} {stamp : Reading} {r : CheckResult}
    (h : run.result? stamp = some r) : ¬ run.Unprintable := by
  intro hno
  rw [result?_eq_none_iff.2 hno] at h
  cases h

/-- A check that does not finish is given up at its deadline. -/
theorem ends_le_deadline (run : CheckRun) : run.ends ≤ run.deadline := by
  unfold CheckRun.ends CheckRun.timedOut
  split
  · exact Nat.le_refl _
  · next h => simpa using h

namespace Course

variable {d : Course} {a : Action} {w : Runner} {run : CheckRun} {stamp : Reading}

/-! ## The end of a check -/

/-- The check of a loop that ends without a result. -/
def breaksOff (d : Course) (a : Action) : Bool :=
  match d.ended? a with
  | some (.loop _, run, _) => run.Unprintable
  | _ => false

theorem loopErrors_act (d : Course) (a : Action) :
    (d.act a).probe.loopErrors = d.probe.loopErrors + if d.breaksOff a then 1 else 0 := by
  unfold breaksOff
  cases effect d a with
  | registers ha => rw [ha]; rfl
  | subscribes ha => rw [ha]; rfl
  | nothing hr hs he hq =>
      rw [he]
      exact hq.loopErrors
  | @ends w run stamp he hq =>
      rw [he, hq.loopErrors]
      unfold settle
      cases hr : run.result? stamp with
      | some r =>
          have hprints := prints_of_result hr
          dsimp only
          rw [(fold_frame d.probe run.service r).2.1]
          cases w <;> simp [hprints]
      | none =>
          have hno := result?_eq_none_iff.1 hr
          cases w <;> simp [giveUp, hno]

theorem turn_of_ended {k : Nat} (h : d.ended? a = some (.loop k, run, stamp)) :
    ∃ rest φ', d.probe.phase? k = some (.checking run rest) ∧
      (d.act a).probe.phase? k = some φ' ∧ Turn d k a (.checking run rest) φ' := by
  obtain ⟨hrun, ⟨i, hi, -⟩ | ⟨j, now, hj, rfl⟩⟩ := ended?_eq_some.1 h
  · cases hi
  · obtain rfl := Runner.loop.inj hj
    obtain ⟨rest, hphase⟩ := underWay?_loop.1 hrun
    have hact : (d.act (.endCheck k now stamp)).probe = d.probe.endCheck k now stamp := rfl
    cases hr : run.result? stamp with
    | none =>
        refine ⟨rest, _, hphase, ?_, .breakOff hr⟩
        rw [hact, endCheck_eq hphase, hr]
        exact phase?_setPhase_self hphase _
    | some r =>
        refine ⟨rest, _, hphase, ?_, .conclude hr⟩
        rw [hact, endCheck_eq hphase, hr]
        exact phase?_setPhase_self (by rw [phase?_fold, hphase]) _

/-! ## Cycles -/

/-- The checks that loop `k` ends. -/
def endedNow (k : Nat) (d : Course) (a : Action) : List CheckRun :=
  match d.ended? a with
  | some (.loop j, run, _) => if j = k then [run] else []
  | _ => []

def endedBy (k : Nat) : List Action → Course → List CheckRun
  | [], _ => []
  | a :: actions, d => endedNow k d a ++ endedBy k actions (d.act a)

def breakOffs : List Action → Course → Nat
  | [], _ => 0
  | a :: actions, d => (if d.breaksOff a then 1 else 0) + breakOffs actions (d.act a)

theorem loopErrors_run (actions : List Action) (d : Course) :
    (d.run actions).probe.loopErrors = d.probe.loopErrors + breakOffs actions d := by
  induction actions generalizing d with
  | nil => rfl
  | cons a actions ih => rw [run_cons, ih, loopErrors_act, breakOffs, Nat.add_assoc]

/-- All the services have been checked, and every check had a result. -/
def Completed (names : List String) (ended : List CheckRun) : Prop :=
  ended.map CheckRun.service = names ∧ ∀ run ∈ ended, ¬ run.Unprintable

/-- The last check had no result, and the services after its own were not checked. -/
def BrokenOff (names : List String) (ended : List CheckRun) : Prop :=
  ∃ done last rest, ended = done ++ [last] ∧ last.Unprintable ∧ (∀ run ∈ done, ¬ run.Unprintable) ∧
    names = done.map CheckRun.service ++ last.service :: rest

/-- How far a cycle over `names` has come when it has ended these checks. -/
def Progress (names : List String) (ended : List CheckRun) : LoopPhase → Prop
  | .top => False
  | .cycle rest =>
    names = ended.map CheckRun.service ++ rest ∧ ∀ run ∈ ended, ¬ run.Unprintable
  | .checking run rest =>
    names = ended.map CheckRun.service ++ run.service :: rest ∧ ∀ run ∈ ended, ¬ run.Unprintable
  | .pausing _ => Completed names ended ∨ BrokenOff names ended
  | .finished => True

/-- A cycle begins with the services that are registered. -/
theorem phase?_enterCycle {k : Nat} (h : d.probe.loop? k = some ⟨false, .top⟩) :
    (d.act (.enterCycle k)).probe.phase? k = some (.cycle d.probe.services.keys) := by
  have hact : (d.act (.enterCycle k)).probe = d.probe.setPhase k (.cycle d.probe.services.keys) := by
    change d.probe.enterCycle k = _
    simp only [enterCycle, h, Bool.false_eq_true, if_false]
  rw [hact]
  exact phase?_setPhase_self (phase?_eq_some.2 ⟨false, h⟩) _

theorem endedNow_of_same {k : Nat} {φ : LoopPhase} (hφ : d.probe.phase? k = some φ)
    (hsame : (d.act a).probe.phase? k = some φ) : endedNow k d a = [] := by
  unfold endedNow
  split
  · next j run stamp hended =>
      rw [if_neg]
      rintro rfl
      obtain ⟨rest, φ', hbefore, hafter, hturn⟩ := turn_of_ended hended
      obtain rfl := Option.some.inj (hbefore.symm.trans hφ)
      obtain rfl := Option.some.inj (hafter.symm.trans hsame)
      cases hturn
  · rfl

theorem endedNow_endCheck {k : Nat} {rest : List String} {now : Tick}
    (h : d.probe.phase? k = some (.checking run rest)) :
    endedNow k d (.endCheck k now stamp) = [run] := by
  have hended : d.ended? (.endCheck k now stamp) = some (.loop k, run, stamp) :=
    ended?_eq_some.2 ⟨underWay?_loop.2 ⟨rest, h⟩, .inr ⟨k, now, rfl, rfl⟩⟩
  simp only [endedNow, hended, if_true]

theorem progress_turn {k : Nat} {names : List String} {ended : List CheckRun} {φ φ' : LoopPhase}
    (hnames : ∀ name ∈ names, d.probe.isRegistered name = true)
    (hφ : d.probe.phase? k = some φ) (h : Progress names ended φ) (hturn : Turn d k a φ φ')
    (ha : a ≠ .endPause k) : Progress names (ended ++ endedNow k d a) φ' := by
  cases hturn with
  | enter => exact h.elim
  | refuse => exact h.elim
  | begin hreg =>
      rw [show endedNow k d _ = [] from rfl, List.append_nil]
      exact h
  | @skip name rest hreg =>
      have hname : name ∈ names := by
        rw [h.1]
        exact List.mem_append_right _ List.mem_cons_self
      rw [hnames name hname] at hreg
      cases hreg
  | @conclude now stamp run rest r hr =>
      rw [endedNow_endCheck hφ]
      constructor
      · rw [h.1, List.map_append, List.append_assoc]
        rfl
      · intro run' hrun'
        rcases List.mem_append.1 hrun' with hold | hnew
        · exact h.2 run' hold
        · rw [List.mem_singleton.1 hnew]
          exact prints_of_result hr
  | @breakOff now stamp run rest hr =>
      rw [endedNow_endCheck hφ]
      exact .inr ⟨ended, run, rest, rfl, result?_eq_none_iff.1 hr, h.2, h.1⟩
  | endCycle =>
      rw [show endedNow k d _ = [] from rfl, List.append_nil]
      exact .inl ⟨by rw [h.1, List.append_nil], h.2⟩
  | endPause => exact absurd rfl ha
  | leaveCycle => trivial
  | dropCheck => trivial
  | exit => trivial

/-- A cycle goes on from step to step, whatever others do meanwhile. -/
theorem progress_run {k : Nat} {names : List String} {during : List Action}
    {ended : List CheckRun} {φ : LoopPhase}
    (hnames : ∀ name ∈ names, d.probe.isRegistered name = true)
    (hφ : d.probe.phase? k = some φ) (h : Progress names ended φ)
    (hduring : ∀ a ∈ during, a ≠ .endPause k) :
    ∃ φ', (d.run during).probe.phase? k = some φ' ∧
      Progress names (ended ++ endedBy k during d) φ' := by
  induction during generalizing d ended φ with
  | nil => exact ⟨φ, hφ, by rwa [endedBy, List.append_nil]⟩
  | cons a during ih =>
      rw [List.forall_mem_cons] at hduring
      have hnames' := fun name hname => isRegistered_act (hnames name hname) a
      rw [run_cons, endedBy, ← List.append_assoc]
      rcases moves d a k with hsame | ⟨hnone, -⟩ | ⟨φ₀, φ', hφ₀, hφ', hturn⟩
      · have hstill := hsame.trans hφ
        rw [endedNow_of_same hφ hstill, List.append_nil]
        exact ih hnames' hstill h hduring.2
      · rw [hφ] at hnone
        cases hnone
      · obtain rfl := Option.some.inj (hφ₀.symm.trans hφ)
        exact ih hnames' hφ' (progress_turn hnames hφ h hturn hduring.1) hduring.2

/-! ## All runs -/

/-- What comes of the checks that begin and end at `d`, and of the cycles that begin there. -/
structure Contained (d : Course) : Prop where
  /-- Every check that begins is over in time. -/
  ends : ∀ a w run, d.begun? a = some (w, run) →
    ∃ t : Attempt, run = t.run d.probe run.service ∧
      run.ends ≤ t.now.after d.probe.config.checkTimeout
  /-- The result goes to the caller, and it is folded into its service and into no other. -/
  folds : ∀ a w run stamp, d.ended? a = some (w, run, stamp) → ¬ run.Unprintable →
    ∃ r health, run.result? stamp = some r ∧
      d.probe.health? run.service = some health ∧
      (d.act a).probe.health? run.service = some (health.apply d.probe.thresholds r) ∧
      (∀ other, other ≠ run.service → (d.act a).probe.health? other = d.probe.health? other) ∧
      (d.act a).probe.loopErrors = d.probe.loopErrors ∧
      ∀ i, w = .caller i → (d.act a).callers[i]? = some (.answered r)
  /-- Without a result the caller unwinds, the loop counts an error, and nothing is folded. -/
  unwinds : ∀ a w run stamp, d.ended? a = some (w, run, stamp) → run.Unprintable →
    (∀ name, (d.act a).probe.health? name = d.probe.health? name) ∧
      (∀ i, w = .caller i → (d.act a).callers[i]? = some .unwound ∧
        (d.act a).probe.loopErrors = d.probe.loopErrors) ∧
      ∀ k, w = .loop k → (d.act a).probe.loopErrors = d.probe.loopErrors + 1
  /-- A cycle that is over without being cancelled has ended one check of every service, unless it
  was broken off. -/
  cycles : ∀ k during wake, d.probe.loop? k = some ⟨false, .top⟩ →
    (∀ a ∈ during, a ≠ .endPause k) →
    let started := d.act (.enterCycle k)
    (started.run during).probe.phase? k = some (.pausing wake) →
    d.probe.services.keys.Nodup ∧
      (∀ name, name ∈ d.probe.services.keys ↔ d.probe.isRegistered name = true) ∧
      (Completed d.probe.services.keys (endedBy k during started) ∨
        BrokenOff d.probe.services.keys (endedBy k during started)) ∧
      (started.run during).probe.loopErrors = d.probe.loopErrors + breakOffs during started

theorem mem_keys_iff (h : d.probe.services.Sorted) (name : String) :
    name ∈ d.probe.services.keys ↔ d.probe.isRegistered name = true := by
  rw [h.mem_keys_iff, isRegistered, Probe.health?, Option.isSome_map]

/-- A result is folded into its service and into no other. -/
theorem health?_of_ended (hsound : d.Sound) {r : CheckResult}
    (hended : d.ended? a = some (w, run, stamp)) (hr : run.result? stamp = some r) :
    (∃ health, d.probe.health? run.service = some health ∧
      (d.act a).probe.health? run.service = some (health.apply d.probe.thresholds r)) ∧
    ∀ other, other ≠ run.service → (d.act a).probe.health? other = d.probe.health? other := by
  obtain ⟨health, hhealth⟩ := Option.isSome_iff_exists.1 (hsound w run (ended?_eq_some.1 hended).1)
  have hquiet := quiet_of_ended hended
  rw [settle, hr] at hquiet
  refine ⟨⟨health, hhealth, ?_⟩, ?_⟩
  · rw [hquiet.health?, health?_fold, if_pos rfl, hhealth]
    rfl
  · intro other hother
    rw [hquiet.health?, health?_fold, if_neg hother]

theorem contained (hsound : d.Sound) (hsorted : d.probe.services.Sorted) : Contained d := by
  refine ⟨?_, ?_, ?_, ?_⟩
  · intro a w run hbegun
    rcases begun?_eq_some.1 hbegun with ⟨name, t, -, -, -, rfl⟩ | ⟨k, name, rest, t, -, -, -, -, rfl⟩
    · exact ⟨t, rfl, ends_le_deadline _⟩
    · exact ⟨t, rfl, ends_le_deadline _⟩
  · intro a w run stamp hended hprints
    obtain ⟨r, hr⟩ := Option.ne_none_iff_exists'.1 (mt result?_eq_none_iff.1 hprints)
    obtain ⟨⟨health, hhealth, hafter⟩, hothers⟩ := health?_of_ended hsound hended hr
    have hquiet := quiet_of_ended hended
    rw [settle, hr] at hquiet
    refine ⟨r, health, hr, hhealth, hafter, hothers, ?_, ?_⟩
    · exact hquiet.loopErrors.trans (fold_frame d.probe run.service r).2.1
    · rintro i rfl
      rw [callers_of_ended hended, hr]
      rfl
  · intro a w run stamp hended hno
    have hquiet := quiet_of_ended hended
    rw [settle, result?_eq_none_iff.2 hno] at hquiet
    refine ⟨?_, ?_, ?_⟩
    · intro name
      refine (hquiet.health? name).trans ?_
      cases w <;> rfl
    · rintro i rfl
      rw [callers_of_ended hended, result?_eq_none_iff.2 hno]
      exact ⟨rfl, hquiet.loopErrors⟩
    · rintro k rfl
      exact hquiet.loopErrors
  · intro k during wake htop hduring
    dsimp only
    intro hpausing
    have hphase := phase?_enterCycle htop
    have hnames : ∀ name ∈ d.probe.services.keys,
        (d.act (.enterCycle k)).probe.isRegistered name = true := fun name hname =>
      isRegistered_act ((mem_keys_iff hsorted name).1 hname) _
    have hnone : Progress d.probe.services.keys [] (.cycle d.probe.services.keys) :=
      ⟨rfl, fun _ h => by cases h⟩
    obtain ⟨φ, hφ, hprogress⟩ := progress_run hnames hphase hnone hduring
    obtain rfl := Option.some.inj (hφ.symm.trans hpausing)
    refine ⟨hsorted.nodup_keys, mem_keys_iff hsorted, hprogress, ?_⟩
    rw [loopErrors_run, loopErrors_act]
    rfl

/-- Whatever checks do, and in whatever order. -/
theorem checks_contained {config : Config} {p : Probe} (hp : create config = .ok p)
    (actions : List Action) : Contained ((begin p).run actions) := by
  have hsorted : (begin p).probe.services.Sorted := by
    rw [create_eq_ok hp]
    exact List.Pairwise.nil
  exact contained (sound_run (sound_begin hp) actions) (sorted_run hsorted actions)

/-- A loop is about to check two services. -/
def twoServices : List Action := [
  .register "mesh" (.scripted ⟨[]⟩),
  .register "overlay" (.scripted ⟨[]⟩),
  .start]

theorem checks_contained_twoServices :
    ∃ p, create hasty = .ok p ∧
      Contained ((begin p).run twoServices) ∧
      ((begin p).run twoServices).probe.loop? 0 = some ⟨false, .top⟩ ∧
      ((begin p).run twoServices).probe.services.keys = ["mesh", "overlay"] := by
  have hp : create hasty = .ok _ := rfl
  exact ⟨_, hp, checks_contained hp twoServices, by decide, by decide⟩

/-- A check that fails at once, with a text that cannot be formatted. -/
def unprintableAttempt : Attempt := ⟨0, 0, ⟨0, Duration.zero, .unprintable⟩, none⟩

/-- The first check has no result: the loop counts an error, and the second service is not checked.
By hand, the caller unwinds. -/
theorem cycle_broken_off_twoServices :
    ∃ p, create hasty = .ok p ∧
      let stamp : Reading := ⟨0, Timestamp.ofEpochNanos 0⟩
      let d := ((begin p).run twoServices).run
        [.enterCycle 0, .beginCheck 0 unprintableAttempt, .endCheck 0 0 stamp]
      d.probe.phase? 0 = some (.pausing 5000) ∧ d.probe.loopErrors = 1 ∧
        d.results "mesh" = [] ∧ d.results "overlay" = [] ∧
        let asked := d.run [.ask "mesh" unprintableAttempt, .answer 0 stamp]
        asked.callers = [.unwound] ∧ asked.results "mesh" = [] := by
  exact ⟨_, rfl, by decide, by decide, by decide, by decide, by decide, by decide⟩

end Course

end LinkReliability.Probe
