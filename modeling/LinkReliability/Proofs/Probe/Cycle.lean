import LinkReliability.Proofs.NameMap.Bytes
import LinkReliability.Proofs.Probe.Containment
import LinkReliability.Proofs.Probe.Lifecycle
import LinkReliability.Proofs.Probe.Subscribers

/-!
# A cycle from its beginning to its end

A cycle has the names of the services that are registered when it begins. It calls their checks one
after another in this order, and folds what each of them comes to before it calls the next. When all
have had their turn the loop pauses for the whole interval. A cycle that is cancelled may go no
further, and then a check that is under way has no result.
-/

namespace LinkReliability.Probe

/-! ## What checks come to -/

/-- The result says what became of the check. -/
inductive CheckRun.Reports (run : CheckRun) (r : CheckResult) : Prop where
  | said {v : Verdict} : run.timedOut = false → run.call.outcome = .done v →
      r.healthy = v.healthy → r.reason = v.reason → Reports run r
  | failed {f : Failure} : run.timedOut = false → run.call.outcome = .failed f →
      r.healthy = false → r.reason = "check_exception: " ++ f.text → Reports run r
  | panicked {message : Option String} : run.timedOut = false →
      run.call.outcome = .panicked message →
      r.healthy = false → r.reason = "check_exception: " ++ panicText message → Reports run r
  | gaveUp : run.timedOut = true → r.healthy = false → r.reason = "timeout" → Reports run r

theorem reports_of_result {run : CheckRun} {stamp : Reading} {r : CheckResult}
    (h : run.result? stamp = some r) : run.Reports r := by
  obtain ⟨v, hv, rfl⟩ := Option.map_eq_some_iff.1 h
  unfold CheckRun.verdict? at hv
  cases htime : run.timedOut with
  | true =>
      rw [htime] at hv
      obtain rfl := Option.some.inj hv
      exact .gaveUp htime rfl rfl
  | false =>
      rw [htime] at hv
      cases hout : run.call.outcome with
      | done v' =>
          rw [hout] at hv
          obtain rfl : v' = v := Option.some.inj hv
          exact .said htime hout rfl rfl
      | failed f =>
          rw [hout] at hv
          obtain rfl : (⟨false, _⟩ : Verdict) = v := Option.some.inj hv
          exact .failed htime hout rfl rfl
      | panicked message =>
          rw [hout] at hv
          obtain rfl : (⟨false, _⟩ : Verdict) = v := Option.some.inj hv
          exact .panicked htime hout rfl rfl
      | unprintable =>
          rw [hout] at hv
          cases hv

/-! ## What happens in a cycle -/

inductive CycleEvent where
  /-- A check is called. It is the one of this registration of its service. -/
  | called (run : CheckRun) (registration : Nat)
  | folded (service : String) (result : CheckResult)
  /-- All services have had their turn. -/
  | over (now : Tick)
deriving DecidableEq

/-- A check that was called, and what it came to. -/
structure Checked where
  run : CheckRun
  registration : Nat
  result : CheckResult
  reports : run.Reports result

namespace Checked

def service (c : Checked) : String := c.run.service

def events (c : Checked) : List CycleEvent :=
  [.called c.run c.registration, .folded c.service c.result]

end Checked

/-- How far a cycle over `names` has come when these were its events. -/
inductive CycleAt (interval : Duration) (names : List String) (events : List CycleEvent) :
    LoopPhase → Prop where
  | between {checked : List Checked} {rest : List String} :
      names = checked.map Checked.service ++ rest → events = checked.flatMap Checked.events →
      CycleAt interval names events (.cycle rest)
  | checking {checked : List Checked} {run : CheckRun} {registration : Nat} {rest : List String} :
      names = checked.map Checked.service ++ run.service :: rest →
      events = checked.flatMap Checked.events ++ [.called run registration] →
      CycleAt interval names events (.checking run rest)
  | paused {checked : List Checked} {now : Tick} :
      names = checked.map Checked.service →
      events = checked.flatMap Checked.events ++ [.over now] →
      CycleAt interval names events (.pausing (now.after interval))
  | stopped {checked : List Checked} {now : Tick} :
      names = checked.map Checked.service →
      events = checked.flatMap Checked.events ++ [.over now] →
      CycleAt interval names events .finished
  /-- The cycle was cancelled between two checks. -/
  | left {checked : List Checked} {name : String} {rest : List String} :
      names = checked.map Checked.service ++ name :: rest →
      events = checked.flatMap Checked.events →
      CycleAt interval names events .finished
  /-- The cycle was cancelled during the check of `run`. -/
  | cut {checked : List Checked} {run : CheckRun} {registration : Nat} {rest : List String} :
      names = checked.map Checked.service ++ run.service :: rest →
      events = checked.flatMap Checked.events ++ [.called run registration] →
      CycleAt interval names events .finished

namespace Course

variable {d : Course} {a : Action} {k : Nat} {run : CheckRun} {stamp : Reading}

def calledNow (k : Nat) (d : Course) (a : Action) : List CycleEvent :=
  match d.begun? a with
  | some (.loop j, run) => if j = k then [.called run (d.registrations run.service)] else []
  | _ => []

def foldedNow (k : Nat) (d : Course) (a : Action) : List CycleEvent :=
  match d.ended? a with
  | some (.loop j, run, stamp) =>
    if j = k then (run.result? stamp).toList.map (.folded run.service) else []
  | _ => []

def overNow (k : Nat) (d : Course) : Action → List CycleEvent
  | .endCycle j now => if j = k ∧ d.probe.phase? k = some (.cycle []) then [.over now] else []
  | _ => []

/-- What a step does for the cycle of loop `k`. -/
def eventsNow (k : Nat) (d : Course) (a : Action) : List CycleEvent :=
  calledNow k d a ++ foldedNow k d a ++ overNow k d a

def cycleEvents (k : Nat) : List Action → Course → List CycleEvent
  | [], _ => []
  | a :: actions, d => eventsNow k d a ++ cycleEvents k actions (d.act a)

/-! ### Checks whose failures can be told -/

/-- No loop calls a check that fails with a text that cannot be formatted. -/
def Printing (actions : List Action) : Prop :=
  ∀ k t, .beginCheck k t ∈ actions → t.call.outcome ≠ .unprintable

/-- None of the loops has such a check under way. -/
def Printable (d : Course) : Prop :=
  ∀ k run, d.underWay? (.loop k) = some run → run.call.outcome ≠ .unprintable

theorem printable_act (h : d.Printable)
    (ha : ∀ k t, a = .beginCheck k t → t.call.outcome ≠ .unprintable) : (d.act a).Printable := by
  intro k run hrun
  rcases underWay?_of_act hrun with hbefore | hbegun
  · exact h k run hbefore
  · rcases begun?_eq_some.1 hbegun with ⟨name, t, -, -, hcaller, -⟩ |
      ⟨j, name, rest, t, hbegins, -, -, -, rfl⟩
    · cases hcaller
    · exact ha j t hbegins

theorem printing_cons {actions : List Action} :
    Printing (a :: actions) ↔
      (∀ k t, a = .beginCheck k t → t.call.outcome ≠ .unprintable) ∧ Printing actions := by
  unfold Printing
  simp only [List.mem_cons, or_imp, forall_and, eq_comm]

theorem printing_append {first second : List Action} :
    Printing (first ++ second) ↔ Printing first ∧ Printing second := by
  unfold Printing
  simp only [List.mem_append, or_imp, forall_and]

theorem printable_run {actions : List Action} (h : d.Printable) (ha : Printing actions) :
    (d.run actions).Printable := by
  induction actions generalizing d with
  | nil => exact h
  | cons a actions ih =>
      rw [printing_cons] at ha
      exact ih (printable_act h ha.1) ha.2

theorem result?_of_printable (h : d.Printable) (hrun : d.underWay? (.loop k) = some run)
    (stamp : Reading) : ∃ r, run.result? stamp = some r :=
  Option.ne_none_iff_exists'.1 (fun hnone => h k run hrun (result?_eq_none_iff.1 hnone).2)

theorem loopErrors_of_printable (h : d.Printable) (a : Action) :
    (d.act a).probe.loopErrors = d.probe.loopErrors := by
  have hbreaks : d.breaksOff a = false := by
    unfold breaksOff
    split
    · next j run stamp hended =>
        refine decide_eq_false (fun hno => ?_)
        exact h j run (ended?_eq_some.1 hended).1 hno.2
    · rfl
  rw [loopErrors_act, hbreaks]
  rfl

/-! ### From step to step -/

theorem phase?_endCycle (h : d.probe.phase? k = some (.cycle [])) (now : Tick) :
    (d.act (.endCycle k now)).probe.phase? k =
      some (.pausing (now.after d.probe.config.interval)) := by
  obtain ⟨cancelled, hl⟩ := phase?_eq_some.1 h
  have hact : (d.act (.endCycle k now)).probe =
      d.probe.setPhase k (.pausing (now.after d.probe.config.interval)) := by
    change d.probe.endCycle k now = _
    simp only [endCycle, hl]
  rw [hact]
  exact phase?_setPhase_self h _

/-- When its check ends, the loop goes on with the services that are left. -/
theorem phase?_endCheck {rest : List String} (hd : d.Printable)
    (h : d.probe.phase? k = some (.checking run rest)) (now : Tick) (stamp : Reading) :
    (d.act (.endCheck k now stamp)).probe.phase? k = some (.cycle rest) := by
  obtain ⟨r, hr⟩ := result?_of_printable hd (underWay?_loop.2 ⟨rest, h⟩) stamp
  have hact : (d.act (.endCheck k now stamp)).probe = d.probe.endCheck k now stamp := rfl
  rw [hact, endCheck_eq h, hr]
  exact phase?_setPhase_self (by rw [phase?_fold, h]) _

theorem eventsNow_of_same {φ : LoopPhase} (hφ : d.probe.phase? k = some φ)
    (hsame : (d.act a).probe.phase? k = some φ) : eventsNow k d a = [] := by
  have hcalled : calledNow k d a = [] := by
    unfold calledNow
    split
    · next j run hbegun =>
        rw [if_neg]
        rintro rfl
        obtain ⟨rest, hchecking⟩ := underWay?_loop.1 (underWay?_begun hbegun)
        obtain rfl := Option.some.inj (hsame.symm.trans hchecking)
        exact begun?_ne_of_underWay (underWay?_loop.2 ⟨rest, hφ⟩) hbegun
    · rfl
  have hfolded : foldedNow k d a = [] := by
    unfold foldedNow
    split
    · next j run stamp hended =>
        rw [if_neg]
        rintro rfl
        obtain ⟨rest, φ', hbefore, hafter, hturn⟩ := turn_of_ended hended
        obtain rfl := Option.some.inj (hbefore.symm.trans hφ)
        obtain rfl := Option.some.inj (hafter.symm.trans hsame)
        cases hturn
    · rfl
  have hover : overNow k d a = [] := by
    unfold overNow
    split
    · next j now =>
        rw [if_neg]
        rintro ⟨rfl, hcycle⟩
        obtain rfl := Option.some.inj (hφ.symm.trans hcycle)
        rw [phase?_endCycle hcycle now] at hsame
        cases hsame
    · rfl
  rw [eventsNow, hcalled, hfolded, hover]
  rfl

theorem eventsNow_beginCheck {name : String} {rest : List String} {t : Attempt}
    (hφ : d.probe.phase? k = some (.cycle (name :: rest)))
    (hreg : d.probe.isRegistered name = true) :
    eventsNow k d (.beginCheck k t) = [.called (t.run d.probe name) (d.registrations name)] := by
  have hbegun : d.begun? (.beginCheck k t) = some (.loop k, t.run d.probe name) :=
    begun?_eq_some.2 (.inr ⟨k, name, rest, t, rfl, hφ, hreg, rfl, rfl⟩)
  have hended : d.ended? (.beginCheck k t) = none := rfl
  simp only [eventsNow, calledNow, hbegun, foldedNow, hended, overNow, if_true, List.append_nil]
  rfl

theorem eventsNow_endCheck {rest : List String} {now : Tick} {r : CheckResult}
    (hφ : d.probe.phase? k = some (.checking run rest)) (hr : run.result? stamp = some r) :
    eventsNow k d (.endCheck k now stamp) = [.folded run.service r] := by
  have hbegun : d.begun? (.endCheck k now stamp) = none := rfl
  have hended : d.ended? (.endCheck k now stamp) = some (.loop k, run, stamp) :=
    ended?_eq_some.2 ⟨underWay?_loop.2 ⟨rest, hφ⟩, .inr ⟨k, now, rfl, rfl⟩⟩
  simp only [eventsNow, calledNow, hbegun, foldedNow, hended, overNow, if_true, hr, List.append_nil,
    Option.toList_some, List.map_cons, List.map_nil, List.nil_append]

theorem eventsNow_endCycle {now : Tick} (hφ : d.probe.phase? k = some (.cycle [])) :
    eventsNow k d (.endCycle k now) = [.over now] := by
  simp only [eventsNow, overNow, hφ, and_self, if_true]
  rfl

theorem eventsNow_exitLoop (k : Nat) (d : Course) : eventsNow k d (.exitLoop k) = [] := rfl

theorem cycleAt_turn {names : List String} {events : List CycleEvent} {φ φ' : LoopPhase}
    (hnames : ∀ name ∈ names, d.probe.isRegistered name = true) (hd : d.Printable)
    (hφ : d.probe.phase? k = some φ) (h : CycleAt d.probe.config.interval names events φ)
    (hturn : Turn d k a φ φ') (ha : a ≠ .endPause k) :
    CycleAt d.probe.config.interval names (events ++ eventsNow k d a) φ' := by
  cases hturn with
  | enter => cases h
  | refuse => cases h
  | @begin t name rest hreg =>
      rw [eventsNow_beginCheck hφ hreg]
      cases h with
      | between hcovered hevents => exact .checking hcovered (by rw [hevents])
  | @skip name rest hreg =>
      cases h with
      | between hcovered hevents =>
          have hname : name ∈ names := by
            rw [hcovered]
            exact List.mem_append_right _ List.mem_cons_self
          rw [hnames name hname] at hreg
          cases hreg
  | @conclude now stamp run rest r hr =>
      rw [eventsNow_endCheck hφ hr]
      cases h with
      | @checking checked _ registration _ hcovered hevents =>
          let last : Checked := ⟨run, registration, r, reports_of_result hr⟩
          have hcovered' : names = (checked ++ [last]).map Checked.service ++ rest := by
            rw [hcovered, List.map_append, List.append_assoc]
            rfl
          have hevents' : events ++ [.folded run.service r] =
              (checked ++ [last]).flatMap Checked.events := by
            rw [hevents, List.flatMap_append, List.append_assoc]
            rfl
          exact .between hcovered' hevents'
  | @breakOff now stamp run rest hno =>
      obtain ⟨r, hr⟩ := result?_of_printable hd (underWay?_loop.2 ⟨rest, hφ⟩) stamp
      rw [hr] at hno
      cases hno
  | endCycle =>
      rw [eventsNow_endCycle hφ]
      cases h with
      | between hcovered hevents =>
          exact .paused (hcovered.trans (List.append_nil _)) (by rw [hevents])
  | endPause => exact absurd rfl ha
  | leaveCycle =>
      rw [eventsNow_exitLoop, List.append_nil]
      cases h with
      | between hcovered hevents => exact .left hcovered hevents
  | dropCheck =>
      rw [eventsNow_exitLoop, List.append_nil]
      cases h with
      | checking hcovered hevents => exact .cut hcovered hevents
  | exit =>
      rw [eventsNow_exitLoop, List.append_nil]
      cases h with
      | paused hcovered hevents => exact .stopped hcovered hevents

/-- A cycle goes on from step to step, whatever others do meanwhile. -/
theorem cycleAt_run {names : List String} {events : List CycleEvent} {φ : LoopPhase}
    {during : List Action} (hnames : ∀ name ∈ names, d.probe.isRegistered name = true)
    (hd : d.Printable) (hφ : d.probe.phase? k = some φ)
    (h : CycleAt d.probe.config.interval names events φ)
    (hprints : Printing during) (hduring : ∀ a ∈ during, a ≠ .endPause k) :
    ∃ φ', (d.run during).probe.phase? k = some φ' ∧
      CycleAt d.probe.config.interval names (events ++ cycleEvents k during d) φ' := by
  induction during generalizing d events φ with
  | nil => exact ⟨φ, hφ, by rwa [cycleEvents, List.append_nil]⟩
  | cons a during ih =>
      rw [List.forall_mem_cons] at hduring
      have hnames' := fun name hname => isRegistered_act (hnames name hname) a
      rw [printing_cons] at hprints
      have hd' := printable_act hd hprints.1
      rw [run_cons, cycleEvents, ← List.append_assoc]
      have hconfig := config_act d a
      rw [← hconfig] at h ⊢
      rcases moves d a k with hsame | ⟨hnone, -⟩ | ⟨φ₀, φ', hφ₀, hφ', hturn⟩
      · have hstill := hsame.trans hφ
        rw [eventsNow_of_same hφ hstill, List.append_nil]
        exact ih hnames' hd' hstill h hprints.2 hduring.2
      · rw [hφ] at hnone
        cases hnone
      · obtain rfl := Option.some.inj (hφ₀.symm.trans hφ)
        have hnext := cycleAt_turn hnames hd hφ (hconfig ▸ h) hturn hduring.1
        exact ih hnames' hd' hφ' (hconfig.symm ▸ hnext) hprints.2 hduring.2

/-! ### Events -/

theorem mem_calledNow {e : CycleEvent} :
    e ∈ calledNow k d a ↔
      ∃ run, d.begun? a = some (.loop k, run) ∧ e = .called run (d.registrations run.service) := by
  unfold calledNow
  split
  · next j run hbegun =>
      by_cases hjk : j = k <;> simp [hbegun, hjk]
  · next hother =>
      simp only [List.not_mem_nil, false_iff, not_exists, not_and]
      exact fun run hbegun => absurd hbegun (hother k run)

theorem mem_foldedNow {e : CycleEvent} :
    e ∈ foldedNow k d a ↔
      ∃ run stamp r, d.ended? a = some (.loop k, run, stamp) ∧ run.result? stamp = some r ∧
        e = .folded run.service r := by
  unfold foldedNow
  split
  · next j run stamp hended =>
      by_cases hjk : j = k
      · simp [hended, hjk, eq_comm]
      · simp [hended, hjk]
  · next hother =>
      simp only [List.not_mem_nil, false_iff, not_exists, not_and]
      exact fun run stamp r hended => absurd hended (hother k run stamp)

theorem eq_over_of_mem {e : CycleEvent} (h : e ∈ overNow k d a) : ∃ now, e = .over now := by
  unfold overNow at h
  split at h
  · split at h
    · exact ⟨_, List.mem_singleton.1 h⟩
    · cases h
  · cases h

theorem mem_eventsNow {e : CycleEvent} :
    e ∈ eventsNow k d a ↔ e ∈ calledNow k d a ∨ e ∈ foldedNow k d a ∨ e ∈ overNow k d a := by
  rw [eventsNow, List.mem_append, List.mem_append, or_assoc]

theorem begun?_of_called {registration : Nat} (h : .called run registration ∈ eventsNow k d a) :
    d.begun? a = some (.loop k, run) ∧ registration = d.registrations run.service := by
  rcases mem_eventsNow.1 h with hcalled | hfolded | hover
  · obtain ⟨run, hbegun, heq⟩ := mem_calledNow.1 hcalled
    obtain ⟨rfl, rfl⟩ := CycleEvent.called.inj heq
    exact ⟨hbegun, rfl⟩
  · obtain ⟨run, stamp, r, -, -, heq⟩ := mem_foldedNow.1 hfolded
    cases heq
  · obtain ⟨now, heq⟩ := eq_over_of_mem hover
    cases heq

theorem ended?_of_folded {service : String} {r : CheckResult}
    (h : .folded service r ∈ eventsNow k d a) :
    ∃ run stamp, d.ended? a = some (.loop k, run, stamp) ∧ run.result? stamp = some r ∧
      service = run.service := by
  rcases mem_eventsNow.1 h with hcalled | hfolded | hover
  · obtain ⟨run, -, heq⟩ := mem_calledNow.1 hcalled
    cases heq
  · obtain ⟨run, stamp, r, hended, hr, heq⟩ := mem_foldedNow.1 hfolded
    obtain ⟨rfl, rfl⟩ := CycleEvent.folded.inj heq
    exact ⟨run, stamp, hended, hr, rfl⟩
  · obtain ⟨now, heq⟩ := eq_over_of_mem hover
    cases heq

/-- What the events of a step are. -/
structure Told (k : Nat) (d : Course) (a : Action) : Prop where
  /-- The check whose turn it is, of the registration that counts now. -/
  called : ∀ run registration, .called run registration ∈ eventsNow k d a →
    ∃ t rest, a = .beginCheck k t ∧ d.probe.phase? k = some (.cycle (run.service :: rest)) ∧
      run = t.run d.probe run.service ∧ registration = d.registrations run.service
  /-- The result becomes part of the health of its service and of no other, and whoever is told of
  it may panic. -/
  folded : ∀ service r, .folded service r ∈ eventsNow k d a →
    (∃ health, d.probe.health? service = some health ∧
      (d.act a).probe.health? service = some (health.apply d.probe.thresholds r)) ∧
    (∀ other, other ≠ service → (d.act a).probe.health? other = d.probe.health? other) ∧
    ∀ state, d.transition? a = some (service, state) → ∀ panics,
      fire panics service state (d.probe.subscriptions.filter (fun s => s.event.covers state))
        d.probe.delivered = ((d.act a).probe.delivered, .done ())
  /-- The loop folds nothing else. -/
  nothing : a.runner? = some (.loop k) → (∀ service r, .folded service r ∉ eventsNow k d a) →
    ∀ name, (d.act a).probe.health? name = d.probe.health? name

theorem told (hsound : d.Sound) (hd : d.Printable) (k : Nat) (a : Action) : Told k d a := by
  refine ⟨?_, ?_, ?_⟩
  · intro run registration hcalled
    obtain ⟨hbegun, hregistration⟩ := begun?_of_called hcalled
    rcases begun?_eq_some.1 hbegun with ⟨-, -, -, -, hcaller, -⟩ |
      ⟨j, name, rest, t, rfl, hphase, -, hloop, rfl⟩
    · cases hcaller
    · obtain rfl := Runner.loop.inj hloop
      exact ⟨t, rest, rfl, hphase, rfl, hregistration⟩
  · intro service r hfolded
    obtain ⟨run, stamp, hended, hr, rfl⟩ := ended?_of_folded hfolded
    obtain ⟨hhealth, hothers⟩ := health?_of_ended hsound hended hr
    exact ⟨hhealth, hothers, fun state htransition panics => fire_of_transition htransition panics⟩
  · intro hrunner hnone name
    cases effect d a with
    | registers ha =>
        rw [ha] at hrunner
        cases hrunner
    | subscribes ha =>
        rw [ha] at hrunner
        cases hrunner
    | nothing hr hs he hq => exact hq.health? name
    | @ends w run stamp he hq =>
        obtain ⟨hrun, ⟨i, -, rfl⟩ | ⟨j, now, rfl, rfl⟩⟩ := ended?_eq_some.1 he
        · cases hrunner
        · obtain rfl := Runner.loop.inj (Option.some.inj hrunner)
          obtain ⟨r, hr⟩ := result?_of_printable hd hrun stamp
          refine absurd (mem_eventsNow.2 (.inr (.inl ?_))) (hnone run.service r)
          exact mem_foldedNow.2 ⟨run, stamp, r, he, hr, rfl⟩

/-! ### The rest of a cycle -/

/-- A check from its call to its end. -/
structure Visit where
  call : Attempt
  now : Tick
  stamp : Reading

def Visit.actions (k : Nat) (v : Visit) : List Action :=
  [.beginCheck k v.call, .endCheck k v.now v.stamp]

theorem printing_visit {v : Visit} (h : v.call.call.outcome ≠ .unprintable) (k : Nat) :
    Printing (v.actions k) := by
  intro j t hmem
  rcases List.mem_cons.1 hmem with heq | hmem
  · cases heq
    exact h
  · cases List.mem_singleton.1 hmem

theorem phase?_visit {name : String} {rest : List String} {v : Visit} (hd : d.Printable)
    (hv : v.call.call.outcome ≠ .unprintable) (hreg : d.probe.isRegistered name = true)
    (hφ : d.probe.phase? k = some (.cycle (name :: rest))) :
    (d.run (v.actions k)).probe.phase? k = some (.cycle rest) := by
  have hcalled : Printing [.beginCheck k v.call] := fun j t hmem => by
    cases List.mem_singleton.1 hmem
    exact hv
  exact phase?_endCheck (printable_run hd hcalled) (phase?_beginCheck v.call hφ hreg) v.now v.stamp

/-- The services that are left are checked one by one. -/
theorem phase?_visits {rest : List String} {visits : List Visit} (hd : d.Printable)
    (hnames : ∀ name ∈ rest, d.probe.isRegistered name = true)
    (hφ : d.probe.phase? k = some (.cycle rest)) (hlength : visits.length = rest.length)
    (hvisits : ∀ v ∈ visits, v.call.call.outcome ≠ .unprintable) :
    (d.run (visits.flatMap (Visit.actions k))).probe.phase? k = some (.cycle []) := by
  induction rest generalizing d visits with
  | nil =>
      obtain rfl := List.length_eq_zero_iff.1 hlength
      exact hφ
  | cons name rest ih =>
      cases visits with
      | nil => cases hlength
      | cons v visits =>
          rw [List.forall_mem_cons] at hnames hvisits
          rw [List.flatMap_cons, run_append]
          have hnames' := fun name hname => isRegistered_run (hnames.2 name hname) (v.actions k)
          exact ih (printable_run hd (printing_visit hvisits.1 k)) hnames'
            (phase?_visit hd hvisits.1 hnames.1 hφ) (Nat.succ.inj hlength) hvisits.2

/-! ### Whole cycles -/

/-- The course once loop `k` has begun a cycle at `d` and these actions were taken. -/
def inCycle (k : Nat) (d : Course) (during : List Action) : Course :=
  (d.act (.enterCycle k)).run during

/-- A cycle of loop `k` that begins at `d`, while these actions are taken. -/
structure Cycled (k : Nat) (d : Course) (during : List Action) : Prop where
  order : d.probe.services.keys.Pairwise (fun a b => NameMap.bytes a < NameMap.bytes b)
  covers : ∀ name, name ∈ d.probe.services.keys ↔ d.probe.isRegistered name = true
  course : ∃ φ, (inCycle k d during).probe.phase? k = some φ ∧
    CycleAt d.probe.config.interval d.probe.services.keys
      (cycleEvents k during (inCycle k d [])) φ
  told : ∀ first a rest, during = first ++ a :: rest → Told k (inCycle k d first) a
  loopErrors : (inCycle k d during).probe.loopErrors = d.probe.loopErrors
  /-- Only a loop that was told to stop leaves its cycle. -/
  stays : (inCycle k d during).probe.phase? k = some .finished →
    (inCycle k d during).probe.cancelled? k = some true
  /-- A check that was called is over at its deadline, and then it is the turn of the next one. -/
  returns : ∀ run rest, (inCycle k d during).probe.phase? k = some (.checking run rest) →
    run.ends ≤ run.deadline ∧ ∀ now stamp,
      ((inCycle k d during).act (.endCheck k now stamp)).probe.phase? k = some (.cycle rest)
  /-- Whatever the checks that are left do, the cycle comes to its end and the loop pauses. -/
  completes : ∀ rest, (inCycle k d during).probe.phase? k = some (.cycle rest) →
    ∀ (visits : List Visit) (now : Tick), visits.length = rest.length →
    (∀ v ∈ visits, v.call.call.outcome ≠ .unprintable) →
    ((inCycle k d during).run
        (visits.flatMap (Visit.actions k) ++ [.endCycle k now])).probe.phase? k =
      some (.pausing (now.after d.probe.config.interval))

theorem loopErrors_of_printing {actions : List Action} (h : d.Printable) (ha : Printing actions) :
    (d.run actions).probe.loopErrors = d.probe.loopErrors := by
  induction actions generalizing d with
  | nil => rfl
  | cons a actions ih =>
      rw [printing_cons] at ha
      rw [run_cons, ih (printable_act h ha.1) ha.2, loopErrors_of_printable h]

theorem cycled {during : List Action} (hsound : d.Sound) (hsorted : d.probe.services.Sorted)
    (hends : EndsWhenTold d.probe) (hd : d.Printable)
    (hloop : d.probe.loop? k = some ⟨false, .top⟩) (hduring : ∀ a ∈ during, a ≠ .endPause k)
    (hprints : Printing during) : Cycled k d during := by
  have hentered : (inCycle k d []).Printable := printable_act hd (fun j t heq => by cases heq)
  have hnow : (inCycle k d during).Printable := printable_run hentered hprints
  have hconfig : (inCycle k d []).probe.config = d.probe.config := config_act d (.enterCycle k)
  have hnames : ∀ name ∈ d.probe.services.keys,
      (inCycle k d []).probe.isRegistered name = true := fun name hname =>
    isRegistered_act ((mem_keys_iff hsorted name).1 hname) _
  have hnone : d.probe.services.keys =
      ([] : List Checked).map Checked.service ++ d.probe.services.keys := rfl
  have hcourse := cycleAt_run hnames hentered (phase?_enterCycle hloop) (.between hnone rfl) hprints
    hduring
  rw [hconfig, List.flatMap_nil, List.nil_append] at hcourse
  refine ⟨?_, mem_keys_iff hsorted, hcourse, ?_, ?_, ?_, ?_, ?_⟩
  · exact hsorted.imp (fun hlt => (NameMap.lt_iff_bytes_lt _ _).1 hlt)
  · rintro first a rest rfl
    rw [printing_append] at hprints
    exact told (sound_run (sound_act hsound _) first) (printable_run hentered hprints.1) k a
  · exact (loopErrors_of_printing hentered hprints).trans (loopErrors_of_printable hd _)
  · exact endsWhenTold_run (endsWhenTold_act hends _) during k
  · intro run rest hchecking
    exact ⟨ends_le_deadline run, phase?_endCheck hnow hchecking⟩
  · intro rest hrest visits now hlength hvisits
    obtain ⟨φ, hφ, hat⟩ := hcourse
    obtain rfl := Option.some.inj (hφ.symm.trans hrest)
    have hleft : ∀ name ∈ rest, (inCycle k d during).probe.isRegistered name = true := by
      cases hat with
      | between hcovered hevents =>
          intro name hname
          have hmem : name ∈ d.probe.services.keys := by
            rw [hcovered]
            exact List.mem_append_right _ hname
          exact isRegistered_run (hnames name hmem) during
    have hlast := phase?_endCycle (phase?_visits hnow hleft hrest hlength hvisits) now
    rw [config_run, inCycle, config_run, config_act] at hlast
    rw [run_append]
    exact hlast

theorem printable_begin {config : Config} {p : Probe} (h : create config = .ok p) :
    (begin p).Printable := by
  rw [create_eq_ok h]
  intro k run hrun
  simp [underWay?, begin, phase?, loop?] at hrun

/-- A cycle that begins at any point of any course, whatever happens meanwhile. -/
theorem cycle_covers_services {config : Config} {p : Probe} (hp : create config = .ok p) {k : Nat}
    {before during : List Action}
    (hloop : ((begin p).run before).probe.loop? k = some ⟨false, .top⟩)
    (hduring : ∀ a ∈ during, a ≠ .endPause k) (hprints : Printing (before ++ during)) :
    Cycled k ((begin p).run before) during := by
  rw [printing_append] at hprints
  exact cycled (sound_run (sound_begin hp) before) (sorted_run (sorted_begin hp) before)
    (endsWhenTold_run (endsWhenTold_create hp) before) (printable_run (printable_begin hp) hprints.1) hloop hduring
    hprints.2

/-- The first check panics, and a third service is registered meanwhile. The second check does not
finish. -/
def troubledCycle : List Action :=
  let stamp : Reading := ⟨0, Timestamp.ofEpochNanos 0⟩
  [.beginCheck 0 ⟨0, 0, ⟨7, Duration.zero, .panicked (some "boom")⟩, none⟩,
    .register "relay" (.scripted ⟨[]⟩),
    .endCheck 0 7 stamp,
    .beginCheck 0 ⟨0, 7, ⟨500000, Duration.zero, .done ⟨true, "ok"⟩⟩, none⟩,
    .endCheck 0 10007 stamp,
    .endCycle 0 10007]

theorem printing_troubledCycle : Printing (alarmed ++ .start :: troubledCycle) := by
  intro k t hmem
  simp only [alarmed, troubledCycle, List.cons_append, List.nil_append, List.mem_cons, reduceCtorEq,
    Action.beginCheck.injEq, List.not_mem_nil, or_self, or_false, false_or] at hmem
  rcases hmem with ⟨-, rfl⟩ | ⟨-, rfl⟩ <;> nofun

theorem cycle_covers_services_troubledCycle :
    ∃ p, create hasty = .ok p ∧
      let d := (begin p).run (alarmed ++ [.start])
      d.probe.loop? 0 = some ⟨false, .top⟩ ∧ Cycled 0 d troubledCycle ∧
        (inCycle 0 d troubledCycle).probe.phase? 0 = some (.pausing 40007) ∧
        ((inCycle 0 d troubledCycle).results "mesh").map (·.result.reason) =
          ["check_exception: panicked: boom"] ∧
        ((inCycle 0 d troubledCycle).results "overlay").map (·.result.reason) = ["timeout"] ∧
        (inCycle 0 d troubledCycle).results "relay" = [] := by
  have hp : create hasty = .ok _ := rfl
  refine ⟨_, hp, by decide, ?_, by decide, by decide, by decide, by decide⟩
  exact cycle_covers_services hp (by decide) (by simp [troubledCycle]) printing_troubledCycle

/-- A loop that is told to stop drops the check that it has under way. -/
example :
    ∃ p, create hasty = .ok p ∧
      let d := (begin p).run (alarmed ++ [.start])
      let during := troubledCycle.take 4 ++ [.requestStop, .exitLoop 0]
      (inCycle 0 d during).probe.phase? 0 = some .finished ∧
        ((inCycle 0 d during).results "mesh").length = 1 ∧
        (inCycle 0 d during).results "overlay" = [] := by
  exact ⟨_, rfl, by decide, by decide, by decide⟩

end Course

end LinkReliability.Probe
