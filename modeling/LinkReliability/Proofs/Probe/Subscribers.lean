import LinkReliability.Proofs.Probe.Registration

/-!
# What subscribers hear

A result that changes the state of its service is told to the subscribers that listen for the new
state, one after another. Each call is guarded, so that a panic goes no further. What a subscriber
has heard is therefore the part of the transitions that it listens for, in the order of the results.

Folding a result and calling the subscribers is one step here, so that two transitions never change
places between the two.
-/

namespace LinkReliability.Probe

/-! ## Calls that may panic -/

/-- Whether a subscriber panics when it is called, and with which message, given all that has been
heard before. -/
abbrev Panics := List Delivery → Subscription → Option (Option String)

/-- A subscriber hears, and then it returns or panics. -/
def call (panics : Panics) (service : String) (state : HealthState) (heard : List Delivery)
    (s : Subscription) : List Delivery × Outcome Unit :=
  (heard ++ [⟨s.id, service, state⟩], (panics heard s).elim (.done ()) .panicked)

def caught : List Delivery × Outcome Unit → List Delivery × Outcome Unit
  | (heard, .panicked _) => (heard, .done ())
  | r => r

/-- Subscribers are called in turn, each under guard. A panic that came through would keep the rest
from being called. -/
def fire (panics : Panics) (service : String) (state : HealthState) :
    List Subscription → List Delivery → List Delivery × Outcome Unit
  | [], heard => (heard, .done ())
  | s :: rest, heard =>
    match caught (call panics service state heard s) with
    | (heard, .done ()) => fire panics service state rest heard
    | unwound => unwound

theorem caught_call (panics : Panics) (service : String) (state : HealthState)
    (heard : List Delivery) (s : Subscription) :
    caught (call panics service state heard s) = (heard ++ [⟨s.id, service, state⟩], .done ()) := by
  unfold call
  cases panics heard s <;> rfl

theorem fire_eq (panics : Panics) (service : String) (state : HealthState)
    (subscribers : List Subscription) (heard : List Delivery) :
    fire panics service state subscribers heard =
      (heard ++ subscribers.map (fun s => ⟨s.id, service, state⟩), .done ()) := by
  induction subscribers generalizing heard with
  | nil => rw [fire, List.map_nil, List.append_nil]
  | cons s rest ih =>
      rw [fire, caught_call]
      dsimp only
      rw [ih, List.map_cons, List.append_assoc, List.singleton_append]

/-! ## Results that change a state -/

/-- The state to which a result takes a service, if it is another. -/
def newState? (p : Probe) (name : String) (r : CheckResult) : Option HealthState :=
  (p.health? name).bind (fun h =>
    if (h.apply p.thresholds r).state = h.state then none else some (h.apply p.thresholds r).state)

theorem fold_tells (p : Probe) (name : String) (r : CheckResult) :
    (p.fold name r).delivered =
        p.delivered ++ (p.newState? name r).elim [] (deliveries p.subscriptions name) ∧
      (p.fold name r).subscriptions = p.subscriptions := by
  unfold fold newState? Probe.health?
  cases p.services.get? name with
  | none => exact ⟨(List.append_nil _).symm, rfl⟩
  | some s =>
      simp only [Option.map_some, Option.bind_some, Health.transition?]
      by_cases h : (s.health.apply p.thresholds r).state = s.health.state
      · simp only [if_pos h, Option.elim_none, List.append_nil, and_self]
      · simp only [if_neg h]
        exact ⟨rfl, rfl⟩

namespace Course

variable {d : Course} {a : Action} {w : Runner} {run : CheckRun} {stamp : Reading}

/-- The service whose state changes by a result that comes in, and its new state. -/
def transition? (d : Course) (a : Action) : Option (String × HealthState) :=
  match d.folded? a with
  | none => none
  | some (service, _) =>
    match (d.act a).probe.state? service with
    | none => none
    | some state => if d.probe.state? service = some state then none else some (service, state)

theorem registered?_of_folded {e : String × Folded} (h : d.folded? a = some e) :
    a.registered? = none := by
  obtain ⟨ended, hended, -⟩ := Option.bind_eq_some_iff.1 h
  exact registered?_of_ended hended

theorem state?_of_folded {service : String} {f : Folded} (h : d.folded? a = some (service, f)) :
    (d.act a).probe.state? service =
      (d.probe.health? service).map (fun h => (h.apply d.probe.thresholds f.result).state) := by
  rw [Probe.state?, health?_act, registered?_of_folded h,
    if_neg (Option.some_ne_none service).symm, h]
  dsimp only
  rw [if_pos rfl, Option.map_map]
  rfl

theorem transition?_of_folded {service : String} {f : Folded}
    (h : d.folded? a = some (service, f)) :
    d.transition? a = (d.probe.newState? service f.result).map (service, ·) := by
  unfold transition? newState?
  rw [h]
  dsimp only
  rw [state?_of_folded h, Probe.state?]
  cases d.probe.health? service with
  | none => rfl
  | some health =>
      simp only [Option.map_some, Option.bind_some, Option.some.injEq]
      by_cases hsame : (health.apply d.probe.thresholds f.result).state = health.state
      · rw [if_pos hsame.symm, if_pos hsame]
        rfl
      · rw [if_neg (Ne.symm hsame), if_neg hsame]
        rfl

theorem transition?_of_not_folded (h : d.folded? a = none) : d.transition? a = none := by
  rw [transition?, h]

/-- A result is told if it changes the state of its service. Nothing else is. -/
theorem tells_act (d : Course) (a : Action) :
    (d.act a).probe.delivered = d.probe.delivered ++
        (d.transition? a).elim [] (fun t => deliveries d.probe.subscriptions t.1 t.2) ∧
      (d.act a).probe.subscriptions = d.probe.subscriptions ++ a.subscribed?.toList := by
  cases effect d a with
  | registers ha =>
      subst ha
      exact ⟨(List.append_nil _).symm, (List.append_nil _).symm⟩
  | subscribes ha =>
      subst ha
      exact ⟨(List.append_nil _).symm, rfl⟩
  | nothing hr hs he hq =>
      have hfolded : d.folded? a = none := by rw [folded?, he]; rfl
      rw [hq.delivered, hq.subscriptions, transition?_of_not_folded hfolded, hs]
      exact ⟨(List.append_nil _).symm, (List.append_nil _).symm⟩
  | @ends w run stamp he hq =>
      have hfolded := folded?_of_ended he
      have hsubscribed : a.subscribed? = none := by cases a <;> first | rfl | cases he
      rw [hq.delivered, hq.subscriptions, hsubscribed, Option.toList_none, List.append_nil]
      unfold settle
      cases hr : run.result? stamp with
      | none =>
          rw [hr] at hfolded
          rw [transition?_of_not_folded hfolded]
          cases w <;> exact ⟨(List.append_nil _).symm, rfl⟩
      | some r =>
          rw [hr] at hfolded
          rw [transition?_of_folded hfolded]
          obtain ⟨htold, hsame⟩ := fold_tells d.probe run.service r
          refine ⟨htold.trans ?_, hsame⟩
          cases d.probe.newState? run.service r <;> rfl

/-- The subscribers of a transition are all called, whoever panics. -/
theorem fire_of_transition {service : String} {state : HealthState}
    (h : d.transition? a = some (service, state)) (panics : Panics) :
    fire panics service state (d.probe.subscriptions.filter (fun s => s.event.covers state))
        d.probe.delivered = ((d.act a).probe.delivered, .done ()) := by
  rw [fire_eq, (tells_act d a).1, h]
  rfl

/-! ### The calls of a run -/

/-- The calls that a transition brings about, each with the number of its subscriber. -/
def callsOf (subscribers : List Subscription) (t : String × HealthState) : List (Nat × Delivery) :=
  (subscribers.zipIdx.filter (fun e => e.1.event.covers t.2)).map (fun e => (e.2, ⟨e.1.id, t.1, t.2⟩))

/-- The transitions of all services, in the order of the results. -/
def transitions : List Action → Course → List (String × HealthState)
  | [], _ => []
  | a :: actions, d => (d.transition? a).toList ++ transitions actions (d.act a)

def calls : List Action → Course → List (Nat × Delivery)
  | [], _ => []
  | a :: actions, d =>
    (d.transition? a).elim [] (callsOf d.probe.subscriptions) ++ calls actions (d.act a)

/-- What subscriber `i` hears in these calls. -/
def heardBy (i : Nat) (calls : List (Nat × Delivery)) : List (String × HealthState) :=
  (calls.filter (fun c => c.1 = i)).map (fun c => (c.2.service, c.2.state))

theorem map_snd_callsOf (subscribers : List Subscription) (t : String × HealthState) :
    (callsOf subscribers t).map Prod.snd = deliveries subscribers t.1 t.2 := by
  have h := List.zipIdx_map_fst 0 subscribers
  unfold callsOf deliveries
  rw [List.map_map]
  conv_rhs => rw [← h]
  rw [List.filter_map, List.map_map]
  rfl

theorem filter_zipIdx {α : Type} (l : List α) (k i : Nat) :
    (l.zipIdx k).filter (fun e => e.2 = k + i) = (l[i]?.map (fun a => (a, k + i))).toList := by
  induction l generalizing k i with
  | nil => rfl
  | cons a l ih =>
      rw [List.zipIdx_cons, List.filter_cons]
      cases i with
      | zero =>
          have hnone : (l.zipIdx (k + 1)).filter (fun e => e.2 = k + 0) = [] := by
            rw [List.filter_eq_nil_iff]
            intro e he
            have hle := List.le_snd_of_mem_zipIdx he
            simp only [decide_eq_true_eq]
            omega
          rw [hnone, if_pos (by simp)]
          rfl
      | succ i =>
          have hshift : k + (i + 1) = k + 1 + i := by omega
          rw [if_neg (by simp), hshift, ih]
          rfl

theorem heardBy_callsOf {subscribers : List Subscription} {i : Nat} {s : Subscription}
    (h : subscribers[i]? = some s) (t : String × HealthState) :
    heardBy i (callsOf subscribers t) = if s.event.covers t.2 then [t] else [] := by
  have hat := filter_zipIdx subscribers 0 i
  rw [Nat.zero_add, h] at hat
  unfold heardBy callsOf
  rw [List.filter_map, List.map_map]
  simp only [Function.comp_def]
  rw [List.filter_comm, hat]
  by_cases hcovers : s.event.covers t.2 = true <;> simp [hcovers]

theorem heardBy_append (i : Nat) (first second : List (Nat × Delivery)) :
    heardBy i (first ++ second) = heardBy i first ++ heardBy i second := by
  unfold heardBy
  rw [List.filter_append, List.map_append]

theorem subscriber_act {i : Nat} {s : Subscription} (h : d.probe.subscriptions[i]? = some s)
    (a : Action) : (d.act a).probe.subscriptions[i]? = some s := by
  rw [(tells_act d a).2, List.getElem?_append_left (List.getElem?_eq_some_iff.1 h).1, h]

/-- All that subscribers hear is heard in these calls. -/
theorem delivered_run (actions : List Action) (d : Course) :
    (d.run actions).probe.delivered = d.probe.delivered ++ (calls actions d).map Prod.snd := by
  induction actions generalizing d with
  | nil => exact (List.append_nil _).symm
  | cons a actions ih =>
      rw [run_cons, ih, (tells_act d a).1, calls, List.map_append, List.append_assoc]
      cases d.transition? a with
      | none => rfl
      | some t => rw [Option.elim_some, Option.elim_some, map_snd_callsOf]

/-- A subscriber hears of the transitions that it listens for, and of no other. -/
theorem heardBy_calls {i : Nat} {s : Subscription} (actions : List Action)
    (h : d.probe.subscriptions[i]? = some s) :
    heardBy i (calls actions d) =
      (transitions actions d).filter (fun t => s.event.covers t.2) := by
  induction actions generalizing d with
  | nil => rfl
  | cons a actions ih =>
      rw [calls, transitions, heardBy_append, List.filter_append, ih (subscriber_act h a)]
      cases d.transition? a with
      | none => rfl
      | some t =>
          rw [Option.elim_some, heardBy_callsOf h, Option.toList_some]
          by_cases hcovers : s.event.covers t.2 = true <;> simp [hcovers]

/-! ### Where a service stands -/

theorem transitions_concat (actions : List Action) (a : Action) (d : Course) :
    transitions (actions ++ [a]) d =
      transitions actions d ++ ((d.run actions).transition? a).toList := by
  induction actions generalizing d with
  | nil => exact List.append_nil _
  | cons b actions ih =>
      rw [List.cons_append, transitions, ih, transitions, List.append_assoc]
      rfl

/-- The state to which a service went last. -/
def lastState? (name : String) (ts : List (String × HealthState)) : Option HealthState :=
  ((ts.filter (fun t => t.1 = name)).getLast?).map Prod.snd

theorem lastState?_concat (name : String) (state : HealthState)
    (ts : List (String × HealthState)) : lastState? name (ts ++ [(name, state)]) = some state := by
  simp [lastState?, List.filter_append]

theorem lastState?_append {name : String} {ts more : List (String × HealthState)}
    (h : ∀ t ∈ more, t.1 ≠ name) : lastState? name (ts ++ more) = lastState? name ts := by
  have hnone : more.filter (fun t => t.1 = name) = [] := by simpa using h
  rw [lastState?, List.filter_append, hnone, List.append_nil, lastState?]

theorem state?_of_transition {t : String × HealthState} (h : d.transition? a = some t) :
    (d.act a).probe.state? t.1 = some t.2 := by
  unfold transition? at h
  split at h
  · cases h
  · split at h
    · cases h
    · next state hstate =>
        obtain ⟨-, heq⟩ := Option.ite_none_left_eq_some.1 h
        rw [← Option.some.inj heq]
        exact hstate

/-- The state of a service is where it was, unless the service is registered or goes elsewhere. -/
theorem state?_act {name : String} (hr : a.registered? ≠ some name)
    (ht : ∀ state, d.transition? a ≠ some (name, state)) :
    (d.act a).probe.state? name = d.probe.state? name := by
  by_cases hfolded : ∃ f, d.folded? a = some (name, f)
  · obtain ⟨f, hf⟩ := hfolded
    have hafter := state?_of_folded hf
    rw [hafter, Probe.state?]
    cases hh : d.probe.health? name with
    | none => rfl
    | some health =>
        by_contra hne
        refine ht (health.apply d.probe.thresholds f.result).state ?_
        rw [transition?_of_folded hf, newState?, hh, Option.bind_some, if_neg]
        · rfl
        · exact fun hsame => hne (congrArg some hsame)
  · rw [Probe.state?, health?_act, if_neg hr]
    split
    · next service f hf =>
        rw [if_neg]
        · rfl
        · rintro rfl
          exact hfolded ⟨f, hf⟩
    · rfl

/-- A service that is not registered again is where its last transition took it. -/
theorem state?_of_lastState? (h : d.Accounted) (name : String) (actions : List Action)
    (hreg : (d.run actions).registrations name ≤ 1) {state : HealthState}
    (hlast : lastState? name (transitions actions d) = some state) :
    (d.run actions).probe.state? name = some state := by
  induction actions using List.reverseRecOn with
  | nil => cases hlast
  | append_singleton actions a ih =>
      rw [run_concat] at hreg ⊢
      rw [transitions_concat] at hlast
      by_cases hmoves : ∃ state, (d.run actions).transition? a = some (name, state)
      · obtain ⟨state', hstate'⟩ := hmoves
        rw [hstate', Option.toList_some, lastState?_concat] at hlast
        rw [← Option.some.inj hlast]
        exact state?_of_transition hstate'
      · rw [lastState?_append] at hlast
        swap
        · rintro ⟨n, state'⟩ hmem rfl
          exact hmoves ⟨state', Option.mem_toList.1 hmem⟩
        have hbefore := ih (Nat.le_trans (registrations_le_act _ a name) hreg) hlast
        have hknown : (d.run actions).registrations name ≠ 0 := by
          intro hzero
          have hnone := (h.run actions).health? name
          rw [if_pos hzero] at hnone
          rw [Probe.state?, hnone] at hbefore
          cases hbefore
        have hr : a.registered? ≠ some name := by
          intro hr
          rw [registrations_act, if_pos hr] at hreg
          omega
        rw [state?_act hr (fun state hstate => hmoves ⟨state, hstate⟩), hbefore]

/-! ### Subscribers of a run -/

/-- What subscriber `i` hears while the actions are taken, and what its panics do to the checks. -/
structure Informed (d : Course) (i : Nat) (event : Event) (actions : List Action) : Prop where
  /-- Everything that is heard is heard in the calls that the transitions bring about. -/
  delivered : (d.run actions).probe.delivered =
    d.probe.delivered ++ (calls actions d).map Prod.snd
  /-- The subscriber hears of the transitions of its kind, all of them and in their order. -/
  heard : heardBy i (calls actions d) =
    match event with
    | .stateChange => transitions actions d
    | .healthy => (transitions actions d).filter (fun t => t.2 = .healthy)
    | .unhealthy => (transitions actions d).filter (fun t => t.2 = .unhealthy)
  /-- A service that is not registered again is where its last transition took it. -/
  current : ∀ name state, (d.run actions).registrations name ≤ 1 →
    lastState? name (transitions actions d) = some state →
    (d.run actions).probe.state? name = some state
  /-- A check without a transition calls nobody. -/
  quiet : ∀ a, (d.run actions).transition? a = none →
    ((d.run actions).act a).probe.delivered = (d.run actions).probe.delivered
  /-- Whoever panics, all that listen for the transition are called, and the caller of the check has
  its result. -/
  guarded : ∀ a w run stamp r, (d.run actions).ended? a = some (w, run, stamp) →
    run.result? stamp = some r →
    (∀ service state, (d.run actions).transition? a = some (service, state) → ∀ panics,
      fire panics service state
          ((d.run actions).probe.subscriptions.filter (fun s => s.event.covers state))
          (d.run actions).probe.delivered =
        (((d.run actions).act a).probe.delivered, .done ())) ∧
      ∀ i, w = .caller i → ((d.run actions).act a).callers[i]? = some (.answered r)

theorem Accounted.informed (h : d.Accounted) {i : Nat} {s : Subscription}
    (hs : d.probe.subscriptions[i]? = some s) (actions : List Action) :
    Informed d i s.event actions := by
  refine ⟨delivered_run actions d, ?_, ?_, ?_, ?_⟩
  · rw [heardBy_calls actions hs]
    cases s.event with
    | stateChange => exact List.filter_true _
    | healthy => rfl
    | unhealthy => rfl
  · intro name state hreg hlast
    exact state?_of_lastState? h name actions hreg hlast
  · intro a hnone
    rw [(tells_act _ a).1, hnone]
    exact List.append_nil _
  · intro a w run stamp r hended hr
    constructor
    · exact fun service state htransition panics => fire_of_transition htransition panics
    · rintro i rfl
      rw [callers_of_ended hended, hr]
      rfl

/-- Whatever was done before a subscription, and whatever is done from then on. -/
theorem subscribers_follow_transitions {config : Config} {p : Probe} (hp : create config = .ok p)
    (before : List Action) (s : Subscription) (after : List Action) :
    Informed (((begin p).run before).act (.subscribe s))
      ((begin p).run before).probe.subscriptions.length s.event after := by
  have haccounted := ((accounted_begin hp).run before).act (.subscribe s)
  exact haccounted.informed List.getElem?_concat_length after

/-- Two services, and a subscriber that panics whenever it is called. -/
def alarmed : List Action := [
  .register "mesh" (.scripted ⟨[]⟩),
  .register "overlay" (.scripted ⟨[]⟩),
  .subscribe ⟨"alarm", .unhealthy, true⟩]

/-- One check fails and one passes, and the next two change nothing. -/
def fourChecks : List Action :=
  let stamp : Reading := ⟨0, Timestamp.ofEpochNanos 0⟩
  let attempt (outcome : Outcome Verdict) : Attempt := ⟨0, 0, ⟨0, Duration.zero, outcome⟩, none⟩
  [.ask "mesh" (attempt (.failed (.ofText "down"))), .answer 0 stamp,
    .ask "overlay" (attempt (.done ⟨true, "ok"⟩)), .answer 1 stamp,
    .ask "mesh" (attempt (.panicked none)), .answer 2 stamp,
    .ask "overlay" (attempt (.done ⟨true, "ok"⟩)), .answer 3 stamp]

theorem subscribers_follow_transitions_fourChecks :
    ∃ p, create hasty = .ok p ∧
      let d := ((begin p).run alarmed).act (.subscribe ⟨"log", .stateChange, false⟩)
      Informed d 1 .stateChange fourChecks ∧
        transitions fourChecks d = [("mesh", .unhealthy), ("overlay", .healthy)] ∧
        (d.run fourChecks).probe.delivered = [⟨"alarm", "mesh", .unhealthy⟩,
          ⟨"log", "mesh", .unhealthy⟩, ⟨"log", "overlay", .healthy⟩] := by
  have hp : create hasty = .ok _ := rfl
  exact ⟨_, hp,
    subscribers_follow_transitions hp alarmed ⟨"log", .stateChange, false⟩ fourChecks,
    by decide, by decide⟩

end Course

end LinkReliability.Probe
