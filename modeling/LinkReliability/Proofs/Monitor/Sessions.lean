import LinkReliability.Proofs.Monitor.Run
import Mathlib.Algebra.GroupWithZero.Nat
import Mathlib.Data.List.Basic
import Mathlib.Data.List.Induction

/-!
# The sessions of a service

What the monitor keeps of a service is read off the transitions of this service alone. A session
begins when the service comes up and ends when it next goes down; the monitor counts the sessions
and keeps their total length and the wall times at which the last one began and was last over.
-/

namespace LinkReliability

namespace Monitor

def Transition.isUp (t : Transition) : Bool := t.kind = .connected

/-- Whether the transition says something about the connection of the service. A retry does not. -/
def Transition.concerns (service : String) (t : Transition) : Bool :=
  t.service = service ∧ t.kind ≠ .retry

/-- The transitions of one service, in order. -/
def concerning (service : String) (records : List Record) : List Transition :=
  (transitions records).filter (Transition.concerns service)

/-- Whether the last transition was to a connection. -/
def endsUp (ts : List Transition) : Bool := ts.getLast?.any Transition.isUp

/-- The positions at which a session begins: a connection that does not directly follow another. -/
def sessions (ts : List Transition) : List Nat :=
  (List.range ts.length).filter (fun i => ts[i]?.any Transition.isUp && !endsUp (ts.take i))

/-- The end of the session that is on after transition `i`, and `now` if it has no end yet. -/
def sessionEnd (ts : List Transition) (now : Instant) (i : Nat) : Instant :=
  ((ts.drop (i + 1)).find? (fun t => !t.isUp)).elim now (fun t => t.stamp.now)

def sessionLength (ts : List Transition) (now : Instant) (i : Nat) : Nat :=
  ts[i]?.elim 0 (fun t => ((sessionEnd ts now i).since t.stamp.now).nanos)

/-- The nanoseconds up to `now` that the service has been connected. -/
def timeUp (ts : List Transition) (now : Instant) : Nat :=
  ((sessions ts).map (sessionLength ts now)).sum

/-- The beginning of the last session. -/
def lastUp (ts : List Transition) : Option Timestamp :=
  (sessions ts).getLast?.bind (fun i => ts[i]?.map (fun t => t.stamp.wall))

/-- The last time at which the service was said to be down. -/
def lastDown (ts : List Transition) : Option Timestamp :=
  (ts.filter (fun t => !t.isUp)).getLast?.map (fun t => t.stamp.wall)

/-! ## One more transition -/

theorem endsUp_concat (ts : List Transition) (t : Transition) : endsUp (ts ++ [t]) = t.isUp := by
  rw [endsUp, List.getLast?_concat, Option.any_some]

theorem sessions_concat (ts : List Transition) (t : Transition) :
    sessions (ts ++ [t]) =
      sessions ts ++ if t.isUp = true ∧ endsUp ts = false then [ts.length] else [] := by
  have hold : ∀ i ∈ List.range ts.length,
      ((ts ++ [t])[i]?.any Transition.isUp && !endsUp ((ts ++ [t]).take i)) =
        (ts[i]?.any Transition.isUp && !endsUp (ts.take i)) := by
    intro i hi
    have hlt := List.mem_range.1 hi
    rw [List.getElem?_append_left hlt, List.take_append_of_le_length (Nat.le_of_lt hlt)]
  unfold sessions
  rw [List.length_append, List.length_singleton, List.range_succ, List.filter_append,
    List.filter_congr hold, List.filter_cons, List.filter_nil, List.getElem?_concat_length,
    List.take_left, Option.any_some]
  cases t.isUp <;> cases endsUp ts <;> rfl

theorem lt_length_of_mem_sessions {ts : List Transition} {i : Nat} (hi : i ∈ sessions ts) :
    i < ts.length :=
  List.mem_range.1 (List.mem_filter.1 hi).1

/-- The later transition ends the session if it is the first one down. -/
theorem sessionEnd_concat {ts : List Transition} {i : Nat} (hi : i < ts.length) (t : Transition)
    (now : Instant) :
    sessionEnd (ts ++ [t]) now i = sessionEnd ts (if t.isUp then now else t.stamp.now) i := by
  unfold sessionEnd
  rw [List.drop_append_of_le_length (Nat.succ_le_of_lt hi), List.find?_append]
  cases (ts.drop (i + 1)).find? (fun t => !t.isUp) with
  | some u => rfl
  | none => cases ht : t.isUp <;> simp [List.find?, ht]

theorem sessionLength_concat {ts : List Transition} {i : Nat} (hi : i < ts.length) (t : Transition)
    (now : Instant) :
    sessionLength (ts ++ [t]) now i =
      sessionLength ts (if t.isUp then now else t.stamp.now) i := by
  rw [sessionLength, sessionLength, List.getElem?_append_left hi, sessionEnd_concat hi]

theorem sessionLength_last (ts : List Transition) (t : Transition) (now : Instant) :
    sessionLength (ts ++ [t]) now ts.length = now - t.stamp.now := by
  rw [sessionLength, List.getElem?_concat_length, sessionEnd,
    List.drop_eq_nil_of_le (by simp)]
  rfl

theorem timeUp_concat (ts : List Transition) (t : Transition) (now : Instant) :
    timeUp (ts ++ [t]) now =
      timeUp ts (if t.isUp then now else t.stamp.now) +
        if t.isUp = true ∧ endsUp ts = false then now - t.stamp.now else 0 := by
  have hold : (sessions ts).map (sessionLength (ts ++ [t]) now) =
      (sessions ts).map (sessionLength ts (if t.isUp then now else t.stamp.now)) :=
    List.map_congr_left (fun i hi => sessionLength_concat (lt_length_of_mem_sessions hi) t now)
  rw [timeUp, timeUp, sessions_concat, List.map_append, hold, List.sum_append]
  by_cases hnew : t.isUp = true ∧ endsUp ts = false
  · rw [if_pos hnew, if_pos hnew, List.map_singleton, sessionLength_last, List.sum_singleton]
  · rw [if_neg hnew, if_neg hnew, List.map_nil, List.sum_nil]

/-- While the service is down, no time is added. -/
theorem timeUp_of_endsDown {ts : List Transition} (h : endsUp ts = false) (now later : Instant) :
    timeUp ts now = timeUp ts later := by
  rcases List.eq_nil_or_concat' ts with rfl | ⟨ts, t, rfl⟩
  · rfl
  · rw [endsUp_concat] at h
    simp only [timeUp_concat, h, Bool.false_eq_true, false_and, ↓reduceIte]

theorem lastUp_concat (ts : List Transition) (t : Transition) :
    lastUp (ts ++ [t]) =
      if t.isUp = true ∧ endsUp ts = false then some t.stamp.wall else lastUp ts := by
  rw [lastUp, sessions_concat]
  split
  · rw [List.getLast?_concat, Option.bind_some, List.getElem?_concat_length, Option.map_some]
  · rw [List.append_nil, lastUp]
    refine Option.bind_congr (fun i hi => ?_)
    rw [List.getElem?_append_left (lt_length_of_mem_sessions (List.mem_of_getLast? hi))]

theorem lastDown_concat (ts : List Transition) (t : Transition) :
    lastDown (ts ++ [t]) = if t.isUp then lastDown ts else some t.stamp.wall := by
  rw [lastDown, List.filter_append]
  cases ht : t.isUp with
  | true => simp [ht, lastDown]
  | false => simp [ht]

/-! ## The record of a service -/

def Service.follow (s : Service) (t : Transition) : Service :=
  match t.kind with
  | .connected => s.connect t.stamp
  | .disconnected => s.disconnect t.stamp
  | .error => s.disconnect t.stamp
  | .retry => s

/-- The record that these transitions make of a service that nothing is known of. -/
def tracked (ts : List Transition) : Service := ts.foldl Service.follow Service.fresh

theorem tracked_concat (ts : List Transition) (t : Transition) :
    tracked (ts ++ [t]) = (tracked ts).follow t := List.foldl_append

theorem follow_up {t : Transition} (ht : t.isUp = true) (s : Service) :
    s.follow t = s.connect t.stamp := by
  rw [Service.follow, of_decide_eq_true ht]

theorem follow_down {t : Transition} (ht : t.isUp = false) (hk : t.kind ≠ .retry) (s : Service) :
    s.follow t = s.disconnect t.stamp := by
  unfold Service.follow
  cases h : t.kind with
  | connected => exact absurd h (of_decide_eq_false ht)
  | disconnected => rfl
  | error => rfl
  | retry => exact absurd h hk

/-- The record says of the transitions what the monitor is asked for. -/
structure Describes (s : Service) (ts : List Transition) : Prop where
  isConnected : s.isConnected = endsUp ts
  reconnectCount : s.reconnectCount = (sessions ts).length
  uptimeAt : ∀ now, (s.uptimeAt now).nanos = timeUp ts now
  lastConnected : s.lastConnected = lastUp ts
  lastDisconnected : s.lastDisconnected = lastDown ts

namespace Describes

variable {s : Service} {ts : List Transition} {t : Transition}

/-- A service that is not connected has all its time up behind it. -/
theorem uptime_eq (h : Describes s ts) (hdown : s.connectedSince = none) (now : Instant) :
    s.uptime.nanos = timeUp ts now := by
  have hat : s.uptimeAt now = s.uptime := by rw [Service.uptimeAt, hdown]
  rw [← hat, h.uptimeAt now]

theorem connect (h : Describes s ts) (ht : t.isUp = true) :
    Describes (s.connect t.stamp) (ts ++ [t]) := by
  cases hs : s.connectedSince with
  | some since =>
      have hup : endsUp ts = true := by rw [← h.isConnected, Service.isConnected, hs]; rfl
      have hsame : s.connect t.stamp = s := by rw [Service.connect, hs]
      have hno : ¬ (t.isUp = true ∧ endsUp ts = false) := fun hn => by
        rw [hup] at hn
        cases hn.2
      rw [hsame]
      constructor
      · rw [endsUp_concat, ht, h.isConnected, hup]
      · rw [sessions_concat, if_neg hno, List.append_nil, h.reconnectCount]
      · intro now
        rw [timeUp_concat, if_neg hno, if_pos ht, h.uptimeAt, Nat.add_zero]
      · rw [lastUp_concat, if_neg hno, h.lastConnected]
      · rw [lastDown_concat, if_pos ht, h.lastDisconnected]
  | none =>
      have hnew : t.isUp = true ∧ endsUp ts = false :=
        ⟨ht, by rw [← h.isConnected, Service.isConnected, hs]; rfl⟩
      simp only [Service.connect, hs]
      constructor
      · rw [endsUp_concat, ht]
        rfl
      · rw [sessions_concat, if_pos hnew, List.length_append, h.reconnectCount]
        rfl
      · intro now
        rw [timeUp_concat, if_pos hnew, if_pos ht, ← h.uptime_eq hs now]
        rfl
      · rw [lastUp_concat, if_pos hnew]
      · rw [lastDown_concat, if_pos ht, h.lastDisconnected]

theorem disconnect (h : Describes s ts) (ht : t.isUp = false) :
    Describes (s.disconnect t.stamp) (ts ++ [t]) := by
  have hno : ¬ (t.isUp = true ∧ endsUp ts = false) := fun hn => by
    rw [ht] at hn
    cases hn.1
  have hdown : ¬ t.isUp = true := Bool.eq_false_iff.1 ht
  constructor
  · rw [endsUp_concat, ht]
    rfl
  · rw [sessions_concat, if_neg hno, List.append_nil]
    exact h.reconnectCount
  · intro now
    rw [timeUp_concat, if_neg hno, if_neg hdown, Nat.add_zero]
    exact h.uptimeAt t.stamp.now
  · rw [lastUp_concat, if_neg hno]
    exact h.lastConnected
  · rw [lastDown_concat, if_neg hdown]
    rfl

end Describes

theorem describes_tracked {ts : List Transition} (hts : ∀ t ∈ ts, t.kind ≠ .retry) :
    Describes (tracked ts) ts := by
  induction ts using List.reverseRecOn with
  | nil => exact ⟨rfl, rfl, fun _ => rfl, rfl, rfl⟩
  | append_singleton ts t ih =>
      have h := ih (fun u hu => hts u (List.mem_append_left _ hu))
      rw [tracked_concat]
      cases ht : t.isUp with
      | true =>
          rw [follow_up ht]
          exact h.connect ht
      | false =>
          rw [follow_down ht (hts t (List.mem_append_right _ List.mem_cons_self))]
          exact h.disconnect ht

/-! ## Time that never goes back -/

/-- Sessions do not overlap, so together they are no longer than the time since `started`. -/
theorem timeUp_le {started : Instant} {ts : List Transition}
    (hclock : (started :: ts.map (fun t => t.stamp.now)).Pairwise (· ≤ ·)) {now : Instant}
    (hnow : ∀ t ∈ ts, t.stamp.now ≤ now) : timeUp ts now ≤ now - started := by
  induction ts using List.reverseRecOn generalizing now with
  | nil => exact Nat.zero_le _
  | append_singleton ts t ih =>
      rw [List.map_append, ← List.cons_append, List.pairwise_append] at hclock
      obtain ⟨hbefore, -, hlast⟩ := hclock
      have hearlier : ∀ u ∈ ts, u.stamp.now ≤ t.stamp.now := fun u hu =>
        hlast _ (List.mem_cons_of_mem _ (List.mem_map_of_mem hu)) _ List.mem_cons_self
      have hstarted : started ≤ t.stamp.now := hlast _ List.mem_cons_self _ List.mem_cons_self
      have ht : t.stamp.now ≤ now := hnow t (List.mem_append_right _ List.mem_cons_self)
      have hold := ih hbefore hearlier
      have hon := ih hbefore (fun u hu => hnow u (List.mem_append_left _ hu))
      rw [timeUp_concat]
      cases hup : t.isUp with
      | false =>
          simp only [Bool.false_eq_true, false_and, ↓reduceIte]
          exact Nat.le_trans hold (Nat.sub_le_sub_right ht started)
      | true =>
          cases hends : endsUp ts with
          | true => simpa using hon
          | false =>
              have hsame : timeUp ts now = timeUp ts t.stamp.now := timeUp_of_endsDown hends _ _
              simp only [↓reduceIte, and_self, hsame]
              calc timeUp ts t.stamp.now + (now - t.stamp.now)
                  ≤ (t.stamp.now - started) + (now - t.stamp.now) := Nat.add_le_add_right hold _
                _ = now - started := by rw [Nat.add_comm, Nat.sub_add_sub_cancel ht hstarted]

theorem exists_of_mem_lastUp {ts : List Transition} {wall : Timestamp} (h : wall ∈ lastUp ts) :
    ∃ t ∈ ts, t.stamp.wall = wall := by
  obtain ⟨i, -, hi⟩ := Option.bind_eq_some_iff.1 h
  obtain ⟨t, ht, hwall⟩ := Option.map_eq_some_iff.1 hi
  exact ⟨t, List.mem_of_getElem? ht, hwall⟩

theorem exists_of_mem_lastDown {ts : List Transition} {wall : Timestamp} (h : wall ∈ lastDown ts) :
    ∃ t ∈ ts, t.stamp.wall = wall := by
  obtain ⟨t, ht, hwall⟩ := Option.map_eq_some_iff.1 h
  exact ⟨t, (List.mem_filter.1 (List.mem_of_getLast? ht)).1, hwall⟩

theorem lastUp_isSome (ts : List Transition) :
    (lastUp ts).isSome = true ↔ 0 < (sessions ts).length := by
  rw [List.length_pos_iff, lastUp]
  constructor
  · intro h hnil
    rw [hnil] at h
    cases h
  · intro h
    have hlt := lt_length_of_mem_sessions (List.getLast_mem h)
    rw [List.getLast?_eq_some_getLast h, Option.bind_some, List.getElem?_eq_getElem hlt]
    rfl

/-- Of the two wall times the one that belongs to the last transition is the later. -/
theorem lastUp_lastDown_ordered {ts : List Transition}
    (hwall : (ts.map (fun t => t.stamp.wall)).Pairwise (· ≤ ·)) {up down : Timestamp}
    (hup : up ∈ lastUp ts) (hdown : down ∈ lastDown ts) :
    (endsUp ts = true → down ≤ up) ∧ (endsUp ts = false → up ≤ down) := by
  induction ts using List.reverseRecOn with
  | nil => cases hup
  | append_singleton ts t ih =>
      rw [List.map_append, List.pairwise_append] at hwall
      obtain ⟨hbefore, -, hlast⟩ := hwall
      have hearlier : ∀ u ∈ ts, u.stamp.wall ≤ t.stamp.wall := fun u hu =>
        hlast _ (List.mem_map_of_mem hu) _ List.mem_cons_self
      rw [lastUp_concat] at hup
      rw [lastDown_concat] at hdown
      rw [endsUp_concat]
      cases ht : t.isUp with
      | true =>
          refine ⟨fun _ => ?_, fun h => Bool.noConfusion h⟩
          rw [if_pos ht] at hdown
          cases hends : endsUp ts with
          | true =>
              simp only [hends, Bool.true_eq_false, and_false, ↓reduceIte] at hup
              exact (ih hbefore hup hdown).1 hends
          | false =>
              rw [if_pos ⟨ht, hends⟩] at hup
              obtain ⟨u, hu, rfl⟩ := exists_of_mem_lastDown hdown
              obtain rfl := Option.some.inj hup
              exact hearlier u hu
      | false =>
          refine ⟨fun h => Bool.noConfusion h, fun _ => ?_⟩
          simp only [ht, Bool.false_eq_true, false_and, ↓reduceIte] at hup hdown
          obtain ⟨u, hu, rfl⟩ := exists_of_mem_lastUp hup
          obtain rfl := Option.some.inj hdown
          exact hearlier u hu

/-! ## Many services -/

theorem transitions_concat (records : List Record) (r : Record) :
    transitions (records ++ [r]) = transitions records ++ r.transition?.toList := by
  rw [transitions, List.filterMap_append, transitions]
  cases r <;> rfl

theorem concerning_concat (service : String) (records : List Record) (r : Record) :
    concerning service (records ++ [r]) =
      concerning service records ++ r.transition?.toList.filter (Transition.concerns service) := by
  rw [concerning, transitions_concat, List.filter_append, concerning]

theorem kind_ne_retry_of_mem {service : String} {records : List Record} :
    ∀ t ∈ concerning service records, t.kind ≠ .retry := by
  intro t ht
  exact (of_decide_eq_true (List.mem_filter.1 ht).2).2

theorem get?_servicesAfter (m : Monitor) (t : Transition) (name : String) :
    (m.servicesAfter t.stamp t.service t.kind).get? name =
      if t.concerns name then some ((m.serviceOrFresh name).follow t)
      else m.services.get? name := by
  obtain ⟨stamp, service, kind, detail⟩ := t
  by_cases hname : name = service
  · subst hname
    cases kind <;> simp [servicesAfter, Transition.concerns, Service.follow, NameMap.get?_insert]
  · have hother : service ≠ name := fun h => hname h.symm
    cases kind <;>
      simp [servicesAfter, Transition.concerns, NameMap.get?_insert, hname, hother]

/-- What is known of a service, whoever else reports. -/
theorem get?_services_run {config : Config} {started : Instant} {m : Monitor}
    (hm : create config started = .ok m) (records : List Record) (name : String) :
    (m.run records).services.get? name =
      if name ∈ config.services ∨ concerning name records ≠ [] then
        some (tracked (concerning name records))
      else none := by
  induction records using List.reverseRecOn with
  | nil =>
      change m.services.get? name = _
      simpa [concerning, transitions, tracked] using (create_eq_ok hm).2.2.2.1 name
  | append_singleton records r ih =>
      have hbefore : (m.run records).serviceOrFresh name = tracked (concerning name records) := by
        rw [serviceOrFresh, ih]
        split
        · rfl
        · next h => rw [not_not.1 (not_or.1 h).2]; rfl
      rw [run_concat, services_record, concerning_concat]
      cases hr : r.transition? with
      | none => simpa using ih
      | some t =>
          rw [Option.elim_some, get?_servicesAfter, hbefore, Option.toList_some]
          by_cases ht : t.concerns name = true
          · simp [ht, tracked_concat]
          · simpa [ht] using ih

theorem serviceOrFresh_run {config : Config} {started : Instant} {m : Monitor}
    (hm : create config started = .ok m) (records : List Record) (name : String) :
    (m.run records).serviceOrFresh name = tracked (concerning name records) := by
  rw [serviceOrFresh, get?_services_run hm]
  split
  · rfl
  · next h => rw [not_not.1 (not_or.1 h).2]; rfl

theorem concerning_idem (name : String) (records : List Record) :
    concerning name ((concerning name records).map Record.transition) =
      concerning name records := by
  have hall : transitions ((concerning name records).map Record.transition) =
      concerning name records := by
    rw [transitions, List.filterMap_map]
    exact List.filterMap_some
  rw [concerning, hall, concerning, List.filter_filter]
  simp only [Bool.and_self]

theorem uptime_eq_serviceOrFresh (m : Monitor) (now : Instant) (name : String) :
    m.uptime now name = (m.serviceOrFresh name).uptimeAt now := by
  unfold uptime serviceOrFresh
  cases m.services.get? name <;> rfl

theorem isConnected_eq_serviceOrFresh (m : Monitor) (name : String) :
    m.isConnected name = (m.serviceOrFresh name).isConnected := by
  unfold isConnected serviceOrFresh
  cases m.services.get? name <;> rfl

/-- Neither clock goes back, and nothing is recorded before the monitor is there. -/
structure ClocksForward (started : Instant) (records : List Record) : Prop where
  monotonic : (started :: (transitions records).map (fun t => t.stamp.now)).Pairwise (· ≤ ·)
  wall : ((transitions records).map (fun t => t.stamp.wall)).Pairwise (· ≤ ·)

theorem ClocksForward.concerning {started : Instant} {records : List Record}
    (h : ClocksForward started records) (name : String) :
    (started :: (concerning name records).map (fun t => t.stamp.now)).Pairwise (· ≤ ·) ∧
      ((concerning name records).map (fun t => t.stamp.wall)).Pairwise (· ≤ ·) := by
  have hsub : (Monitor.concerning name records).Sublist (transitions records) := List.filter_sublist
  exact ⟨h.monotonic.sublist ((hsub.map _).cons_cons _), h.wall.sublist (hsub.map _)⟩

/-- The record of service `name` says exactly what its own transitions say. -/
structure RecordedExactly (config : Config) (start m : Monitor) (records : List Record)
    (name : String) : Prop where
  known : m.services.contains name = true ↔
    name ∈ config.services ∨ ∃ t ∈ transitions records, t.service = name ∧ t.kind ≠ .retry
  connected : m.isConnected name = true ↔
    ∃ t, (concerning name records).getLast? = some t ∧ t.kind = .connected
  reconnectCount :
    (m.serviceOrFresh name).reconnectCount = (sessions (concerning name records)).length
  uptime : ∀ now, (m.uptime now name).nanos = timeUp (concerning name records) now
  uptime_le : ∀ now, (∀ t ∈ transitions records, t.stamp.now ≤ now) →
    m.uptime now name ≤ now.since m.started
  lastConnected : (m.serviceOrFresh name).lastConnected.isSome = true ↔
    0 < (m.serviceOrFresh name).reconnectCount
  ordered : ∀ up ∈ (m.serviceOrFresh name).lastConnected,
    ∀ down ∈ (m.serviceOrFresh name).lastDisconnected,
      (m.isConnected name = true → down ≤ up) ∧ (m.isConnected name = false → up ≤ down)
  /-- The records of others, and retries, might as well not be there. -/
  alone : m.services.get? name =
    (start.run ((concerning name records).map Record.transition)).services.get? name

/-- Whatever else is recorded, in any order, the record of each service is exact. -/
theorem service_recorded_exactly {config : Config} {started : Instant} {m : Monitor}
    (hm : create config started = .ok m) {records : List Record}
    (hclocks : ClocksForward started records) (name : String) :
    RecordedExactly config m (m.run records) records name := by
  have hdescribes : Describes (tracked (concerning name records)) (concerning name records) :=
    describes_tracked kind_ne_retry_of_mem
  have hservice := serviceOrFresh_run hm records name
  obtain ⟨hmonotonic, hwall⟩ := hclocks.concerning name
  constructor
  · have hcontains : (m.run records).services.contains name = true ↔
        name ∈ config.services ∨ concerning name records ≠ [] := by
      rw [NameMap.contains, get?_services_run hm]
      split <;> simp_all
    rw [hcontains, concerning, ← List.isEmpty_eq_false_iff, List.isEmpty_eq_false_iff_exists_mem]
    simp only [List.mem_filter, Transition.concerns, decide_eq_true_eq]
  · rw [isConnected_eq_serviceOrFresh, hservice, hdescribes.isConnected, endsUp,
      Option.any_eq_true]
    simp only [Transition.isUp, decide_eq_true_eq]
  · rw [hservice, hdescribes.reconnectCount]
  · intro now
    rw [uptime_eq_serviceOrFresh, hservice, hdescribes.uptimeAt]
  · intro now hnow
    have hown : ∀ t ∈ concerning name records, t.stamp.now ≤ now :=
      fun t ht => hnow t (List.mem_filter.1 ht).1
    have hle := timeUp_le hmonotonic hown
    rw [← hdescribes.uptimeAt, ← hservice, ← uptime_eq_serviceOrFresh] at hle
    rw [started_run, (create_eq_ok hm).2.2.1]
    exact hle
  · rw [hservice, hdescribes.lastConnected, hdescribes.reconnectCount]
    exact lastUp_isSome _
  · intro up hup down hdown
    rw [hservice, hdescribes.lastConnected] at hup
    rw [hservice, hdescribes.lastDisconnected] at hdown
    rw [isConnected_eq_serviceOrFresh, hservice, hdescribes.isConnected]
    exact lastUp_lastDown_ordered hwall hup hdown
  · rw [get?_services_run hm, get?_services_run hm, concerning_idem]

/-- Two sessions of `mesh`, in one of which it reports twice, among reports of other services. -/
def twoSessions : List Record :=
  [.transition ⟨⟨10, ⟨10, 0⟩⟩, "mesh", .connected, ""⟩,
   .transition ⟨⟨15, ⟨15, 0⟩⟩, "relay", .retry, "attempt 1"⟩,
   .transition ⟨⟨20, ⟨20, 0⟩⟩, "overlay", .connected, ""⟩,
   .transition ⟨⟨25, ⟨25, 0⟩⟩, "mesh", .connected, ""⟩,
   .transition ⟨⟨30, ⟨30, 0⟩⟩, "mesh", .error, "reset"⟩,
   .sent 35 .meshToOverlay,
   .transition ⟨⟨40, ⟨40, 0⟩⟩, "mesh", .connected, ""⟩]

theorem service_recorded_exactly_twoSessions :
    ∃ m, create Config.standard 5 = .ok m ∧ ClocksForward 5 twoSessions ∧
      RecordedExactly Config.standard m (m.run twoSessions) twoSessions "mesh" ∧
      sessions (concerning "mesh" twoSessions) = [0, 3] ∧
      timeUp (concerning "mesh" twoSessions) 50 = 30 :=
  have hclocks : ClocksForward 5 twoSessions := ⟨by decide, by decide⟩
  ⟨_, rfl, hclocks, service_recorded_exactly rfl hclocks "mesh", by decide, by decide⟩

end Monitor

end LinkReliability
