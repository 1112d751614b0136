import LinkReliability.Proofs.Bridge.Traffic

/-!
# The accounts of a bridge

A bridge is settled when no caller is about to signal and no report is half done. Then breaker,
monitor and queue of every link have counted the same sends, and every packet that was let in was
sent, failed, was cleared or is still there.
-/

namespace LinkReliability

open Link (Desk Note notes isSuccess sendFailure?)

/-! ## Bridges without a past -/

/-- Nothing has gone through the bridge yet. -/
structure Bridge.Fresh (b : Bridge) : Prop where
  sent : b.monitor.sent = DirectionCounts.zero
  failed : b.monitor.failed = DirectionCounts.zero
  requeued : b.monitor.requeued = 0
  queues : ∀ l ∈ b.links, Queue.create l.name l.queue.config = .ok l.queue

theorem Link.create_eq_ok {name : String} {config : Config} {l : Link}
    (hl : create name config = .ok l) : Queue.create l.name l.queue.config = .ok l.queue := by
  have hqueue := (fresh_of_create hl).queue
  obtain ⟨-, hq⟩ := Queue.create_eq_ok hqueue
  have hconfig : l.queue.config = config.queue := congrArg Queue.config hq
  rw [hconfig, hqueue]

namespace Bridge

theorem fresh_create {config : Config} {now : Instant} {b : Bridge}
    (hb : create config now = .ok b) : b.Fresh := by
  unfold create Monitor.create at hb
  cases hm : config.monitor.validate with
  | error e => simp [hm, bind, Except.bind] at hb
  | ok u =>
      cases hp : Probe.create config.probe with
      | error e => simp [hm, hp, bind, Except.bind, pure, Except.pure] at hb
      | ok probe =>
          rw [hm, hp] at hb
          obtain rfl := Except.ok.inj hb
          exact ⟨rfl, rfl, rfl, fun l hl => by cases hl⟩

/-- A link that was never started has no worker to be told to stop. -/
theorem Fresh.abandon {b : Bridge} (h : b.Fresh) (k : Nat) : b.abandon k = b := by
  unfold Bridge.abandon
  cases hl : b.link? k with
  | none => rfl
  | some l =>
      have huntracked : l.queue.tracked = none := by
        rw [(Queue.create_eq_ok (h.queues l (List.mem_of_getElem? hl))).2]
      simp only [huntracked, Option.isSome_none, Bool.false_eq_true, ↓reduceIte]

theorem Fresh.openLink {name : String} {config : Link.Config} {b b' : Bridge} (h : b.Fresh)
    (hb : b.openLink name config = .ok b') : b'.Fresh := by
  unfold Bridge.openLink at hb
  cases hl : Link.create name config with
  | error e => simp [hl, bind, Except.bind] at hb
  | ok link =>
      rw [hl] at hb
      have hnext (probe : Probe) (opened : NameMap Nat) :
          (⟨b.monitor, probe, b.links ++ [link], opened⟩ : Bridge).Fresh := by
        refine ⟨h.sent, h.failed, h.requeued, fun l hmem => ?_⟩
        rcases List.mem_append.1 hmem with hold | hnew
        · exact h.queues l hold
        · obtain rfl := List.mem_singleton.1 hnew
          exact Link.create_eq_ok hl
      cases ho : b.opened.get? name with
      | none =>
          simp only [ho, bind, Except.bind] at hb
          obtain rfl := Except.ok.inj hb
          exact hnext _ _
      | some old =>
          simp only [ho, bind, Except.bind] at hb
          obtain rfl := Except.ok.inj hb
          rw [(hnext _ _).abandon]
          exact hnext _ _

end Bridge

theorem Traffic.sound_begin {b : Bridge} (h : b.Fresh) : Traffic.Sound b (Traffic.begin b) := by
  have hblank {k : Nat} {d : Desk} (hd : (b.links.map Desk.blank)[k]? = some d) :
      ∃ l, b.link? k = some l ∧ Desk.blank l = d := by
    rw [List.getElem?_map] at hd
    exact Option.map_eq_some_iff.1 hd
  have hnothing (direction : Direction) (success : Bool) :
      ((b.links.map Desk.blank).map (Desk.messages direction success)).sum = 0 := by
    induction b.links with
    | nil => rfl
    | cons l links ih =>
        rw [List.map_cons, List.map_cons, List.sum_cons, ih]
        exact ite_self 0
  constructor
  · intro k d hd
    obtain ⟨l, hl, rfl⟩ := hblank hd
    have hqueue := h.queues l (List.mem_of_getElem? hl)
    obtain ⟨hload, hdropped⟩ := Queue.load_of_create hqueue
    exact ⟨l, hl, .blank (.of_create hqueue) hload hdropped⟩
  · intro direction
    rw [Traffic.begin, h.sent, hnothing]
    cases direction <;> rfl
  · intro direction
    rw [Traffic.begin, h.failed, hnothing]
    cases direction <;> rfl
  · exact h.requeued
  · rfl
  · intro k d hd
    obtain ⟨l, -, rfl⟩ := hblank hd
    rfl

/-! ## What a finished report amounts to -/

/-- The call of the breaker that the outcome of a send leads to. -/
def Link.verdict (o : Outcome Unit) : Breaker.Operation :=
  if isSuccess o then .recordSuccess else .recordFailure

theorem count_message (outcomes : List (Outcome Unit)) (success : Bool) :
    (outcomes.flatMap notes).count (.message success) =
      outcomes.countP (fun o => isSuccess o == success) := by
  induction outcomes with
  | nil => rfl
  | cons o outcomes ih =>
      rw [List.flatMap_cons, List.count_append, ih]
      cases o <;> cases success <;> simp [notes, isSuccess, sendFailure?, Nat.add_comm]

theorem filterMap_verdict? (outcomes : List (Outcome Unit)) :
    (outcomes.flatMap notes).filterMap Note.verdict? = outcomes.map Link.verdict := by
  induction outcomes with
  | nil => rfl
  | cons o outcomes ih =>
      rw [List.flatMap_cons, List.filterMap_append, ih]
      cases o <;> rfl

theorem filterMap_failure? (outcomes : List (Outcome Unit)) :
    (outcomes.flatMap notes).filterMap Note.failure? = outcomes.filterMap sendFailure? := by
  induction outcomes with
  | nil => rfl
  | cons o outcomes ih =>
      rw [List.flatMap_cons, List.filterMap_append, ih]
      cases o <;> rfl

/-! ## The accounts -/

/-- The accounts of one link since it was `l`. -/
structure Link.Accounts (l : Link) (d : Desk) : Prop where
  accepted : Desk.accepted d.answers =
    d.link.queue.sent + d.link.queue.sendErrors + d.cleared + d.link.queue.items.length +
      d.link.queue.heldPackets.length + d.link.queue.inFlight
  refused : Desk.refused d.answers = d.link.queue.dropped
  sent : d.link.queue.sent = d.counted.countP isSuccess
  sendErrors : d.link.queue.sendErrors = d.counted.countP (fun o => !isSuccess o)
  breaker : d.link.breaker = l.breaker.run d.calls
  /-- One verdict for each send that has ended. -/
  verdicts : (Breaker.writes d.calls).map Breaker.Event.operation = d.counted.map Link.verdict

namespace Traffic

structure Settled (t : Traffic) : Prop where
  announced : ∀ d ∈ t.desks, d.announcing = 0
  reported : ∀ d ∈ t.desks, d.report = none

/-- The accounts of a bridge since it was `b`. -/
structure Accounted (b : Bridge) (t : Traffic) : Prop where
  links : ∀ k d, t.desks[k]? = some d → ∃ l, b.link? k = some l ∧ Link.Accounts l d
  /-- A submission that the breaker of a link refuses, in whatever state, leaves the queue alone. -/
  untouched : ∀ (l : Link) now p name, (l.submit now p).1 = .error (.circuitOpen name) →
    (l.submit now p).2.queue = l.queue
  sent : ∀ direction, t.monitor.sent.get direction =
    ((t.links.filter (fun l => l.outbound = direction)).map (fun l => l.queue.sent)).sum
  failed : ∀ direction, t.monitor.failed.get direction =
    ((t.links.filter (fun l => l.outbound = direction)).map (fun l => l.queue.sendErrors)).sum
  requeued : t.monitor.requeued = 0
  /-- The errors that were reported are the events that were added. -/
  errorEvents : t.monitor.errorEvents =
    b.monitor.errorEvents.pushAll (t.errors.map (fun e => e.2.entry))
  /-- One error for each failed send of a link whose failure can be formatted. -/
  errors : ∀ k d, t.desks[k]? = some d →
    (t.errors.filter (fun e => e.1 = k)).map (fun e => (e.2.service, e.2.fault)) =
      (d.counted.filterMap sendFailure?).map (fun f => (d.link.name, .failure f))

theorem submit_circuitOpen (l : Link) (now : Instant) (p : Packet) (name : String)
    (h : (l.submit now p).1 = .error (.circuitOpen name)) : (l.submit now p).2.queue = l.queue := by
  rcases hallow : l.breaker.allowRequest now with ⟨allowed, breaker⟩
  cases allowed with
  | false => simp [Link.submit, hallow]
  | true =>
      rcases hadd : l.queue.enqueue p with ⟨added, q⟩
      cases added <;> simp [Link.submit, hallow, hadd] at h

theorem accounts_of_settled {l : Link} {d : Desk} (h : Desk.Sound l d) (ha : d.announcing = 0)
    (hr : d.report = none) : Link.Accounts l d where
  accepted := by
    have hload := h.load
    rw [ha, Queue.load] at hload
    omega
  refused := h.dropped
  sent := h.sent
  sendErrors := h.sendErrors
  breaker := h.breaker
  verdicts := by rw [h.verdicts, h.noted_of_none hr, filterMap_verdict?]

theorem sum_messages {desks : List Desk} (success : Bool) (count : Link → Nat)
    (h : ∀ d ∈ desks, d.noted.count (.message success) = count d.link) (direction : Direction) :
    (desks.map (Desk.messages direction success)).sum =
      (((desks.map Desk.link).filter (fun l => l.outbound = direction)).map count).sum := by
  induction desks with
  | nil => rfl
  | cons d desks ih =>
      rw [List.forall_mem_cons] at h
      rw [List.map_cons, List.sum_cons, ih h.2, List.map_cons, List.filter_cons, Desk.messages, h.1]
      by_cases hout : d.link.outbound = direction
      · simp [hout]
      · simp [hout]

/-- Every bridge, every order of the steps and every outcome of the sends. -/
theorem accounted_of_settled {b : Bridge} (hb : b.Fresh) (actions : List (Nat × Link.Action))
    (hsettled : ((Traffic.begin b).run actions).Settled) :
    Accounted b ((Traffic.begin b).run actions) := by
  have h : Sound b ((Traffic.begin b).run actions) := (sound_begin hb).run actions
  generalize (Traffic.begin b).run actions = t at h hsettled
  have hdesk {d : Desk} (hd : d ∈ t.desks) :
      ∃ l, Desk.Sound l d ∧ d.noted = d.counted.flatMap notes := by
    obtain ⟨k, hk⟩ := List.mem_iff_getElem?.1 hd
    obtain ⟨l, -, hsound⟩ := h.desks k d hk
    exact ⟨l, hsound, hsound.noted_of_none (hsettled.reported d hd)⟩
  constructor
  · intro k d hd
    obtain ⟨l, hl, hsound⟩ := h.desks k d hd
    have hmem := List.mem_of_getElem? hd
    exact ⟨l, hl, accounts_of_settled hsound (hsettled.announced d hmem) (hsettled.reported d hmem)⟩
  · exact submit_circuitOpen
  · intro direction
    rw [h.sent, links]
    refine sum_messages true (fun l => l.queue.sent) (fun d hd => ?_) direction
    obtain ⟨l, hsound, hnoted⟩ := hdesk hd
    rw [hnoted, count_message, hsound.sent]
    exact List.countP_congr (fun o _ => by cases isSuccess o <;> simp)
  · intro direction
    rw [h.failed, links]
    refine sum_messages false (fun l => l.queue.sendErrors) (fun d hd => ?_) direction
    obtain ⟨l, hsound, hnoted⟩ := hdesk hd
    rw [hnoted, count_message, hsound.sendErrors]
    exact List.countP_congr (fun o _ => by cases isSuccess o <;> simp)
  · exact h.requeued
  · exact h.errorEvents
  · intro k d hd
    obtain ⟨l, hsound, hnoted⟩ := hdesk (List.mem_of_getElem? hd)
    rw [h.errors k d hd, hnoted, filterMap_failure?]

/-- A link that nothing was done with, with room for two packets. -/
def quietLink (name : String) (outbound : Direction) : Link where
  name := name
  outbound := outbound
  breaker := ⟨name, Breaker.Config.standard, .closed, 0⟩
  strategy := ⟨name, Reconnect.Config.meshRadio, 0, none⟩
  queue := ⟨name, ⟨2⟩, [], 0, 0, 0, false, [], none, none⟩

def quietBridge : Bridge where
  monitor := ⟨Monitor.Config.standard, 0, NameMap.empty, DirectionCounts.zero,
    DirectionCounts.zero, 0, RollingWindow.empty 1000, RollingWindow.empty 1000,
    RollingWindow.empty 1000⟩
  probe := ⟨Probe.Config.standard, NameMap.empty, [], [], 0, [], none, []⟩
  links := [quietLink "mesh" .overlayToMesh, quietLink "overlay" .meshToOverlay]
  opened := NameMap.empty

/-- A submission, and all that its send goes through up to the end of the call. -/
def delivery (p : Packet) (outcome : Outcome Unit) : List Link.Action := [
  .ask 0, .offer p, .announce, .step .start, .step (.look 0), .step (.pace 0 none),
  .step (.handOver 0 ⟨0, Duration.zero, outcome⟩), .reply 0]

/-- A send fails and another one succeeds while the first is reported. The first link then refuses
one packet, has two of the others cleared, and goes on with none. -/
def crossedReports : List (Nat × Link.Action) :=
  (delivery ⟨#[1]⟩ (.panicked none)).map (fun a => (0, a)) ++
    (delivery ⟨#[2]⟩ (.done ())).map (fun a => (1, a)) ++
    [(0, .note ⟨0, ⟨0, 0⟩⟩), (1, .note ⟨0, ⟨0, 0⟩⟩), (1, .note ⟨0, ⟨0, 0⟩⟩), (1, .count),
      (0, .ask 0), (0, .offer ⟨#[3]⟩), (0, .announce), (0, .ask 0), (0, .offer ⟨#[4]⟩),
      (0, .announce), (0, .ask 0), (0, .offer ⟨#[5]⟩), (0, .note ⟨0, ⟨0, 0⟩⟩), (0, .clear),
      (0, .note ⟨0, ⟨0, 0⟩⟩), (0, .count)]

theorem accounted_of_settled_crossedReports :
    quietBridge.Fresh ∧ ((Traffic.begin quietBridge).run crossedReports).Settled ∧
      Accounted quietBridge ((Traffic.begin quietBridge).run crossedReports) ∧
      ((Traffic.begin quietBridge).run crossedReports).monitor.failed = ⟨0, 1⟩ ∧
      ((Traffic.begin quietBridge).run crossedReports).monitor.sent = ⟨1, 0⟩ ∧
      ((Traffic.begin quietBridge).run crossedReports).errors.length = 1 := by
  have hfresh : quietBridge.Fresh := by
    refine ⟨rfl, rfl, rfl, fun l hl => ?_⟩
    simp only [quietBridge, List.mem_cons, List.not_mem_nil, or_false] at hl
    rcases hl with rfl | rfl <;> rfl
  have hsettled : ((Traffic.begin quietBridge).run crossedReports).Settled :=
    ⟨by decide, by decide⟩
  exact ⟨hfresh, hsettled, accounted_of_settled hfresh crossedReports hsettled, by rfl, by rfl,
    by rfl⟩

end Traffic

end LinkReliability
