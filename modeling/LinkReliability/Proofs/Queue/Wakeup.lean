import LinkReliability.Proofs.Queue.Turn

/-!
# No lost signal

A producer adds its packet and signals in two steps, and a worker looks for a packet and then for a
signal in two steps, with anything in between. Signals that find no sleeper leave one permit, however
many they are. Still no worker sleeps while a packet waits, unless the signal for it is on its way.
-/

namespace LinkReliability.Queue

/-- A queue with the number of producers whose packet was taken and who have not signalled yet. -/
structure Announced where
  queue : Queue
  announcing : Nat

namespace Announced

/-- Only a producer whose packet was taken signals, and each of them signals once. -/
def act (s : Announced) : Action → Announced
  | .push p => ⟨(s.queue.push p).2, s.announcing + if (s.queue.push p).1 then 1 else 0⟩
  | .signal => if s.announcing = 0 then s else ⟨s.queue.signal, s.announcing - 1⟩
  | a => ⟨s.queue.act a, s.announcing⟩

def run (actions : List Action) (s : Announced) : Announced := actions.foldl act s

end Announced

/-- The worker saw an empty queue, and no signal has reached it since. -/
def Phase.sawNothing : Phase → Bool
  | dry => true
  | asleep false => true
  | _ => false

variable {q r : Queue} {k : Nat} {phase : Phase}

theorem not_finished_of_sawNothing (h : phase.sawNothing = true) : phase.isFinished = false := by
  cases phase <;> first | rfl | cases h

theorem not_asleep_of_sleeper?_none (h : q.sleeper? = none) :
    q.phases[k]? ≠ some (.asleep false) := by
  intro hk
  have hmem : .asleep false ∈ q.phases := List.mem_of_getElem? hk
  obtain ⟨w, hw, hphase⟩ := List.mem_map.1 hmem
  have hnone := List.findIdx?_eq_none_iff.1 h w hw
  simp [hphase] at hnone

/-- A signal reaches a sleeper, and leaves no new one. -/
theorem sawNothing_signal (hk : q.signal.phases[k]? = some phase) (hp : phase.sawNothing = true) :
    q.phases[k]? = some phase := by
  unfold signal at hk
  split at hk
  · next j hs =>
      rw [phases_setPhase] at hk
      by_cases hjk : j = k
      · subst hjk
        have hlt := (List.getElem?_eq_some_iff.1 (sleeper?_phase hs)).1
        rw [List.getElem?_set_self hlt] at hk
        obtain rfl := Option.some.inj hk
        cases hp
      · rwa [List.getElem?_set_ne hjk] at hk
  · exact hk

/-! ## The invariant -/

/-- What a worker has not seen is announced: by a permit, if the worker has still to look for one,
or by a producer that has still to signal. -/
structure Heard (s : Announced) : Prop where
  tended : s.queue.Tended
  heard : ∀ (k : Nat) (phase : Phase), s.queue.phases[k]? = some phase →
    phase.sawNothing = true →
      s.queue.items = [] ∨ 0 < s.announcing ∨ (phase = .dry ∧ s.queue.permit = true)

namespace Heard

variable {n : Nat}

theorem of_create {name : String} {config : Config} (hq : create name config = .ok q) :
    Heard ⟨q, 0⟩ := by
  refine ⟨.of_create hq, fun k phase hk => ?_⟩
  obtain ⟨-, rfl⟩ := create_eq_ok hq
  simp [phases] at hk

/-- A step that leaves the packets and the permit alone, and nobody who has newly seen an empty
queue. -/
theorem of_frame (h : Heard ⟨q, n⟩) (ht : Tended r) (hitems : r.items = q.items)
    (hpermit : r.permit = q.permit)
    (hphases : ∀ (k : Nat) (phase : Phase), r.phases[k]? = some phase →
      phase.sawNothing = true → q.phases[k]? = some phase) : Heard ⟨r, n⟩ := by
  refine ⟨ht, fun k phase hk hp => ?_⟩
  change r.items = [] ∨ 0 < n ∨ (phase = .dry ∧ r.permit = true)
  rw [hitems, hpermit]
  exact h.heard k phase (hphases k phase hk hp) hp

/-- As long as one worker has not ended and has seen no empty queue, there is nothing to announce. -/
theorem of_moved (ht : Tended q) (hk : q.phases[k]? = some phase) (hl : phase.isFinished = false)
    {next : Phase} (hnext : next.sawNothing = false) (htended : Tended r)
    (hphases : ∀ (j : Nat) (other : Phase), r.phases[j]? = some other → other.sawNothing = true →
      (q.phases.set k next)[j]? = some other) : Heard ⟨r, n⟩ := by
  refine ⟨htended, fun j other hj ho => ?_⟩
  have hset := hphases j other hj ho
  by_cases hjk : k = j
  · subst hjk
    have hlt := (List.getElem?_eq_some_iff.1 hk).1
    rw [List.getElem?_set_self hlt] at hset
    obtain rfl := Option.some.inj hset
    rw [hnext] at ho
    cases ho
  · rw [List.getElem?_set_ne hjk] at hset
    have hj := (ht.live k phase hk hl).symm.trans
      (ht.live j other hset (not_finished_of_sawNothing ho))
    exact absurd (Option.some.inj hj) hjk

theorem push (h : Heard ⟨q, n⟩) (p : Packet) : Heard (Announced.act ⟨q, n⟩ (.push p)) := by
  have ht : Tended (q.push p).2 := h.tended.act (.push p)
  simp only [Announced.act]
  by_cases hroom : q.items.length < q.config.capacity.val
  · have hpush : q.push p = (true, { q with items := q.items ++ [p] }) := if_pos hroom
    rw [hpush] at ht ⊢
    exact ⟨ht, fun k phase _ _ => .inr (.inl (Nat.succ_pos n))⟩
  · have hpush : q.push p = (false, { q with dropped := q.dropped + 1 }) := if_neg hroom
    rw [hpush] at ht ⊢
    exact h.of_frame ht rfl rfl (fun k phase hk _ => hk)

theorem signal (h : Heard ⟨q, n⟩) : Heard (Announced.act ⟨q, n⟩ .signal) := by
  simp only [Announced.act]
  split
  · exact h
  · have ht := h.tended.signal
    unfold Queue.signal at ht ⊢
    cases hs : q.sleeper? with
    | none =>
        rw [hs] at ht
        refine ⟨ht, fun k phase hk hp => .inr (.inr ⟨?_, rfl⟩)⟩
        have hne : q.phases[k]? ≠ some (.asleep false) := not_asleep_of_sleeper?_none hs
        have hk' : q.phases[k]? = some phase := hk
        cases phase with
        | dry => rfl
        | asleep woken =>
            cases woken with
            | false => exact absurd hk' hne
            | true => cases hp
        | _ => cases hp
    | some j =>
        rw [hs] at ht
        have hwoken : (Phase.asleep true).sawNothing = false := rfl
        refine of_moved h.tended (sleeper?_phase hs) rfl hwoken ht ?_
        intro i other hi _
        rwa [phases_setPhase] at hi

theorem clear (h : Heard ⟨q, n⟩) : Heard (Announced.act ⟨q, n⟩ .clear) :=
  ⟨h.tended.act .clear, fun _ _ _ _ => .inl rfl⟩

/-- A new worker has yet to look. -/
theorem start (h : Heard ⟨q, n⟩) : Heard ⟨q.act .start, n⟩ := by
  refine h.of_frame (h.tended.act .start) ?_ ?_ ?_
  · simp only [Queue.act, Queue.start]
    split_ifs <;> rfl
  · simp only [Queue.act, Queue.start]
    split_ifs <;> rfl
  · intro k phase hk hp
    simp only [Queue.act, Queue.start] at hk
    split_ifs at hk
    · exact hk
    · exact hk
    · have hk' : (q.phases ++ [Phase.looking])[k]? = some phase := by
        simpa [phases, Worker.spawned] using hk
      by_cases hold : k < q.phases.length
      · rwa [List.getElem?_append_left hold] at hk'
      · rw [List.getElem?_append_right (Nat.le_of_not_lt hold)] at hk'
        obtain rfl := List.mem_singleton.1 (List.mem_of_getElem? hk')
        cases hp

theorem requestStop (h : Heard ⟨q, n⟩) : Heard ⟨q.act .requestStop, n⟩ := by
  have hphases : q.requestStop.phases = q.phases := phases_cancel q
  refine h.of_frame (h.tended.act .requestStop) ?_ ?_ ?_
  · simp only [Queue.act]
    split <;> rfl
  · simp only [Queue.act]
    split <;> rfl
  · intro k phase hk _
    simp only [Queue.act] at hk
    split at hk
    · exact hk
    · exact hphases ▸ hk

theorem endStop (h : Heard ⟨q, n⟩) : Heard ⟨q.act .endStop, n⟩ := by
  have hsame : (q.act .endStop).items = q.items ∧ (q.act .endStop).permit = q.permit ∧
      (q.act .endStop).phases = q.phases := by
    simp only [Queue.act, Queue.endStop]
    split
    · split <;> exact ⟨rfl, rfl, rfl⟩
    · exact ⟨rfl, rfl, rfl⟩
  exact h.of_frame (h.tended.act .endStop) hsame.1 hsame.2.1
    (fun k phase hk _ => hsame.2.2 ▸ hk)

/-- A worker that finds an empty queue finds that there is nothing, and one that falls asleep has
found no permit. All other steps of a worker take it elsewhere. -/
theorem step (h : Heard ⟨q, n⟩) {now : Tick} {a : Action} (hstep : Step now k q a) :
    Heard ⟨q.act a, n⟩ := by
  have ht := h.tended.act a
  obtain ⟨cancelled, phase, next, r, hw, hpass, hact, hworkers, -⟩ := hstep.passage
  have hk := phases_getElem?_of_worker? hw
  have hl : phase.isFinished = false := by cases hpass <;> rfl
  have hr : r.phases = q.phases := congrArg (List.map Worker.phase) hworkers
  have hset : ∀ (j : Nat) (other : Phase), (q.act a).phases[j]? = some other →
      other.sawNothing = true → (q.phases.set k next)[j]? = some other := by
    intro j other hj ho
    rcases hact with hact | ⟨-, -, hact⟩
    · rwa [hact, phases_setPhase, hr] at hj
    · rw [hact] at hj
      have hbefore := sawNothing_signal hj ho
      rwa [phases_setPhase, hr] at hbefore
  cases hnext : next.sawNothing with
  | false => exact of_moved h.tended hk hl hnext ht hset
  | true =>
      cases hpass with
      | foundNothing hitems =>
          refine ⟨ht, fun _ _ _ _ => .inl ?_⟩
          simp only [Queue.act, Queue.look, hw, hitems]
          exact hitems
      | fellAsleep hp =>
          -- without a permit, what the worker has not seen is still on its way
          have hitems : (q.act (.consult k)).items = q.items := (Unmoved.consult k q).items
          refine ⟨ht, fun _ _ _ _ => ?_⟩
          rcases h.heard k .dry hk rfl with hnone | hcoming | ⟨-, hpermit⟩
          · exact .inl (hitems.trans hnone)
          · exact .inr (.inl hcoming)
          · cases hp.symm.trans hpermit
      | endedSend => cases cancelled <;> cases hnext
      | _ => cases hnext

theorem act {s : Announced} (h : Heard s) (a : Action) : Heard (s.act a) := by
  obtain ⟨q, n⟩ := s
  cases hauthor : a.author? with
  | some k =>
      have hact : Announced.act ⟨q, n⟩ a = ⟨q.act a, n⟩ := by cases a <;> first | rfl | cases hauthor
      rw [hact]
      rcases still_or_step hauthor q with hq | ⟨now, hstep⟩
      · rw [hq]
        exact h
      · exact h.step hstep
  | none =>
      cases a with
      | push p => exact h.push p
      | signal => exact h.signal
      | clear => exact h.clear
      | start => exact h.start
      | requestStop => exact h.requestStop
      | endStop => exact h.endStop
      | _ => cases hauthor

theorem run {s : Announced} (h : Heard s) (actions : List Action) : Heard (s.run actions) := by
  induction actions generalizing s with
  | nil => exact h
  | cons a actions ih => exact ih (h.act a)

end Heard

/-! ## What a producer can rely on -/

/-- No packet waits behind a worker that sleeps. -/
structure Served (s : Announced) : Prop where
  asleep : ∀ k cancelled, s.queue.worker? k = some ⟨cancelled, .asleep false⟩ →
    s.announcing = 0 → s.queue.items = []
  /-- While a packet waits whose producer has signalled, the worker has something to do, or waits
  for the end of a pause or of a send, and for nothing else. -/
  busy : s.announcing = 0 → s.queue.items ≠ [] → ∀ k, s.queue.Unfinished k → ∀ now,
    (∃ a, Step now k s.queue a) ∨
      (∃ p wake, s.queue.worker? k = some ⟨false, .pacing p wake⟩ ∧ now < wake) ∨
      (∃ cancelled p call, s.queue.worker? k = some ⟨cancelled, .sending p call⟩ ∧ now < call.ends)

theorem Heard.asleep {s : Announced} (h : Heard s) {cancelled : Bool}
    (hw : s.queue.worker? k = some ⟨cancelled, .asleep false⟩) (hn : s.announcing = 0) :
    s.queue.items = [] := by
  rcases h.heard k (.asleep false) (phases_getElem?_of_worker? hw) rfl with hitems | hcoming | ⟨hp, -⟩
  · exact hitems
  · omega
  · cases hp

/-- A worker that has not ended and does not sleep has a step to take, now or at a time to come. -/
theorem exists_step_or_waits (now : Tick) {cancelled : Bool}
    (hw : q.worker? k = some ⟨cancelled, phase⟩) (hl : phase.isFinished = false)
    (hsleep : phase ≠ .asleep false) :
    (∃ a, Step now k q a) ∨
      (∃ p wake, q.worker? k = some ⟨false, .pacing p wake⟩ ∧ now < wake) ∨
      (∃ cancelled p call, q.worker? k = some ⟨cancelled, .sending p call⟩ ∧ now < call.ends) := by
  cases phase with
  | looking => exact .inl ⟨_, .look hw⟩
  | dry => exact .inl ⟨_, .consult hw⟩
  | asleep woken =>
      cases woken with
      | false => exact absurd rfl hsleep
      | true => exact .inl ⟨_, .rouse hw (.inr rfl)⟩
  | holding p => exact .inl ⟨_, .pace hw none⟩
  | pacing p wake =>
      cases cancelled with
      | true => exact .inl ⟨_, .putBack hw⟩
      | false =>
          rcases Nat.lt_or_ge now wake with hlater | hnow
          · exact .inr (.inl ⟨p, wake, hw, hlater⟩)
          · exact .inl ⟨_, .paced hw hnow⟩
  | ready p => exact .inl ⟨_, .handOver hw ⟨now, Duration.zero, .done ()⟩⟩
  | sending p call =>
      rcases Nat.lt_or_ge now call.ends with hlater | hnow
      · exact .inr (.inr ⟨cancelled, p, call, hw, hlater⟩)
      · exact .inl ⟨_, .sendEnded hw hnow true⟩
  | finished e => cases hl

/-- Whatever the order in which producers add packets and signal, the owner clears, starts and stops
and the workers take their steps: a worker that sleeps without a signal sees all there is, unless a
producer has yet to signal. -/
theorem no_signal_lost {name : String} {config : Config} {start : Queue}
    (hstart : create name config = .ok start) (actions : List Action) :
    Served (Announced.run actions ⟨start, 0⟩) := by
  have h := (Heard.of_create hstart).run actions
  refine ⟨fun k cancelled hw hn => h.asleep hw hn, fun hn hitems k hk now => ?_⟩
  obtain ⟨⟨cancelled, phase⟩, hw, hl⟩ := hk
  rw [isFinished_eq_phase] at hl
  refine exists_step_or_waits now hw hl ?_
  rintro rfl
  exact hitems (h.asleep hw hn)

/-- The worker takes the first packet before its producer signals, so that the permit is stale; the
second packet comes between the look and the sleep, and the third one wakes the sleeper. -/
def staleRun : List Action := [
  .start, .push ⟨#[1]⟩, .look 0, .signal, .pace 0 none, .handOver 0 ⟨1, Duration.zero, .done ()⟩,
  .sendEnded 0 true, .look 0, .consult 0, .look 0, .push ⟨#[2]⟩, .consult 0, .clear, .signal,
  .rouse 0, .look 0, .consult 0, .push ⟨#[3]⟩]

theorem no_signal_lost_staleRun :
    ∃ start, create "mesh" ⟨2⟩ = .ok start ∧ Served (Announced.run staleRun ⟨start, 0⟩) ∧
      (Announced.run staleRun ⟨start, 0⟩).queue.worker? 0 = some ⟨false, .asleep false⟩ ∧
      (Announced.run staleRun ⟨start, 0⟩).queue.items = [⟨#[3]⟩] ∧
      (Announced.run staleRun ⟨start, 0⟩).announcing = 1 ∧
      (Announced.run (staleRun ++ [.signal]) ⟨start, 0⟩).queue.worker? 0 =
        some ⟨false, .asleep true⟩ :=
  have hstart : create "mesh" ⟨2⟩ =
      .ok ⟨"mesh", ⟨2⟩, [], 0, 0, 0, false, [], none, none⟩ := rfl
  ⟨_, hstart, no_signal_lost hstart staleRun, by decide, by decide, by decide, by decide⟩

end LinkReliability.Queue
