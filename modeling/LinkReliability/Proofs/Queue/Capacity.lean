import LinkReliability.Proofs.Queue.SoleWorker
import LinkReliability.Proofs.Queue.Stock
import Mathlib.Data.List.Induction

/-!
# One packet beyond the capacity

A packet that a stopped worker puts back finds room even in a full queue. This is the only way to
one packet more than the capacity, and however often the worker is stopped and started, and however
fast the producers fill the place of the packet that it took, there is never a second one.
-/

namespace LinkReliability.Queue

/-- The step takes waiting packets: a worker takes the first, or all of them are discarded. -/
def takesOut (q : Queue) : Action → Bool
  | .clear => true
  | .look k =>
    match q.worker? k with
    | some ⟨_, .looking⟩ => true
    | _ => false
  | _ => false

/-- The step is that of a worker whose pause a stop has cut short. -/
def cutsPause (q : Queue) : Action → Bool
  | .putBack k =>
    match q.worker? k with
    | some ⟨true, .pacing _ _⟩ => true
    | _ => false
  | _ => false

variable {q : Queue} {a : Action} {k : Nat}

theorem cutsPause_iff :
    q.cutsPause a = true ↔
      ∃ k p wake, a = .putBack k ∧ q.worker? k = some ⟨true, .pacing p wake⟩ := by
  constructor
  · intro h
    cases a with
    | putBack k =>
        simp only [cutsPause] at h
        split at h
        · next p wake hw => exact ⟨k, p, wake, rfl, hw⟩
        · cases h
    | _ => cases h
  · rintro ⟨k, p, wake, rfl, hw⟩
    simp only [cutsPause, hw]

/-! ## What a step does to the waiting packets -/

/-- Apart from producers, clears, looks and packets put back, nobody touches the waiting packets. -/
theorem items_act (hpush : ∀ p, a ≠ .push p) (hout : q.takesOut a = false)
    (hcut : q.cutsPause a = false) : (q.act a).items = q.items := by
  cases a with
  | push p => exact absurd rfl (hpush p)
  | signal => exact (Unmoved.signal q).items
  | clear => cases hout
  | start =>
      simp only [act]
      split
      · rfl
      · exact (Unmoved.start q).items
  | requestStop =>
      simp only [act]
      split
      · rfl
      · exact (Unmoved.requestStop q).items
  | endStop =>
      simp only [act]
      split
      · exact (Unmoved.endStop q).items
      · rfl
  | look k =>
      simp only [act, look]
      split
      · next cancelled hw => simp [takesOut, hw] at hout
      · rfl
  | consult k => exact (Unmoved.consult k q).items
  | rouse k => exact (Unmoved.rouse k q).items
  | heed k => exact (Unmoved.heed k q).items
  | pace k wake => exact (Unmoved.pace k wake q).items
  | pacePanicked k =>
      simp only [act, pacePanicked]
      split <;> rfl
  | paced k => exact (Unmoved.paced k q).items
  | putBack k =>
      simp only [act, putBack]
      split
      · next p wake hw => simp [cutsPause, hw] at hcut
      · rfl
  | handOver k call =>
      simp only [act, handOver]
      split <;> rfl
  | sendEnded k success =>
      simp only [act, sendEnded]
      split
      · cases success <;> rfl
      · rfl

theorem pending_takesOut (hout : q.takesOut a = true) : (q.act a).pending ≤ q.pending - 1 := by
  cases a with
  | clear => exact Nat.zero_le _
  | look k =>
      simp only [takesOut] at hout
      split at hout
      · next cancelled hw =>
          simp only [act, look, hw]
          split
          · next p rest hitems =>
              have hrest : q.items.length - 1 = rest.length := by
                rw [hitems, List.length_cons, Nat.add_sub_cancel]
              exact Nat.le_of_eq hrest.symm
          · next hitems =>
              change q.items.length ≤ q.items.length - 1
              rw [hitems]
              exact Nat.zero_le _
      · cases hout
  | _ => cases hout

theorem pending_cutsPause (hcut : q.cutsPause a = true) : (q.act a).pending = q.pending + 1 := by
  obtain ⟨k, p, wake, rfl, hw⟩ := cutsPause_iff.1 hcut
  exact congrArg List.length (putBack_eq hw).2

/-- A packet is let in where there is room, and nowhere else. -/
theorem push_fst (p : Packet) (q : Queue) :
    (q.push p).1 = true ↔ q.pending < q.config.capacity.val := by
  unfold push pending
  split <;> simp [*]

theorem pending_push (p : Packet) (q : Queue) :
    (q.act (.push p)).pending =
      if q.pending < q.config.capacity.val then q.pending + 1 else q.pending := by
  by_cases hroom : q.items.length < q.config.capacity.val
  · simp only [act, push, pending, hroom, ↓reduceIte, List.length_append, List.length_singleton]
  · simp only [act, push, pending, hroom, ↓reduceIte]

/-! ## Stops -/

theorem signalled_setPhase {next : Phase} {j : Nat} (h : (q.setPhase j next).Signalled k) :
    q.Signalled k := by
  obtain ⟨phase, hw⟩ := h
  rw [worker?_setPhase] at hw
  obtain ⟨w, hk, hw⟩ := Option.map_eq_some_iff.1 hw
  refine ⟨w.phase, hk.trans (congrArg some ?_)⟩
  have hcancelled := congrArg Worker.cancelled hw
  obtain ⟨cancelled, old⟩ := w
  obtain rfl : cancelled = true := by
    split at hcancelled <;> exact hcancelled
  rfl

theorem signalled_signal (h : q.signal.Signalled k) : q.Signalled k := by
  unfold signal at h
  split at h
  · exact signalled_setPhase h
  · exact h

/-- Nothing but a stop tells a worker to stop. -/
theorem signalled_of_act (h : (q.act a).Signalled k) (ha : a ≠ .requestStop) : q.Signalled k := by
  cases hauthor : a.author? with
  | some j =>
      rcases act_of_author hauthor q with hq | ⟨r, next, hq, hworkers, -⟩
      · exact hq ▸ h
      · have hr (hs : (r.setPhase j next).Signalled k) : q.Signalled k := by
          obtain ⟨phase, hw⟩ := signalled_setPhase hs
          rw [worker?, hworkers] at hw
          exact ⟨phase, hw⟩
        rcases hq with hq | hq
        · exact hr (hq ▸ h)
        · exact hr (signalled_signal (hq ▸ h))
  | none =>
      cases a with
      | push p =>
          simp only [act, push] at h
          split at h <;> exact h
      | signal => exact signalled_signal h
      | clear => exact h
      | start =>
          simp only [act, start] at h
          split_ifs at h with hawaited hrunning
          · exact h
          · exact h
          · obtain ⟨phase, hw⟩ := h
            by_cases hold : k < q.workers.length
            · exact ⟨phase, (List.getElem?_append_left hold).symm.trans hw⟩
            · rw [worker?, List.getElem?_append_right (Nat.le_of_not_lt hold)] at hw
              have hnew := List.mem_singleton.1 (List.mem_of_getElem? hw)
              cases hnew
      | requestStop => exact absurd rfl ha
      | endStop =>
          simp only [act] at h
          split at h
          · obtain ⟨phase, hw⟩ := h
            rw [worker?, workers_endStop] at hw
            exact ⟨phase, hw⟩
          · exact h
      | _ => cases hauthor

theorem requestStop_mem_of_signalled {actions : List Action} (h : (q.run actions).Signalled k)
    (hq : ¬ q.Signalled k) : .requestStop ∈ actions := by
  induction actions using List.reverseRecOn with
  | nil => exact absurd h hq
  | append_singleton actions a ih =>
      rw [run_append] at h
      rw [List.mem_append, List.mem_singleton]
      by_cases ha : a = .requestStop
      · exact .inr ha.symm
      · exact .inl (ih (signalled_of_act h ha))

theorem config_run (actions : List Action) (q : Queue) : (q.run actions).config = q.config := by
  induction actions generalizing q with
  | nil => rfl
  | cons a actions ih => exact (ih (q.act a)).trans (config_act q a)

theorem Bounded.run (h : q.Bounded) (actions : List Action) : (q.run actions).Bounded := by
  induction actions generalizing q with
  | nil => exact h
  | cons a actions ih => exact ih (h.act a)

/-! ## The bound -/

/-- What holds of a queue at any point of a run. -/
structure WithinCapacity (q : Queue) : Prop where
  stock_le : q.pending + q.heldPackets.length ≤ q.config.capacity.val + 1
  pacing : ∀ k cancelled p wake, q.worker? k = some ⟨cancelled, .pacing p wake⟩ →
    q.pending ≤ q.config.capacity.val
  accepts : ∀ p, (q.enqueue p).1 = true ↔ q.pending < q.config.capacity.val
  /-- A packet is put back into the full queue, or one was, and nothing has been taken out since. -/
  overfull : ∀ a, (q.act a).pending = q.config.capacity.val + 1 ↔
    q.pending = q.config.capacity.val ∧ q.cutsPause a = true ∨
      q.pending = q.config.capacity.val + 1 ∧ q.takesOut a = false

theorem Bounded.pending_le_of_held (h : q.Bounded) {cancelled : Bool} {phase : Phase} {p : Packet}
    (hw : q.worker? k = some ⟨cancelled, phase⟩) (hl : phase.isFinished = false)
    (hp : phase.held? = some p) : q.pending ≤ q.config.capacity.val := by
  have hstock := h.stock_le
  rw [stock, h.tended.heldPackets_eq (phases_getElem?_of_worker? hw) hl, hp] at hstock
  exact Nat.le_of_succ_le_succ hstock

theorem not_cutsPause_of_takesOut (hout : q.takesOut a = true) : q.cutsPause a = false := by
  cases a <;> first | rfl | cases hout

theorem Bounded.overfull_iff (h : q.Bounded) (a : Action) :
    (q.act a).pending = q.config.capacity.val + 1 ↔
      q.pending = q.config.capacity.val ∧ q.cutsPause a = true ∨
        q.pending = q.config.capacity.val + 1 ∧ q.takesOut a = false := by
  have hle : q.pending ≤ q.config.capacity.val + 1 :=
    Nat.le_trans (Nat.le_add_right _ _) h.stock_le
  by_cases hout : q.takesOut a = true
  · have hless := pending_takesOut hout
    have hcut := not_cutsPause_of_takesOut hout
    simp only [hout, hcut, Bool.false_eq_true, Bool.true_eq_false, and_false, or_self, iff_false]
    omega
  · rw [Bool.not_eq_true] at hout
    by_cases hcut : q.cutsPause a = true
    · obtain ⟨k, p, wake, -, hw⟩ := cutsPause_iff.1 hcut
      have hheld := h.pending_le_of_held hw rfl rfl
      have hmore := pending_cutsPause hcut
      simp only [hout, hcut, and_true]
      omega
    · rw [Bool.not_eq_true] at hcut
      have hsame : q.pending = q.config.capacity.val + 1 ↔
          (q.act a).pending = q.config.capacity.val + 1 := by
        by_cases hpush : ∃ p, a = .push p
        · obtain ⟨p, rfl⟩ := hpush
          rw [pending_push]
          split <;> omega
        · have hitems := items_act (fun p hp => hpush ⟨p, hp⟩) hout hcut
          rw [pending, pending, hitems]
      simp only [hout, hcut, Bool.false_eq_true, and_false, and_true, false_or, hsame]

theorem Bounded.withinCapacity (h : q.Bounded) : q.WithinCapacity where
  stock_le := h.stock_le
  pacing k cancelled p wake hw := h.pending_le_of_held hw rfl rfl
  accepts p := by rw [enqueue_eq_run, push_fst]
  overfull := h.overfull_iff

/-- The latest step that filled the queue beyond its capacity. -/
theorem exists_putBack_of_overfull (h : q.Bounded) (hempty : q.pending ≤ q.config.capacity.val)
    (actions : List Action) (hover : (q.run actions).pending = q.config.capacity.val + 1) :
    ∃ before k after, actions = before ++ .putBack k :: after ∧
      (∃ p wake, (q.run before).worker? k = some ⟨true, .pacing p wake⟩) ∧
      (q.run before).pending = q.config.capacity.val ∧
      ∀ during, during <+: after →
        (q.run (before ++ .putBack k :: during)).pending = q.config.capacity.val + 1 := by
  induction actions using List.reverseRecOn with
  | nil =>
      have hsame : q.pending = q.config.capacity.val + 1 := hover
      omega
  | append_singleton actions a ih =>
      have hbounded := h.run actions
      have hconfig := config_run actions q
      rw [run_append] at hover
      have hiff := hbounded.overfull_iff a
      rw [hconfig] at hiff
      rcases hiff.1 hover with ⟨hfull, hcut⟩ | ⟨hbefore, -⟩
      · obtain ⟨k, p, wake, rfl, hw⟩ := cutsPause_iff.1 hcut
        refine ⟨actions, k, [], rfl, ⟨p, wake, hw⟩, hfull, fun during hduring => ?_⟩
        obtain rfl := List.prefix_nil.1 hduring
        rw [run_append]
        exact hover
      · obtain ⟨before, k, after, rfl, hpaced, hfull, hlasts⟩ := ih hbefore
        refine ⟨before, k, after ++ [a], by simp, hpaced, hfull, fun during hduring => ?_⟩
        rcases List.prefix_concat_iff.1 hduring with rfl | hearlier
        · rw [← List.cons_append, ← List.append_assoc, run_append]
          exact hover
        · exact hlasts during hearlier

/-- In every run, with any pauses: a queue holds one packet beyond its capacity at most, and holds it
only from the moment at which a stop has cut short the pause of a worker of the full queue until a
packet is taken out. -/
theorem pending_within_capacity {name : String} {config : Config} {start : Queue}
    (hstart : create name config = .ok start) (actions : List Action) :
    (start.run actions).WithinCapacity ∧
      ((start.run actions).pending = config.capacity.val + 1 →
        ∃ before k after, actions = before ++ .putBack k :: after ∧ .requestStop ∈ before ∧
          (∃ p wake, (start.run before).worker? k = some ⟨true, .pacing p wake⟩) ∧
          (start.run before).pending = config.capacity.val ∧
          ∀ during, during <+: after →
            (start.run (before ++ .putBack k :: during)).pending = config.capacity.val + 1) := by
  have h := Bounded.of_create hstart
  obtain ⟨-, rfl⟩ := create_eq_ok hstart
  refine ⟨(h.run actions).withinCapacity, fun hover => ?_⟩
  obtain ⟨before, k, after, hactions, ⟨p, wake, hw⟩, hfull, hlasts⟩ :=
    exists_putBack_of_overfull h (Nat.zero_le _) actions hover
  have hstop : .requestStop ∈ before :=
    requestStop_mem_of_signalled ⟨_, hw⟩ (fun ⟨_, hnone⟩ => by cases hnone)
  exact ⟨before, k, after, hactions, hstop, ⟨p, wake, hw⟩, hfull, hlasts⟩

/-- Twice a worker is stopped in a pause after the producer has filled the place of its packet. -/
def refilledRun : List Action := [
  .push ⟨#[1]⟩, .signal, .start, .look 0, .pace 0 (some 5), .push ⟨#[2]⟩, .signal, .requestStop,
  .putBack 0, .endStop, .push ⟨#[3]⟩, .start, .look 1, .pace 1 (some 9), .push ⟨#[4]⟩,
  .requestStop, .putBack 1, .endStop]

theorem pending_within_capacity_refilledRun :
    ∃ start, create "mesh" ⟨1⟩ = .ok start ∧ (start.run refilledRun).WithinCapacity ∧
      (start.run refilledRun).pending = 2 ∧ (start.run refilledRun).dropped = 2 ∧
      ∃ before k after, refilledRun = before ++ .putBack k :: after ∧ .requestStop ∈ before ∧
        (start.run before).pending = 1 := by
  have hstart : create "mesh" ⟨1⟩ =
      .ok ⟨"mesh", ⟨1⟩, [], 0, 0, 0, false, [], none, none⟩ := rfl
  obtain ⟨hwithin, hover⟩ := pending_within_capacity hstart refilledRun
  obtain ⟨before, k, after, hactions, hstop, -, hfull, -⟩ := hover (by decide)
  exact ⟨_, hstart, hwithin, by decide, by decide, before, k, after, hactions, hstop, hfull⟩

end LinkReliability.Queue
