import LinkReliability.Proofs.Queue.Load

/-!
# The stock of a queue

The load of a queue is made up of its stock, the packets that wait or are held, and of the sends
that were begun. Only a push adds to the stock. It adds up to the capacity, and beyond that there
is room for the one packet that the worker holds and may put back.
-/

namespace LinkReliability.Queue

/-- The packets that wait and the one that is held. -/
def stock (q : Queue) : Nat := q.items.length + q.heldPackets.length

/-- The sends that were begun, those that have ended and the one under way. -/
def begun (q : Queue) : Nat := q.sent + q.sendErrors + q.inFlight

/-- The step begins a send. -/
def handsOver (q : Queue) : Action → Bool
  | .handOver k _ =>
    match q.worker? k with
    | some ⟨_, .ready _⟩ => true
    | _ => false
  | _ => false

variable {q r : Queue} {k : Nat}

theorem handsOver_iff {call : Call Unit} :
    q.handsOver (.handOver k call) = true ↔ ∃ cancelled p, q.worker? k = some ⟨cancelled, .ready p⟩ := by
  cases hw : q.worker? k with
  | none => simp [handsOver, hw]
  | some w =>
      obtain ⟨cancelled, phase⟩ := w
      cases phase <;> simp [handsOver, hw]

theorem load_eq (q : Queue) : q.load = q.stock + q.begun := by
  unfold load stock begun
  omega

/-- No send ends of a worker that is not sending. -/
theorem sendEnded_of_not_sending
    (h : ¬ ∃ cancelled p call, q.worker? k = some ⟨cancelled, .sending p call⟩) (success : Bool) :
    q.sendEnded k success = q := by
  unfold sendEnded
  split
  · next cancelled p call hw => exact absurd ⟨cancelled, p, call, hw⟩ h
  · rfl

theorem Unmoved.begun (h : Unmoved r q) : r.begun = q.begun := by
  rw [Queue.begun, Queue.begun, h.sent, h.sendErrors, h.inFlight]

/-! ## Sends that are begun -/

namespace Tended

theorem begun_look (h : Tended q) (k : Nat) : (q.look k).begun = q.begun := by
  unfold look
  split
  · next cancelled hw =>
      have hk := phases_getElem?_of_worker? hw
      split
      · next p rest hitems =>
          exact congrArg (q.sent + q.sendErrors + ·)
            (h.inFlight_setPhase_of_eq { q with items := rest } hk rfl (.holding p) rfl rfl)
      · exact (Unmoved.setPhase hk .dry rfl rfl).begun
  · rfl

theorem begun_pacePanicked (h : Tended q) (k : Nat) : (q.pacePanicked k).begun = q.begun := by
  unfold pacePanicked
  split
  · next cancelled p hw =>
      exact congrArg (q.sent + q.sendErrors + ·)
        (h.inFlight_setPhase_of_eq q (phases_getElem?_of_worker? hw) rfl (.finished .panicked) rfl
          rfl)
  · rfl

theorem begun_putBack (h : Tended q) (k : Nat) : (q.putBack k).begun = q.begun := by
  unfold putBack
  split
  · next p wake hw =>
      exact congrArg (q.sent + q.sendErrors + ·)
        (h.inFlight_setPhase_of_eq { q with items := p :: q.items }
          (phases_getElem?_of_worker? hw) rfl (.finished .returned) rfl rfl)
  · rfl

theorem begun_handOver (h : Tended q) (k : Nat) (call : Call Unit) :
    (q.handOver k call).begun = q.begun + if q.handsOver (.handOver k call) then 1 else 0 := by
  by_cases hready : ∃ cancelled p, q.worker? k = some ⟨cancelled, .ready p⟩
  · rw [if_pos (handsOver_iff.2 hready)]
    obtain ⟨cancelled, p, hw⟩ := hready
    have hk := phases_getElem?_of_worker? hw
    have hflight := h.inFlight_eq hk rfl
    have hflight' := h.inFlight_setPhase q hk rfl (.sending p call) rfl
    simp only [handOver, hw]
    rw [begun, begun, hflight, hflight']
    rfl
  · rw [if_neg (mt handsOver_iff.1 hready)]
    unfold handOver
    split
    · next cancelled p hw => exact absurd ⟨cancelled, p, hw⟩ hready
    · rfl

theorem begun_sendEnded (h : Tended q) (k : Nat) (success : Bool) :
    (q.sendEnded k success).begun = q.begun := by
  by_cases hsending : ∃ cancelled p call, q.worker? k = some ⟨cancelled, .sending p call⟩
  · obtain ⟨cancelled, p, call, hw⟩ := hsending
    have hk := phases_getElem?_of_worker? hw
    let next : Phase := if cancelled then .finished .returned else .looking
    have hnext : next.sent? = none := by cases cancelled <;> rfl
    have hflight := h.inFlight_eq hk rfl
    have hmoved (r : Queue) (hr : r.phases = q.phases)
        (hcount : r.sent + r.sendErrors = q.sent + q.sendErrors + 1) :
        (r.setPhase k next).begun = q.begun := by
      have hflight' := h.inFlight_setPhase r hk rfl next hr
      rw [hnext] at hflight'
      rw [begun, begun, hflight, hflight']
      exact hcount
    simp only [sendEnded, hw]
    cases success
    · exact hmoved { q with sendErrors := q.sendErrors + 1 } rfl (Nat.add_assoc ..).symm
    · exact hmoved { q with sent := q.sent + 1 } rfl (Nat.add_right_comm ..)
  · rw [sendEnded_of_not_sending hsending]

/-- A send is begun when a packet is handed over, and at no other time. -/
theorem begun_act (h : Tended q) (a : Action) :
    (q.act a).begun = q.begun + if q.handsOver a then 1 else 0 := by
  cases a with
  | push p =>
      simp only [Queue.act, push]
      split <;> rfl
  | signal => exact (Unmoved.signal q).begun
  | clear => rfl
  | start =>
      simp only [Queue.act]
      split
      · rfl
      · exact (Unmoved.start q).begun
  | requestStop =>
      simp only [Queue.act]
      split
      · rfl
      · exact (Unmoved.requestStop q).begun
  | endStop =>
      simp only [Queue.act]
      split
      · exact (Unmoved.endStop q).begun
      · rfl
  | look k => exact h.begun_look k
  | consult k => exact (Unmoved.consult k q).begun
  | rouse k => exact (Unmoved.rouse k q).begun
  | heed k => exact (Unmoved.heed k q).begun
  | pace k wake => exact (Unmoved.pace k wake q).begun
  | pacePanicked k => exact h.begun_pacePanicked k
  | paced k => exact (Unmoved.paced k q).begun
  | putBack k => exact h.begun_putBack k
  | handOver k call => exact h.begun_handOver k call
  | sendEnded k success => exact h.begun_sendEnded k success

/-! ## The load and the stock -/

theorem load_pacePanicked (h : Tended q) (k : Nat) : (q.pacePanicked k).load ≤ q.load := by
  have hbegun := h.begun_pacePanicked k
  rw [load_eq, load_eq, hbegun]
  refine Nat.add_le_add_right ?_ _
  unfold pacePanicked
  split
  · next cancelled p hw =>
      have hheld := h.heldPackets_setPhase q (phases_getElem?_of_worker? hw) rfl
        (.finished .panicked) rfl
      rw [stock, hheld]
      exact Nat.le_add_right ..
  · exact Nat.le_refl _

/-- Without a push the load does not grow. -/
theorem load_act_le (h : Tended q) {a : Action} (ha : ∀ p, a ≠ .push p) :
    (q.act a).load ≤ q.load := by
  by_cases hinner : a.isInner = true
  · exact Nat.le_of_eq (h.kept_act hinner).load
  · cases a with
    | push p => exact absurd rfl (ha p)
    | signal => exact Nat.le_of_eq (Unmoved.signal q).kept.load
    | clear => exact Nat.le.intro (load_clear q)
    | pacePanicked k => exact h.load_pacePanicked k
    | sendEnded k success =>
        by_cases hsending : ∃ cancelled p call, q.worker? k = some ⟨cancelled, .sending p call⟩
        · obtain ⟨cancelled, p, call, hw⟩ := hsending
          exact Nat.le_of_eq (h.load_sendEnded hw success)
        · exact Nat.le_of_eq (congrArg load (sendEnded_of_not_sending hsending success))
    | _ => exact absurd rfl hinner

theorem stock_act_le (h : Tended q) {a : Action} (ha : ∀ p, a ≠ .push p) :
    (q.act a).stock ≤ q.stock := by
  have hload := h.load_act_le ha
  have hbegun := h.begun_act a
  rw [load_eq, load_eq] at hload
  omega

end Tended

theorem config_act (q : Queue) (a : Action) : (q.act a).config = q.config := by
  have hsignal : ∀ r : Queue, r.signal.config = r.config := by
    intro r
    unfold signal
    split <;> rfl
  cases a with
  | push p =>
      simp only [Queue.act, push]
      split <;> rfl
  | signal => exact hsignal q
  | clear => rfl
  | requestStop =>
      simp only [Queue.act]
      split <;> rfl
  | start =>
      simp only [Queue.act, start]
      split
      · rfl
      · split <;> rfl
  | endStop =>
      simp only [Queue.act, endStop]
      split
      · split <;> rfl
      · rfl
  | rouse k =>
      simp only [Queue.act, rouse]
      split
      · split
        · split
          · exact hsignal _
          · rfl
        · split <;> rfl
      · rfl
  | look k =>
      simp only [Queue.act, look]
      split
      · split <;> rfl
      · rfl
  | consult k =>
      simp only [Queue.act, consult]
      split
      · split_ifs <;> rfl
      · rfl
  | heed k =>
      simp only [Queue.act, heed]
      split
      · split <;> rfl
      · rfl
      · rfl
  | pace k wake =>
      simp only [Queue.act, pace]
      split
      · cases wake <;> rfl
      · rfl
  | pacePanicked k =>
      simp only [Queue.act, pacePanicked]
      split <;> rfl
  | paced k =>
      simp only [Queue.act, paced]
      split <;> rfl
  | putBack k =>
      simp only [Queue.act, putBack]
      split <;> rfl
  | handOver k call =>
      simp only [Queue.act, handOver]
      split <;> rfl
  | sendEnded k success =>
      simp only [Queue.act, sendEnded]
      split
      · cases success <;> rfl
      · rfl

/-- There is room for the capacity and for one packet more. -/
structure Bounded (q : Queue) : Prop where
  tended : q.Tended
  stock_le : q.stock ≤ q.config.capacity.val + 1

namespace Bounded

theorem of_create {name : String} {config : Config} (hq : create name config = .ok q) :
    q.Bounded := by
  refine ⟨.of_create hq, ?_⟩
  obtain ⟨-, rfl⟩ := create_eq_ok hq
  exact Nat.zero_le _

theorem act (h : q.Bounded) (a : Action) : (q.act a).Bounded := by
  refine ⟨h.tended.act a, ?_⟩
  have hstock := h.stock_le
  rw [config_act]
  by_cases hpush : ∃ p, a = .push p
  · obtain ⟨p, rfl⟩ := hpush
    have hheld := h.tended.length_heldPackets_le_one
    simp only [Queue.act, push]
    split
    · next hroom =>
        change (q.items ++ [p]).length + q.heldPackets.length ≤ _
        rw [List.length_append, List.length_singleton]
        omega
    · exact hstock
  · exact Nat.le_trans (h.tended.stock_act_le fun p hp => hpush ⟨p, hp⟩) hstock

theorem enqueue (h : q.Bounded) (p : Packet) : (q.enqueue p).2.Bounded := by
  rw [enqueue_eq_run]
  split
  · exact (h.act (.push p)).act .signal
  · exact h.act (.push p)

end Bounded

theorem config_enqueue (p : Packet) (q : Queue) : (q.enqueue p).2.config = q.config := by
  rw [enqueue_eq_run]
  split
  · exact (config_act _ .signal).trans (config_act q (.push p))
  · exact config_act q (.push p)

theorem begun_enqueue (h : Tended q) (p : Packet) : (q.enqueue p).2.begun = q.begun := by
  rw [enqueue_eq_run]
  split
  · exact ((h.act (.push p)).begun_act .signal).trans (h.begun_act (.push p))
  · exact h.begun_act (.push p)

end LinkReliability.Queue
