import LinkReliability.Proofs.Queue.Turn

/-!
# The load of a queue

The packets that were let in are those sent, failed, waiting, held and on their way. Only a push
adds to them and only a clear takes from them; the other steps move a packet from one place to the
next. Ends of sends are the only steps that count.
-/

namespace LinkReliability.Queue

def load (q : Queue) : Nat :=
  q.sent + q.sendErrors + q.items.length + q.heldPackets.length + q.inFlight

theorem load_of_create {name : String} {config : Config} {q : Queue}
    (hq : create name config = .ok q) : q.load = 0 ∧ q.dropped = 0 := by
  obtain ⟨-, rfl⟩ := create_eq_ok hq
  exact ⟨rfl, rfl⟩

/-- The steps that neither let packets in nor let them go, nor count them. A pacing function that
panics takes a packet with it. -/
def Action.isInner : Action → Bool
  | .push _ => false
  | .signal => false
  | .clear => false
  | .pacePanicked _ => false
  | .sendEnded _ _ => false
  | _ => true

/-- The load and the counters are as before. -/
structure Kept (r q : Queue) : Prop where
  load : r.load = q.load
  sent : r.sent = q.sent
  sendErrors : r.sendErrors = q.sendErrors
  dropped : r.dropped = q.dropped

/-- One send more is counted, and nothing else. -/
structure Counted (r q : Queue) (success : Bool) : Prop where
  sent : r.sent = q.sent + if success then 1 else 0
  sendErrors : r.sendErrors = q.sendErrors + if success then 0 else 1
  items : r.items = q.items
  dropped : r.dropped = q.dropped

variable {q r : Queue} {k : Nat}

theorem counted_sendEnded {cancelled : Bool} {p : Packet} {call : Call Unit}
    (hw : q.worker? k = some ⟨cancelled, .sending p call⟩) (success : Bool) :
    Counted (q.sendEnded k success) q success := by
  simp only [sendEnded, hw]
  cases success <;> exact ⟨rfl, rfl, rfl, rfl⟩

theorem Unmoved.kept (h : Unmoved r q) : Kept r q where
  load := by rw [load, load, h.sent, h.sendErrors, h.items, h.held, h.inFlight]
  sent := h.sent
  sendErrors := h.sendErrors
  dropped := h.dropped

namespace Tended

theorem kept_look (h : Tended q) (k : Nat) : Kept (q.look k) q := by
  unfold look
  split
  · next cancelled hw =>
      have hk := phases_getElem?_of_worker? hw
      split
      · next p rest hitems =>
          let taken : Queue := { q with items := rest }
          have hheld := h.heldPackets_eq hk rfl
          have hheld' := h.heldPackets_setPhase taken hk rfl (.holding p) rfl
          have hflight := h.inFlight_setPhase_of_eq taken hk rfl (.holding p) rfl rfl
          refine ⟨?_, rfl, rfl, rfl⟩
          rw [load, load, hflight, hheld, hheld', hitems]
          change q.sent + q.sendErrors + rest.length + 1 + q.inFlight =
            q.sent + q.sendErrors + (rest.length + 1) + 0 + q.inFlight
          omega
      · exact (Unmoved.setPhase hk .dry rfl rfl).kept
  · exact (Unmoved.refl q).kept

theorem kept_putBack (h : Tended q) (k : Nat) : Kept (q.putBack k) q := by
  unfold putBack
  split
  · next p wake hw =>
      have hk := phases_getElem?_of_worker? hw
      let returned : Queue := { q with items := p :: q.items }
      have hheld := h.heldPackets_eq hk rfl
      have hheld' := h.heldPackets_setPhase returned hk rfl (.finished .returned) rfl
      have hflight := h.inFlight_setPhase_of_eq returned hk rfl (.finished .returned) rfl rfl
      refine ⟨?_, rfl, rfl, rfl⟩
      rw [load, load, hflight, hheld, hheld']
      change q.sent + q.sendErrors + (q.items.length + 1) + 0 + q.inFlight =
        q.sent + q.sendErrors + q.items.length + 1 + q.inFlight
      omega
  · exact (Unmoved.refl q).kept

theorem kept_handOver (h : Tended q) (k : Nat) (call : Call Unit) : Kept (q.handOver k call) q := by
  unfold handOver
  split
  · next cancelled p hw =>
      have hk := phases_getElem?_of_worker? hw
      have hheld := h.heldPackets_eq hk rfl
      have hheld' := h.heldPackets_setPhase q hk rfl (.sending p call) rfl
      have hflight := h.inFlight_eq hk rfl
      have hflight' := h.inFlight_setPhase q hk rfl (.sending p call) rfl
      refine ⟨?_, rfl, rfl, rfl⟩
      rw [load, load, hflight, hflight', hheld, hheld']
      rfl
  · exact (Unmoved.refl q).kept

theorem kept_act (h : Tended q) {a : Action} (ha : a.isInner = true) : Kept (q.act a) q := by
  cases a with
  | start =>
      simp only [Queue.act]
      split
      · exact (Unmoved.refl q).kept
      · exact (Unmoved.start q).kept
  | requestStop =>
      simp only [Queue.act]
      split
      · exact (Unmoved.refl q).kept
      · exact (Unmoved.requestStop q).kept
  | endStop =>
      simp only [Queue.act]
      split
      · exact (Unmoved.endStop q).kept
      · exact (Unmoved.refl q).kept
  | look k => exact h.kept_look k
  | consult k => exact (Unmoved.consult k q).kept
  | rouse k => exact (Unmoved.rouse k q).kept
  | heed k => exact (Unmoved.heed k q).kept
  | pace k wake => exact (Unmoved.pace k wake q).kept
  | paced k => exact (Unmoved.paced k q).kept
  | putBack k => exact h.kept_putBack k
  | handOver k call => exact h.kept_handOver k call
  | _ => cases ha

/-- The end of a send moves its packet to one of the counters. -/
theorem load_sendEnded (h : Tended q) {cancelled : Bool} {p : Packet} {call : Call Unit}
    (hw : q.worker? k = some ⟨cancelled, .sending p call⟩) (success : Bool) :
    (q.sendEnded k success).load = q.load := by
  have hk := phases_getElem?_of_worker? hw
  let next : Phase := if cancelled then .finished .returned else .looking
  have hnext : next.held? = none ∧ next.sent? = none := by
    cases cancelled <;> exact ⟨rfl, rfl⟩
  have hheld := h.heldPackets_eq hk rfl
  have hflight := h.inFlight_eq hk rfl
  have hmoved (r : Queue) (hr : r.phases = q.phases) (hitems : r.items = q.items)
      (hcount : r.sent + r.sendErrors = q.sent + q.sendErrors + 1) :
      (r.setPhase k next).load = q.load := by
    have hheld' := h.heldPackets_setPhase r hk rfl next hr
    have hflight' := h.inFlight_setPhase r hk rfl next hr
    rw [hnext.1] at hheld'
    rw [hnext.2] at hflight'
    rw [load, load, hheld, hheld', hflight, hflight']
    change r.sent + r.sendErrors + r.items.length + 0 + 0 =
      q.sent + q.sendErrors + q.items.length + 0 + 1
    rw [hitems]
    omega
  simp only [sendEnded, hw]
  cases success
  · exact hmoved { q with sendErrors := q.sendErrors + 1 } rfl rfl (Nat.add_assoc ..).symm
  · exact hmoved { q with sent := q.sent + 1 } rfl rfl (Nat.add_right_comm ..)

end Tended

/-- A packet that is let in is part of the load, and one that is not is counted as dropped. -/
theorem push_counts (p : Packet) (q : Queue) :
    (q.push p).2.load = q.load + (if (q.push p).1 then 1 else 0) ∧
      (q.push p).2.dropped = q.dropped + (if (q.push p).1 then 0 else 1) ∧
      (q.push p).2.sent = q.sent ∧ (q.push p).2.sendErrors = q.sendErrors := by
  unfold push
  split
  · refine ⟨?_, rfl, rfl, rfl⟩
    change q.sent + q.sendErrors + (q.items ++ [p]).length + q.heldPackets.length + q.inFlight =
      q.sent + q.sendErrors + q.items.length + q.heldPackets.length + q.inFlight + 1
    rw [List.length_append, List.length_singleton]
    omega
  · exact ⟨rfl, rfl, rfl, rfl⟩

theorem load_clear (q : Queue) : q.clear.2.load + q.clear.1 = q.load := by
  change q.sent + q.sendErrors + 0 + q.heldPackets.length + q.inFlight + q.items.length =
    q.sent + q.sendErrors + q.items.length + q.heldPackets.length + q.inFlight
  omega

end LinkReliability.Queue
