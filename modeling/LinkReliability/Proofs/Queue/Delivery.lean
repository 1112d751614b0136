import LinkReliability.Proofs.Queue.Run
import Mathlib.Data.List.Nodup
import Mathlib.Data.List.Sigma

/-!
# Delivery in order

An observer of a run gives a ticket to each packet that is offered and follows the tickets through
the queue. The tickets handed to the sender, then the one that a worker holds, then the waiting
ones are those of the accepted packets in the order of their acceptance, without the ones that a
clear discarded. The counters of the queue count the tickets.
-/

namespace LinkReliability.Queue

/-- The number of the call that offered a packet, and the packet. -/
structure Ticket where
  number : Nat
  packet : Packet
deriving DecidableEq

/-- The tickets of the calls with the given answer, in the order of the calls. -/
def tickets (answer : Bool) (offers : List (Packet × Bool)) : List Ticket :=
  offers.zipIdx.filterMap (fun o => if o.1.2 = answer then some ⟨o.2, o.1.1⟩ else none)

theorem tickets_append_singleton (answer : Bool) (offers : List (Packet × Bool)) (p : Packet)
    (given : Bool) :
    tickets answer (offers ++ [(p, given)]) =
      tickets answer offers ++ if given = answer then [⟨offers.length, p⟩] else [] := by
  simp only [tickets, List.zipIdx_append, List.filterMap_append, List.zipIdx_cons,
    List.zipIdx_nil, List.filterMap_cons, List.filterMap_nil, Nat.zero_add]
  split_ifs <;> rfl

theorem mem_tickets_iff {answer : Bool} {offers : List (Packet × Bool)} {t : Ticket} :
    t ∈ tickets answer offers ↔ offers[t.number]? = some (t.packet, answer) := by
  obtain ⟨number, packet⟩ := t
  simp only [tickets, List.mem_filterMap]
  constructor
  · rintro ⟨⟨⟨p, given⟩, i⟩, hmem, hsome⟩
    split_ifs at hsome with hg
    obtain ⟨rfl, rfl⟩ := Ticket.mk.inj (Option.some.inj hsome)
    simpa [← hg] using List.mem_zipIdx_iff_getElem?.1 hmem
  · intro hget
    exact ⟨((packet, answer), number), List.mem_zipIdx_iff_getElem?.2 hget, by simp⟩

theorem nodup_tickets (answer : Bool) (offers : List (Packet × Bool)) :
    (tickets answer offers).Nodup := by
  refine List.Nodup.filterMap ?_ (List.Nodup.of_map Prod.snd (List.nodup_zipIdx_map_snd offers))
  rintro ⟨⟨p, given⟩, i⟩ ⟨⟨p', given'⟩, i'⟩ t ht ht'
  simp only [Option.mem_def, Option.ite_none_right_eq_some, Option.some.injEq] at ht ht'
  obtain ⟨hg, rfl⟩ := ht
  obtain ⟨hg', heq⟩ := ht'
  obtain ⟨rfl, rfl⟩ := Ticket.mk.inj heq
  rw [hg, hg']

/-- What the observer has written down. -/
structure Ledger where
  /-- Every packet that was offered, and whether it was accepted. -/
  offers : List (Packet × Bool)
  waiting : List Ticket
  held : Option Ticket
  handed : List Ticket
  /-- The packets that the sender was called with. -/
  given : List Packet
  discarded : List Ticket
  /-- The packets in the hands of a worker that ended in a panic. -/
  lost : List Ticket

namespace Ledger

def blank : Ledger := ⟨[], [], none, [], [], [], []⟩

def accepted (l : Ledger) : List Ticket := tickets true l.offers

def refused (l : Ledger) : List Ticket := tickets false l.offers

/-- The entry for a step that the queue is about to take. -/
def note (q : Queue) (l : Ledger) : Action → Ledger
  | .push p =>
    let offered := { l with offers := l.offers ++ [(p, (q.push p).1)] }
    if (q.push p).1 then { offered with waiting := l.waiting ++ [⟨l.offers.length, p⟩] }
    else offered
  | .clear => { l with waiting := [], discarded := l.discarded ++ l.waiting }
  | .look k =>
    match q.worker? k with
    | some ⟨_, .looking⟩ => { l with held := l.waiting.head?, waiting := l.waiting.tail }
    | _ => l
  | .pacePanicked k =>
    match q.worker? k with
    | some ⟨_, .holding _⟩ => { l with held := none, lost := l.lost ++ l.held.toList }
    | _ => l
  | .putBack k =>
    match q.worker? k with
    | some ⟨true, .pacing _ _⟩ => { l with held := none, waiting := l.held.toList ++ l.waiting }
    | _ => l
  | .handOver k _ =>
    match q.worker? k with
    | some ⟨_, .ready p⟩ =>
      { l with held := none, handed := l.handed ++ l.held.toList, given := l.given ++ [p] }
    | _ => l
  | _ => l

end Ledger

def observe (s : Queue × Ledger) (a : Action) : Queue × Ledger := (s.1.act a, s.2.note s.1 a)

/-- The ledger of a run that begins at `q`. -/
def ledger (actions : List Action) (q : Queue) : Ledger :=
  (actions.foldl observe (q, Ledger.blank)).2

theorem fst_foldl_observe (actions : List Action) (s : Queue × Ledger) :
    (actions.foldl observe s).1 = run actions s.1 := by
  induction actions generalizing s with
  | nil => rfl
  | cons a actions ih => exact ih (observe s a)

/-! ## The invariant -/

/-- Tickets that leave the middle of the line. -/
theorem filter_gone {all gone gone' before left after : List Ticket} (hn : all.Nodup)
    (h : before ++ left ++ after = all.filter (fun t => t ∉ gone))
    (hg : ∀ t, t ∈ gone' ↔ t ∈ gone ∨ t ∈ left) :
    before ++ after = all.filter (fun t => t ∉ gone') := by
  have hsplit : all.filter (fun t => t ∉ gone') =
      (all.filter (fun t => t ∉ gone)).filter (fun t => t ∉ left) := by
    rw [List.filter_filter]
    apply List.filter_congr
    intro t _
    simp [hg, not_or, Bool.and_comm]
  have hline : (before ++ left ++ after).Nodup := h ▸ hn.filter _
  obtain ⟨hfront, _, hafter⟩ := List.nodup_append.1 hline
  obtain ⟨_, _, hbefore⟩ := List.nodup_append.1 hfront
  rw [hsplit, ← h, List.filter_append, List.filter_append]
  have hb : before.filter (fun t => t ∉ left) = before := by
    rw [List.filter_eq_self]
    intro t ht
    simpa using fun hl => hbefore t ht t hl rfl
  have hl : left.filter (fun t => t ∉ left) = [] := by simp
  have ha : after.filter (fun t => t ∉ left) = after := by
    rw [List.filter_eq_self]
    intro t ht
    simpa using fun hl => hafter t (List.mem_append_right _ hl) t ht rfl
  rw [hb, hl, ha, List.append_nil]

/-- The ledger describes the queue. -/
structure Coherent (q : Queue) (l : Ledger) : Prop where
  tended : Tended q
  order : l.handed ++ l.held.toList ++ l.waiting =
    l.accepted.filter (fun t => t ∉ l.discarded ++ l.lost)
  removed : ∀ t ∈ l.discarded ++ l.lost, t ∈ l.accepted
  items : l.waiting.map Ticket.packet = q.items
  held : l.held.toList.map Ticket.packet = q.heldPackets
  given : l.handed.map Ticket.packet = l.given
  counted : q.sent + q.sendErrors + q.inFlight = l.handed.length
  dropped : q.dropped = l.refused.length

namespace Coherent

variable {q r : Queue} {l : Ledger}

theorem of_create {name : String} {config : Config} (hq : create name config = .ok q) :
    Coherent q Ledger.blank := by
  have he : q = ⟨name, config, [], 0, 0, 0, false, [], none, none⟩ := by
    unfold create at hq
    cases hv : config.validate with
    | error e => simp [hv, bind, Except.bind] at hq
    | ok u => simpa [hv, bind, Except.bind, pure, Except.pure, eq_comm] using hq
  subst he
  exact ⟨⟨fun k phase hk => by simp [phases] at hk, fun ha => by simp at ha⟩, rfl,
    fun t ht => by simp [Ledger.blank] at ht, rfl, rfl, rfl, rfl, rfl⟩

theorem of_unmoved (h : Coherent q l) (ht : Tended r) (hu : Unmoved r q) : Coherent r l where
  tended := ht
  order := h.order
  removed := h.removed
  items := h.items.trans hu.items.symm
  held := h.held.trans hu.held.symm
  given := h.given
  counted := by rw [hu.sent, hu.sendErrors, hu.inFlight, h.counted]
  dropped := hu.dropped.trans h.dropped

theorem push (h : Coherent q l) (p : Packet) : Coherent (q.push p).2 (l.note q (.push p)) := by
  have ht : Tended (q.push p).2 := h.tended.act (.push p)
  by_cases hroom : q.items.length < q.config.capacity.val
  · have hq : q.push p = (true, { q with items := q.items ++ [p] }) := by simp [Queue.push, hroom]
    let t : Ticket := ⟨l.offers.length, p⟩
    have hnew : t ∉ l.discarded ++ l.lost := by
      intro hgone
      have hlt := (List.getElem?_eq_some_iff.1 (mem_tickets_iff.1 (h.removed t hgone))).1
      exact Nat.lt_irrefl _ hlt
    have haccepted : tickets true (l.offers ++ [(p, true)]) = l.accepted ++ [t] :=
      tickets_append_singleton true l.offers p true
    have hrefused : tickets false (l.offers ++ [(p, true)]) = l.refused := by
      simp [tickets_append_singleton, Ledger.refused]
    rw [hq] at ht ⊢
    simp only [Ledger.note, hq, ↓reduceIte]
    constructor
    · exact ht
    · have hfilter : [t].filter (fun t => t ∉ l.discarded ++ l.lost) = [t] :=
        List.filter_eq_self.2 (by simpa using hnew)
      rw [Ledger.accepted, haccepted, List.filter_append, hfilter, ← h.order]
      simp only [List.append_assoc, t]
    · intro t' ht'
      rw [Ledger.accepted, haccepted]
      exact List.mem_append_left _ (h.removed t' ht')
    · simp [h.items]
    · exact h.held
    · exact h.given
    · exact h.counted
    · rw [Ledger.refused, hrefused]
      exact h.dropped
  · have hq : q.push p = (false, { q with dropped := q.dropped + 1 }) := by
      simp [Queue.push, hroom]
    have haccepted : tickets true (l.offers ++ [(p, false)]) = l.accepted := by
      simp [tickets_append_singleton, Ledger.accepted]
    have hrefused : tickets false (l.offers ++ [(p, false)]) = l.refused ++ [⟨_, p⟩] :=
      tickets_append_singleton false l.offers p false
    rw [hq] at ht ⊢
    simp only [Ledger.note, hq, Bool.false_eq_true, ↓reduceIte]
    constructor
    · exact ht
    · rw [Ledger.accepted, haccepted]
      exact h.order
    · intro t' ht'
      rw [Ledger.accepted, haccepted]
      exact h.removed t' ht'
    · exact h.items
    · exact h.held
    · exact h.given
    · exact h.counted
    · rw [Ledger.refused, hrefused, List.length_append, h.dropped]
      rfl

theorem accepted_of_mem (h : Coherent q l) {t : Ticket}
    (ht : t ∈ l.handed ++ l.held.toList ++ l.waiting) : t ∈ l.accepted := by
  rw [h.order] at ht
  exact (List.mem_filter.1 ht).1

theorem clear (h : Coherent q l) : Coherent q.clear.2 (l.note q .clear) := by
  have hline : l.handed ++ l.held.toList ++ l.waiting ++ [] =
      l.accepted.filter (fun t => t ∉ l.discarded ++ l.lost) := by
    rw [List.append_nil, h.order]
  simp only [Queue.clear, Ledger.note]
  constructor
  · exact h.tended.act .clear
  · refine filter_gone (nodup_tickets true l.offers) hline (fun t => ?_)
    simp only [List.mem_append]
    tauto
  · intro t ht
    simp only [List.mem_append] at ht
    rcases ht with (hd | hw) | hl
    · exact h.removed t (List.mem_append_left _ hd)
    · exact h.accepted_of_mem (List.mem_append_right _ hw)
    · exact h.removed t (List.mem_append_right _ hl)
  · rfl
  · exact h.held
  · exact h.given
  · exact h.counted
  · exact h.dropped

/-- The ticket that is held is the one of the packet that the worker holds. -/
theorem held_eq (h : Coherent q l) {k : Nat} {phase : Phase} (hk : q.phases[k]? = some phase)
    (hl : phase.isFinished = false) : l.held.toList.map Ticket.packet = phase.held?.toList :=
  h.held.trans (h.tended.heldPackets_eq hk hl)

theorem held_some (h : Coherent q l) {k : Nat} {phase : Phase} {p : Packet}
    (hk : q.phases[k]? = some phase) (hl : phase.isFinished = false) (hp : phase.held? = some p) :
    ∃ t, l.held = some t ∧ t.packet = p := by
  have heq := h.held_eq hk hl
  rw [hp] at heq
  cases hh : l.held with
  | none => simp [hh] at heq
  | some t => exact ⟨t, rfl, by simpa [hh] using heq⟩

/-! A step whose worker stands elsewhere changes neither the queue nor the ledger. -/

theorem look_idle (l : Ledger) {k : Nat}
    (h : ¬ ∃ cancelled, q.worker? k = some ⟨cancelled, .looking⟩) :
    q.look k = q ∧ l.note q (.look k) = l := by
  constructor
  · grind [Queue.look]
  · grind [Ledger.note]

theorem pacePanicked_idle (l : Ledger) {k : Nat}
    (h : ¬ ∃ cancelled p, q.worker? k = some ⟨cancelled, .holding p⟩) :
    q.pacePanicked k = q ∧ l.note q (.pacePanicked k) = l := by
  constructor
  · grind [Queue.pacePanicked]
  · grind [Ledger.note]

theorem putBack_idle (l : Ledger) {k : Nat}
    (h : ¬ ∃ p wake, q.worker? k = some ⟨true, .pacing p wake⟩) :
    q.putBack k = q ∧ l.note q (.putBack k) = l := by
  constructor
  · grind [Queue.putBack]
  · grind [Ledger.note]

theorem handOver_idle (call : Call Unit) (l : Ledger) {k : Nat}
    (h : ¬ ∃ cancelled p, q.worker? k = some ⟨cancelled, .ready p⟩) :
    q.handOver k call = q ∧ l.note q (.handOver k call) = l := by
  constructor
  · grind [Queue.handOver]
  · grind [Ledger.note]

theorem look (h : Coherent q l) (k : Nat) : Coherent (q.look k) (l.note q (.look k)) := by
  have ht : Tended (q.look k) := h.tended.act (.look k)
  by_cases hw : ∃ cancelled, q.worker? k = some ⟨cancelled, .looking⟩
  · obtain ⟨cancelled, hw⟩ := hw
    simp only [Queue.look, Ledger.note, hw] at ht ⊢
    have hk := phases_getElem?_of_worker? hw
    have hnone : l.held = none := by simpa [Phase.held?] using h.held_eq hk rfl
    cases hi : q.items with
    | nil =>
        have hempty : l.waiting = [] := by simpa [hi] using h.items
        have hsame : { l with held := l.waiting.head?, waiting := l.waiting.tail } = l := by
          cases l
          simp_all
        simp only [hi] at ht ⊢
        rw [hsame]
        exact h.of_unmoved ht (.setPhase hk _ rfl rfl)
    | cons p rest =>
        simp only [hi] at ht ⊢
        obtain ⟨t, tail, hwaiting, hp, hrest⟩ :
            ∃ t tail, l.waiting = t :: tail ∧ t.packet = p ∧ tail.map Ticket.packet = rest :=
          List.map_eq_cons_iff.1 (h.items.trans hi)
        have horder := h.order
        rw [hwaiting, hnone] at horder
        rw [hwaiting]
        let taken : Queue := { q with items := rest }
        have hflight := h.tended.inFlight_setPhase_of_eq taken hk rfl (.holding p) rfl rfl
        constructor
        · exact ht
        · change l.handed ++ [t] ++ tail = l.accepted.filter (fun t => t ∉ l.discarded ++ l.lost)
          simpa using horder
        · exact h.removed
        · exact hrest
        · exact hp ▸ (h.tended.heldPackets_setPhase taken hk rfl (.holding p) rfl).symm
        · exact h.given
        · exact (congrArg (q.sent + q.sendErrors + ·) hflight).trans h.counted
        · exact h.dropped
  · obtain ⟨hq, hl⟩ := look_idle l hw
    rw [hq, hl]
    exact h

theorem pacePanicked (h : Coherent q l) (k : Nat) :
    Coherent (q.pacePanicked k) (l.note q (.pacePanicked k)) := by
  have ht : Tended (q.pacePanicked k) := h.tended.act (.pacePanicked k)
  by_cases hw : ∃ cancelled p, q.worker? k = some ⟨cancelled, .holding p⟩
  · obtain ⟨cancelled, p, hw⟩ := hw
    simp only [Queue.pacePanicked, Ledger.note, hw] at ht ⊢
    have hk := phases_getElem?_of_worker? hw
    obtain ⟨t, hheld, -⟩ := h.held_some hk rfl rfl
    have hflight := h.tended.inFlight_setPhase_of_eq q hk rfl (.finished .panicked) rfl rfl
    have hempty := h.tended.heldPackets_setPhase q hk rfl (.finished .panicked) rfl
    constructor
    · exact ht
    · have hcut := filter_gone (nodup_tickets true l.offers) h.order
        (fun t => show t ∈ l.discarded ++ (l.lost ++ l.held.toList) ↔ _ by simp [or_assoc])
      simpa [Ledger.accepted] using hcut
    · intro t' ht'
      simp only [List.mem_append] at ht'
      rcases ht' with hd | hl | hh
      · exact h.removed t' (List.mem_append_left _ hd)
      · exact h.removed t' (List.mem_append_right _ hl)
      · exact h.accepted_of_mem (List.mem_append_left _ (List.mem_append_right _ hh))
    · exact h.items
    · exact hempty.symm
    · exact h.given
    · exact (congrArg (q.sent + q.sendErrors + ·) hflight).trans h.counted
    · exact h.dropped
  · obtain ⟨hq, hl⟩ := pacePanicked_idle l hw
    rw [hq, hl]
    exact h

theorem putBack (h : Coherent q l) (k : Nat) :
    Coherent (q.putBack k) (l.note q (.putBack k)) := by
  have ht : Tended (q.putBack k) := h.tended.act (.putBack k)
  by_cases hw : ∃ p wake, q.worker? k = some ⟨true, .pacing p wake⟩
  · obtain ⟨p, wake, hw⟩ := hw
    simp only [Queue.putBack, Ledger.note, hw] at ht ⊢
    have hk := phases_getElem?_of_worker? hw
    obtain ⟨t, hheld, hp⟩ := h.held_some hk rfl rfl
    let returned : Queue := { q with items := p :: q.items }
    have hflight :=
      h.tended.inFlight_setPhase_of_eq returned hk rfl (.finished .returned) rfl rfl
    have hempty := h.tended.heldPackets_setPhase returned hk rfl (.finished .returned) rfl
    constructor
    · exact ht
    · change l.handed ++ [] ++ (l.held.toList ++ l.waiting) = l.accepted.filter _
      rw [List.append_nil, ← List.append_assoc]
      exact h.order
    · exact h.removed
    · rw [hheld, ← hp]
      exact congrArg (t.packet :: ·) h.items
    · exact hempty.symm
    · exact h.given
    · exact (congrArg (q.sent + q.sendErrors + ·) hflight).trans h.counted
    · exact h.dropped
  · obtain ⟨hq, hl⟩ := putBack_idle l hw
    rw [hq, hl]
    exact h

theorem handOver (h : Coherent q l) (k : Nat) (call : Call Unit) :
    Coherent (q.handOver k call) (l.note q (.handOver k call)) := by
  have ht : Tended (q.handOver k call) := h.tended.act (.handOver k call)
  by_cases hw : ∃ cancelled p, q.worker? k = some ⟨cancelled, .ready p⟩
  · obtain ⟨cancelled, p, hw⟩ := hw
    simp only [Queue.handOver, Ledger.note, hw] at ht ⊢
    have hk := phases_getElem?_of_worker? hw
    obtain ⟨t, hheld, hp⟩ := h.held_some hk rfl rfl
    have hbefore := h.tended.inFlight_eq hk rfl
    have hafter := h.tended.inFlight_setPhase q hk rfl (.sending p call) rfl
    have hempty := h.tended.heldPackets_setPhase q hk rfl (.sending p call) rfl
    constructor
    · exact ht
    · change l.handed ++ l.held.toList ++ [] ++ l.waiting = l.accepted.filter _
      rw [List.append_nil]
      exact h.order
    · exact h.removed
    · exact h.items
    · exact hempty.symm
    · simp [h.given, hheld, hp]
    · have hcounted := h.counted
      simp only [hbefore, Phase.sent?, Option.toList_none, List.length_nil] at hcounted
      simp only [hafter, hheld, Phase.sent?, Option.toList_some, List.length_append,
        List.length_singleton, ← hcounted]
      rfl
    · exact h.dropped
  · obtain ⟨hq, hl⟩ := handOver_idle call l hw
    rw [hq, hl]
    exact h

theorem sendEnded (h : Coherent q l) (k : Nat) (success : Bool) :
    Coherent (q.sendEnded k success) l := by
  have ht : Tended (q.sendEnded k success) := h.tended.act (.sendEnded k success)
  simp only [Queue.sendEnded] at ht ⊢
  split
  · rename_i cancelled p call hw
    have hk := phases_getElem?_of_worker? hw
    simp only [hw] at ht
    let ended : Queue := if success then { q with sent := q.sent + 1 }
      else { q with sendErrors := q.sendErrors + 1 }
    let next : Phase := if cancelled then .finished .returned else .looking
    have hparts : ended.phases = q.phases ∧ ended.items = q.items ∧ ended.dropped = q.dropped ∧
        ended.sent + ended.sendErrors = q.sent + q.sendErrors + 1 := by
      cases success
      · exact ⟨rfl, rfl, rfl, (Nat.add_assoc ..).symm⟩
      · exact ⟨rfl, rfl, rfl, Nat.add_right_comm ..⟩
    obtain ⟨hphases, hitems, hdropped, hcount⟩ := hparts
    have hnext : next.held? = none ∧ next.sent? = none := by
      cases cancelled <;> exact ⟨rfl, rfl⟩
    have hbefore := h.tended.inFlight_eq hk rfl
    have hafter := h.tended.inFlight_setPhase ended hk rfl next hphases
    have hheld := h.tended.heldPackets_setPhase ended hk rfl next hphases
    rw [hnext.1] at hheld
    rw [hnext.2] at hafter
    constructor
    · exact ht
    · exact h.order
    · exact h.removed
    · exact h.items.trans hitems.symm
    · exact (h.held_eq hk rfl).trans hheld.symm
    · exact h.given
    · change ended.sent + ended.sendErrors + (ended.setPhase k next).inFlight = _
      rw [hafter, hcount, ← h.counted, hbefore]
      rfl
    · exact hdropped.trans h.dropped
  · exact h

/-- Every step of the queue keeps the ledger true. -/
theorem act (h : Coherent q l) (a : Action) : Coherent (q.act a) (l.note q a) := by
  have ht := h.tended.act a
  cases a with
  | push p => exact h.push p
  | signal => exact h.of_unmoved ht (.signal q)
  | clear => exact h.clear
  | start =>
      refine h.of_unmoved ht ?_
      simp only [Queue.act]
      split
      · exact .refl q
      · exact .start q
  | requestStop =>
      refine h.of_unmoved ht ?_
      simp only [Queue.act]
      split
      · exact .refl q
      · exact .requestStop q
  | endStop =>
      refine h.of_unmoved ht ?_
      simp only [Queue.act]
      split
      · exact .endStop q
      · exact .refl q
  | look k => exact h.look k
  | consult k => exact h.of_unmoved ht (.consult k q)
  | rouse k => exact h.of_unmoved ht (.rouse k q)
  | heed k => exact h.of_unmoved ht (.heed k q)
  | pace k wake => exact h.of_unmoved ht (.pace k wake q)
  | pacePanicked k => exact h.pacePanicked k
  | paced k => exact h.of_unmoved ht (.paced k q)
  | putBack k => exact h.putBack k
  | handOver k call => exact h.handOver k call
  | sendEnded k success => exact h.sendEnded k success

theorem foldl_observe {s : Queue × Ledger} (h : Coherent s.1 s.2) (actions : List Action) :
    Coherent (actions.foldl observe s).1 (actions.foldl observe s).2 := by
  induction actions generalizing s with
  | nil => exact h
  | cons a actions ih => exact ih (h.act a)

end Coherent

theorem coherent_run {name : String} {config : Config} {q : Queue}
    (hq : create name config = .ok q) (actions : List Action) :
    Coherent (run actions q) (ledger actions q) := by
  have hblank : Coherent (q, Ledger.blank).1 (q, Ledger.blank).2 := .of_create hq
  have h := hblank.foldl_observe actions
  rw [fst_foldl_observe] at h
  exact h

theorem lost_note (q : Queue) (l : Ledger) {a : Action} (ha : ∀ k, a ≠ .pacePanicked k) :
    (l.note q a).lost = l.lost := by
  cases a with
  | pacePanicked k => exact absurd rfl (ha k)
  | push p => simp only [Ledger.note]; split <;> rfl
  | look k => simp only [Ledger.note]; split <;> rfl
  | putBack k => simp only [Ledger.note]; split <;> rfl
  | handOver k call => simp only [Ledger.note]; split <;> rfl
  | _ => rfl

theorem lost_foldl_observe {actions : List Action} (ha : ∀ k, .pacePanicked k ∉ actions)
    (s : Queue × Ledger) : (actions.foldl observe s).2.lost = s.2.lost := by
  induction actions generalizing s with
  | nil => rfl
  | cons a actions ih =>
      rw [List.foldl_cons, ih (fun k hk => ha k (List.mem_cons_of_mem _ hk))]
      exact lost_note s.1 s.2 (fun k hk => ha k (hk ▸ List.mem_cons_self))

/-- What the outside can tell of a run from the queue and the ledger. -/
structure DeliveredInOrder (q : Queue) (l : Ledger) : Prop where
  /-- Nothing is lost, repeated or overtaken. -/
  order : l.handed ++ l.held.toList ++ l.waiting = l.accepted.filter (fun t => t ∉ l.discarded)
  given : l.handed.map Ticket.packet = l.given
  held : l.held.toList.map Ticket.packet = q.heldPackets
  waiting : l.waiting.map Ticket.packet = q.items
  once : l.handed.Nodup
  refused : ∀ t ∈ l.refused, t ∉ l.handed
  inFlight : q.inFlight ≤ 1
  counted : q.sent + q.sendErrors + q.inFlight = l.handed.length
  dropped : q.dropped = l.refused.length

/-- Whatever the order of the steps, as long as the pacing function returns: the packets handed to
the sender, the one that is held and the waiting ones are the accepted packets in the order of
their acceptance, without the discarded ones, and the counters count them. -/
theorem accepted_delivered_in_order {name : String} {config : Config} {q : Queue}
    (hq : create name config = .ok q) (actions : List Action)
    (hpace : ∀ k, .pacePanicked k ∉ actions) :
    DeliveredInOrder (run actions q) (ledger actions q) := by
  have h := coherent_run hq actions
  have hlost : (ledger actions q).lost = [] := lost_foldl_observe hpace (q, Ledger.blank)
  have horder := h.order
  rw [hlost, List.append_nil] at horder
  have hline := (nodup_tickets true (ledger actions q).offers).filter
    (fun t => t ∉ (ledger actions q).discarded)
  have hhanded := (List.nodup_append.1 (List.nodup_append.1 (horder ▸ hline)).1).1
  refine ⟨horder, h.given, h.held, h.items, hhanded, ?_, h.tended.inFlight_le_one, h.counted,
    h.dropped⟩
  intro t hrefused ht
  have hyes := mem_tickets_iff.1
    (h.accepted_of_mem (List.mem_append_left _ (List.mem_append_left _ ht)))
  have hno := mem_tickets_iff.1 hrefused
  rw [hyes] at hno
  cases hno

/-- An idle queue with room for two packets. -/
def pair : Queue := ⟨"mesh", ⟨2⟩, [], 0, 0, 0, false, [], none, none⟩

/-- The third packet finds no room, a stop cuts the pause before the first one short, and a clear
comes while the first one is being sent by the next worker. -/
def restartRun : List Action := [
  .push ⟨#[1]⟩, .signal, .push ⟨#[2]⟩, .signal, .push ⟨#[3]⟩, .start, .look 0, .pace 0 (some 5),
  .push ⟨#[4]⟩, .signal, .requestStop, .putBack 0, .endStop, .start, .look 1, .pace 1 none,
  .handOver 1 ⟨9, Duration.zero, .done ()⟩, .clear, .push ⟨#[5]⟩, .signal]

theorem accepted_delivered_in_order_restartRun :
    create "mesh" ⟨2⟩ = .ok pair ∧ (∀ k, .pacePanicked k ∉ restartRun) ∧
      DeliveredInOrder (run restartRun pair) (ledger restartRun pair) ∧
      (ledger restartRun pair).handed.map Ticket.number = [0] ∧
      (ledger restartRun pair).discarded.map Ticket.number = [1, 3] ∧
      (ledger restartRun pair).waiting.map Ticket.number = [4] := by
  have hq : create "mesh" ⟨2⟩ = .ok pair := rfl
  have hpace : ∀ k, .pacePanicked k ∉ restartRun := by simp [restartRun]
  exact ⟨hq, hpace, accepted_delivered_in_order hq restartRun hpace, by decide, by decide,
    by decide⟩

end LinkReliability.Queue
