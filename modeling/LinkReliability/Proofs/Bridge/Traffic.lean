import LinkReliability.Bridge
import LinkReliability.Proofs.Link.Desk
import LinkReliability.Proofs.Monitor.Run
import Mathlib.Algebra.GroupWithZero.Nat

/-!
# What goes through a bridge

The links of a bridge work side by side and share one monitor. Whatever the order of their steps,
what the monitor has counted is what their queues have counted, and every packet that was let in is
accounted for.
-/

namespace LinkReliability

open Link (Desk Note notes isSuccess sendFailure?)

/-! ## What a note tells the monitor -/

theorem DirectionCounts.get_add (c : DirectionCounts) (d e : Direction) :
    (c.add d).get e = c.get e + if d = e then 1 else 0 := by
  cases d <;> cases e <;> rfl

namespace Link.Note

def reports (stamp : Reading) (l : Link) (n : Note) : List Monitor.ErrorReport :=
  n.failure?.toList.map (fun f => ⟨stamp, l.name, .failure f⟩)

end Link.Note

namespace Link

/-- The errors that notes add to the record of the monitor. -/
def reports (l : Link) (made : List (Reading × Note)) : List Monitor.ErrorReport :=
  made.flatMap (fun n => n.2.reports n.1 l)

theorem reports_eq (l : Link) (made : List (Reading × Note)) :
    (l.reports made).map (fun e => (e.service, e.fault)) =
      ((made.map Prod.snd).filterMap Note.failure?).map
        (fun f => (l.name, Monitor.Fault.failure f)) := by
  induction made with
  | nil => rfl
  | cons n made ih =>
      rw [reports, List.flatMap_cons, List.map_append, ← reports, ih, List.map_cons]
      cases hn : n.2.failure? <;> simp [Note.reports, hn]

/-- What notes change in the counters of the monitor and in its record of errors. -/
structure Told (l : Link) (made : List (Reading × Note)) (m m' : Monitor) : Prop where
  sent : ∀ d, m'.sent.get d =
    m.sent.get d + if l.outbound = d then (made.map Prod.snd).count (.message true) else 0
  failed : ∀ d, m'.failed.get d =
    m.failed.get d + if l.outbound = d then (made.map Prod.snd).count (.message false) else 0
  requeued : m'.requeued = m.requeued
  errorEvents : m'.errorEvents = m.errorEvents.pushAll
    ((l.reports made).map Monitor.ErrorReport.entry)

variable {l : Link}

theorem told_nil (m : Monitor) : Told l [] m m :=
  ⟨fun d => by simp, fun d => by simp, rfl, rfl⟩

theorem told_singleton (m : Monitor) (n : Reading × Note) :
    Told l [n] m (n.2.tellMonitor n.1 l m) := by
  obtain ⟨stamp, n⟩ := n
  cases n with
  | verdict success =>
      exact ⟨fun d => by simp [Note.tellMonitor], fun d => by simp [Note.tellMonitor], rfl, rfl⟩
  | message success =>
      cases success with
      | true =>
          refine ⟨fun d => ?_, fun d => by simp [Note.tellMonitor, Monitor.recordSent], rfl, rfl⟩
          exact DirectionCounts.get_add m.sent l.outbound d
      | false =>
          refine ⟨fun d => by simp [Note.tellMonitor, Monitor.recordFailed], fun d => ?_, rfl, rfl⟩
          exact DirectionCounts.get_add m.failed l.outbound d
  | error f =>
      exact ⟨fun d => by simp [Note.tellMonitor, Monitor.recordFailure, Monitor.recordCategorised],
        fun d => by simp [Note.tellMonitor, Monitor.recordFailure, Monitor.recordCategorised],
        rfl, rfl⟩

theorem Told.trans {made later : List (Reading × Note)} {m m' m'' : Monitor}
    (h : Told l made m m') (h' : Told l later m' m'') : Told l (made ++ later) m m'' where
  sent d := by
    rw [h'.sent, h.sent, List.map_append, List.count_append]
    split <;> omega
  failed d := by
    rw [h'.failed, h.failed, List.map_append, List.count_append]
    split <;> omega
  requeued := h'.requeued.trans h.requeued
  errorEvents := by
    rw [h'.errorEvents, h.errorEvents, reports, reports, reports, List.flatMap_append,
      List.map_append, RollingWindow.pushAll_append]

theorem told_foldl (m : Monitor) (made : List (Reading × Note)) :
    Told l made m (made.foldl (fun m n => n.2.tellMonitor n.1 l m) m) := by
  induction made generalizing m with
  | nil => exact told_nil m
  | cons n made ih => exact (told_singleton m n).trans (ih _)

end Link

/-! ## Traffic -/

structure Traffic where
  monitor : Monitor
  desks : List Desk
  /-- The errors that were reported, each with the number of its link. -/
  errors : List (Nat × Monitor.ErrorReport)

namespace Traffic

def begin (b : Bridge) : Traffic := ⟨b.monitor, b.links.map Desk.blank, []⟩

/-- A step at link `k`, which no other link has a part in. -/
def act (t : Traffic) (k : Nat) (a : Link.Action) : Traffic :=
  match t.desks[k]? with
  | none => t
  | some d =>
    { monitor := (d.made a).foldl (fun m n => n.2.tellMonitor n.1 d.link m) t.monitor
      desks := t.desks.set k (d.act a)
      errors := t.errors ++ (d.link.reports (d.made a)).map (fun e => (k, e)) }

def run (actions : List (Nat × Link.Action)) (t : Traffic) : Traffic :=
  actions.foldl (fun t a => t.act a.1 a.2) t

/-- The links as they stand. -/
def links (t : Traffic) : List Link := t.desks.map Desk.link

end Traffic

theorem Link.Note.tellMonitor_tellLink (stamp : Reading) (l : Link) (n later : Note) (m : Monitor) :
    later.tellMonitor stamp (n.tellLink stamp l) m = later.tellMonitor stamp l m := by
  rw [tellLink_eq]
  cases later with
  | message success => cases success <;> rfl
  | _ => rfl

namespace Traffic

variable {t : Traffic} {k worker : Nat} {d : Desk} {o : Outcome Unit}

theorem run_notes {rest : List Note} (hd : t.desks[k]? = some d)
    (hr : d.report = some ⟨worker, o, rest⟩) (stamp : Reading) :
    ∃ d', (t.run (List.replicate rest.length (k, .note stamp))).desks[k]? = some d' ∧
      d'.link = rest.foldl (Note.tellLink stamp) d.link ∧ d'.report = some ⟨worker, o, []⟩ ∧
      (t.run (List.replicate rest.length (k, .note stamp))).monitor =
        rest.foldl (Note.tellMonitor stamp d.link) t.monitor := by
  induction rest generalizing t d with
  | nil => exact ⟨d, hd, rfl, hr, rfl⟩
  | cons n rest ih =>
      have hlt : k < t.desks.length := (List.getElem?_eq_some_iff.1 hd).1
      have hmade : d.made (.note stamp) = [(stamp, n)] := by simp [Desk.made, Desk.due?, hr]
      have hact : d.act (.note stamp) = { d with
          link := n.tellLink stamp d.link
          report := some ⟨worker, o, rest⟩
          noted := d.noted ++ [n]
          calls := d.calls ++ n.calls stamp } := by simp [Desk.act, Desk.note, hr]
      have hdesk : (t.act k (.note stamp)).desks[k]? = some (d.act (.note stamp)) := by
        simp only [act, hd]
        exact List.getElem?_set_self hlt
      have hmonitor : (t.act k (.note stamp)).monitor = n.tellMonitor stamp d.link t.monitor := by
        simp [act, hd, hmade]
      obtain ⟨d', hd', hlink, hreport, hrest⟩ := ih hdesk (by rw [hact])
      refine ⟨d', hd', ?_, hreport, hrest.trans ?_⟩
      · rw [hlink, hact]
        rfl
      · have htell : Note.tellMonitor stamp (n.tellLink stamp d.link) =
            Note.tellMonitor stamp d.link := by
          funext m later
          exact Note.tellMonitor_tellLink stamp d.link n later m
        rw [hmonitor, hact, htell]
        rfl

/-- Without anything in between, the notes on a send are one report of it. -/
theorem run_report (hd : t.desks[k]? = some d) (hr : d.report = some ⟨worker, o, notes o⟩)
    (stamp : Reading) :
    ∃ d', (t.run (List.replicate (notes o).length (k, .note stamp))).desks[k]? = some d' ∧
      d'.report = some ⟨worker, o, []⟩ ∧
      (d'.link, (t.run (List.replicate (notes o).length (k, .note stamp))).monitor) =
        d.link.reportSend stamp o t.monitor := by
  obtain ⟨d', hd', hlink, hreport, hmonitor⟩ := run_notes hd hr stamp
  refine ⟨d', hd', hreport, ?_⟩
  rw [hlink, hmonitor, Link.reportSend_eq_notes]

end Traffic

/-- The messages of one direction that were reported at a desk. -/
def Link.Desk.messages (direction : Direction) (success : Bool) (d : Desk) : Nat :=
  if d.link.outbound = direction then d.noted.count (.message success) else 0

theorem sum_map_set {α : Type} (f : α → Nat) {l : List α} {k : Nat} {a : α} (h : l[k]? = some a)
    (b : α) : ((l.set k b).map f).sum + f a = (l.map f).sum + f b := by
  induction l generalizing k with
  | nil => cases h
  | cons c l ih =>
      cases k with
      | zero =>
          obtain rfl := Option.some.inj h
          simp only [List.set_cons_zero, List.map_cons, List.sum_cons]
          omega
      | succ k =>
          have := ih (k := k) h
          simp only [List.set_cons_succ, List.map_cons, List.sum_cons]
          omega

namespace Traffic

/-- The desks are true, and the monitor has heard of what was noted at them. -/
structure Sound (b : Bridge) (t : Traffic) : Prop where
  desks : ∀ k d, t.desks[k]? = some d → ∃ l, b.link? k = some l ∧ Desk.Sound l d
  sent : ∀ d, t.monitor.sent.get d = (t.desks.map (Desk.messages d true)).sum
  failed : ∀ d, t.monitor.failed.get d = (t.desks.map (Desk.messages d false)).sum
  requeued : t.monitor.requeued = 0
  errorEvents : t.monitor.errorEvents = b.monitor.errorEvents.pushAll
    (t.errors.map (fun e => e.2.entry))
  errors : ∀ k d, t.desks[k]? = some d →
    (t.errors.filter (fun e => e.1 = k)).map (fun e => (e.2.service, e.2.fault)) =
      (d.noted.filterMap Note.failure?).map (fun f => (d.link.name, .failure f))

theorem messages_act {l : Link} {d : Desk} (h : Desk.Sound l d) (a : Link.Action)
    (direction : Direction) (success : Bool) :
    (d.act a).messages direction success = d.messages direction success +
      if d.link.outbound = direction then ((d.made a).map Prod.snd).count (.message success)
      else 0 := by
  have hout : (d.act a).link.outbound = d.link.outbound :=
    (h.act a).outbound.trans h.outbound.symm
  unfold Desk.messages
  rw [hout, Desk.noted_act, List.count_append]
  split <;> rfl

theorem sum_messages_act {l : Link} {t : Traffic} {k : Nat} {d : Desk} (hd : t.desks[k]? = some d)
    (h : Desk.Sound l d) (a : Link.Action) (direction : Direction) (success : Bool) :
    ((t.desks.set k (d.act a)).map (Desk.messages direction success)).sum =
      (t.desks.map (Desk.messages direction success)).sum +
        if d.link.outbound = direction then ((d.made a).map Prod.snd).count (.message success)
        else 0 := by
  have hset := sum_map_set (Desk.messages direction success) hd (d.act a)
  rw [messages_act h] at hset
  omega

/-- The errors of other links are not touched. -/
theorem filter_reports (k j : Nat) (es : List Monitor.ErrorReport) :
    (es.map (fun e => (k, e))).filter (fun e => e.1 = j) =
      if k = j then es.map (fun e => (k, e)) else [] := by
  by_cases hkj : k = j <;> simp [hkj]

namespace Sound

variable {b : Bridge} {t : Traffic}

theorem act (h : Sound b t) (k : Nat) (a : Link.Action) : Sound b (t.act k a) := by
  unfold Traffic.act
  cases hd : t.desks[k]? with
  | none => exact h
  | some d =>
      obtain ⟨l, hl, hdesk⟩ := h.desks k d hd
      have htold := Link.told_foldl (l := d.link) t.monitor (d.made a)
      have hlt : k < t.desks.length := (List.getElem?_eq_some_iff.1 hd).1
      constructor
      · intro j d' hj
        by_cases hkj : k = j
        · subst hkj
          rw [List.getElem?_set_self hlt] at hj
          obtain rfl := Option.some.inj hj
          exact ⟨l, hl, hdesk.act a⟩
        · rw [List.getElem?_set_ne hkj] at hj
          exact h.desks j d' hj
      · intro direction
        rw [htold.sent, h.sent, sum_messages_act hd hdesk]
      · intro direction
        rw [htold.failed, h.failed, sum_messages_act hd hdesk]
      · exact htold.requeued.trans h.requeued
      · rw [htold.errorEvents, h.errorEvents, List.map_append, List.map_map,
          RollingWindow.pushAll_append]
        rfl
      · intro j d' hj
        rw [List.filter_append, List.map_append, filter_reports]
        by_cases hkj : k = j
        · subst hkj
          rw [List.getElem?_set_self hlt] at hj
          obtain rfl := Option.some.inj hj
          have hname : (d.act a).link.name = d.link.name :=
            (hdesk.act a).name.trans hdesk.name.symm
          rw [if_pos rfl, h.errors k d hd, List.map_map, Desk.noted_act, List.filterMap_append,
            List.map_append, hname, ← Link.reports_eq]
          rfl
        · rw [List.getElem?_set_ne hkj] at hj
          rw [if_neg hkj, List.map_nil, List.append_nil, h.errors j d' hj]

theorem run (h : Sound b t) (actions : List (Nat × Link.Action)) : Sound b (t.run actions) := by
  induction actions generalizing t with
  | nil => exact h
  | cons a actions ih => exact ih (h.act a.1 a.2)

end Sound

end Traffic

end LinkReliability
