import LinkReliability.Link
import LinkReliability.Proofs.Breaker.Eager
import LinkReliability.Proofs.Queue.Load
import LinkReliability.Proofs.Queue.Stopping

/-!
# What goes through a link

Callers submit packets to a link, its worker sends them, and what became of a send is told to the
breaker, to the monitor and at last to the queue. All of this happens in small steps, and the steps
of different callers, of the owner and of the worker come in any order. A desk is a link together
with the calls that were made of it and what came of them.
-/

namespace LinkReliability.Link

/-! ## New links -/

/-- A link as it is when it is created, with any strategy. -/
structure Fresh (c : Config) (l : Link) : Prop where
  breaker : Breaker.create l.name c.breaker = .ok l.breaker
  queue : Queue.create l.name c.queue = .ok l.queue

theorem fresh_of_create {name : String} {c : Config} {l : Link} (h : create name c = .ok l) :
    Fresh c l := by
  unfold create at h
  cases hb : Breaker.create name c.breaker with
  | error e => simp [hb, bind, Except.bind] at h
  | ok breaker =>
      cases hs : Reconnect.create name c.reconnect with
      | error e => simp [hb, hs, bind, Except.bind] at h
      | ok strategy =>
          cases hq : Queue.create name c.queue with
          | error e => simp [hb, hs, hq, bind, Except.bind] at h
          | ok queue =>
              rw [hb, hs, hq] at h
              obtain rfl := Except.ok.inj h
              exact ⟨hb, hq⟩

/-! ## The report of a send -/

/-- One of the things that are done with the outcome of a send. -/
inductive Note where
  | verdict (success : Bool)
  | message (success : Bool)
  | error (failure : Failure)
deriving DecidableEq

namespace Note

def tellLink (stamp : Reading) (l : Link) : Note → Link
  | verdict true => { l with breaker := l.breaker.recordSuccess }
  | verdict false => { l with breaker := l.breaker.recordFailure stamp.now }
  | message _ => l
  | error _ => l

def tellMonitor (stamp : Reading) (l : Link) (m : Monitor) : Note → Monitor
  | verdict _ => m
  | message true => m.recordSent stamp.now l.outbound
  | message false => m.recordFailed l.outbound false
  | error f => (m.recordFailure stamp l.name f).2

def verdict? : Note → Option Breaker.Operation
  | verdict true => some .recordSuccess
  | verdict false => some .recordFailure
  | _ => none

def failure? : Note → Option Failure
  | error f => some f
  | _ => none

end Note

/-- The call that is made of the breaker for a note, if there is one. -/
def Note.calls (stamp : Reading) (n : Note) : List Breaker.Event :=
  n.verdict?.toList.map (fun v => ⟨stamp.now, v⟩)

theorem Note.tellLink_eq (stamp : Reading) (l : Link) (n : Note) :
    n.tellLink stamp l = { l with breaker := l.breaker.run (n.calls stamp) } := by
  cases n with
  | verdict success => cases success <;> rfl
  | _ => rfl

theorem Note.writes_calls (stamp : Reading) (n : Note) :
    Breaker.writes (n.calls stamp) = n.calls stamp := by
  cases n with
  | verdict success => cases success <;> rfl
  | _ => rfl

/-- What is done with the outcome of a send, in order. -/
def notes (o : Outcome Unit) : List Note :=
  .verdict (isSuccess o) :: .message (isSuccess o) :: (sendFailure? o).toList.map .error

/-- Without anything in between, a report is made note by note. -/
theorem reportSend_eq_notes (stamp : Reading) (o : Outcome Unit) (l : Link) (m : Monitor) :
    l.reportSend stamp o m =
      ((notes o).foldl (Note.tellLink stamp) l, (notes o).foldl (Note.tellMonitor stamp l) m) := by
  cases o <;> rfl

/-! ## Desks -/

structure Report where
  worker : Nat
  outcome : Outcome Unit
  /-- What is still to be done. -/
  rest : List Note

structure Desk where
  link : Link
  /-- The callers that the breaker let in and that have not offered their packet yet. -/
  admitted : Nat
  /-- The callers whose packet was taken and that have not signalled yet. -/
  announcing : Nat
  /-- The answers that the callers got. -/
  answers : List (Except LinkError Unit)
  cleared : Nat
  /-- The report of the send that has ended last, until the queue counts it. -/
  report : Option Report
  /-- The outcomes that the queue has counted. -/
  counted : List (Outcome Unit)
  noted : List Note
  /-- The calls of the breaker. -/
  calls : List Breaker.Event

inductive Action where
  /-- A caller asks the breaker. -/
  | ask (now : Instant)
  | offer (p : Packet)
  | announce
  | clear
  /-- A step of the queue by itself. -/
  | step (a : Queue.Action)
  /-- The send of a worker comes to its end. -/
  | reply (worker : Nat)
  | note (stamp : Reading)
  | count

namespace Desk

def blank (l : Link) : Desk := ⟨l, 0, 0, [], 0, none, [], [], []⟩

def setQueue (d : Desk) (q : Queue) : Desk := { d with link := { d.link with queue := q } }

def ask (now : Instant) (d : Desk) : Desk :=
  let (allowed, breaker) := d.link.breaker.allowRequest now
  let asked : Desk := { d with
    link := { d.link with breaker := breaker }
    calls := d.calls ++ [⟨now, .allowRequest⟩] }
  if allowed then { asked with admitted := d.admitted + 1 }
  else { asked with answers := d.answers ++ [.error (.circuitOpen d.link.name)] }

def offer (p : Packet) (d : Desk) : Desk :=
  if d.admitted = 0 then d
  else
    match d.link.queue.push p with
    | (true, q) =>
      { d.setQueue q with admitted := d.admitted - 1, announcing := d.announcing + 1 }
    | (false, q) =>
      { d.setQueue q with
        admitted := d.admitted - 1
        answers := d.answers ++ [.error (.queueFull d.link.name)] }

def announce (d : Desk) : Desk :=
  if d.announcing = 0 then d
  else
    { d.setQueue d.link.queue.signal with
      announcing := d.announcing - 1
      answers := d.answers ++ [.ok ()] }

def clear (d : Desk) : Desk :=
  { d.setQueue d.link.queue.clear.2 with cleared := d.cleared + d.link.queue.clear.1 }

def reply (worker : Nat) (d : Desk) : Desk :=
  match d.report, d.link.queue.worker? worker with
  | none, some ⟨_, .sending _ call⟩ =>
    { d with report := some ⟨worker, call.outcome, notes call.outcome⟩ }
  | _, _ => d

/-- The note that is to be made next. -/
def due? (d : Desk) : Option Note := d.report.bind (fun r => r.rest.head?)

/-- The note that is made in a step, with the reading of the clock. -/
def made (d : Desk) : Action → List (Reading × Note)
  | .note stamp => d.due?.toList.map (fun n => (stamp, n))
  | _ => []

def note (stamp : Reading) (d : Desk) : Desk :=
  match d.report with
  | some ⟨worker, o, n :: rest⟩ =>
    { d with
      link := n.tellLink stamp d.link
      report := some ⟨worker, o, rest⟩
      noted := d.noted ++ [n]
      calls := d.calls ++ n.calls stamp }
  | _ => d

def count (d : Desk) : Desk :=
  match d.report with
  | some ⟨worker, o, []⟩ =>
    { d.setQueue (d.link.queue.sendEnded worker (isSuccess o)) with
      report := none
      counted := d.counted ++ [o] }
  | _ => d

/-- Steps that someone else has to take first change nothing. -/
def act (d : Desk) : Action → Desk
  | .ask now => d.ask now
  | .offer p => d.offer p
  | .announce => d.announce
  | .clear => d.clear
  | .step a => if a.isInner then d.setQueue (d.link.queue.act a) else d
  | .reply worker => d.reply worker
  | .note stamp => d.note stamp
  | .count => d.count

def run (actions : List Action) (d : Desk) : Desk := actions.foldl act d

/-- The steps of a caller, up to the answer. -/
def submission (now : Instant) (p : Packet) : Except LinkError Unit → List Action
  | .ok () => [.ask now, .offer p, .announce]
  | .error (.queueFull _) => [.ask now, .offer p]
  | .error _ => [.ask now]

/-- Without anything in between, a submission is these steps. -/
theorem run_submission (now : Instant) (p : Packet) (d : Desk) :
    d.run (submission now p (d.link.submit now p).1) =
      { d with
        link := (d.link.submit now p).2
        answers := d.answers ++ [(d.link.submit now p).1]
        calls := d.calls ++ [⟨now, .allowRequest⟩] } := by
  rcases hallow : d.link.breaker.allowRequest now with ⟨allowed, breaker⟩
  cases allowed with
  | false => simp [submit, hallow, submission, run, act, ask]
  | true =>
      rcases hpush : d.link.queue.push p with ⟨pushed, q⟩
      cases pushed <;>
        simp [submit, Queue.enqueue, hallow, hpush, submission, run, act, ask, offer, announce,
          setQueue]

theorem noted_act (d : Desk) (a : Action) :
    (d.act a).noted = d.noted ++ (d.made a).map Prod.snd := by
  cases a with
  | note stamp =>
      simp only [act, note, made, due?]
      split
      · next h => simp [h]
      · next h =>
          cases hr : d.report with
          | none => simp
          | some r =>
              obtain ⟨worker, o, rest⟩ := r
              cases rest with
              | nil => simp
              | cons n rest => exact absurd hr (h worker o n rest)
  | ask now =>
      simp only [act, ask, made]
      split <;> simp
  | offer p =>
      simp only [act, offer, made]
      split
      · simp
      · split <;> simp [setQueue]
  | announce =>
      simp only [act, announce, made]
      split <;> simp [setQueue]
  | clear => simp [act, clear, made, setQueue]
  | step a =>
      simp only [act, made]
      split <;> simp [setQueue]
  | reply worker =>
      simp only [act, reply, made]
      split <;> simp
  | count =>
      simp only [act, count, made]
      split <;> simp [setQueue]

/-! ## What a desk knows of its link -/

def unnoted (d : Desk) : List Note := d.report.elim [] (fun r => r.rest)

/-- The outcomes of the sends that have ended. -/
def outcomes (d : Desk) : List (Outcome Unit) := d.counted ++ d.report.toList.map Report.outcome

def isAccepted : Except LinkError Unit → Bool
  | .ok _ => true
  | .error _ => false

def isQueueFull : Except LinkError Unit → Bool
  | .error (.queueFull _) => true
  | _ => false

def accepted (answers : List (Except LinkError Unit)) : Nat := answers.countP isAccepted

def refused (answers : List (Except LinkError Unit)) : Nat := answers.countP isQueueFull

theorem accepted_concat (answers : List (Except LinkError Unit)) (a : Except LinkError Unit) :
    accepted (answers ++ [a]) = accepted answers + if isAccepted a then 1 else 0 := by
  rw [accepted, List.countP_append, List.countP_singleton, accepted]

theorem refused_concat (answers : List (Except LinkError Unit)) (a : Except LinkError Unit) :
    refused (answers ++ [a]) = refused answers + if isQueueFull a then 1 else 0 := by
  rw [refused, List.countP_append, List.countP_singleton, refused]

/-- The desk tells what has happened to its link since it was `l`. -/
structure Sound (l : Link) (d : Desk) : Prop where
  name : d.link.name = l.name
  outbound : d.link.outbound = l.outbound
  tended : d.link.queue.Tended
  load : accepted d.answers + d.announcing = d.link.queue.load + d.cleared
  dropped : refused d.answers = d.link.queue.dropped
  sent : d.link.queue.sent = d.counted.countP isSuccess
  sendErrors : d.link.queue.sendErrors = d.counted.countP (fun o => !isSuccess o)
  noted : d.noted ++ d.unnoted = d.outcomes.flatMap notes
  breaker : d.link.breaker = l.breaker.run d.calls
  verdicts : (Breaker.writes d.calls).map Breaker.Event.operation = d.noted.filterMap Note.verdict?
  sending : ∀ r ∈ d.report, ∃ cancelled p call,
    d.link.queue.worker? r.worker = some ⟨cancelled, .sending p call⟩ ∧ call.outcome = r.outcome

namespace Sound

variable {l : Link} {d : Desk}

theorem blank {l : Link} (h : l.queue.Tended) (hload : l.queue.load = 0)
    (hdropped : l.queue.dropped = 0) : Sound l (blank l) := by
  have hcounts : l.queue.sent = 0 ∧ l.queue.sendErrors = 0 := by
    unfold Queue.load at hload
    omega
  exact {
    name := rfl, outbound := rfl, tended := h, load := hload.symm, dropped := hdropped.symm
    sent := hcounts.1, sendErrors := hcounts.2, noted := rfl, breaker := rfl, verdicts := rfl
    sending := fun r hr => by cases hr }

/-- No send is disturbed by a step of the queue other than its end. -/
theorem sending_act (h : Sound l d) {a : Queue.Action}
    (ha : ∀ k success, a ≠ .sendEnded k success) :
    ∀ r ∈ d.report, ∃ cancelled p call,
      (d.link.queue.act a).worker? r.worker = some ⟨cancelled, .sending p call⟩ ∧
        call.outcome = r.outcome := by
  intro r hr
  obtain ⟨cancelled, p, call, hw, houtcome⟩ := h.sending r hr
  obtain ⟨cancelled', hw'⟩ := Queue.sending_act hw ha
  exact ⟨cancelled', p, call, hw', houtcome⟩

theorem noted_of_report (h : Sound l d) {r : Report} (hr : d.report = some r) :
    d.noted ++ r.rest = (d.counted ++ [r.outcome]).flatMap notes := by
  have hnoted := h.noted
  rw [unnoted, outcomes, hr] at hnoted
  exact hnoted

theorem noted_of_none (h : Sound l d) (hr : d.report = none) :
    d.noted = d.counted.flatMap notes := by
  have hnoted := h.noted
  rw [unnoted, outcomes, hr] at hnoted
  simpa using hnoted

theorem ask (h : Sound l d) (now : Instant) : Sound l (d.ask now) := by
  have hbreaker : (d.link.breaker.allowRequest now).2 =
      l.breaker.run (d.calls ++ [⟨now, .allowRequest⟩]) := by
    rw [Breaker.run_append, ← h.breaker]
    rfl
  have hverdicts : (Breaker.writes (d.calls ++ [⟨now, .allowRequest⟩])).map
      Breaker.Event.operation = d.noted.filterMap Note.verdict? := by
    rw [← h.verdicts, Breaker.writes, List.filter_append]
    exact congrArg _ (List.append_nil _)
  unfold Desk.ask
  cases hallow : d.link.breaker.allowRequest now with
  | mk allowed breaker =>
      rw [hallow] at hbreaker
      cases allowed with
      | true => exact { h with breaker := hbreaker, verdicts := hverdicts }
      | false =>
          refine { h with breaker := hbreaker, verdicts := hverdicts, load := ?_, dropped := ?_ }
          · exact (congrArg (· + d.announcing) (accepted_concat d.answers _)).trans h.load
          · exact (refused_concat d.answers _).trans h.dropped

theorem offer (h : Sound l d) (p : Packet) : Sound l (d.offer p) := by
  have htended : (d.link.queue.push p).2.Tended := h.tended.act (.push p)
  have hsending := h.sending_act (a := .push p) (by simp)
  have hbefore := h.load
  obtain ⟨hload, hdropped, hsent, herrors⟩ := Queue.push_counts p d.link.queue
  simp only [Queue.act] at hsending
  unfold Desk.offer
  split
  · exact h
  · cases hpush : d.link.queue.push p with
    | mk pushed q =>
        rw [hpush] at htended hsending hload hdropped hsent herrors
        cases pushed with
        | true =>
            refine { h with
              tended := htended, sending := hsending, load := ?_
              dropped := h.dropped.trans hdropped.symm
              sent := hsent.trans h.sent, sendErrors := herrors.trans h.sendErrors }
            change accepted d.answers + (d.announcing + 1) = q.load + d.cleared
            simp only [↓reduceIte] at hload
            omega
        | false =>
            refine { h with
              tended := htended, sending := hsending, load := ?_, dropped := ?_
              sent := hsent.trans h.sent, sendErrors := herrors.trans h.sendErrors }
            · change accepted (d.answers ++ [.error (.queueFull d.link.name)]) + d.announcing =
                q.load + d.cleared
              rw [accepted_concat, hload]
              exact hbefore
            · change refused (d.answers ++ [.error (.queueFull d.link.name)]) = q.dropped
              rw [refused_concat, h.dropped, hdropped]
              rfl

theorem announce (h : Sound l d) : Sound l d.announce := by
  have hkept := (Queue.Unmoved.signal d.link.queue).kept
  have hsending := h.sending_act (a := .signal) (by simp)
  have hbefore := h.load
  unfold Desk.announce
  split
  · exact h
  · next hsome =>
      refine { h with
        tended := h.tended.signal, sending := hsending, load := ?_, dropped := ?_
        sent := hkept.sent.trans h.sent, sendErrors := hkept.sendErrors.trans h.sendErrors }
      · change accepted (d.answers ++ [.ok ()]) + (d.announcing - 1) =
          d.link.queue.signal.load + d.cleared
        rw [accepted_concat, hkept.load]
        change accepted d.answers + 1 + (d.announcing - 1) = _
        omega
      · change refused (d.answers ++ [.ok ()]) = d.link.queue.signal.dropped
        rw [refused_concat, h.dropped, hkept.dropped]
        rfl

theorem clear (h : Sound l d) : Sound l d.clear := by
  have hload := Queue.load_clear d.link.queue
  have hbefore := h.load
  refine { h with
    tended := h.tended.act .clear, sending := h.sending_act (a := .clear) (by simp), load := ?_ }
  change accepted d.answers + d.announcing =
    d.link.queue.clear.2.load + (d.cleared + d.link.queue.clear.1)
  omega

theorem step (h : Sound l d) {a : Queue.Action} (ha : a.isInner = true) :
    Sound l (d.setQueue (d.link.queue.act a)) := by
  have hkept := h.tended.kept_act ha
  have hsending := h.sending_act (a := a) (by rintro k success rfl; cases ha)
  exact { h with
    tended := h.tended.act a, sending := hsending
    load := h.load.trans (congrArg (· + d.cleared) hkept.load.symm)
    dropped := h.dropped.trans hkept.dropped.symm
    sent := hkept.sent.trans h.sent, sendErrors := hkept.sendErrors.trans h.sendErrors }

theorem reply (h : Sound l d) (worker : Nat) : Sound l (d.reply worker) := by
  unfold Desk.reply
  split
  · next cancelled p call hreport hw =>
      refine { h with noted := ?_, sending := ?_ }
      · change d.noted ++ notes call.outcome = (d.counted ++ [call.outcome]).flatMap notes
        rw [List.flatMap_append, List.flatMap_singleton, h.noted_of_none hreport]
      · rintro r hr
        obtain rfl := Option.some.inj hr
        exact ⟨cancelled, p, call, hw, rfl⟩
  · exact h

theorem note (h : Sound l d) (stamp : Reading) : Sound l (d.note stamp) := by
  unfold Desk.note
  split
  · next worker o n rest hreport =>
      have hnoted := h.noted_of_report hreport
      rw [Note.tellLink_eq]
      refine { h with noted := ?_, breaker := ?_, verdicts := ?_, sending := ?_ }
      · change d.noted ++ [n] ++ rest = (d.counted ++ [o]).flatMap notes
        rw [List.append_assoc, List.singleton_append, hnoted]
      · rw [Breaker.run_append, ← h.breaker]
      · have hwrites : Breaker.writes (d.calls ++ n.calls stamp) =
            Breaker.writes d.calls ++ n.calls stamp := by
          rw [Breaker.writes, List.filter_append]
          exact congrArg _ (n.writes_calls stamp)
        have hverdict : (n.calls stamp).map Breaker.Event.operation = n.verdict?.toList := by
          rw [Note.calls, List.map_map]
          exact List.map_id _
        rw [hwrites, List.map_append, h.verdicts, hverdict, List.filterMap_append]
        cases hn : n.verdict? <;> simp [hn]
      · rintro r hr
        obtain rfl := Option.some.inj hr
        exact h.sending ⟨worker, o, n :: rest⟩ hreport
  · exact h

theorem count (h : Sound l d) : Sound l d.count := by
  unfold Desk.count
  split
  · next worker o hreport =>
      obtain ⟨cancelled, p, call, hw, -⟩ := h.sending _ hreport
      have hcounted := Queue.counted_sendEnded hw (isSuccess o)
      have hnoted := h.noted_of_report hreport
      refine { h with
        tended := h.tended.act (.sendEnded worker (isSuccess o)), load := ?_
        dropped := h.dropped.trans hcounted.dropped.symm, sent := ?_, sendErrors := ?_, noted := ?_
        sending := fun r hr => by cases hr }
      · exact h.load.trans (congrArg (· + d.cleared) (h.tended.load_sendEnded hw _).symm)
      · refine hcounted.sent.trans ?_
        rw [h.sent, List.countP_append, List.countP_singleton]
      · refine hcounted.sendErrors.trans ?_
        rw [h.sendErrors, List.countP_append, List.countP_singleton]
        cases isSuccess o <;> rfl
      · change d.noted ++ [] = (d.counted ++ [o] ++ []).flatMap notes
        rw [hnoted, List.append_nil]
  · exact h

/-- Every step is told truly. -/
theorem act (h : Sound l d) (a : Action) : Sound l (d.act a) := by
  cases a with
  | ask now => exact h.ask now
  | offer p => exact h.offer p
  | announce => exact h.announce
  | clear => exact h.clear
  | step a =>
      simp only [Desk.act]
      split
      · exact h.step ‹_›
      · exact h
  | reply worker => exact h.reply worker
  | note stamp => exact h.note stamp
  | count => exact h.count

end Sound

end Desk

end LinkReliability.Link
