import LinkReliability.Proofs.Queue.Delivery
import LinkReliability.Proofs.Queue.SoleWorker
import LinkReliability.Proofs.Queue.Stock
import Mathlib.Data.List.Induction

/-!
# Panics around a worker

A send that panics is a send that failed: it is counted, and the worker goes on with the next
packet. The pacing function is called without such care. When it panics the worker ends, the packet
in its hands is lost, and nothing is sent until the owner starts a new worker. These are the only
losses, and the only ends that no stop has asked for.
-/

namespace LinkReliability.Queue

/-- The worker ended in a panic. -/
def Phase.crashed? : Phase → Option Unit
  | finished .panicked => some ()
  | _ => none

/-- The number of workers that ended in a panic. -/
def crashes (q : Queue) : Nat := (q.phases.filterMap Phase.crashed?).length

variable {q r : Queue} {k : Nat} {now : Tick} {phase : Phase}

/-! ## Workers that have ended -/

theorem length_workers_act {a : Action} (ha : a ≠ .start) (q : Queue) :
    (q.act a).workers.length = q.workers.length := by
  cases howner : a.isOwners with
  | false => exact (sameOwner_act howner q).spawned
  | true =>
      cases a with
      | start => exact absurd rfl ha
      | requestStop =>
          simp only [act]
          split
          · rfl
          · exact List.length_modify ..
      | endStop =>
          simp only [act]
          split
          · rw [workers_endStop]
          · rfl
      | _ => cases howner

/-- A worker that was not there before is a new one. -/
theorem spawned_of_act {a : Action} {w : Worker} (hnone : q.worker? k = none)
    (hw : (q.act a).worker? k = some w) : w = .spawned ∧ a = .start := by
  have hlt := (List.getElem?_eq_some_iff.1 hw).1
  have hge : q.workers.length ≤ k := List.getElem?_eq_none_iff.1 hnone
  by_cases ha : a = .start
  · subst ha
    refine ⟨?_, rfl⟩
    simp only [act, start] at hw
    split_ifs at hw
    · cases hnone.symm.trans hw
    · cases hnone.symm.trans hw
    · rw [worker?, List.getElem?_append_right hge] at hw
      exact List.mem_singleton.1 (List.mem_of_getElem? hw)
  · rw [length_workers_act ha] at hlt
    omega

/-- Why a worker has ended: it was told to stop, or its pacing function has panicked. -/
def Ended (actions : List Action) (q : Queue) : Prop :=
  ∀ k cancelled e, q.worker? k = some ⟨cancelled, .finished e⟩ →
    (e = .returned ∧ cancelled = true) ∨ (e = .panicked ∧ .pacePanicked k ∈ actions)

/-- The step of a worker with which it ends. -/
theorem Step.ends {a : Action} (h : Step now k q a) {cancelled : Bool} {e : Exit}
    (hw : (q.act a).worker? k = some ⟨cancelled, .finished e⟩) :
    (e = .returned ∧ cancelled = true) ∨ (e = .panicked ∧ a = .pacePanicked k) := by
  obtain ⟨told, phase, next, -, hpass, hafter⟩ := h.worker?_act
  obtain ⟨rfl, rfl⟩ := Worker.mk.inj (Option.some.inj (hafter.symm.trans hw))
  generalize hnext : Phase.finished e = next at hpass
  cases hpass with
  | left hc => cases hnext; exact .inl ⟨rfl, hc⟩
  | roused hc => cases hnext; exact .inl ⟨rfl, hc⟩
  | gaveBack hc => cases hnext; exact .inl ⟨rfl, hc⟩
  | crashed => cases hnext; exact .inr ⟨rfl, rfl⟩
  | endedSend =>
      cases told with
      | true => cases hnext; exact .inl ⟨rfl, rfl⟩
      | false => cases hnext
  | _ => cases hnext

theorem Ended.act {actions : List Action} (h : Ended actions q) (a : Action) :
    Ended (actions ++ [a]) (q.act a) := by
  intro k cancelled e hw
  have hbefore {cancelled' : Bool} (hk : q.worker? k = some ⟨cancelled', .finished e⟩)
      (hc : cancelled' = true → cancelled = true) :
      (e = .returned ∧ cancelled = true) ∨ (e = .panicked ∧ .pacePanicked k ∈ actions ++ [a]) :=
    (h k cancelled' e hk).imp (fun hr => ⟨hr.1, hc hr.2⟩)
      (fun hp => ⟨hp.1, List.mem_append_left _ hp.2⟩)
  by_cases ha : a.author? = some k
  · rcases still_or_step ha q with hq | ⟨now, hstep⟩
    · exact hbefore (hq ▸ hw) id
    · exact (hstep.ends hw).imp_right (fun hp => ⟨hp.1, by simp [hp.2]⟩)
  · cases hq : q.worker? k with
    | none =>
        have hnew := (spawned_of_act hq hw).1
        cases hnew
    | some w =>
        obtain ⟨cancelled', phase⟩ := w
        obtain ⟨w', hw', hn⟩ := nudged_act ha hq
        obtain rfl := Option.some.inj (hw.symm.trans hw')
        rcases hn.phase with hsame | ⟨-, hwoken⟩
        · have hphase : Phase.finished e = phase := hsame
          subst hphase
          exact hbefore hq hn.cancelled
        · cases hwoken

theorem ended_run {name : String} {config : Config} (hq : create name config = .ok q)
    (actions : List Action) : Ended actions (q.run actions) := by
  induction actions using List.reverseRecOn with
  | nil =>
      obtain ⟨-, rfl⟩ := create_eq_ok hq
      intro k cancelled e hw
      cases hw
  | append_singleton actions a ih =>
      rw [run_append]
      exact ih.act a

/-! ## Packets in the hands of a worker that panics -/

theorem crashes_setPhase (hr : r.phases = q.phases) (hk : q.phases[k]? = some phase)
    (hl : phase.isFinished = false) {next : Phase} (hnext : next.crashed? = none) :
    (r.setPhase k next).crashes = q.crashes := by
  have hphase : phase.crashed? = none := by
    cases phase <;> first | rfl | cases hl
  rw [crashes, crashes, phases_setPhase, hr, filterMap_set_of_eq _ hk (hnext.trans hphase.symm)]

theorem crashes_signal (q : Queue) : q.signal.crashes = q.crashes := by
  unfold signal
  split
  · next j hs => exact crashes_setPhase rfl (sleeper?_phase hs) rfl rfl
  · rfl

theorem crashes_step {a : Action} (h : Step now k q a) (ha : a ≠ .pacePanicked k) :
    (q.act a).crashes = q.crashes := by
  obtain ⟨cancelled, phase, next, r, hw, hpass, hact, hworkers, -⟩ := h.passage
  have hk := phases_getElem?_of_worker? hw
  have hl : phase.isFinished = false := by cases hpass <;> rfl
  have hr : r.phases = q.phases := congrArg (List.map Worker.phase) hworkers
  have hnext : next.crashed? = none := by
    cases hpass with
    | crashed => exact absurd rfl ha
    | endedSend => cases cancelled <;> rfl
    | _ => rfl
  have hset := crashes_setPhase hr hk hl hnext
  rcases hact with hact | ⟨-, -, hact⟩
  · rw [hact, hset]
  · rw [hact, crashes_signal, hset]

/-- Nothing but a panic of the pacing function makes a worker crash. -/
theorem crashes_act {a : Action} (ha : ∀ k, a ≠ .pacePanicked k) :
    (q.act a).crashes = q.crashes := by
  cases hauthor : a.author? with
  | some k =>
      rcases still_or_step hauthor q with hq | ⟨now, hstep⟩
      · rw [hq]
      · exact crashes_step hstep (ha k)
  | none =>
      have hof (hp : (q.act a).phases = q.phases) : (q.act a).crashes = q.crashes := by
        rw [crashes, crashes, hp]
      cases a with
      | push p =>
          refine hof ?_
          simp only [act, push]
          split <;> rfl
      | signal => exact crashes_signal q
      | clear => rfl
      | start =>
          simp only [act, start]
          split_ifs
          · rfl
          · rfl
          · simp [crashes, phases, Worker.spawned, Phase.crashed?]
      | requestStop =>
          refine hof ?_
          simp only [act]
          split
          · rfl
          · exact phases_cancel q
      | endStop =>
          refine hof ?_
          simp only [act, endStop]
          split
          · split <;> rfl
          · rfl
      | _ => cases hauthor

theorem length_filterMap_set {α β : Type} (f : α → Option β) {l : List α} {i : Nat} {a b : α}
    {y : β} (hi : l[i]? = some a) (ha : f a = none) (hb : f b = some y) :
    ((l.set i b).filterMap f).length = (l.filterMap f).length + 1 := by
  induction l generalizing i with
  | nil => simp at hi
  | cons c l ih =>
      cases i with
      | zero =>
          obtain rfl : c = a := by simpa using hi
          simp [ha, hb]
      | succ i =>
          have hrest := ih (by simpa using hi)
          rw [List.set_cons_succ, List.filterMap_cons, List.filterMap_cons]
          split
          · exact hrest
          · rw [List.length_cons, List.length_cons, hrest]

theorem crashes_pacePanicked {cancelled : Bool} {p : Packet}
    (hw : q.worker? k = some ⟨cancelled, .holding p⟩) :
    (q.pacePanicked k).crashes = q.crashes + 1 := by
  simp only [pacePanicked, hw]
  rw [crashes, crashes, phases_setPhase]
  exact length_filterMap_set _ (phases_getElem?_of_worker? hw) rfl rfl

/-- Every crash takes one packet with it, and nothing else is lost. -/
theorem Coherent.lost_act {l : Ledger} (h : Coherent q l) (hlost : l.lost.length = q.crashes)
    (a : Action) : (l.note q a).lost.length = (q.act a).crashes := by
  by_cases ha : ∃ k, a = .pacePanicked k
  · obtain ⟨k, rfl⟩ := ha
    by_cases hw : ∃ cancelled p, q.worker? k = some ⟨cancelled, .holding p⟩
    · obtain ⟨cancelled, p, hw⟩ := hw
      obtain ⟨t, ht, -⟩ := h.held_some (phases_getElem?_of_worker? hw) rfl rfl
      have hnote : (l.note q (.pacePanicked k)).lost = l.lost ++ [t] := by
        simp only [Ledger.note, hw, ht, Option.toList_some]
      rw [hnote, List.length_append, hlost]
      exact (crashes_pacePanicked hw).symm
    · obtain ⟨hq, hl⟩ := Coherent.pacePanicked_idle l hw
      rw [hl]
      exact hlost.trans (congrArg crashes hq.symm)
  · have hnone : ∀ k, a ≠ .pacePanicked k := fun k hk => ha ⟨k, hk⟩
    rw [lost_note q l hnone, crashes_act hnone, hlost]

theorem length_lost_foldl {s : Queue × Ledger} (h : Coherent s.1 s.2)
    (hlost : s.2.lost.length = s.1.crashes) (actions : List Action) :
    (actions.foldl observe s).2.lost.length = (actions.foldl observe s).1.crashes := by
  induction actions generalizing s with
  | nil => exact hlost
  | cons a actions ih => exact ih (h.act a) (h.lost_act hlost a)

theorem length_lost_run {name : String} {config : Config} (hq : create name config = .ok q)
    (actions : List Action) : (ledger actions q).lost.length = (q.run actions).crashes := by
  have hblank : Coherent (q, Ledger.blank).1 (q, Ledger.blank).2 := .of_create hq
  have hnone : (q, Ledger.blank).2.lost.length = (q, Ledger.blank).1.crashes := by
    obtain ⟨-, rfl⟩ := create_eq_ok hq
    rfl
  have h := length_lost_foldl hblank hnone actions
  rw [fst_foldl_observe] at h
  exact h

/-! ## After a send -/

section Turns

variable {steps : List Action} {cancelled : Bool} {p : Packet} {a : Action}

theorem Step.of_looking (hw : q.worker? k = some ⟨cancelled, .looking⟩) (h : Step now k q a) :
    a = .look k := by
  cases h <;> simp_all

theorem Step.of_holding (hw : q.worker? k = some ⟨cancelled, .holding p⟩) (h : Step now k q a) :
    (∃ wake, a = .pace k wake) ∨ a = .pacePanicked k := by
  cases h <;> simp_all

theorem Step.of_ready (hw : q.worker? k = some ⟨cancelled, .ready p⟩) (h : Step now k q a) :
    ∃ call, a = .handOver k call := by
  cases h <;> simp_all

theorem handed_cons {more : List Packet} (ha : handedBy k q a = [])
    (h : handed k steps (q.act a) = more) : handed k (a :: steps) q = more := by
  rw [handed, ha, h]
  rfl

theorem Turn.of_ready (hw : q.worker? k = some ⟨cancelled, .ready p⟩) (h : Turn now k q steps) :
    ∃ more, handed k steps q = p :: more := by
  cases steps with
  | nil => exact absurd (.handOver hw ⟨now, Duration.zero, .done ()⟩) (h _)
  | cons a rest =>
      obtain ⟨call, rfl⟩ := h.1.of_ready hw
      refine ⟨handed k rest (q.act (.handOver k call)), ?_⟩
      rw [handed]
      simp only [handedBy, hw, ↓reduceIte]
      rfl

/-- A worker hands its packet over as soon as the pause is over, unless it was told to stop. -/
theorem Turn.of_paced {wake : Tick} (hw : q.worker? k = some ⟨false, .pacing p wake⟩)
    (hwake : wake ≤ now) (h : Turn now k q steps) : ∃ more, handed k steps q = p :: more := by
  cases steps with
  | nil => exact absurd (.paced hw hwake) (h _)
  | cons a rest =>
      rcases h.1.of_pacing hw with ⟨-, hcancelled⟩ | ⟨rfl, -⟩
      · cases hcancelled
      · have hready : (q.act (.paced k)).worker? k = some ⟨false, .ready p⟩ := by
          simp only [Queue.act, paced, hw]
          exact worker?_setPhase_self hw _
        exact (Turn.of_ready hready h.2).imp (fun _ hmore => handed_cons rfl hmore)

/-- What a turn comes to in which a worker has packet `p` to send: the packet is passed to the
sender, or the worker is in the pause before it, which is not over yet. -/
def Proceeds (now : Tick) (k : Nat) (p : Packet) (q : Queue) (steps : List Action) : Prop :=
  (∃ more, handed k steps q = p :: more) ∨
    ∃ wake, (q.run steps).worker? k = some ⟨false, .pacing p wake⟩ ∧ now < wake

theorem Turn.of_holding (hw : q.worker? k = some ⟨false, .holding p⟩) (h : Turn now k q steps)
    (hpace : .pacePanicked k ∉ steps) : Proceeds now k p q steps := by
  cases steps with
  | nil => exact absurd (.pace hw none) (h _)
  | cons a rest =>
      rcases h.1.of_holding hw with ⟨wake, rfl⟩ | rfl
      · have hto (next : Phase) := worker?_setPhase_self hw next
        cases wake with
        | none =>
            have hready : (q.act (.pace k none)).worker? k = some ⟨false, .ready p⟩ := by
              simp only [Queue.act, pace, hw]
              exact hto _
            exact .inl ((Turn.of_ready hready h.2).imp (fun _ hmore => handed_cons rfl hmore))
        | some wake =>
            have hpacing : (q.act (.pace k (some wake))).worker? k =
                some ⟨false, .pacing p wake⟩ := by
              simp only [Queue.act, pace, hw]
              exact hto _
            rcases Nat.lt_or_ge now wake with hlater | hnow
            · right
              cases rest with
              | nil => exact ⟨wake, hpacing, hlater⟩
              | cons b rest =>
                  rcases h.2.1.of_pacing hpacing with ⟨-, hcancelled⟩ | ⟨-, hle⟩
                  · cases hcancelled
                  · exact absurd hle (Nat.not_le.2 hlater)
            · exact .inl ((Turn.of_paced hpacing hnow h.2).imp (fun _ hmore => handed_cons rfl hmore))
      · exact absurd (List.mem_cons_self) hpace

theorem Proceeds.cons {a : Action} (h : Proceeds now k p (q.act a) steps)
    (ha : handedBy k q a = []) : Proceeds now k p q (a :: steps) :=
  h.imp_left (fun hhanded => hhanded.imp (fun _ hmore => handed_cons ha hmore))

theorem Turn.of_looking {rest : List Packet} (hw : q.worker? k = some ⟨false, .looking⟩)
    (hitems : q.items = p :: rest) (h : Turn now k q steps) (hpace : .pacePanicked k ∉ steps) :
    Proceeds now k p q steps := by
  cases steps with
  | nil => exact absurd (.look hw) (h _)
  | cons a later =>
      obtain rfl := h.1.of_looking hw
      have hholding : (q.act (.look k)).worker? k = some ⟨false, .holding p⟩ := by
        have hw' : { q with items := rest }.worker? k = some ⟨false, .looking⟩ := hw
        simp only [Queue.act, look, hw, hitems]
        exact worker?_setPhase_self hw' _
      have hlater : .pacePanicked k ∉ later := fun hmem => hpace (List.mem_cons_of_mem _ hmem)
      exact (Turn.of_holding hholding h.2 hlater).cons rfl

/-- However a send ends, in a panic or otherwise, the worker goes on with the next packet. -/
theorem Turn.of_ended_send {p₀ : Packet} {call : Call Unit} {rest : List Packet}
    (hw : q.worker? k = some ⟨false, .sending p₀ call⟩) (hends : call.ends ≤ now)
    (hitems : q.items = p :: rest) (h : Turn now k q steps) (hpace : .pacePanicked k ∉ steps) :
    Proceeds now k p q steps := by
  cases steps with
  | nil => exact absurd (.sendEnded hw hends true) (h _)
  | cons a later =>
      obtain ⟨success, rfl, -⟩ := h.1.of_sending hw
      have hlater : .pacePanicked k ∉ later := fun hmem => hpace (List.mem_cons_of_mem _ hmem)
      have hnext : (q.act (.sendEnded k success)).items = p :: rest :=
        (counted_sendEnded hw success).items.trans hitems
      exact (Turn.of_looking (worker?_sendEnded hw success) hnext h.2 hlater).cons rfl

end Turns

/-! ## After the last worker has ended -/

/-- Only a start brings a worker about that has not ended. -/
theorem unfinished_of_act {a : Action} (ha : a ≠ .start) (h : (q.act a).Unfinished k) :
    q.Unfinished k := by
  obtain ⟨w', hw', hl⟩ := h
  cases hw : q.worker? k with
  | none => exact absurd (spawned_of_act hw hw').2 ha
  | some w =>
      by_cases hauthor : a.author? = some k
      · rcases still_or_step hauthor q with hq | ⟨now, hstep⟩
        · exact ⟨w', hq ▸ hw', hl⟩
        · exact hstep.unfinished
      · obtain ⟨w'', hw'', hn⟩ := nudged_act hauthor hw
        obtain rfl := Option.some.inj (hw'.symm.trans hw'')
        refine ⟨w, hw, ?_⟩
        rw [isFinished_eq_phase] at hl ⊢
        rcases hn.phase with hsame | ⟨hasleep, -⟩
        · rw [← hsame, hl]
        · rw [hasleep]
          rfl

theorem begun_run_of_ended (ht : Tended q) (hended : ∀ k, ¬ q.Unfinished k) {actions : List Action}
    (hstart : .start ∉ actions) : (q.run actions).begun = q.begun := by
  induction actions generalizing q with
  | nil => rfl
  | cons a actions ih =>
      obtain ⟨ha, hrest⟩ := List.ne_and_not_mem_of_not_mem_cons hstart
      have hnext : ∀ k, ¬ (q.act a).Unfinished k :=
        fun k hk => hended k (unfinished_of_act (Ne.symm ha) hk)
      have hidle : q.handsOver a = false := by
        rw [Bool.eq_false_iff]
        intro hover
        cases a with
        | handOver k call =>
            obtain ⟨cancelled, p, hw⟩ := handsOver_iff.1 hover
            exact hended k ⟨_, hw, rfl⟩
        | _ => cases hover
      rw [run_cons, ih (ht.act a) hnext hrest, ht.begun_act, hidle]
      rfl

/-! ## The account of the panics -/

/-- A send that ends in a panic is counted as an error. -/
theorem stepWorker?_of_send_panicked {cancelled : Bool} {p : Packet} {call : Call Unit}
    {message : Option String} (hw : q.worker? k = some ⟨cancelled, .sending p call⟩)
    (hends : call.ends ≤ now) (hcall : call.outcome = .panicked message) (run : QueueRun) :
    ∃ run', stepWorker? QueueRun.surroundings now k q run =
        some (q.act (.sendEnded k false), run') ∧
      (q.act (.sendEnded k false)).sendErrors = q.sendErrors + 1 := by
  refine ⟨(QueueRun.surroundings.finish call run).2, ?_, (counted_sendEnded hw false).sendErrors⟩
  simp only [stepWorker?, hw, if_pos hends, QueueRun.surroundings, hcall, Queue.act]

/-- What panics can and cannot do to a run. -/
structure PanicsAccounted (actions : List Action) (q : Queue) (l : Ledger) : Prop where
  ended : Ended actions q
  /-- An accepted packet was handed over, is held or waits, unless it was discarded, or lost with
  the worker that held it. -/
  order : l.handed ++ l.held.toList ++ l.waiting =
    l.accepted.filter (fun t => t ∉ l.discarded ++ l.lost)
  held : l.held.toList.map Ticket.packet = q.heldPackets
  waiting : l.waiting.map Ticket.packet = q.items
  counted : q.sent + q.sendErrors + q.inFlight = l.handed.length
  lost : l.lost.length = q.crashes
  sendPanic : ∀ {k now cancelled p call message}, q.worker? k = some ⟨cancelled, .sending p call⟩ →
    call.ends ≤ now → call.outcome = .panicked message → ∀ run, ∃ run',
      stepWorker? QueueRun.surroundings now k q run = some (q.act (.sendEnded k false), run') ∧
        (q.act (.sendEnded k false)).sendErrors = q.sendErrors + 1
  /-- A send that has ended in whatever way is followed by the next packet. -/
  afterSend : ∀ {k now p₀ call p rest steps}, q.worker? k = some ⟨false, .sending p₀ call⟩ →
    call.ends ≤ now → q.items = p :: rest → Turn now k q steps → .pacePanicked k ∉ steps →
      Proceeds now k p q steps
  afterPause : ∀ {k now p wake steps}, q.worker? k = some ⟨false, .pacing p wake⟩ → wake ≤ now →
    Turn now k q steps → ∃ more, handed k steps q = p :: more

/-- Whatever panics and whenever it does: a worker that was not told to stop ends in a panic of the
pacing function only, such an end loses the one packet that the worker holds, and no other packet
is ever lost. A panic of a send is counted as an error, and the next packet follows. -/
theorem panics_accounted {name : String} {config : Config} (hq : create name config = .ok q)
    (actions : List Action) : PanicsAccounted actions (q.run actions) (ledger actions q) := by
  have h := coherent_run hq actions
  exact {
    ended := ended_run hq actions
    order := h.order
    held := h.held
    waiting := h.items
    counted := h.counted
    lost := length_lost_run hq actions
    sendPanic := stepWorker?_of_send_panicked
    afterSend := Turn.of_ended_send
    afterPause := Turn.of_paced }

/-- The first send fails, the pacing function panics over the second packet, and the owner starts a
new worker for the third. -/
def twoPanicsRun : List Action := [
  .push ⟨#[1]⟩, .signal, .push ⟨#[2]⟩, .signal, .start, .look 0, .pace 0 none,
  .handOver 0 ⟨3, Duration.zero, .panicked (some "radio")⟩, .push ⟨#[3]⟩, .signal,
  .sendEnded 0 false, .look 0, .pacePanicked 0, .start, .look 1, .pace 1 none,
  .handOver 1 ⟨9, Duration.zero, .done ()⟩]

theorem panics_accounted_twoPanicsRun :
    create "mesh" ⟨2⟩ = .ok pair ∧
      PanicsAccounted twoPanicsRun (pair.run twoPanicsRun) (ledger twoPanicsRun pair) ∧
      (ledger twoPanicsRun pair).handed.map Ticket.number = [0, 2] ∧
      (ledger twoPanicsRun pair).lost.map Ticket.number = [1] ∧
      (pair.run twoPanicsRun).sendErrors = 1 := by
  have hq : create "mesh" ⟨2⟩ = .ok pair := rfl
  exact ⟨hq, panics_accounted hq twoPanicsRun, by decide, by decide, by decide⟩

/-- The pacing function panics over the first of two packets. -/
def pacingPanicRun : List Action := [
  .push ⟨#[1]⟩, .signal, .push ⟨#[2]⟩, .signal, .start, .look 0, .pacePanicked 0]

/-- The worker ends although nobody stops it, the packet that it held is neither queued, held,
handed over nor discarded, and the one behind it is not handed over as long as nobody starts
another worker. -/
theorem packet_lost_pacingPanicRun :
    create "mesh" ⟨2⟩ = .ok pair ∧ .requestStop ∉ pacingPanicRun ∧
      (pair.run pacingPanicRun).worker? 0 = some ⟨false, .finished .panicked⟩ ∧
      (pair.run pacingPanicRun).isRunning = false ∧
      (∃ t ∈ (ledger pacingPanicRun pair).accepted,
        t ∉ (ledger pacingPanicRun pair).waiting ∧ (ledger pacingPanicRun pair).held = none ∧
          t ∉ (ledger pacingPanicRun pair).handed ∧ t ∉ (ledger pacingPanicRun pair).discarded) ∧
      (pair.run pacingPanicRun).items = [⟨#[2]⟩] ∧
      ∀ later, .start ∉ later → (pair.run (pacingPanicRun ++ later)).begun = 0 := by
  have hq : create "mesh" ⟨2⟩ = .ok pair := rfl
  refine ⟨hq, by simp [pacingPanicRun], rfl, by decide,
    ⟨⟨0, ⟨#[1]⟩⟩, by decide, by decide, by decide, by decide, by decide⟩, by decide, ?_⟩
  intro later hstart
  have hended : ∀ k, ¬ (pair.run pacingPanicRun).Unfinished k := by
    rintro k ⟨w, hw, hl⟩
    obtain rfl := List.mem_singleton.1 (List.mem_of_getElem? hw)
    cases hl
  rw [run_append, begun_run_of_ended (coherent_run hq pacingPanicRun).tended hended hstart]
  rfl

end LinkReliability.Queue
