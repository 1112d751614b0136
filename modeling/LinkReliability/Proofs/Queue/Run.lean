import LinkReliability.Queue
import Mathlib.Data.List.Basic

/-!
# Runs of a queue

Producers, the owner and the workers of a queue take atomic steps in any order. A step that its
author cannot take at that point changes nothing, so every list of steps is a run. The statements
here say which parts of the state each step can touch, and that at most one worker is unfinished.
-/

namespace LinkReliability.Queue

/-- An accepted packet is added by `push` and announced by a `signal` some time later. -/
inductive Action where
  | push (p : Packet)
  | signal
  | clear
  | start
  | requestStop
  | endStop
  | look (k : Nat)
  | consult (k : Nat)
  | rouse (k : Nat)
  | heed (k : Nat)
  | pace (k : Nat) (wake : Option Tick)
  | pacePanicked (k : Nat)
  | paced (k : Nat)
  | putBack (k : Nat)
  | handOver (k : Nat) (call : Call Unit)
  | sendEnded (k : Nat) (success : Bool)
deriving DecidableEq

/-- The owner waits for a stop to end, sooner or later, before starting or stopping again. -/
def act (q : Queue) : Action → Queue
  | .push p => (q.push p).2
  | .signal => q.signal
  | .clear => q.clear.2
  | .start => if q.awaited.isSome then q else q.start
  | .requestStop => if q.awaited.isSome then q else q.requestStop
  | .endStop => if q.awaited.isSome then q.endStop else q
  | .look k => q.look k
  | .consult k => q.consult k
  | .rouse k => q.rouse k
  | .heed k => q.heed k
  | .pace k wake => q.pace k wake
  | .pacePanicked k => q.pacePanicked k
  | .paced k => q.paced k
  | .putBack k => q.putBack k
  | .handOver k call => q.handOver k call
  | .sendEnded k success => q.sendEnded k success

def run (actions : List Action) (q : Queue) : Queue := actions.foldl act q

/-- Adding a packet is a push, and a signal if there was room. -/
theorem enqueue_eq_run (p : Packet) (q : Queue) :
    q.enqueue p = ((q.push p).1, q.run (if (q.push p).1 then [.push p, .signal] else [.push p])) := by
  unfold enqueue
  rcases hp : q.push p with ⟨_ | _, q'⟩
  · simp [run, act, hp]
  · simp [run, act, hp]

theorem create_eq_ok {name : String} {config : Config} {q : Queue}
    (hq : create name config = .ok q) :
    config.validate = .ok () ∧ q = ⟨name, config, [], 0, 0, 0, false, [], none, none⟩ := by
  unfold create at hq
  cases hv : config.validate with
  | error e => simp [hv, bind, Except.bind] at hq
  | ok u =>
      rw [hv] at hq
      exact ⟨rfl, (Except.ok.inj hq).symm⟩

/-! ## Where the workers stand -/

def Phase.isFinished : Phase → Bool
  | finished _ => true
  | _ => false

/-- The packet of a send under way. -/
def Phase.sent? : Phase → Option Packet
  | sending p _ => some p
  | _ => none

def phases (q : Queue) : List Phase := q.workers.map Worker.phase

/-- The packets that the workers hold, taken and not handed over. -/
def heldPackets (q : Queue) : List Packet := q.phases.filterMap Phase.held?

/-- The number of sends under way. -/
def inFlight (q : Queue) : Nat := (q.phases.filterMap Phase.sent?).length

theorem isFinished_eq_phase (w : Worker) : w.isFinished = w.phase.isFinished := by
  obtain ⟨_, phase⟩ := w
  cases phase <;> rfl

theorem phases_getElem?_of_worker? {q : Queue} {k : Nat} {w : Worker} (hw : q.worker? k = some w) :
    q.phases[k]? = some w.phase := by
  have hg : q.workers[k]? = some w := hw
  simp [phases, hg]

@[simp] theorem phases_setPhase (q : Queue) (k : Nat) (phase : Phase) :
    (q.setPhase k phase).phases = q.phases.set k phase := by
  apply List.ext_getElem?
  intro j
  by_cases hj : k = j
  · subst j
    by_cases hk : k < q.workers.length <;> simp [phases, setPhase, hk]
  · simp [phases, setPhase, hj]

@[simp] theorem phases_cancel (q : Queue) : q.cancel.phases = q.phases := by
  apply List.ext_getElem?
  intro j
  simp only [phases, cancel, List.getElem?_map, List.getElem?_modify]
  cases q.workers[j]? <;> simp
  split <;> rfl

/-- A phase that is replaced by one with the same contribution leaves the contributions alone. -/
theorem filterMap_set_of_eq {α β : Type} (f : α → Option β) {l : List α} {k : Nat} {a b : α}
    (ha : l[k]? = some a) (hab : f b = f a) : (l.set k b).filterMap f = l.filterMap f := by
  induction l generalizing k with
  | nil => simp at ha
  | cons c l ih =>
      cases k with
      | zero =>
          obtain rfl : c = a := by simpa using ha
          simp [List.filterMap_cons, hab]
      | succ k => simp [List.filterMap_cons, ih (by simpa using ha)]

/-! ## The sole worker -/

/-- The worker whose end the owner waits for, or else the one it tracks. -/
def known (q : Queue) : Option Nat := q.awaited.or q.tracked

/-- Every worker that the owner does not know of has ended. -/
structure Tended (q : Queue) : Prop where
  live : ∀ k phase, q.phases[k]? = some phase → phase.isFinished = false → q.known = some k
  untracked : q.awaited.isSome → q.tracked = none

theorem sleeper?_phase {q : Queue} {k : Nat} (hs : q.sleeper? = some k) :
    q.phases[k]? = some (.asleep false) := by
  obtain ⟨hk, hp, _⟩ := List.findIdx?_eq_some_iff_getElem.1 hs
  have hasleep : q.workers[k].phase = .asleep false := by simpa using hp
  simp [phases, List.getElem?_eq_getElem hk, hasleep]

theorem awaitedExit?_phase {q : Queue} {k : Nat} {e : Exit} (ha : q.awaited = some k)
    (he : q.awaitedExit? = some e) : q.phases[k]? = some (.finished e) := by
  cases hw : q.worker? k with
  | none => simp [awaitedExit?, ha, hw] at he
  | some w =>
      obtain ⟨cancelled, phase⟩ := w
      rw [phases_getElem?_of_worker? hw]
      cases phase <;> simp_all [awaitedExit?]

namespace Tended

variable {q : Queue} {k : Nat} {phase : Phase}

theorem of_create {name : String} {config : Config} (hq : create name config = .ok q) :
    Tended q := by
  obtain ⟨-, rfl⟩ := create_eq_ok hq
  exact ⟨fun k phase hk => by simp [phases] at hk, fun ha => by cases ha⟩

theorem of_parts {r : Queue} (h : Tended q) (hp : r.phases = q.phases) (ht : r.tracked = q.tracked)
    (ha : r.awaited = q.awaited) : Tended r := by
  refine ⟨fun k phase hk hl => ?_, fun hs => ?_⟩
  · rw [known, ht, ha]
    exact h.live k phase (hp ▸ hk) hl
  · rw [ht]
    exact h.untracked (ha ▸ hs)

/-- A step of a worker that has not ended. -/
theorem setPhase (h : Tended q) (hk : q.phases[k]? = some phase) (hl : phase.isFinished = false)
    (next : Phase) : Tended (q.setPhase k next) := by
  refine ⟨fun j other hj ho => ?_, h.untracked⟩
  rw [phases_setPhase] at hj
  by_cases hjk : k = j
  · subst j
    exact h.live k phase hk hl
  · rw [List.getElem?_set_ne hjk] at hj
    exact h.live j other hj ho

theorem setPhase_of {r : Queue} (h : Tended q) (hp : r.phases = q.phases)
    (ht : r.tracked = q.tracked) (ha : r.awaited = q.awaited) (hk : q.phases[k]? = some phase)
    (hl : phase.isFinished = false) (next : Phase) : Tended (r.setPhase k next) :=
  (h.of_parts hp ht ha).setPhase (hp ▸ hk) hl next

/-- All that the workers contribute comes from the one that has not ended. -/
theorem filterMap_set {β : Type} (h : Tended q) (f : Phase → Option β)
    (hf : ∀ e, f (.finished e) = none) (hk : q.phases[k]? = some phase)
    (hl : phase.isFinished = false) (next : Phase) :
    (q.phases.set k next).filterMap f = (f next).toList := by
  have hlt : k < q.phases.length := (List.getElem?_eq_some_iff.1 hk).1
  have hrest : ∀ j other, j ≠ k → q.phases[j]? = some other → f other = none := by
    intro j other hj ho
    cases hfin : other.isFinished with
    | false =>
        have hkj := (h.live j other ho hfin).symm.trans (h.live k phase hk hl)
        exact absurd (Option.some.inj hkj) hj
    | true => cases other <;> first | exact hf _ | cases hfin
  rw [List.set_eq_take_append_cons_drop, if_pos hlt, List.filterMap_append, List.filterMap_cons]
  have hbefore : (q.phases.take k).filterMap f = [] := by
    rw [List.filterMap_eq_nil_iff]
    intro other ho
    obtain ⟨j, hj, he⟩ := List.mem_take_iff_getElem.1 ho
    have hjk : j < k := by omega
    exact hrest j other (by omega) (List.getElem?_eq_some_iff.2 ⟨by omega, he⟩)
  have hafter : (q.phases.drop (k + 1)).filterMap f = [] := by
    rw [List.filterMap_eq_nil_iff]
    intro other ho
    obtain ⟨j, hj, he⟩ := List.mem_drop_iff_getElem.1 ho
    exact hrest _ other (by omega) (List.getElem?_eq_some_iff.2 ⟨by omega, he⟩)
  rw [hbefore, hafter]
  cases f next <;> rfl

theorem filterMap_eq {β : Type} (h : Tended q) (f : Phase → Option β)
    (hf : ∀ e, f (.finished e) = none) (hk : q.phases[k]? = some phase)
    (hl : phase.isFinished = false) : q.phases.filterMap f = (f phase).toList := by
  rw [← h.filterMap_set f hf hk hl phase, filterMap_set_of_eq f hk rfl]

theorem heldPackets_eq (h : Tended q) (hk : q.phases[k]? = some phase)
    (hl : phase.isFinished = false) : q.heldPackets = phase.held?.toList :=
  h.filterMap_eq Phase.held? (fun _ => rfl) hk hl

theorem inFlight_eq (h : Tended q) (hk : q.phases[k]? = some phase)
    (hl : phase.isFinished = false) : q.inFlight = phase.sent?.toList.length :=
  congrArg List.length (h.filterMap_eq Phase.sent? (fun _ => rfl) hk hl)

theorem heldPackets_setPhase (h : Tended q) (r : Queue) (hk : q.phases[k]? = some phase)
    (hl : phase.isFinished = false) (next : Phase) (hp : r.phases = q.phases) :
    (r.setPhase k next).heldPackets = next.held?.toList := by
  rw [heldPackets, phases_setPhase, hp]
  exact h.filterMap_set Phase.held? (fun _ => rfl) hk hl next

theorem inFlight_setPhase (h : Tended q) (r : Queue) (hk : q.phases[k]? = some phase)
    (hl : phase.isFinished = false) (next : Phase) (hp : r.phases = q.phases) :
    (r.setPhase k next).inFlight = next.sent?.toList.length := by
  rw [inFlight, phases_setPhase, hp]
  exact congrArg List.length (h.filterMap_set Phase.sent? (fun _ => rfl) hk hl next)

theorem inFlight_setPhase_of_eq (h : Tended q) (r : Queue) (hk : q.phases[k]? = some phase)
    (hl : phase.isFinished = false) (next : Phase) (hp : r.phases = q.phases)
    (hs : next.sent? = phase.sent?) : (r.setPhase k next).inFlight = q.inFlight := by
  rw [h.inFlight_setPhase r hk hl next hp, h.inFlight_eq hk hl, hs]

/-- At most one worker contributes anything. -/
theorem length_filterMap_le_one {β : Type} (h : Tended q) (f : Phase → Option β)
    (hf : ∀ e, f (.finished e) = none) : (q.phases.filterMap f).length ≤ 1 := by
  cases hs : q.phases.filterMap f with
  | nil => exact Nat.zero_le _
  | cons b rest =>
      obtain ⟨phase, hmem, hb⟩ := List.mem_filterMap.1 (hs ▸ List.mem_cons_self)
      obtain ⟨k, hk⟩ := List.mem_iff_getElem?.1 hmem
      have hl : phase.isFinished = false := by
        cases phase with
        | finished e =>
            rw [hf e] at hb
            cases hb
        | _ => rfl
      rw [← hs, h.filterMap_eq f hf hk hl, hb]
      exact Nat.le_refl _

theorem inFlight_le_one (h : Tended q) : q.inFlight ≤ 1 :=
  h.length_filterMap_le_one Phase.sent? (fun _ => rfl)

theorem length_heldPackets_le_one (h : Tended q) : q.heldPackets.length ≤ 1 :=
  h.length_filterMap_le_one Phase.held? (fun _ => rfl)

theorem ended (h : Tended q) (hk : q.phases[k]? = some phase) (hne : q.known ≠ some k) :
    phase.isFinished = true := by
  cases hl : phase.isFinished with
  | true => rfl
  | false => exact absurd (h.live k phase hk hl) hne

theorem of_ended (hp : ∀ (k : Nat) (phase : Phase), q.phases[k]? = some phase → phase.isFinished = true)
    (hu : q.awaited.isSome → q.tracked = none) : Tended q := by
  refine ⟨fun k phase hk hl => ?_, hu⟩
  rw [hp k phase hk] at hl
  cases hl

theorem signal (h : Tended q) : Tended q.signal := by
  unfold Queue.signal
  cases hs : q.sleeper? with
  | none => exact h.of_parts rfl rfl rfl
  | some k => exact h.setPhase (sleeper?_phase hs) rfl _

theorem start (h : Tended q) (ha : q.awaited = none) : Tended q.start := by
  unfold Queue.start
  cases hr : q.isRunning with
  | true => simpa using h
  | false =>
      have hended : ∀ (k : Nat) (phase : Phase), q.phases[k]? = some phase → phase.isFinished = true := by
        intro k phase hk
        obtain ⟨w, hw, rfl⟩ : ∃ w, q.worker? k = some w ∧ w.phase = phase := by
          simpa [phases, worker?] using hk
        by_cases hknown : q.tracked = some k
        · simpa [isRunning, hknown, hw, isFinished_eq_phase] using hr
        · exact h.ended hk (by simpa [known, ha] using hknown)
      refine ⟨fun k phase hk hl => ?_, fun hs => by simp [ha] at hs⟩
      simp only [Bool.false_eq_true, ↓reduceIte, phases, List.map_append, known, ha,
        Option.none_or] at hk ⊢
      by_cases hold : k < q.workers.length
      · rw [List.getElem?_append_left (by simpa using hold)] at hk
        rw [hended k phase hk] at hl
        cases hl
      · have hlt := (List.getElem?_eq_some_iff.1 hk).1
        simp only [List.length_append, List.length_map, List.length_cons, List.length_nil] at hlt
        rw [show k = q.workers.length by omega]

theorem requestStop (h : Tended q) (ha : q.awaited = none) : Tended q.requestStop := by
  refine ⟨fun k phase hk hl => ?_, fun _ => rfl⟩
  have hphases : q.requestStop.phases = q.phases := phases_cancel q
  have hq := h.live k phase (hphases ▸ hk) hl
  simpa [known, Queue.requestStop, ha] using hq

theorem endStop (h : Tended q) (ha : q.awaited.isSome) : Tended q.endStop := by
  obtain ⟨j, hj⟩ := Option.isSome_iff_exists.1 ha
  have hknown : q.known = some j := by simp [known, hj]
  unfold Queue.endStop
  cases he : q.awaitedExit? with
  | none =>
      refine ⟨fun k phase hk hl => ?_, fun hs => by simp at hs⟩
      simpa [known, hj] using h.live k phase hk hl
  | some e =>
      refine of_ended (fun k phase hk => ?_) (fun hs => by simp at hs)
      change q.phases[k]? = some phase at hk
      by_cases hjk : j = k
      · subst j
        rw [awaitedExit?_phase hj he] at hk
        rw [← Option.some.inj hk]
        rfl
      · exact h.ended hk (by simpa [hknown] using hjk)

/-- No step leaves a worker unfinished behind the owner's back. -/
theorem act (h : Tended q) (a : Action) : Tended (q.act a) := by
  cases a with
  | push p =>
      simp only [Queue.act, push]
      split <;> exact h.of_parts rfl rfl rfl
  | signal => exact h.signal
  | clear => exact h.of_parts rfl rfl rfl
  | start =>
      simp only [Queue.act]
      split
      · exact h
      · exact h.start (by simp_all)
  | requestStop =>
      simp only [Queue.act]
      split
      · exact h
      · exact h.requestStop (by simp_all)
  | endStop =>
      simp only [Queue.act]
      split
      · exact h.endStop ‹_›
      · exact h
  | look k =>
      simp only [Queue.act, look]
      split
      · rename_i hw
        have hk := phases_getElem?_of_worker? hw
        split
        · refine h.setPhase_of ?_ ?_ ?_ hk rfl _ <;> rfl
        · exact h.setPhase hk rfl _
      · exact h
  | consult k =>
      simp only [Queue.act, consult]
      split
      · rename_i hw
        have hk := phases_getElem?_of_worker? hw
        split_ifs
        · exact h.setPhase hk rfl _
        · refine h.setPhase_of ?_ ?_ ?_ hk rfl _ <;> rfl
        · exact h.setPhase hk rfl _
      · exact h
  | rouse k =>
      simp only [Queue.act, rouse]
      split
      · rename_i hw
        have hk := phases_getElem?_of_worker? hw
        split_ifs
        · exact (h.setPhase hk rfl _).signal
        · exact h.setPhase hk rfl _
        · exact h.setPhase hk rfl _
        · exact h
      · exact h
  | heed k =>
      simp only [Queue.act, heed]
      split
      · rename_i hw
        have hk := phases_getElem?_of_worker? hw
        split_ifs
        · refine h.setPhase_of ?_ ?_ ?_ hk rfl _ <;> rfl
        · exact h
      · rename_i hw
        exact h.setPhase (phases_getElem?_of_worker? hw) rfl _
      · exact h
  | pace k wake =>
      simp only [Queue.act, pace]
      split
      · rename_i hw
        cases wake <;> exact h.setPhase (phases_getElem?_of_worker? hw) rfl _
      · exact h
  | pacePanicked k =>
      simp only [Queue.act, pacePanicked]
      split
      · rename_i hw
        exact h.setPhase (phases_getElem?_of_worker? hw) rfl _
      · exact h
  | paced k =>
      simp only [Queue.act, paced]
      split
      · rename_i hw
        exact h.setPhase (phases_getElem?_of_worker? hw) rfl _
      · exact h
  | putBack k =>
      simp only [Queue.act, putBack]
      split
      · rename_i hw
        refine h.setPhase_of ?_ ?_ ?_ (phases_getElem?_of_worker? hw) rfl _ <;> rfl
      · exact h
  | handOver k call =>
      simp only [Queue.act, handOver]
      split
      · rename_i hw
        exact h.setPhase (phases_getElem?_of_worker? hw) rfl _
      · exact h
  | sendEnded k success =>
      simp only [Queue.act, sendEnded]
      split
      · rename_i hw
        have hk := phases_getElem?_of_worker? hw
        cases success <;> refine h.setPhase_of ?_ ?_ ?_ hk rfl _ <;> rfl
      · exact h

end Tended

/-! ## Steps that move no packet -/

/-- No packet was offered, discarded, taken, put back, handed over or counted. -/
structure Unmoved (r q : Queue) : Prop where
  items : r.items = q.items
  held : r.heldPackets = q.heldPackets
  inFlight : r.inFlight = q.inFlight
  sent : r.sent = q.sent
  sendErrors : r.sendErrors = q.sendErrors
  dropped : r.dropped = q.dropped

namespace Unmoved

variable {q r s : Queue} {k : Nat} {phase : Phase}

theorem refl (q : Queue) : Unmoved q q := ⟨rfl, rfl, rfl, rfl, rfl, rfl⟩

theorem trans (h : Unmoved s r) (h' : Unmoved r q) : Unmoved s q :=
  ⟨h.items.trans h'.items, h.held.trans h'.held, h.inFlight.trans h'.inFlight,
    h.sent.trans h'.sent, h.sendErrors.trans h'.sendErrors, h.dropped.trans h'.dropped⟩

theorem setPhase (hk : q.phases[k]? = some phase) (next : Phase) (hh : next.held? = phase.held?)
    (hs : next.sent? = phase.sent?) : Unmoved (q.setPhase k next) q := by
  refine ⟨rfl, ?_, ?_, rfl, rfl, rfl⟩
  · rw [heldPackets, phases_setPhase, filterMap_set_of_eq _ hk hh, heldPackets]
  · rw [Queue.inFlight, phases_setPhase, filterMap_set_of_eq _ hk hs, Queue.inFlight]

theorem signal (q : Queue) : Unmoved q.signal q := by
  unfold Queue.signal
  cases hs : q.sleeper? with
  | none => exact ⟨rfl, rfl, rfl, rfl, rfl, rfl⟩
  | some k => exact setPhase (sleeper?_phase hs) _ rfl rfl

theorem start (q : Queue) : Unmoved q.start q := by
  unfold Queue.start
  split
  · exact refl q
  · exact ⟨rfl, by simp [heldPackets, phases, Worker.spawned, Phase.held?],
      by simp [Queue.inFlight, phases, Worker.spawned, Phase.sent?], rfl, rfl, rfl⟩

theorem requestStop (q : Queue) : Unmoved q.requestStop q := by
  have hphases : q.requestStop.phases = q.phases := phases_cancel q
  refine ⟨rfl, ?_, ?_, rfl, rfl, rfl⟩
  · rw [heldPackets, hphases, heldPackets]
  · rw [Queue.inFlight, hphases, Queue.inFlight]

theorem endStop (q : Queue) : Unmoved q.endStop q := by
  unfold Queue.endStop
  split <;> exact ⟨rfl, rfl, rfl, rfl, rfl, rfl⟩

theorem consult (k : Nat) (q : Queue) : Unmoved (q.consult k) q := by
  unfold Queue.consult
  split
  · rename_i hw
    have hk := phases_getElem?_of_worker? hw
    split_ifs
    · exact setPhase hk _ rfl rfl
    · have hk' : { q with permit := false }.phases[k]? = some .dry := hk
      exact (setPhase hk' .looking rfl rfl).trans ⟨rfl, rfl, rfl, rfl, rfl, rfl⟩
    · exact setPhase hk _ rfl rfl
  · exact refl q

theorem rouse (k : Nat) (q : Queue) : Unmoved (q.rouse k) q := by
  unfold Queue.rouse
  split
  · rename_i hw
    have hk := phases_getElem?_of_worker? hw
    split_ifs
    · exact (signal _).trans (setPhase hk (.finished .returned) rfl rfl)
    · exact setPhase hk _ rfl rfl
    · exact setPhase hk _ rfl rfl
    · exact refl q
  · exact refl q

theorem heed (k : Nat) (q : Queue) : Unmoved (q.heed k) q := by
  unfold Queue.heed
  split
  · rename_i hw
    have hk := phases_getElem?_of_worker? hw
    split_ifs
    · have hk' : { q with permit := false }.phases[k]? = some .dry := hk
      exact (setPhase hk' .looking rfl rfl).trans ⟨rfl, rfl, rfl, rfl, rfl, rfl⟩
    · exact refl q
  · rename_i hw
    exact setPhase (phases_getElem?_of_worker? hw) _ rfl rfl
  · exact refl q

theorem pace (k : Nat) (wake : Option Tick) (q : Queue) : Unmoved (q.pace k wake) q := by
  unfold Queue.pace
  split
  · rename_i hw
    cases wake <;> exact setPhase (phases_getElem?_of_worker? hw) _ rfl rfl
  · exact refl q

theorem paced (k : Nat) (q : Queue) : Unmoved (q.paced k) q := by
  unfold Queue.paced
  split
  · rename_i hw
    exact setPhase (phases_getElem?_of_worker? hw) _ rfl rfl
  · exact refl q

end Unmoved

end LinkReliability.Queue
