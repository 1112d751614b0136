import LinkReliability.Proofs.Queue.Load
import LinkReliability.Proofs.Queue.Stopping

/-!
# One worker at a time

The owner of a queue may start and stop it as often as it likes, and give up waiting for a stop. It
always knows of the one worker that has not ended, and the worker that is told to stop takes one
turn more at most, without another send.
-/

namespace LinkReliability

namespace Queue

variable {q : Queue} {k : Nat} {now : Tick}

/-! ## The last turn -/

section Turns

variable {phase : Phase} {steps : List Action}

theorem Turn.of_finished {cancelled : Bool} {e : Exit}
    (hw : q.worker? k = some ⟨cancelled, .finished e⟩) : Turn now k q steps ↔ steps = [] := by
  constructor
  · intro h
    cases steps with
    | nil => rfl
    | cons a rest => exact absurd h.1 (Step.not_finished hw)
  · rintro rfl a
    exact Step.not_finished hw

theorem Turn.of_idle (hw : q.worker? k = some ⟨true, phase⟩) (hidle : phase.isIdle = true)
    (hitems : q.items = []) (h : Turn now k q steps) :
    (q.run steps).worker? k = some ⟨true, .finished .returned⟩ ∧ Unmoved (q.run steps) q ∧
      handed k steps q = [] := by
  induction steps generalizing q phase with
  | nil =>
      obtain ⟨a, ha⟩ := exists_step_of_idle hw hidle
      exact absurd ha (h a)
  | cons a rest ih =>
      obtain ⟨hmoved, hhanded, phase', hw', hphase⟩ := h.1.of_idle hw hidle hitems
      rw [run_cons, handed, hhanded, List.nil_append]
      rcases hphase with hidle' | rfl
      · obtain ⟨hend, hrest, hnone⟩ := ih hw' hidle' (hmoved.items.trans hitems) h.2
        exact ⟨hend, hrest.trans hmoved, hnone⟩
      · obtain rfl := (Turn.of_finished hw').1 h.2
        exact ⟨hw', hmoved, rfl⟩

theorem putBack_eq {p : Packet} {wake : Tick} (hw : q.worker? k = some ⟨true, .pacing p wake⟩) :
    (q.putBack k).worker? k = some ⟨true, .finished .returned⟩ ∧
      (q.putBack k).items = p :: q.items := by
  have hw' : { q with items := p :: q.items }.worker? k = some ⟨true, .pacing p wake⟩ := hw
  simp only [putBack, hw]
  exact ⟨worker?_setPhase_self hw' _, rfl⟩

theorem Turn.of_pacing {p : Packet} {wake : Tick} (hw : q.worker? k = some ⟨true, .pacing p wake⟩)
    (hwake : now < wake) : Turn now k q steps ↔ steps = [.putBack k] := by
  have hto : (q.act (.putBack k)).worker? k = some ⟨true, .finished .returned⟩ :=
    (putBack_eq hw).1
  constructor
  · intro h
    cases steps with
    | nil => exact absurd (.putBack hw) (h (.putBack k))
    | cons a rest =>
        rcases h.1.of_pacing hw with ⟨rfl, -⟩ | ⟨-, hle⟩
        · rw [(Turn.of_finished hto).1 h.2]
        · exact absurd hle (Nat.not_le.2 hwake)
  · rintro rfl
    exact ⟨.putBack hw, (Turn.of_finished hto).2 rfl⟩

theorem Turn.of_sending {p : Packet} {call : Call Unit}
    (hw : q.worker? k = some ⟨true, .sending p call⟩) :
    Turn now k q steps ↔
      if call.ends ≤ now then ∃ success, steps = [.sendEnded k success] else steps = [] := by
  have hto (success : Bool) := worker?_sendEnded hw success
  split
  · next hends =>
      constructor
      · intro h
        cases steps with
        | nil => exact absurd (.sendEnded hw hends true) (h (.sendEnded k true))
        | cons a rest =>
            obtain ⟨success, rfl, -⟩ := h.1.of_sending hw
            exact ⟨success, by rw [(Turn.of_finished (hto success)).1 h.2]⟩
      · rintro ⟨success, rfl⟩
        exact ⟨.sendEnded hw hends success, (Turn.of_finished (hto success)).2 rfl⟩
  · next hends =>
      constructor
      · intro h
        cases steps with
        | nil => rfl
        | cons a rest =>
            obtain ⟨-, -, hle⟩ := h.1.of_sending hw
            exact absurd hle hends
      · rintro rfl a ha
        obtain ⟨-, -, hle⟩ := ha.of_sending hw
        exact hends hle

end Turns

/-! ## The owner knows of the worker that has not ended -/

theorem isRunning_iff : q.isRunning = true ↔ ∃ k, q.tracked = some k ∧ q.Unfinished k := by
  unfold isRunning
  cases ht : q.tracked with
  | none => simp
  | some k =>
      cases hw : q.worker? k with
      | none => simp [hw, Unfinished]
      | some w => simp [hw, Unfinished]

theorem known_of_awaited_none (ha : q.awaited = none) : q.known = q.tracked := by
  rw [known, ha, Option.none_or]

theorem Tended.isRunning_iff (h : Tended q) (ha : q.awaited = none) :
    q.isRunning = true ↔ ∃ k, q.Unfinished k := by
  rw [Queue.isRunning_iff]
  constructor
  · rintro ⟨k, -, hk⟩
    exact ⟨k, hk⟩
  · rintro ⟨k, hk⟩
    exact ⟨k, known_of_awaited_none ha ▸ h.known_of_unfinished hk, hk⟩

structure SameOwner (r q : Queue) : Prop where
  tracked : r.tracked = q.tracked
  awaited : r.awaited = q.awaited
  spawned : r.workers.length = q.workers.length

theorem sameOwner_setPhase (q : Queue) (k : Nat) (phase : Phase) :
    SameOwner (q.setPhase k phase) q :=
  ⟨rfl, rfl, List.length_modify ..⟩

theorem sameOwner_signal (q : Queue) : SameOwner q.signal q := by
  unfold signal
  cases q.sleeper? with
  | none => exact ⟨rfl, rfl, rfl⟩
  | some j => exact sameOwner_setPhase q j _

/-- Only the owner changes what the owner knows. -/
theorem sameOwner_act {a : Action} (ha : a.isOwners = false) (q : Queue) :
    SameOwner (q.act a) q := by
  cases hauthor : a.author? with
  | some j =>
      rcases act_of_author hauthor q with hq | ⟨r, next, hq, hworkers, htracked, hawaited⟩
      · rw [hq]
        exact ⟨rfl, rfl, rfl⟩
      · have hr : SameOwner (r.setPhase j next) q :=
          ⟨htracked, hawaited, (List.length_modify ..).trans (congrArg List.length hworkers)⟩
        rcases hq with hq | hq
        · rw [hq]
          exact hr
        · have hs := sameOwner_signal (r.setPhase j next)
          rw [hq]
          exact ⟨hs.tracked.trans hr.tracked, hs.awaited.trans hr.awaited,
            hs.spawned.trans hr.spawned⟩
  | none =>
      cases a with
      | push p =>
          simp only [act, push]
          split <;> exact ⟨rfl, rfl, rfl⟩
      | signal => exact sameOwner_signal q
      | clear => exact ⟨rfl, rfl, rfl⟩
      | start => cases ha
      | requestStop => cases ha
      | endStop => cases ha
      | _ => cases hauthor

theorem sameOwner_run {actions : List Action} (ha : ∀ a ∈ actions, a.isOwners = false) (q : Queue) :
    SameOwner (q.run actions) q := by
  induction actions generalizing q with
  | nil => exact ⟨rfl, rfl, rfl⟩
  | cons a actions ih =>
      rw [List.forall_mem_cons] at ha
      have hfirst := sameOwner_act ha.1 q
      have hrest := ih ha.2 (q.act a)
      exact ⟨hrest.tracked.trans hfirst.tracked, hrest.awaited.trans hfirst.awaited,
        hrest.spawned.trans hfirst.spawned⟩

/-- The owner knows of the latest worker or of none, and all others have ended. -/
structure Supervised (q : Queue) : Prop where
  tended : Tended q
  latest : ∀ k, q.known = some k → k + 1 = q.workers.length

namespace Supervised

theorem of_create {name : String} {config : Config} (hq : create name config = .ok q) :
    Supervised q := by
  refine ⟨.of_create hq, fun k hk => ?_⟩
  obtain ⟨-, rfl⟩ := create_eq_ok hq
  cases hk

theorem latest_start (h : Supervised q) (ha : q.awaited = none) {k : Nat}
    (hk : q.start.known = some k) : k + 1 = q.start.workers.length := by
  revert hk
  unfold Queue.start
  split
  · exact h.latest k
  · intro hk
    have htracked : some q.workers.length = some k := by simpa [known, ha] using hk
    obtain rfl := Option.some.inj htracked
    simp only [List.length_append, List.length_singleton]

theorem latest_requestStop (h : Supervised q) (ha : q.awaited = none) {k : Nat}
    (hk : q.requestStop.known = some k) : k + 1 = q.requestStop.workers.length := by
  have hknown : q.known = some k := by
    rw [known_of_awaited_none ha]
    exact (Option.or_none ..).symm.trans hk
  exact (h.latest k hknown).trans (List.length_modify ..).symm

theorem latest_endStop (h : Supervised q) (ha : q.awaited.isSome) {k : Nat}
    (hk : q.endStop.known = some k) : k + 1 = q.endStop.workers.length := by
  have hnone := h.tended.untracked ha
  revert hk
  unfold Queue.endStop
  split
  · intro hk
    simp [known, hnone] at hk
  · intro hk
    have hawaited : q.awaited = some k := by simpa [known] using hk
    exact h.latest k (by rw [known, hawaited, Option.some_or])

theorem act (h : Supervised q) (a : Action) : Supervised (q.act a) := by
  refine ⟨h.tended.act a, fun k hk => ?_⟩
  cases howner : a.isOwners with
  | false =>
      have hsame := sameOwner_act howner q
      rw [known, hsame.tracked, hsame.awaited] at hk
      rw [hsame.spawned]
      exact h.latest k hk
  | true =>
      cases a with
      | start =>
          simp only [Queue.act] at hk ⊢
          split at hk
          · next ha => rw [if_pos ha]; exact h.latest k hk
          · next ha =>
              rw [if_neg ha]
              exact h.latest_start (Option.not_isSome_iff_eq_none.1 ha) hk
      | requestStop =>
          simp only [Queue.act] at hk ⊢
          split at hk
          · next ha => rw [if_pos ha]; exact h.latest k hk
          · next ha =>
              rw [if_neg ha]
              exact h.latest_requestStop (Option.not_isSome_iff_eq_none.1 ha) hk
      | endStop =>
          simp only [Queue.act] at hk ⊢
          split at hk
          · next ha => rw [if_pos ha]; exact h.latest_endStop ha hk
          · next ha => rw [if_neg ha]; exact h.latest k hk
      | _ => cases howner

theorem run (h : Supervised q) (actions : List Action) : Supervised (q.run actions) := by
  induction actions generalizing q with
  | nil => exact h
  | cons a actions ih => exact ih (h.act a)

end Supervised

theorem Supervised.signalled (h : Supervised q) (ha : q.awaited = none) (hk : q.Unfinished k) :
    (q.act .requestStop).Signalled k := by
  have hlast := h.latest k (h.tended.known_of_unfinished hk)
  obtain ⟨w, hw, -⟩ := hk
  refine ⟨w.phase, ?_⟩
  simp only [Queue.act, ha, Option.isSome_none, Bool.false_eq_true, ↓reduceIte]
  change (q.workers.modify (q.workers.length - 1) _)[k]? = _
  rw [← hlast, Nat.add_sub_cancel, List.getElem?_modify]
  change (q.worker? k).map _ = _
  rw [hw, Option.map_some, if_pos rfl]

theorem Tended.stopped (h : Tended q) (ht : q.tracked = none) (hs : q.stopAnswer = .stopped) :
    ¬ q.Unfinished k := by
  intro hk
  have hknown := h.known_of_unfinished hk
  have hawaited : q.awaited = some k := by simpa [known, ht] using hknown
  obtain ⟨phase, hphase, hl⟩ := phase_of_unfinished hk
  cases he : q.awaitedExit? with
  | none => simp [stopAnswer, hawaited, he] at hs
  | some e =>
      rw [awaitedExit?_phase hawaited he] at hphase
      obtain rfl := Option.some.inj hphase
      cases hl

theorem tracked_act_requestStop (ha : q.awaited = none) : (q.act .requestStop).tracked = none := by
  simp only [act, ha, Option.isSome_none, Bool.false_eq_true, ↓reduceIte, requestStop]

/-- A stop of which nothing is awaited ends as it began. -/
theorem endStop_eq_act (ht : q.tracked = none) : q.endStop = q.act .endStop := by
  cases ha : q.awaited with
  | some j => simp only [act, ha, Option.isSome_some, ↓reduceIte]
  | none =>
      obtain ⟨name, config, items, dropped, sent, errors, permit, workers, tracked, awaited⟩ := q
      obtain rfl : tracked = none := ht
      obtain rfl : awaited = none := ha
      rfl

theorem awaited_endStop (q : Queue) : q.endStop.awaited = none := by
  unfold endStop
  split <;> rfl

theorem workers_endStop (q : Queue) : q.endStop.workers = q.workers := by
  unfold endStop
  split <;> rfl

/-! ## What the owner can rely on -/

/-- The last turn of worker `k`, which was told to stop, if it comes at the moment `now`. -/
structure LastTurn (now : Tick) (k : Nat) (q : Queue) : Prop where
  hasTurn : ∃ steps, Turn now k q steps
  idle : ∀ phase, q.worker? k = some ⟨true, phase⟩ → phase.isIdle = true → q.items = [] →
    ∀ steps, Turn now k q steps →
      (q.run steps).worker? k = some ⟨true, .finished .returned⟩ ∧ Unmoved (q.run steps) q ∧
        ∀ later, handed k (steps ++ later) q = []
  pacing : ∀ p wake, q.worker? k = some ⟨true, .pacing p wake⟩ → now < wake →
    ∀ steps, Turn now k q steps →
      steps = [.putBack k] ∧ (q.run steps).worker? k = some ⟨true, .finished .returned⟩ ∧
        (q.run steps).items = p :: q.items ∧ ∀ later, handed k (steps ++ later) q = []
  sending : ∀ p call, q.worker? k = some ⟨true, .sending p call⟩ →
    (∀ later, handed k later q = []) ∧
      ∀ steps, Turn now k q steps →
        now < call.ends ∧ steps = [] ∨
          ∃ success, steps = [.sendEnded k success] ∧
            (q.run steps).worker? k = some ⟨true, .finished .returned⟩ ∧
            Counted (q.run steps) q success

theorem lastTurn (now : Tick) (k : Nat) (q : Queue) : LastTurn now k q := by
  have hspent {r : Queue} (hr : r.worker? k = some ⟨true, .finished .returned⟩)
      (later : List Action) : handed k later r = [] := Spent.handed_eq_nil ⟨_, hr, .inl rfl⟩ later
  constructor
  · exact exists_turn now k q
  · intro phase hw hidle hitems steps hturn
    obtain ⟨hend, hmoved, hnone⟩ := hturn.of_idle hw hidle hitems
    refine ⟨hend, hmoved, fun later => ?_⟩
    rw [handed_append, hnone, hspent hend]
    rfl
  · intro p wake hw hwake steps hturn
    obtain rfl := (Turn.of_pacing hw hwake).1 hturn
    obtain ⟨hend, hitems⟩ := putBack_eq hw
    refine ⟨rfl, hend, hitems, fun later => ?_⟩
    exact hspent (r := q.act (.putBack k)) hend later
  · intro p call hw
    have hnone : ∀ later, handed k later q = [] :=
      Spent.handed_eq_nil ⟨_, hw, .inr rfl⟩
    refine ⟨hnone, fun steps hturn => ?_⟩
    rw [Turn.of_sending hw] at hturn
    split at hturn
    · obtain ⟨success, rfl⟩ := hturn
      exact .inr ⟨success, rfl, worker?_sendEnded hw success, counted_sendEnded hw success⟩
    · next hends => exact .inl ⟨Nat.lt_of_not_le hends, hturn⟩

/-- At most one worker is at work, its owner knows of it, and a stop brings it to its end. -/
structure SoleWorker (q : Queue) : Prop where
  unique : ∀ j k, q.Unfinished j → q.Unfinished k → j = k
  inFlight : q.inFlight ≤ 1
  running : q.awaited = none → (q.isRunning = true ↔ ∃ k, q.Unfinished k)
  started : q.awaited = none → ∀ k, q.Unfinished k → q.start = q
  signalled : q.awaited = none → ∀ k, q.Unfinished k → (q.act .requestStop).Signalled k
  signalledFrom : ∀ k, q.Signalled k → ∀ a, (q.act a).Signalled k
  lastTurn : ∀ k now, LastTurn now k q
  /-- An idle worker is not fed by anyone but the producers, whoever steps in between. -/
  unfed : ∀ k phase, q.worker? k = some ⟨true, phase⟩ → phase.isIdle = true → q.items = [] →
    ∀ later, (∀ p, .push p ∉ later) → handed k later q = []
  /-- A stop that is answered with success leaves no worker. -/
  stopped : q.awaited = none → ∀ during, (∀ a ∈ during, a.isOwners = false) →
    ((q.act .requestStop).run during).stopAnswer = .stopped →
      ∀ k, ¬ ((q.act .requestStop).run during).Unfinished k

theorem sole_worker {name : String} {config : Config} {start : Queue}
    (hstart : create name config = .ok start) (actions : List Action) :
    SoleWorker (start.run actions) := by
  have h : Supervised (start.run actions) := (Supervised.of_create hstart).run actions
  generalize start.run actions = q at h
  constructor
  · intro j k hj hk
    have hjk := (h.tended.known_of_unfinished hj).symm.trans (h.tended.known_of_unfinished hk)
    exact Option.some.inj hjk
  · exact h.tended.inFlight_le_one
  · exact h.tended.isRunning_iff
  · intro ha k hk
    rw [Queue.start, if_pos ((h.tended.isRunning_iff ha).2 ⟨k, hk⟩)]
  · intro ha k hk
    exact h.signalled ha hk
  · intro k hk a
    exact hk.act a
  · intro k now
    exact Queue.lastTurn now k q
  · intro k phase hw hidle hitems later hlater
    exact handed_of_unfed h.tended hw hidle hitems hlater
  · intro ha during howners hanswer k
    have hsame := sameOwner_run howners (q.act .requestStop)
    exact ((h.act .requestStop).run during).tended.stopped
      (hsame.tracked.trans (tracked_act_requestStop ha)) hanswer

/-- The owner gives up waiting for a send that hangs, and then starts and stops in vain. -/
def hungRun : List Action := [
  .push ⟨#[1]⟩, .signal, .push ⟨#[2]⟩, .signal, .start, .look 0, .pace 0 none,
  .handOver 0 ⟨100, Duration.zero, .done ()⟩, .requestStop, .endStop, .start, .requestStop,
  .endStop]

theorem sole_worker_hungRun :
    ∃ start, create "mesh" ⟨2⟩ = .ok start ∧ SoleWorker (start.run hungRun) ∧
      (start.run hungRun).isRunning = true ∧ (start.run hungRun).workers.length = 1 ∧
      (start.run hungRun).inFlight = 1 ∧ (start.run hungRun).items = [⟨#[2]⟩] :=
  have hstart : create "mesh" ⟨2⟩ =
      .ok ⟨"mesh", ⟨2⟩, [], 0, 0, 0, false, [], none, none⟩ := rfl
  ⟨_, hstart, sole_worker hstart hungRun, by decide, by decide, by decide, by decide⟩

end Queue

namespace QueueRun

/-- What a stop leaves behind on the timeline can be started and stopped again, and a stop that
succeeds leaves no worker. -/
theorem stop_supervised {r : QueueRun} (h : r.queue.Supervised) (ha : r.queue.awaited = none)
    (timeout : Duration) :
    (r.stop timeout).2.queue.Supervised ∧ (r.stop timeout).2.queue.awaited = none ∧
      ((r.stop timeout).1 = .stopped → ∀ k, ¬ (r.stop timeout).2.queue.Unfinished k) := by
  obtain ⟨during, howners, hanswer, hqueue⟩ := stop_eq_run timeout r
  have hrequest : r.queue.act .requestStop = r.queue.requestStop := by
    simp only [Queue.act, ha, Option.isSome_none, Bool.false_eq_true, ↓reduceIte]
  have hbefore : (r.queue.requestStop.run during).Supervised :=
    hrequest ▸ (h.act .requestStop).run during
  have htracked : (r.queue.requestStop.run during).tracked = none :=
    (Queue.sameOwner_run howners r.queue.requestStop).tracked
  rw [hanswer, hqueue]
  refine ⟨?_, Queue.awaited_endStop _, fun hs k hk => ?_⟩
  · rw [Queue.endStop_eq_act htracked]
    exact hbefore.act .endStop
  · refine hbefore.tended.stopped (k := k) htracked hs ?_
    rwa [Queue.Unfinished, Queue.worker?, Queue.workers_endStop] at hk

end QueueRun

end LinkReliability
