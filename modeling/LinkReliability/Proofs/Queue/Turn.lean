import LinkReliability.Proofs.Queue.Run
import LinkReliability.Timeline.QueueRun

/-!
# Turns of a worker

A worker that runs takes one step after the other until it has to wait, and this is its turn. The
steps of others leave a worker where it is, unless it sleeps and they signal to it.
-/

namespace LinkReliability.Queue

def Unfinished (q : Queue) (k : Nat) : Prop := ∃ w, q.worker? k = some w ∧ w.isFinished = false

/-- Only the owner starts workers and tells them to stop. -/
def Action.isOwners : Action → Bool
  | .start => true
  | .requestStop => true
  | .endStop => true
  | _ => false

/-- The worker whose step it is. -/
def Action.author? : Action → Option Nat
  | .look k => some k
  | .consult k => some k
  | .rouse k => some k
  | .heed k => some k
  | .pace k _ => some k
  | .pacePanicked k => some k
  | .paced k => some k
  | .putBack k => some k
  | .handOver k _ => some k
  | .sendEnded k _ => some k
  | _ => none

/-- What worker `k` can do at the moment `now`. A stop competes with a signal, and with the end of a
pause, and either of the two can win. -/
inductive Step (now : Tick) (k : Nat) (q : Queue) : Action → Prop
  | look {cancelled : Bool} (hw : q.worker? k = some ⟨cancelled, .looking⟩) : Step now k q (.look k)
  | consult {cancelled : Bool} (hw : q.worker? k = some ⟨cancelled, .dry⟩) :
      Step now k q (.consult k)
  | heed {cancelled : Bool} (hw : q.worker? k = some ⟨cancelled, .dry⟩) (hp : q.permit = true) :
      Step now k q (.heed k)
  | heedWoken {cancelled : Bool} (hw : q.worker? k = some ⟨cancelled, .asleep true⟩) :
      Step now k q (.heed k)
  | rouse {cancelled woken : Bool} (hw : q.worker? k = some ⟨cancelled, .asleep woken⟩)
      (hc : cancelled = true ∨ woken = true) : Step now k q (.rouse k)
  | pace {cancelled : Bool} {p : Packet} (hw : q.worker? k = some ⟨cancelled, .holding p⟩)
      (wake : Option Tick) : Step now k q (.pace k wake)
  | pacePanicked {cancelled : Bool} {p : Packet}
      (hw : q.worker? k = some ⟨cancelled, .holding p⟩) : Step now k q (.pacePanicked k)
  | putBack {p : Packet} {wake : Tick} (hw : q.worker? k = some ⟨true, .pacing p wake⟩) :
      Step now k q (.putBack k)
  | paced {cancelled : Bool} {p : Packet} {wake : Tick}
      (hw : q.worker? k = some ⟨cancelled, .pacing p wake⟩) (hwake : wake ≤ now) :
      Step now k q (.paced k)
  | handOver {cancelled : Bool} {p : Packet} (hw : q.worker? k = some ⟨cancelled, .ready p⟩)
      (call : Call Unit) : Step now k q (.handOver k call)
  | sendEnded {cancelled : Bool} {p : Packet} {call : Call Unit}
      (hw : q.worker? k = some ⟨cancelled, .sending p call⟩) (hends : call.ends ≤ now)
      (success : Bool) : Step now k q (.sendEnded k success)

/-- The steps of worker `k` from now until it has to wait or has ended. -/
def Turn (now : Tick) (k : Nat) : Queue → List Action → Prop
  | q, [] => ∀ a, ¬ Step now k q a
  | q, a :: rest => Step now k q a ∧ Turn now k (q.act a) rest

theorem run_cons (a : Action) (actions : List Action) (q : Queue) :
    q.run (a :: actions) = (q.act a).run actions := rfl

theorem run_append (actions later : List Action) (q : Queue) :
    q.run (actions ++ later) = (q.run actions).run later := List.foldl_append

/-! ## What a step does to a worker -/

section Frame

variable {q : Queue} {k : Nat}

theorem phase_of_unfinished (h : q.Unfinished k) :
    ∃ phase, q.phases[k]? = some phase ∧ phase.isFinished = false := by
  obtain ⟨w, hw, hl⟩ := h
  exact ⟨w.phase, phases_getElem?_of_worker? hw, by rw [← isFinished_eq_phase, hl]⟩

theorem Tended.known_of_unfinished (h : Tended q) (hk : q.Unfinished k) : q.known = some k := by
  obtain ⟨phase, hphase, hl⟩ := phase_of_unfinished hk
  exact h.live k phase hphase hl

theorem worker?_setPhase (q : Queue) (j k : Nat) (phase : Phase) :
    (q.setPhase j phase).worker? k =
      (q.worker? k).map (fun w => if j = k then { w with phase := phase } else w) := by
  unfold setPhase worker?
  rw [List.getElem?_modify]
  cases q.workers[k]? with
  | none => rfl
  | some w => by_cases hjk : j = k <;> simp [hjk]

theorem worker?_setPhase_self {cancelled : Bool} {phase : Phase}
    (hw : q.worker? k = some ⟨cancelled, phase⟩) (next : Phase) :
    (q.setPhase k next).worker? k = some ⟨cancelled, next⟩ := by
  rw [worker?_setPhase, hw, Option.map_some, if_pos rfl]

/-- A step that is not one of those that the worker can take changes nothing. -/
theorem still_or_step {a : Action} (ha : a.author? = some k) (q : Queue) :
    q.act a = q ∨ ∃ now, Step now k q a := by
  cases a with
  | push p => cases ha
  | signal => cases ha
  | clear => cases ha
  | start => cases ha
  | requestStop => cases ha
  | endStop => cases ha
  | look j =>
      obtain rfl := Option.some.inj ha
      simp only [Queue.act, look]
      split
      · next hw => exact .inr ⟨0, .look hw⟩
      · exact .inl rfl
  | consult j =>
      obtain rfl := Option.some.inj ha
      simp only [Queue.act, consult]
      split
      · next hw => exact .inr ⟨0, .consult hw⟩
      · exact .inl rfl
  | rouse j =>
      obtain rfl := Option.some.inj ha
      simp only [Queue.act, rouse]
      split
      · next cancelled woken hw =>
          by_cases hc : cancelled = true ∨ woken = true
          · exact .inr ⟨0, .rouse hw hc⟩
          · left
            rw [if_neg (fun h => hc (.inl h)), if_neg (fun h => hc (.inr h))]
      · exact .inl rfl
  | heed j =>
      obtain rfl := Option.some.inj ha
      simp only [Queue.act, heed]
      split
      · next hw =>
          by_cases hp : q.permit = true
          · exact .inr ⟨0, .heed hw hp⟩
          · left
            rw [if_neg hp]
      · next hw => exact .inr ⟨0, .heedWoken hw⟩
      · exact .inl rfl
  | pace j wake =>
      obtain rfl := Option.some.inj ha
      simp only [Queue.act, pace]
      split
      · next hw => exact .inr ⟨0, .pace hw wake⟩
      · exact .inl rfl
  | pacePanicked j =>
      obtain rfl := Option.some.inj ha
      simp only [Queue.act, pacePanicked]
      split
      · next hw => exact .inr ⟨0, .pacePanicked hw⟩
      · exact .inl rfl
  | paced j =>
      obtain rfl := Option.some.inj ha
      simp only [Queue.act, paced]
      split
      · next wake hw => exact .inr ⟨wake, .paced hw (Nat.le_refl wake)⟩
      · exact .inl rfl
  | putBack j =>
      obtain rfl := Option.some.inj ha
      simp only [Queue.act, putBack]
      split
      · next hw => exact .inr ⟨0, .putBack hw⟩
      · exact .inl rfl
  | handOver j call =>
      obtain rfl := Option.some.inj ha
      simp only [Queue.act, handOver]
      split
      · next hw => exact .inr ⟨0, .handOver hw call⟩
      · exact .inl rfl
  | sendEnded j success =>
      obtain rfl := Option.some.inj ha
      simp only [Queue.act, sendEnded]
      split
      · next call hw => exact .inr ⟨call.ends, .sendEnded hw (Nat.le_refl _) success⟩
      · exact .inl rfl

/-- The phases that a step of worker `k` leads from and to. -/
inductive Passage (k : Nat) (q : Queue) (cancelled : Bool) : Phase → Action → Phase → Prop
  | took {p : Packet} {rest : List Packet} (hitems : q.items = p :: rest) :
      Passage k q cancelled .looking (.look k) (.holding p)
  | foundNothing (hitems : q.items = []) : Passage k q cancelled .looking (.look k) .dry
  | left (hc : cancelled = true) : Passage k q cancelled .dry (.consult k) (.finished .returned)
  | foundPermit (hp : q.permit = true) : Passage k q cancelled .dry (.consult k) .looking
  | fellAsleep (hp : q.permit = false) : Passage k q cancelled .dry (.consult k) (.asleep false)
  | heeded (hp : q.permit = true) : Passage k q cancelled .dry (.heed k) .looking
  | heededWoken : Passage k q cancelled (.asleep true) (.heed k) .looking
  | wokeUp : Passage k q cancelled (.asleep true) (.rouse k) .looking
  | roused {woken : Bool} (hc : cancelled = true) :
      Passage k q cancelled (.asleep woken) (.rouse k) (.finished .returned)
  | skippedPause {p : Packet} : Passage k q cancelled (.holding p) (.pace k none) (.ready p)
  | beganPause {p : Packet} {wake : Tick} :
      Passage k q cancelled (.holding p) (.pace k (some wake)) (.pacing p wake)
  | crashed {p : Packet} :
      Passage k q cancelled (.holding p) (.pacePanicked k) (.finished .panicked)
  | gaveBack {p : Packet} {wake : Tick} (hc : cancelled = true) :
      Passage k q cancelled (.pacing p wake) (.putBack k) (.finished .returned)
  | endedPause {p : Packet} {wake : Tick} :
      Passage k q cancelled (.pacing p wake) (.paced k) (.ready p)
  | handedOver {p : Packet} {call : Call Unit} :
      Passage k q cancelled (.ready p) (.handOver k call) (.sending p call)
  | endedSend {p : Packet} {call : Call Unit} {success : Bool} :
      Passage k q cancelled (.sending p call) (.sendEnded k success)
        (if cancelled then .finished .returned else .looking)

/-- A step of a worker moves this worker on, and at most signals to others when it ends. -/
theorem Step.passage {now : Tick} {a : Action} (h : Step now k q a) :
    ∃ (cancelled : Bool) (phase next : Phase) (r : Queue),
      q.worker? k = some ⟨cancelled, phase⟩ ∧ Passage k q cancelled phase a next ∧
        (q.act a = r.setPhase k next ∨
          cancelled = true ∧ next = .finished .returned ∧
            q.act a = (r.setPhase k next).signal) ∧
        r.workers = q.workers ∧ r.tracked = q.tracked ∧ r.awaited = q.awaited := by
  cases h with
  | look hw =>
      simp only [Queue.act, Queue.look, hw]
      split
      · next p rest hitems => exact ⟨_, _, _, _, rfl, .took hitems, .inl rfl, rfl, rfl, rfl⟩
      · next hitems => exact ⟨_, _, _, _, rfl, .foundNothing hitems, .inl rfl, rfl, rfl, rfl⟩
  | consult hw =>
      simp only [Queue.act, Queue.consult, hw]
      split_ifs with hc hp
      · exact ⟨_, _, _, _, rfl, .left hc, .inl rfl, rfl, rfl, rfl⟩
      · exact ⟨_, _, _, _, rfl, .foundPermit hp, .inl rfl, rfl, rfl, rfl⟩
      · exact ⟨_, _, _, _, rfl, .fellAsleep (Bool.eq_false_iff.2 hp), .inl rfl, rfl, rfl, rfl⟩
  | heed hw hp =>
      simp only [Queue.act, Queue.heed, hw, hp, ↓reduceIte]
      exact ⟨_, _, _, _, rfl, .heeded hp, .inl rfl, rfl, rfl, rfl⟩
  | heedWoken hw =>
      simp only [Queue.act, Queue.heed, hw]
      exact ⟨_, _, _, _, rfl, .heededWoken, .inl rfl, rfl, rfl, rfl⟩
  | rouse hw hc =>
      simp only [Queue.act, Queue.rouse, hw]
      split_ifs with hcancelled hwoken hwoken
      · exact ⟨_, _, _, _, rfl, .roused hcancelled, .inr ⟨hcancelled, rfl, rfl⟩, rfl, rfl, rfl⟩
      · exact ⟨_, _, _, _, rfl, .roused hcancelled, .inl rfl, rfl, rfl, rfl⟩
      · subst hwoken
        exact ⟨_, _, _, _, rfl, .wokeUp, .inl rfl, rfl, rfl, rfl⟩
      · exact absurd hc (not_or.2 ⟨hcancelled, hwoken⟩)
  | pace hw wake =>
      simp only [Queue.act, Queue.pace, hw]
      cases wake with
      | none => exact ⟨_, _, _, _, rfl, .skippedPause, .inl rfl, rfl, rfl, rfl⟩
      | some wake => exact ⟨_, _, _, _, rfl, .beganPause, .inl rfl, rfl, rfl, rfl⟩
  | pacePanicked hw =>
      simp only [Queue.act, Queue.pacePanicked, hw]
      exact ⟨_, _, _, _, rfl, .crashed, .inl rfl, rfl, rfl, rfl⟩
  | putBack hw =>
      simp only [Queue.act, Queue.putBack, hw]
      exact ⟨_, _, _, _, rfl, .gaveBack rfl, .inl rfl, rfl, rfl, rfl⟩
  | paced hw hwake =>
      simp only [Queue.act, Queue.paced, hw]
      exact ⟨_, _, _, _, rfl, .endedPause, .inl rfl, rfl, rfl, rfl⟩
  | handOver hw call =>
      simp only [Queue.act, Queue.handOver, hw]
      exact ⟨_, _, _, _, rfl, .handedOver, .inl rfl, rfl, rfl, rfl⟩
  | sendEnded hw hends success =>
      simp only [Queue.act, Queue.sendEnded, hw]
      cases success <;> exact ⟨_, _, _, _, rfl, .endedSend, .inl rfl, rfl, rfl, rfl⟩

theorem act_of_author {a : Action} (ha : a.author? = some k) (q : Queue) :
    q.act a = q ∨ ∃ (r : Queue) (next : Phase),
      (q.act a = r.setPhase k next ∨ q.act a = (r.setPhase k next).signal) ∧
        r.workers = q.workers ∧ r.tracked = q.tracked ∧ r.awaited = q.awaited := by
  rcases still_or_step ha q with hq | ⟨now, hstep⟩
  · exact .inl hq
  · obtain ⟨_, _, next, r, -, -, hact, howner⟩ := hstep.passage
    exact .inr ⟨r, next, hact.imp_right (fun hend => hend.2.2), howner⟩

/-- What others can do to a worker. -/
structure Nudged (w w' : Worker) : Prop where
  cancelled : w.cancelled = true → w'.cancelled = true
  phase : w'.phase = w.phase ∨ w.phase = .asleep false ∧ w'.phase = .asleep true

theorem Nudged.refl (w : Worker) : Nudged w w := ⟨id, .inl rfl⟩

theorem Nudged.phase_eq {w w' : Worker} (h : Nudged w w') (hw : w.phase ≠ .asleep false) :
    w'.phase = w.phase :=
  h.phase.resolve_right (fun hs => hw hs.1)

theorem nudged_signal {w : Worker} (hw : q.worker? k = some w) :
    ∃ w', q.signal.worker? k = some w' ∧ Nudged w w' := by
  unfold signal
  cases hs : q.sleeper? with
  | none => exact ⟨w, hw, .refl w⟩
  | some j =>
      refine ⟨_, by rw [worker?_setPhase, hw, Option.map_some], ?_⟩
      by_cases hjk : j = k
      · subst hjk
        have hasleep := (phases_getElem?_of_worker? hw).symm.trans (sleeper?_phase hs)
        rw [if_pos rfl]
        exact ⟨id, .inr ⟨Option.some.inj hasleep, rfl⟩⟩
      · rw [if_neg hjk]
        exact .refl w

/-- A worker after a step of its own. -/
theorem Step.worker?_act {now : Tick} {a : Action} (h : Step now k q a) :
    ∃ (cancelled : Bool) (phase next : Phase), q.worker? k = some ⟨cancelled, phase⟩ ∧
      Passage k q cancelled phase a next ∧ (q.act a).worker? k = some ⟨cancelled, next⟩ := by
  obtain ⟨cancelled, phase, next, r, hw, hpass, hact, hworkers, -⟩ := h.passage
  have hr : r.worker? k = some ⟨cancelled, phase⟩ := by rw [worker?, hworkers, ← worker?, hw]
  have hto := worker?_setPhase_self hr next
  refine ⟨cancelled, phase, next, hw, hpass, ?_⟩
  rcases hact with hact | ⟨rfl, rfl, hact⟩
  · rw [hact, hto]
  · obtain ⟨⟨cancelled, phase'⟩, hw', hn⟩ := nudged_signal hto
    obtain rfl : cancelled = true := hn.cancelled rfl
    obtain rfl : phase' = .finished .returned := hn.phase_eq (by simp)
    rw [hact, hw']

/-- A worker after a step of another. -/
theorem nudged_act {a : Action} (ha : a.author? ≠ some k) {w : Worker} (hw : q.worker? k = some w) :
    ∃ w', (q.act a).worker? k = some w' ∧ Nudged w w' := by
  cases hauthor : a.author? with
  | some j =>
      have hjk : ¬ j = k := fun h => ha (h ▸ hauthor)
      rcases act_of_author hauthor q with hq | ⟨r, next, hq, hworkers, -⟩
      · exact ⟨w, by rw [hq, hw], .refl w⟩
      · have hr : (r.setPhase j next).worker? k = some w := by
          rw [worker?_setPhase, worker?, hworkers, ← worker?, hw, Option.map_some, if_neg hjk]
        rcases hq with hq | hq
        · exact ⟨w, by rw [hq, hr], .refl w⟩
        · rw [hq]
          exact nudged_signal hr
  | none =>
      cases a with
      | push p =>
          refine ⟨w, ?_, .refl w⟩
          simp only [act, push]
          split <;> exact hw
      | signal => exact nudged_signal hw
      | clear => exact ⟨w, hw, .refl w⟩
      | start =>
          refine ⟨w, ?_, .refl w⟩
          have hlt := (List.getElem?_eq_some_iff.1 hw).1
          have happend : (q.workers ++ [Worker.spawned])[k]? = some w := by
            rw [List.getElem?_append_left hlt]
            exact hw
          simp only [act, start]
          split_ifs
          · exact hw
          · exact hw
          · exact happend
      | requestStop =>
          simp only [act]
          split
          · exact ⟨w, hw, .refl w⟩
          · have hcancel : q.requestStop.worker? k = some w ∨
                q.requestStop.worker? k = some { w with cancelled := true } := by
              have hg : q.workers[k]? = some w := hw
              by_cases hk : q.workers.length - 1 = k <;>
                simp [requestStop, cancel, worker?, hg, hk]
            rcases hcancel with hc | hc
            · exact ⟨w, hc, .refl w⟩
            · exact ⟨_, hc, fun _ => rfl, .inl rfl⟩
      | endStop =>
          refine ⟨w, ?_, .refl w⟩
          simp only [act, endStop]
          split_ifs
          · split <;> exact hw
          · exact hw
      | _ => cases hauthor

end Frame

/-! ## The timeline takes these steps -/

section Timeline

variable {σ : Type} {env : Surroundings σ} {now : Tick} {k : Nat}

theorem Step.author {q : Queue} {a : Action} (h : Step now k q a) : a.author? = some k := by
  cases h <;> rfl

theorem step_of_stepWorker? {q q' : Queue} {s s' : σ}
    (h : stepWorker? env now k q s = some (q', s')) : ∃ a, Step now k q a ∧ q' = q.act a := by
  unfold stepWorker? at h
  cases hw : q.worker? k with
  | none => simp [hw] at h
  | some w =>
      obtain ⟨cancelled, phase⟩ := w
      rw [hw] at h
      cases phase with
      | looking =>
          obtain ⟨rfl, -⟩ := Prod.mk.inj (Option.some.inj h)
          exact ⟨_, .look hw, rfl⟩
      | dry =>
          obtain ⟨rfl, -⟩ := Prod.mk.inj (Option.some.inj h)
          exact ⟨_, .consult hw, rfl⟩
      | asleep woken =>
          dsimp only at h
          split at h
          · next hc =>
              obtain ⟨rfl, -⟩ := Prod.mk.inj (Option.some.inj h)
              exact ⟨_, .rouse hw hc, rfl⟩
          · cases h
      | holding p =>
          dsimp only at h
          split at h
          · obtain ⟨rfl, -⟩ := Prod.mk.inj (Option.some.inj h)
            exact ⟨_, .pacePanicked hw, rfl⟩
          · obtain ⟨rfl, -⟩ := Prod.mk.inj (Option.some.inj h)
            exact ⟨_, .pace hw _, rfl⟩
      | pacing p wake =>
          dsimp only at h
          split at h
          · next hc =>
              obtain rfl : cancelled = true := hc
              obtain ⟨rfl, -⟩ := Prod.mk.inj (Option.some.inj h)
              exact ⟨_, .putBack hw, rfl⟩
          · split at h
            · next hwake =>
                obtain ⟨rfl, -⟩ := Prod.mk.inj (Option.some.inj h)
                exact ⟨_, .paced hw hwake, rfl⟩
            · cases h
      | ready p =>
          obtain ⟨rfl, -⟩ := Prod.mk.inj (Option.some.inj h)
          exact ⟨_, .handOver hw _, rfl⟩
      | sending p call =>
          dsimp only at h
          split at h
          · next hends =>
              obtain ⟨rfl, -⟩ := Prod.mk.inj (Option.some.inj h)
              exact ⟨_, .sendEnded hw hends _, rfl⟩
          · cases h
      | finished e => cases h

/-- Where the timeline sees a worker wait, the worker can do nothing. -/
theorem no_step_of_stepWorker? {q : Queue} {s : σ} (h : stepWorker? env now k q s = none)
    (a : Action) : ¬ Step now k q a := by
  intro ha
  unfold stepWorker? at h
  cases ha with
  | look hw => simp [hw] at h
  | consult hw => simp [hw] at h
  | heed hw hp => simp [hw] at h
  | heedWoken hw => simp [hw] at h
  | rouse hw hc => simp [hw, hc] at h
  | pace hw wake =>
      rw [hw] at h
      dsimp only at h
      split at h <;> cases h
  | pacePanicked hw =>
      rw [hw] at h
      dsimp only at h
      split at h <;> cases h
  | putBack hw => simp [hw] at h
  | paced hw hwake =>
      rw [hw] at h
      dsimp only at h
      split_ifs at h
  | handOver hw call => simp [hw] at h
  | sendEnded hw hends success => simp [hw, hends] at h

theorem lt_after (now : Tick) {d : Duration} (hd : d.isZero = false) : now < now.after d := by
  have hnanos : d.nanos ≠ 0 := of_decide_eq_false hd
  have hmillis : 0 < d.ceilMillis := by
    unfold Duration.ceilMillis
    omega
  exact Nat.lt_add_of_pos_right (Nat.lt_min.2 ⟨hmillis, by decide⟩)

/-- What is there to be taken, counted in steps of a worker. -/
def backlog (q : Queue) : Nat := 4 * q.items.length + if q.permit then 2 else 0

/-- A bound on the steps that a worker takes at the moment `now`. -/
def Worker.stepsLeft (now : Tick) (backlog : Nat) (w : Worker) : Nat :=
  match w.phase with
  | .looking => backlog + 2
  | .dry => backlog + 1
  | .asleep woken => if w.cancelled ∨ woken then backlog + 3 else 0
  | .holding _ => backlog + 5
  | .pacing _ wake => if w.cancelled then 1 else if wake ≤ now then backlog + 5 else 0
  | .ready _ => backlog + 4
  | .sending _ _ => backlog + 3
  | .finished _ => 0

def stepsLeft (now : Tick) (k : Nat) (q : Queue) : Nat :=
  (q.worker? k).elim 0 (Worker.stepsLeft now q.backlog)

theorem stepsLeft_setPhase {q : Queue} {cancelled : Bool} {phase : Phase}
    (hw : q.worker? k = some ⟨cancelled, phase⟩) (next : Phase) :
    stepsLeft now k (q.setPhase k next) = Worker.stepsLeft now q.backlog ⟨cancelled, next⟩ := by
  rw [stepsLeft, worker?_setPhase_self hw]
  rfl

section StepsLeft

variable {q : Queue} {cancelled : Bool}

theorem stepsLeft_look (hw : q.worker? k = some ⟨cancelled, .looking⟩) :
    stepsLeft now k (q.look k) < q.backlog + 2 := by
  simp only [look, hw]
  split
  · next p rest hitems =>
      have hw' : { q with items := rest }.worker? k = some ⟨cancelled, .looking⟩ := hw
      rw [stepsLeft_setPhase hw']
      simp only [Worker.stepsLeft, backlog, hitems, List.length_cons]
      omega
  · rw [stepsLeft_setPhase hw]
    exact Nat.lt_succ_self _

theorem stepsLeft_consult (hw : q.worker? k = some ⟨cancelled, .dry⟩) :
    stepsLeft now k (q.consult k) < q.backlog + 1 := by
  simp only [consult, hw]
  split_ifs with hc hp
  · rw [stepsLeft_setPhase hw]
    exact Nat.succ_pos _
  · have hw' : { q with permit := false }.worker? k = some ⟨cancelled, .dry⟩ := hw
    rw [stepsLeft_setPhase hw']
    simp only [Worker.stepsLeft, backlog, hp, ↓reduceIte, Bool.false_eq_true]
    omega
  · rw [stepsLeft_setPhase hw]
    simp [Worker.stepsLeft, hc]

theorem stepsLeft_rouse {woken : Bool} (hw : q.worker? k = some ⟨cancelled, .asleep woken⟩)
    (hc : cancelled = true ∨ woken = true) : stepsLeft now k (q.rouse k) < q.backlog + 3 := by
  simp only [rouse, hw]
  split_ifs with hcancelled hwoken hwoken
  · obtain ⟨w', hw', hn⟩ := nudged_signal (worker?_setPhase_self hw (.finished .returned))
    rw [stepsLeft, hw', Option.elim_some, Worker.stepsLeft, hn.phase_eq (by simp)]
    exact Nat.succ_pos _
  · rw [stepsLeft_setPhase hw]
    exact Nat.succ_pos _
  · rw [stepsLeft_setPhase hw]
    exact Nat.lt_succ_self _
  · exact absurd hc (not_or.2 ⟨hcancelled, hwoken⟩)

/-- A pause that has a length is not over at once. -/
theorem stepsLeft_pace {p : Packet} (hw : q.worker? k = some ⟨cancelled, .holding p⟩)
    (d : Duration) : stepsLeft now k (q.pace k (wakeAfter now d)) < q.backlog + 5 := by
  simp only [pace, hw, wakeAfter]
  cases hz : d.isZero with
  | true =>
      simp only [↓reduceIte]
      rw [stepsLeft_setPhase hw]
      exact Nat.lt_succ_self _
  | false =>
      have hlt := lt_after now hz
      simp only [Bool.false_eq_true, ↓reduceIte]
      rw [stepsLeft_setPhase hw]
      simp only [Worker.stepsLeft, Nat.not_le.2 hlt, ↓reduceIte]
      split <;> omega

theorem stepsLeft_sendEnded {p : Packet} {call : Call Unit}
    (hw : q.worker? k = some ⟨cancelled, .sending p call⟩) (success : Bool) :
    stepsLeft now k (q.sendEnded k success) < q.backlog + 3 := by
  have hto (r : Queue) (hr : r.worker? k = q.worker? k) (hb : r.backlog = q.backlog) :
      stepsLeft now k (r.setPhase k (if cancelled then .finished .returned else .looking)) <
        q.backlog + 3 := by
    rw [stepsLeft_setPhase (hr.trans hw), hb]
    cases cancelled
    · exact Nat.lt_succ_self _
    · exact Nat.succ_pos _
  simp only [sendEnded, hw]
  split
  · exact hto { q with sent := q.sent + 1 } rfl rfl
  · exact hto { q with sendErrors := q.sendErrors + 1 } rfl rfl

theorem stepsLeft_lt {q' : Queue} {s s' : σ} (h : stepWorker? env now k q s = some (q', s')) :
    stepsLeft now k q' < stepsLeft now k q := by
  unfold stepWorker? at h
  cases hw : q.worker? k with
  | none => simp [hw] at h
  | some w =>
      obtain ⟨cancelled, phase⟩ := w
      have hleft : stepsLeft now k q = Worker.stepsLeft now q.backlog ⟨cancelled, phase⟩ := by
        rw [stepsLeft, hw]
        rfl
      rw [hw] at h
      rw [hleft]
      cases phase with
      | looking =>
          obtain ⟨rfl, -⟩ := Prod.mk.inj (Option.some.inj h)
          exact stepsLeft_look hw
      | dry =>
          obtain ⟨rfl, -⟩ := Prod.mk.inj (Option.some.inj h)
          exact stepsLeft_consult hw
      | asleep woken =>
          dsimp only at h
          split at h
          · next hc =>
              obtain ⟨rfl, -⟩ := Prod.mk.inj (Option.some.inj h)
              have hsome : Worker.stepsLeft now q.backlog ⟨cancelled, .asleep woken⟩ =
                  q.backlog + 3 := if_pos hc
              rw [hsome]
              exact stepsLeft_rouse hw hc
          · cases h
      | holding p =>
          dsimp only at h
          split at h
          · obtain ⟨rfl, -⟩ := Prod.mk.inj (Option.some.inj h)
            simp only [pacePanicked, hw]
            rw [stepsLeft_setPhase hw]
            exact Nat.succ_pos _
          · obtain ⟨rfl, -⟩ := Prod.mk.inj (Option.some.inj h)
            exact stepsLeft_pace hw _
      | pacing p wake =>
          dsimp only at h
          split at h
          · next hc =>
              obtain rfl : cancelled = true := hc
              obtain ⟨rfl, -⟩ := Prod.mk.inj (Option.some.inj h)
              have hw' : { q with items := p :: q.items }.worker? k =
                  some ⟨true, .pacing p wake⟩ := hw
              simp only [putBack, hw]
              rw [stepsLeft_setPhase hw']
              exact Nat.one_pos
          · next hc =>
            split at h
            · next hwake =>
                obtain ⟨rfl, -⟩ := Prod.mk.inj (Option.some.inj h)
                simp only [paced, hw]
                rw [stepsLeft_setPhase hw]
                simp only [Worker.stepsLeft, hc, hwake, ↓reduceIte, Bool.false_eq_true]
                exact Nat.lt_succ_self _
            · cases h
      | ready p =>
          obtain ⟨rfl, -⟩ := Prod.mk.inj (Option.some.inj h)
          simp only [handOver, hw]
          rw [stepsLeft_setPhase hw]
          exact Nat.lt_succ_self _
      | sending p call =>
          dsimp only at h
          split at h
          · obtain ⟨rfl, -⟩ := Prod.mk.inj (Option.some.inj h)
            exact stepsLeft_sendEnded hw _
          · cases h
      | finished e => cases h

end StepsLeft

theorem stepsLeft_le_stepBound (now : Tick) (k : Nat) (q : Queue) :
    stepsLeft now k q ≤ q.stepBound := by
  have hbacklog : q.backlog ≤ 4 * q.items.length + 2 := by
    unfold backlog
    split <;> omega
  unfold stepsLeft stepBound
  cases q.worker? k with
  | none => exact Nat.zero_le _
  | some w =>
      simp only [Option.elim_some, Worker.stepsLeft]
      split <;> (try split_ifs) <;> omega

theorem runWorker_turn_of_le (steps : Nat) (q : Queue) (s : σ) (h : stepsLeft now k q ≤ steps) :
    ∃ actions, Turn now k q actions ∧ (runWorker env now k steps q s).1 = q.run actions := by
  induction steps generalizing q s with
  | zero =>
      cases hs : stepWorker? env now k q s with
      | none => exact ⟨[], no_step_of_stepWorker? hs, rfl⟩
      | some next => exact absurd (Nat.lt_of_lt_of_le (stepsLeft_lt hs) h) (Nat.not_lt_zero _)
  | succ steps ih =>
      unfold runWorker
      cases hs : stepWorker? env now k q s with
      | none => exact ⟨[], no_step_of_stepWorker? hs, rfl⟩
      | some next =>
          obtain ⟨a, ha, hnext⟩ := step_of_stepWorker? hs
          have hless := Nat.lt_of_lt_of_le (stepsLeft_lt hs) h
          obtain ⟨actions, hturn, hrun⟩ := ih next.1 next.2 (Nat.le_of_lt_succ hless)
          refine ⟨a :: actions, ⟨ha, hnext ▸ hturn⟩, ?_⟩
          rw [run_cons, ← hnext]
          exact hrun

/-- The timeline gives a worker its whole turn. -/
theorem runWorker_turn (env : Surroundings σ) (now : Tick) (k : Nat) (q : Queue) (s : σ) :
    ∃ actions, Turn now k q actions ∧ (runWorker env now k q.stepBound q s).1 = q.run actions :=
  runWorker_turn_of_le q.stepBound q s (stepsLeft_le_stepBound now k q)

theorem exists_turn (now : Tick) (k : Nat) (q : Queue) : ∃ actions, Turn now k q actions :=
  let idle : Surroundings Unit :=
    ⟨fun s => (none, s), fun _ s => (⟨0, Duration.zero, .done ()⟩, s), fun _ s => (true, s)⟩
  (runWorker_turn idle now k q ()).imp (fun _ h => h.1)

theorem Turn.author {q : Queue} {actions : List Action} (h : Turn now k q actions) :
    ∀ a ∈ actions, a.author? = some k := by
  induction actions generalizing q with
  | nil => simp
  | cons a actions ih =>
      rw [List.forall_mem_cons]
      exact ⟨h.1.author, ih h.2⟩

theorem isOwners_of_author {a : Action} (h : a.author? = some k) : a.isOwners = false := by
  cases a <;> first | rfl | cases h

/-- What happens at one moment are steps of the workers. -/
theorem drain_eq_run (env : Surroundings σ) (now : Tick) (q : Queue) (s : σ) :
    ∃ actions, (∀ a ∈ actions, a.isOwners = false) ∧ (drain env now q s).1 = q.run actions := by
  unfold drain
  generalize List.range q.workers.length = ks
  induction ks generalizing q s with
  | nil => exact ⟨[], by simp, rfl⟩
  | cons k ks ih =>
      obtain ⟨first, hturn, hrun⟩ := runWorker_turn env now k q s
      obtain ⟨rest, hrest, hruns⟩ := ih _ (runWorker env now k q.stepBound q s).2
      refine ⟨first ++ rest, ?_, ?_⟩
      · intro a ha
        rcases List.mem_append.1 ha with ha | ha
        · exact isOwners_of_author (hturn.author a ha)
        · exact hrest a ha
      · rw [run_append, ← hrun]
        exact hruns

end Timeline

end Queue

namespace Timeline

variable {σ : Type} {P : σ → Prop}

/-- What a moment keeps is kept while time passes. -/
theorem runUntil_keeps (t : Timeline σ) (h : ∀ now s, P s → P (t.settle now s)) (ended : σ → Bool)
    (target now : Tick) (s : σ) (hs : P s) : P (t.runUntil ended target now s).2 := by
  fun_induction t.runUntil ended target now s with
  | case1 now s settled hended => exact h now s hs
  | case2 now s settled hended hle => exact h now s hs
  | case3 now s settled hended hlt ih => exact ih (h now s hs)

end Timeline

namespace QueueRun

/-- A stop tells the worker, lets the workers go on for a while, and then looks what came of it. -/
theorem stop_eq_run (timeout : Duration) (r : QueueRun) :
    ∃ during, (∀ a ∈ during, a.isOwners = false) ∧
      (r.stop timeout).1 = (r.queue.requestStop.run during).stopAnswer ∧
      (r.stop timeout).2.queue = (r.queue.requestStop.run during).endStop := by
  let Later (r' : QueueRun) : Prop :=
    ∃ during, (∀ a ∈ during, a.isOwners = false) ∧ r'.queue = r.queue.requestStop.run during
  have hsettle : ∀ now r', Later r' → Later (settle now r') := by
    rintro now r' ⟨during, howners, hqueue⟩
    obtain ⟨more, hmore, hrun⟩ :=
      Queue.drain_eq_run surroundings now r'.queue { r' with tick := now }
    refine ⟨during ++ more, ?_, ?_⟩
    · intro a ha
      exact (List.mem_append.1 ha).elim (howners a) (hmore a)
    · rw [Queue.run_append, ← hqueue]
      exact hrun
  have hbegin : Later { r with queue := r.queue.requestStop } := ⟨[], by simp, rfl⟩
  have hlater : ∃ r', Later r' ∧ r.stop timeout =
      (r'.queue.stopAnswer, { r' with queue := r'.queue.endStop }) := by
    unfold stop
    dsimp only
    split
    · exact ⟨_, hbegin, rfl⟩
    · exact ⟨_, timeline.runUntil_keeps hsettle _ _ _ _ hbegin, rfl⟩
  obtain ⟨r', ⟨during, howners, hqueue⟩, hstop⟩ := hlater
  refine ⟨during, howners, ?_, ?_⟩
  · rw [hstop, hqueue]
  · rw [hstop, hqueue]

end QueueRun

end LinkReliability
