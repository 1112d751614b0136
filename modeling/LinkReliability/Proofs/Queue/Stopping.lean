import LinkReliability.Proofs.Queue.Turn

/-!
# Workers that are told to stop

A queue never has more than one worker that has not ended, whatever its owner does and however long
the sends take. A worker that is told to stop ends at the next point where it has nothing in hand,
and passes no further packet to the sender.
-/

namespace LinkReliability.Queue

/-- The worker was told to stop. -/
def Signalled (q : Queue) (k : Nat) : Prop := ∃ phase, q.worker? k = some ⟨true, phase⟩

/-- The worker waits for a packet or is about to look for one. -/
def Phase.isIdle : Phase → Bool
  | looking => true
  | dry => true
  | asleep _ => true
  | _ => false

/-- The packets that worker `k` passes to the sender with this step. -/
def handedBy (k : Nat) (q : Queue) : Action → List Packet
  | .handOver j _ =>
    match q.worker? j with
    | some ⟨_, .ready p⟩ => if j = k then [p] else []
    | _ => []
  | _ => []

/-- The packets that worker `k` passes to the sender in a run. -/
def handed (k : Nat) : List Action → Queue → List Packet
  | [], _ => []
  | a :: rest, q => handedBy k q a ++ handed k rest (q.act a)

variable {q : Queue} {k : Nat}

theorem handed_append (actions later : List Action) (q : Queue) :
    handed k (actions ++ later) q = handed k actions q ++ handed k later (q.run actions) := by
  induction actions generalizing q with
  | nil => rfl
  | cons a actions ih => rw [List.cons_append, handed, handed, ih, List.append_assoc, run_cons]

/-! ## A stop is not taken back -/

theorem Signalled.act (h : q.Signalled k) (a : Action) : (q.act a).Signalled k := by
  obtain ⟨phase, hw⟩ := h
  by_cases ha : a.author? = some k
  · rcases still_or_step ha q with hq | ⟨now, hstep⟩
    · exact ⟨phase, by rw [hq, hw]⟩
    · obtain ⟨cancelled, before, next, hbefore, -, hafter⟩ := hstep.worker?_act
      obtain ⟨rfl, rfl⟩ := Worker.mk.inj (Option.some.inj (hw.symm.trans hbefore))
      exact ⟨next, hafter⟩
  · obtain ⟨⟨cancelled, phase'⟩, hw', hn⟩ := nudged_act ha hw
    obtain rfl : cancelled = true := hn.cancelled rfl
    exact ⟨phase', hw'⟩

/-! ## The steps of a worker that was told to stop -/

section Steps

variable {now : Tick} {a : Action} {cancelled : Bool} {phase : Phase}

theorem phase_unique {cancelled' : Bool} {phase' : Phase}
    (hw : q.worker? k = some ⟨cancelled, phase⟩) (hw' : q.worker? k = some ⟨cancelled', phase'⟩) :
    phase = phase' :=
  (Worker.mk.inj (Option.some.inj (hw.symm.trans hw'))).2

theorem Step.not_finished {e : Exit} (hw : q.worker? k = some ⟨cancelled, .finished e⟩) :
    ¬ Step now k q a := by
  intro h
  cases h <;> simp_all

theorem Step.of_pacing {p : Packet} {wake : Tick}
    (hw : q.worker? k = some ⟨cancelled, .pacing p wake⟩) (h : Step now k q a) :
    a = .putBack k ∧ cancelled = true ∨ a = .paced k ∧ wake ≤ now := by
  cases h <;> simp_all

theorem Step.of_sending {p : Packet} {call : Call Unit}
    (hw : q.worker? k = some ⟨cancelled, .sending p call⟩) (h : Step now k q a) :
    ∃ success, a = .sendEnded k success ∧ call.ends ≤ now := by
  cases h <;> simp_all

/-- Nothing but its end disturbs a send. -/
theorem sending_act {p : Packet} {call : Call Unit}
    (hw : q.worker? k = some ⟨cancelled, .sending p call⟩)
    (ha : ∀ j success, a ≠ .sendEnded j success) :
    ∃ cancelled', (q.act a).worker? k = some ⟨cancelled', .sending p call⟩ := by
  by_cases hauthor : a.author? = some k
  · rcases still_or_step hauthor q with hq | ⟨now, hstep⟩
    · exact ⟨cancelled, by rw [hq, hw]⟩
    · obtain ⟨success, rfl, -⟩ := hstep.of_sending hw
      exact absurd rfl (ha k success)
  · obtain ⟨⟨cancelled', phase'⟩, hw', hn⟩ := nudged_act hauthor hw
    obtain rfl : phase' = .sending p call := hn.phase_eq (by simp)
    exact ⟨cancelled', hw'⟩

/-- On an empty queue such a worker ends, or sees the queue empty once more. -/
theorem Step.of_idle (hw : q.worker? k = some ⟨true, phase⟩) (hidle : phase.isIdle = true)
    (hitems : q.items = []) (h : Step now k q a) :
    Unmoved (q.act a) q ∧ handedBy k q a = [] ∧
      ∃ phase', (q.act a).worker? k = some ⟨true, phase'⟩ ∧
        (phase'.isIdle = true ∨ phase' = .finished .returned) := by
  have hto (next : Phase) := worker?_setPhase_self hw next
  cases h with
  | look hl =>
      refine ⟨?_, rfl, .dry, ?_, .inl rfl⟩
      · simp only [Queue.act, Queue.look, hl, hitems]
        exact .setPhase (phases_getElem?_of_worker? hl) .dry rfl rfl
      · simp only [Queue.act, Queue.look, hl, hitems]
        exact hto .dry
  | consult hd =>
      obtain ⟨rfl, rfl⟩ := Worker.mk.inj (Option.some.inj (hd.symm.trans hw))
      refine ⟨.consult k q, rfl, .finished .returned, ?_, .inr rfl⟩
      simp only [Queue.act, Queue.consult, hw, ↓reduceIte]
      exact hto _
  | heed hd hp =>
      refine ⟨.heed k q, rfl, .looking, ?_, .inl rfl⟩
      simp only [Queue.act, Queue.heed, hd, hp, ↓reduceIte]
      exact hto .looking
  | heedWoken ha =>
      refine ⟨.heed k q, rfl, .looking, ?_, .inl rfl⟩
      simp only [Queue.act, Queue.heed, ha]
      exact hto .looking
  | rouse ha hc =>
      obtain ⟨rfl, rfl⟩ := Worker.mk.inj (Option.some.inj (ha.symm.trans hw))
      refine ⟨.rouse k q, rfl, .finished .returned, ?_, .inr rfl⟩
      simp only [Queue.act, Queue.rouse, hw, ↓reduceIte]
      split
      · obtain ⟨⟨cancelled, phase'⟩, hw', hn⟩ := nudged_signal (hto (.finished .returned))
        obtain rfl : cancelled = true := hn.cancelled rfl
        rcases hn.phase with rfl | ⟨hphase, -⟩
        · exact hw'
        · cases hphase
      · exact hto _
  | pace hh wake =>
      obtain rfl := phase_unique hw hh
      cases hidle
  | pacePanicked hh =>
      obtain rfl := phase_unique hw hh
      cases hidle
  | putBack hp =>
      obtain rfl := phase_unique hw hp
      cases hidle
  | paced hp hwake =>
      obtain rfl := phase_unique hw hp
      cases hidle
  | handOver hr call =>
      obtain rfl := phase_unique hw hr
      cases hidle
  | sendEnded hs hends success =>
      obtain rfl := phase_unique hw hs
      cases hidle

/-- Such a worker need not wait. -/
theorem exists_step_of_idle (hw : q.worker? k = some ⟨true, phase⟩) (hidle : phase.isIdle = true) :
    ∃ a, Step now k q a := by
  cases phase with
  | looking => exact ⟨_, .look hw⟩
  | dry => exact ⟨_, .consult hw⟩
  | asleep woken => exact ⟨_, .rouse hw (.inl rfl)⟩
  | _ => cases hidle

end Steps

/-! ## A worker with nothing more to hand over -/

/-- The worker has ended, or it will when its send is over. -/
def Spent (q : Queue) (k : Nat) : Prop :=
  ∃ phase, q.worker? k = some ⟨true, phase⟩ ∧ (phase.isFinished = true ∨ phase.sent?.isSome = true)

theorem worker?_sendEnded {cancelled : Bool} {p : Packet} {call : Call Unit}
    (hw : q.worker? k = some ⟨cancelled, .sending p call⟩) (success : Bool) :
    (q.sendEnded k success).worker? k =
      some ⟨cancelled, if cancelled then .finished .returned else .looking⟩ := by
  simp only [sendEnded, hw]
  rw [worker?_setPhase]
  have hsame : (if success then { q with sent := q.sent + 1 }
      else { q with sendErrors := q.sendErrors + 1 } : Queue).worker? k = q.worker? k := by
    cases success <;> rfl
  rw [hsame, hw, Option.map_some, if_pos rfl]

theorem Spent.act (h : q.Spent k) (a : Action) : (q.act a).Spent k := by
  obtain ⟨phase, hw, hspent⟩ := h
  by_cases ha : a.author? = some k
  · rcases still_or_step ha q with hq | ⟨now, hstep⟩
    · exact ⟨phase, by rw [hq, hw], hspent⟩
    · cases phase with
      | finished e => exact absurd hstep (Step.not_finished hw)
      | sending p call =>
          obtain ⟨success, rfl, -⟩ := hstep.of_sending hw
          exact ⟨_, worker?_sendEnded hw success, .inl rfl⟩
      | _ => simp [Phase.isFinished, Phase.sent?] at hspent
  · obtain ⟨⟨cancelled, phase'⟩, hw', hn⟩ := nudged_act ha hw
    obtain rfl : cancelled = true := hn.cancelled rfl
    refine ⟨phase', hw', ?_⟩
    rcases hn.phase with hp | ⟨hp, -⟩
    · rwa [show phase' = phase from hp]
    · rw [show phase = .asleep false from hp] at hspent
      simp [Phase.isFinished, Phase.sent?] at hspent

theorem handedBy_of_not_ready {phase : Phase} {cancelled : Bool}
    (hw : q.worker? k = some ⟨cancelled, phase⟩) (hready : ∀ p, phase ≠ .ready p) (a : Action) :
    handedBy k q a = [] := by
  cases a with
  | handOver j call =>
      simp only [handedBy]
      split
      · next p hj =>
          have hjk : ¬ j = k := fun h => hready p (phase_unique hw (h ▸ hj))
          rw [if_neg hjk]
      · rfl
  | _ => rfl

theorem Spent.handed_eq_nil (h : q.Spent k) (later : List Action) : handed k later q = [] := by
  induction later generalizing q with
  | nil => rfl
  | cons a later ih =>
      obtain ⟨phase, hw, hspent⟩ := h
      have hready : ∀ p, phase ≠ .ready p := by
        rintro p rfl
        simp [Phase.isFinished, Phase.sent?] at hspent
      rw [handed, handedBy_of_not_ready hw hready, ih (Spent.act ⟨phase, hw, hspent⟩ a)]
      rfl

theorem Step.unfinished {now : Tick} {a : Action} (h : Step now k q a) : q.Unfinished k := by
  cases h <;> exact ⟨_, ‹_›, rfl⟩

/-- Apart from pushes, only the worker that has not ended adds to the waiting packets. -/
theorem items_act_of_ne (h : Tended q) (hk : q.Unfinished k) (hitems : q.items = []) {a : Action}
    (ha : a.author? ≠ some k) (hpush : ∀ p, a ≠ .push p) : (q.act a).items = [] := by
  cases hauthor : a.author? with
  | some j =>
      rcases still_or_step hauthor q with hq | ⟨now, hstep⟩
      · rw [hq, hitems]
      · have hj := h.known_of_unfinished hstep.unfinished
        rw [h.known_of_unfinished hk] at hj
        exact absurd (hauthor.trans hj.symm) ha
  | none =>
      cases a with
      | push p => exact absurd rfl (hpush p)
      | signal => exact (Unmoved.signal q).items.trans hitems
      | clear => rfl
      | start =>
          simp only [act]
          split
          · exact hitems
          · exact (Unmoved.start q).items.trans hitems
      | requestStop =>
          simp only [act]
          split
          · exact hitems
          · exact (Unmoved.requestStop q).items.trans hitems
      | endStop =>
          simp only [act]
          split
          · exact (Unmoved.endStop q).items.trans hitems
          · exact hitems
      | _ => cases hauthor

/-- As long as no packet is added, it does not matter what others do between its steps. -/
theorem handed_of_unfed (h : Tended q) {phase : Phase} (hw : q.worker? k = some ⟨true, phase⟩)
    (hidle : phase.isIdle = true) (hitems : q.items = []) {later : List Action}
    (hlater : ∀ p, .push p ∉ later) : handed k later q = [] := by
  induction later generalizing q phase with
  | nil => rfl
  | cons a later ih =>
      have hrest : ∀ p, .push p ∉ later := fun p hp => hlater p (List.mem_cons_of_mem _ hp)
      have hready : ∀ p, phase ≠ .ready p := by
        rintro p rfl
        cases hidle
      rw [handed, handedBy_of_not_ready hw hready, List.nil_append]
      by_cases ha : a.author? = some k
      · rcases still_or_step ha q with hq | ⟨now, hstep⟩
        · rw [hq]
          exact ih h hw hidle hitems hrest
        · obtain ⟨hmoved, -, phase', hw', hphase⟩ := hstep.of_idle hw hidle hitems
          rcases hphase with hidle' | rfl
          · exact ih (h.act a) hw' hidle' (hmoved.items.trans hitems) hrest
          · exact Spent.handed_eq_nil ⟨_, hw', .inl rfl⟩ later
      · obtain ⟨⟨cancelled, phase'⟩, hw', hn⟩ := nudged_act ha hw
        obtain rfl : cancelled = true := hn.cancelled rfl
        have hidle' : phase'.isIdle = true := by
          rcases hn.phase with hp | ⟨-, hp⟩
          · rwa [show phase' = phase from hp]
          · rw [show phase' = .asleep true from hp]
            rfl
        have hlive : q.Unfinished k := ⟨_, hw, by cases phase <;> first | rfl | cases hidle⟩
        have hempty := items_act_of_ne h hlive hitems ha (fun p hp => hlater p (hp ▸ .head _))
        exact ih (h.act a) hw' hidle' hempty hrest

end LinkReliability.Queue
