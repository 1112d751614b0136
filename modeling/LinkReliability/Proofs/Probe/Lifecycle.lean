import LinkReliability.Proofs.Probe.Steps

/-!
# The loops of a probe and those who stop them

Any number of tasks start and stop the same probe. A loop that was told to stop is never told
otherwise, and no other loop comes to its end.
-/

namespace LinkReliability.Probe

variable {p p' : Probe} {j k : Nat}

def cancelled? (p : Probe) (k : Nat) : Option Bool := (p.loop? k).map Loop.cancelled

theorem cancelled?_eq_some {cancelled : Bool} :
    p.cancelled? k = some cancelled ↔ ∃ phase, p.loop? k = some ⟨cancelled, phase⟩ := by
  unfold cancelled?
  rw [Option.map_eq_some_iff]
  constructor
  · rintro ⟨⟨_, phase⟩, hl, rfl⟩
    exact ⟨phase, hl⟩
  · rintro ⟨phase, hl⟩
    exact ⟨_, hl, rfl⟩

/-! ## Steps of a loop tell nobody to stop -/

theorem cancelled?_of_loops (h : p'.loops = p.loops) (k : Nat) :
    p'.cancelled? k = p.cancelled? k := by
  unfold cancelled? loop?
  rw [h]

theorem cancelled?_setPhase (p : Probe) (j : Nat) (phase : LoopPhase) (k : Nat) :
    (p.setPhase j phase).cancelled? k = p.cancelled? k := by
  unfold setPhase cancelled? loop?
  rw [List.getElem?_modify]
  cases p.loops[k]? with
  | none => rfl
  | some l => by_cases hjk : j = k <;> simp [hjk]

theorem cancelled?_fold (p : Probe) (name : String) (r : CheckResult) (k : Nat) :
    (p.fold name r).cancelled? k = p.cancelled? k :=
  cancelled?_of_loops (fold_frame p name r).2.2 k

theorem cancelled?_adopt (p : Probe) (name : String) (next : Option Check) (k : Nat) :
    (p.adopt name next).cancelled? k = p.cancelled? k := by
  cases next <;> rfl

theorem cancelled?_endCheck (p : Probe) (j : Nat) (now : Tick) (stamp : Reading) (k : Nat) :
    (p.endCheck j now stamp).cancelled? k = p.cancelled? k := by
  by_cases hchecking : ∃ run rest, p.phase? j = some (.checking run rest)
  · obtain ⟨run, rest, hphase⟩ := hchecking
    rw [endCheck_eq hphase]
    cases run.result? stamp with
    | none => exact cancelled?_setPhase (p.giveUp (.loop j)) j _ k
    | some r =>
        exact (cancelled?_setPhase _ j _ k).trans (cancelled?_fold p run.service r k)
  · rw [endCheck_of_ne (fun run rest hphase => hchecking ⟨run, rest, hphase⟩)]

/-! ## The owners -/

/-- A loop that is there is not the one that is started. -/
theorem cancelled?_start {cancelled : Bool} (h : p.cancelled? k = some cancelled) :
    p.start.cancelled? k = some cancelled := by
  obtain ⟨phase, hl⟩ := cancelled?_eq_some.1 h
  have hlt := (List.getElem?_eq_some_iff.1 hl).1
  unfold start
  split
  · exact h
  · refine cancelled?_eq_some.2 ⟨phase, ?_⟩
    unfold loop?
    rw [List.getElem?_append_left hlt]
    exact hl

theorem cancelled?_requestStop (h : p.cancelled? k = some true) :
    p.requestStop.cancelled? k = some true := by
  obtain ⟨phase, hl⟩ := cancelled?_eq_some.1 h
  have hl : p.loops[k]? = some ⟨true, phase⟩ := hl
  unfold requestStop
  split
  · exact h
  · next j hj =>
      unfold cancelled? loop?
      rw [List.getElem?_modify, hl]
      by_cases hjk : j = k <;> simp [hjk]

theorem cancelled?_endStop (p : Probe) (j k : Nat) :
    (p.endStop j).cancelled? k = p.cancelled? k := by
  unfold endStop
  split
  · dsimp only
    split <;> rfl
  · rfl

namespace Course

variable {d : Course} {a : Action}

/-- A loop that was told to stop is not told otherwise. -/
theorem cancelled_act (h : d.probe.cancelled? k = some true) (a : Action) :
    (d.act a).probe.cancelled? k = some true := by
  have hset := fun (p : Probe) (j : Nat) (phase : LoopPhase) => cancelled?_setPhase p j phase k
  change (d.probeAfter a).cancelled? k = some true
  cases a with
  | start => exact cancelled?_start h
  | requestStop => exact cancelled?_requestStop h
  | endStop j => exact (cancelled?_endStop d.probe j k).trans h
  | register name check => exact h
  | subscribe s => exact h
  | leave i => exact h
  | ask name t =>
      simp only [probeAfter]
      split
      · exact (cancelled?_adopt d.probe name t.next k).trans h
      · exact h
  | answer i stamp =>
      simp only [probeAfter]
      split
      · next run hrun =>
          rw [conclude_eq]
          cases run.result? stamp with
          | none => exact h
          | some r => exact (cancelled?_fold d.probe run.service r k).trans h
      · exact h
  | enterCycle j =>
      simp only [probeAfter, enterCycle]
      split
      · split <;> exact (hset d.probe j _).trans h
      · exact h
  | beginCheck j t =>
      simp only [probeAfter]
      split
      · next name hturn =>
          have hadopt := (cancelled?_adopt d.probe name t.next k).trans h
          split
          · unfold beginCheck
            split
            · exact (hset _ j _).trans hadopt
            · exact hadopt
          · exact h
      · exact h
  | skipCheck j =>
      simp only [probeAfter, skipCheck]
      split
      · split
        · exact h
        · split
          · exact (hset d.probe j _).trans h
          · exact h
      · exact h
  | endCheck j now stamp => exact (cancelled?_endCheck d.probe j now stamp k).trans h
  | endCycle j now =>
      simp only [probeAfter, endCycle]
      split
      · exact (hset d.probe j _).trans h
      · exact h
  | endPause j =>
      simp only [probeAfter, endPause]
      split
      · exact (hset d.probe j _).trans h
      · exact h
  | exitLoop j =>
      simp only [probeAfter, exitLoop]
      split
      · exact (hset d.probe j _).trans h
      · exact (hset d.probe j _).trans h
      · exact (hset d.probe j _).trans h
      · exact h

/-- A loop that ends was told to stop. -/
theorem finished_of_act (h : (d.act a).probe.phase? k = some .finished) :
    d.probe.phase? k = some .finished ∨ d.probe.cancelled? k = some true := by
  rcases moves d a k with hsame | ⟨-, htop⟩ | ⟨φ, φ', hφ, hφ', hturn⟩
  · exact .inl (hsame ▸ h)
  · rw [h] at htop
    cases htop
  · obtain rfl := Option.some.inj (hφ'.symm.trans h)
    right
    cases hturn with
    | refuse hl => exact cancelled?_eq_some.2 ⟨_, hl⟩
    | leaveCycle hl => exact cancelled?_eq_some.2 ⟨_, hl⟩
    | dropCheck hl => exact cancelled?_eq_some.2 ⟨_, hl⟩
    | exit hl => exact cancelled?_eq_some.2 ⟨_, hl⟩

/-! ## All runs -/

/-- Only loops that were told to stop have ended. -/
def EndsWhenTold (p : Probe) : Prop :=
  ∀ k, p.phase? k = some .finished → p.cancelled? k = some true

theorem endsWhenTold_create {config : Config} (h : create config = .ok p) : EndsWhenTold p := by
  rw [create_eq_ok h]
  intro k hk
  simp [phase?, loop?] at hk

theorem endsWhenTold_act (h : EndsWhenTold d.probe) (a : Action) :
    EndsWhenTold (d.act a).probe := by
  intro k hk
  rcases finished_of_act hk with hbefore | hcancelled
  · exact cancelled_act (h k hbefore) a
  · exact cancelled_act hcancelled a

theorem endsWhenTold_run (h : EndsWhenTold d.probe) (actions : List Action) :
    EndsWhenTold (d.run actions).probe := by
  induction actions generalizing d with
  | nil => exact h
  | cons a actions ih => exact ih (endsWhenTold_act h a)

end Course

end LinkReliability.Probe
