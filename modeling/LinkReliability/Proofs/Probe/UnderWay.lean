import LinkReliability.Proofs.Probe.Steps

/-!
# Checks under way

A check that has begun is under way until its runner takes a step, however many steps others take
meanwhile. Its service stays registered, with a registration that may be a later one.
-/

namespace LinkReliability.Probe.Course

variable {d : Course} {a : Action} {w : Runner} {run : CheckRun}

theorem callers_act_of_ne {i : Nat} {c : Caller} (ha : a.runner? ≠ some (.caller i))
    (h : d.callers[i]? = some c) : (d.act a).callers[i]? = some c := by
  have hlt : i < d.callers.length := (List.getElem?_eq_some_iff.1 h).1
  change (d.callersAfter a)[i]? = some c
  cases a with
  | ask name t => exact (List.getElem?_append_left hlt).trans h
  | answer j stamp =>
      have hji : j ≠ i := fun hji => ha (by rw [hji]; rfl)
      simp only [callersAfter]
      split
      · rw [List.getElem?_set_ne hji, h]
      · exact h
  | leave j =>
      have hji : j ≠ i := fun hji => ha (by rw [hji]; rfl)
      simp only [callersAfter]
      split
      · rw [List.getElem?_set_ne hji, h]
      · exact h
  | _ => exact h

/-- A caller has the answer when the check ends. -/
theorem callers_of_ended {i : Nat} {stamp : Reading}
    (h : d.ended? a = some (.caller i, run, stamp)) :
    (d.act a).callers[i]? = some ((run.result? stamp).elim .unwound .answered) := by
  obtain ⟨hrun, ⟨j, hj, rfl⟩ | ⟨k, now, hk, -⟩⟩ := ended?_eq_some.1 h
  · obtain rfl := Runner.caller.inj hj
    have hwaits := underWay?_caller.1 hrun
    have hlt : i < d.callers.length := (List.getElem?_eq_some_iff.1 hwaits).1
    change (d.callersAfter (.answer i stamp))[i]? = _
    simp only [callersAfter, hrun]
    exact List.getElem?_set_self hlt
  · cases hk

/-- A check goes on until its runner takes a step. -/
theorem underWay?_act_of_ne (h : d.underWay? w = some run) (ha : a.runner? ≠ some w) :
    (d.act a).underWay? w = some run := by
  cases w with
  | caller i =>
      exact underWay?_caller.2 (callers_act_of_ne ha (underWay?_caller.1 h))
  | loop k =>
      obtain ⟨rest, hphase⟩ := underWay?_loop.1 h
      refine underWay?_loop.2 ⟨rest, ?_⟩
      rcases moves d a k with hsame | ⟨hnone, -⟩ | ⟨φ, φ', -, -, hturn⟩
      · rw [hsame, hphase]
      · rw [hphase] at hnone
        cases hnone
      · exact absurd hturn.runner? ha

theorem phase?_beginCheck {k : Nat} {name : String} {rest : List String} (t : Attempt)
    (hphase : d.probe.phase? k = some (.cycle (name :: rest)))
    (hreg : d.probe.isRegistered name = true) :
    (d.act (.beginCheck k t)).probe.phase? k = some (.checking (t.run d.probe name) rest) := by
  have hphase' : (d.probe.adopt name t.next).phase? k = some (.cycle (name :: rest)) := by
    rw [phase?_adopt, hphase]
  change (d.probeAfter (.beginCheck k t)).phase? k = _
  simp only [probeAfter, turn?_eq_some.2 ⟨rest, hphase⟩, if_pos hreg, beginCheck_eq hphase']
  exact phase?_setPhase_self hphase' _

theorem underWay?_begun (h : d.begun? a = some (w, run)) : (d.act a).underWay? w = some run := by
  rcases begun?_eq_some.1 h with ⟨name, t, rfl, hreg, rfl, rfl⟩ |
    ⟨k, name, rest, t, rfl, hphase, hreg, rfl, rfl⟩
  · refine underWay?_caller.2 ?_
    change (d.callers ++ [_])[d.callers.length]? = _
    rw [List.getElem?_concat_length, if_pos hreg]
  · exact underWay?_loop.2 ⟨rest, phase?_beginCheck t hphase hreg⟩

/-- A runner has one check at a time. -/
theorem begun?_ne_of_underWay {run' : CheckRun} (h : d.underWay? w = some run) :
    d.begun? a ≠ some (w, run') := by
  intro hbegun
  rcases begun?_eq_some.1 hbegun with ⟨name, t, rfl, hreg, rfl, rfl⟩ |
    ⟨k, name, rest, t, rfl, hphase, hreg, rfl, rfl⟩
  · have hwaits := underWay?_caller.1 h
    rw [List.getElem?_eq_none le_rfl] at hwaits
    cases hwaits
  · obtain ⟨rest', hchecking⟩ := underWay?_loop.1 h
    rw [hphase] at hchecking
    cases hchecking

theorem waiting_of_set {callers : List Caller} {i j : Nat} {c : Caller} (hc : c.run? = none)
    (h : (callers.set j c)[i]? = some (.waiting run)) : callers[i]? = some (.waiting run) := by
  rw [List.getElem?_set] at h
  split at h
  · split at h
    · obtain rfl := Option.some.inj h
      cases hc
    · cases h
  · exact h

/-- A check that is under way after a step was so before, or has just begun. -/
theorem underWay?_of_act (h : (d.act a).underWay? w = some run) :
    d.underWay? w = some run ∨ d.begun? a = some (w, run) := by
  cases w with
  | caller i =>
      have hwaits : (d.callersAfter a)[i]? = some (.waiting run) := underWay?_caller.1 h
      cases a with
      | ask name t =>
          simp only [callersAfter] at hwaits
          rw [List.getElem?_append] at hwaits
          split at hwaits
          · exact .inl (underWay?_caller.2 hwaits)
          · next hle =>
              have hi : i - d.callers.length = 0 := by
                have := (List.getElem?_eq_some_iff.1 hwaits).1
                simpa using this
              rw [hi] at hwaits
              have hi' : i = d.callers.length := by omega
              subst hi'
              by_cases hreg : d.probe.isRegistered name = true
              · simp only [hreg, if_true, List.getElem?_cons_zero, Option.some.injEq,
                  Caller.waiting.injEq] at hwaits
                exact .inr (begun?_eq_some.2 (.inl ⟨name, t, rfl, hreg, rfl, hwaits.symm⟩))
              · simp [hreg] at hwaits
      | answer j stamp =>
          simp only [callersAfter] at hwaits
          split at hwaits
          · next run' hrun =>
              refine .inl (underWay?_caller.2 (waiting_of_set ?_ hwaits))
              cases run'.result? stamp <;> rfl
          · exact .inl (underWay?_caller.2 hwaits)
      | leave j =>
          simp only [callersAfter] at hwaits
          split at hwaits
          · exact .inl (underWay?_caller.2 (waiting_of_set rfl hwaits))
          · exact .inl (underWay?_caller.2 hwaits)
      | _ => exact .inl (underWay?_caller.2 hwaits)
  | loop k =>
      obtain ⟨rest, hphase⟩ := underWay?_loop.1 h
      rcases moves d a k with hsame | ⟨-, htop⟩ | ⟨φ, φ', hφ, hφ', hturn⟩
      · exact .inl (underWay?_loop.2 ⟨rest, hsame ▸ hphase⟩)
      · rw [hphase] at htop
        cases htop
      · obtain rfl := Option.some.inj (hφ'.symm.trans hphase)
        cases hturn with
        | begin hreg =>
            exact .inr (begun?_eq_some.2 (.inr ⟨k, _, rest, _, rfl, hφ, hreg, rfl, rfl⟩))

theorem source_of_ne (h : ∀ run, d.begun? a ≠ some (w, run)) :
    (d.act a).source w = d.source w := by
  change d.sourceAfter a w = d.source w
  unfold sourceAfter
  split
  · next w' run hbegun =>
      rw [if_neg]
      rintro rfl
      exact h run hbegun
  · rfl

theorem source_begun (h : d.begun? a = some (w, run)) :
    (d.act a).source w = d.registrations run.service := by
  change d.sourceAfter a w = d.registrations run.service
  simp only [sourceAfter, h, if_true]

/-! ### Over several steps -/

/-- A check goes on while others take their steps. -/
theorem underWay?_run {others : List Action} (h : d.underWay? w = some run)
    (hothers : ∀ a ∈ others, a.runner? ≠ some w) :
    (d.run others).underWay? w = some run ∧ (d.run others).source w = d.source w := by
  induction others generalizing d with
  | nil => exact ⟨h, rfl⟩
  | cons a others ih =>
      rw [List.forall_mem_cons] at hothers
      have hstep := underWay?_act_of_ne h hothers.1
      obtain ⟨hrun, hsource⟩ := ih hstep hothers.2
      exact ⟨hrun, hsource.trans (source_of_ne fun run => begun?_ne_of_underWay h)⟩

theorem registrations_run (actions : List Action) (d : Course) (name : String) :
    (d.run actions).registrations name =
      d.registrations name + actions.countP (fun a => a.registered? = some name) := by
  induction actions generalizing d with
  | nil => rfl
  | cons a actions ih =>
      rw [run_cons, ih, List.countP_cons]
      change d.registrationsAfter a name + _ = _
      unfold registrationsAfter
      by_cases h : a.registered? = some name
      · simp only [h, if_true, decide_true]
        omega
      · simp only [h, if_false, decide_false, Bool.false_eq_true]
        omega

/-- Every check that is under way is one of a service that is registered. -/
def Sound (d : Course) : Prop :=
  ∀ w run, d.underWay? w = some run → d.probe.isRegistered run.service = true

theorem sound_act (hd : d.Sound) (a : Action) : (d.act a).Sound := by
  intro w run hrun
  apply isRegistered_act
  rcases underWay?_of_act hrun with h | h
  · exact hd w run h
  · rcases begun?_eq_some.1 h with ⟨name, t, -, hreg, -, rfl⟩ |
      ⟨k, name, rest, t, -, -, hreg, -, rfl⟩
    · exact hreg
    · exact hreg

theorem sound_run (hd : d.Sound) (actions : List Action) : (d.run actions).Sound := by
  induction actions generalizing d with
  | nil => exact hd
  | cons a actions ih => exact ih (sound_act hd a)

theorem sound_begin {config : Config} {p : Probe} (h : create config = .ok p) :
    (begin p).Sound := by
  rw [create_eq_ok h]
  intro w run hrun
  cases w with
  | loop k => simp [underWay?, begin, phase?, loop?] at hrun
  | caller i => simp [underWay?, begin] at hrun

end LinkReliability.Probe.Course
