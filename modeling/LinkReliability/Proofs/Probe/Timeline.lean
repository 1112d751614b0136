import LinkReliability.Proofs.Probe.UnderWay
import LinkReliability.Timeline.BridgeRun

/-!
# The checks of a bridge at work

What the loops of a running bridge do to its probe, and what a check by hand does, are the steps of
a course.
-/

namespace LinkReliability.BridgeRun

open Probe Probe.Course

variable {r r' : BridgeRun} {name : String}

/-! ## How a check begins -/

/-- The call that a check makes at this moment. -/
def attempt? (r : BridgeRun) (name : String) : Option Attempt :=
  match r.bridge.probe.check? name with
  | none => none
  | some (.scripted script) =>
    let (reply, script) := script.next ⟨true, "ok"⟩
    some ⟨r.now, r.tick, reply.callAt r.tick, some (.scripted script)⟩
  | some (.breaker k) =>
    let (verdict, _) := r.bridge.breakerVerdict r.now k
    some ⟨r.now, r.tick, ⟨r.tick, Duration.zero, .done verdict⟩, none⟩

theorem isSome_attempt? (r : BridgeRun) (name : String) :
    (r.attempt? name).isSome = r.bridge.probe.isRegistered name := by
  have hcheck : r.bridge.probe.isRegistered name = (r.bridge.probe.check? name).isSome := by
    unfold isRegistered Probe.health? Probe.check?
    rw [Option.isSome_map, Option.isSome_map]
  rw [hcheck, attempt?]
  split <;> next h => rw [h]; rfl

theorem beginCheck_fst (r : BridgeRun) (name : String) :
    (r.beginCheck name).1 = (r.attempt? name).map (·.run r.bridge.probe name) := by
  cases hcheck : r.bridge.probe.check? name with
  | none => simp only [beginCheck, attempt?, hcheck, Option.map_none]
  | some check => cases check <;> simp only [beginCheck, attempt?, hcheck] <;> rfl

theorem probe_breakerVerdict (now : Instant) (k : Nat) (b : Bridge) :
    (b.breakerVerdict now k).2.probe = b.probe := by
  unfold Bridge.breakerVerdict
  split
  · dsimp only
    split <;> rfl
  · rfl

theorem probe_beginCheck (r : BridgeRun) (name : String) :
    (r.beginCheck name).2.bridge.probe =
      r.bridge.probe.adopt name ((r.attempt? name).bind Attempt.next) := by
  cases hcheck : r.bridge.probe.check? name with
  | none =>
      simp only [beginCheck, attempt?, hcheck]
      rfl
  | some check =>
      cases check with
      | scripted script =>
          simp only [beginCheck, attempt?, hcheck]
          rfl
      | breaker k =>
          simp only [beginCheck, attempt?, hcheck]
          exact probe_breakerVerdict r.now k r.bridge

/-! ## Loops -/

/-- A loop takes the steps of a course. -/
theorem stepLoop?_act {k : Nat} (h : r.stepLoop? k = some r') :
    ∃ a : Action, a.runner? = some (.loop k) ∧
      ∀ d : Course, d.probe = r.bridge.probe → (d.act a).probe = r'.bridge.probe := by
  cases hl : r.bridge.probe.loop? k with
  | none => simp only [stepLoop?, hl, reduceCtorEq] at h
  | some l =>
      obtain ⟨cancelled, phase⟩ := l
      have hphase := phase?_eq_some.2 ⟨cancelled, hl⟩
      simp only [stepLoop?, hl] at h
      cases phase with
      | top =>
          obtain rfl := Option.some.inj h
          exact ⟨.enterCycle k, rfl, fun d hd => by rw [← hd]; rfl⟩
      | cycle rest =>
          cases rest with
          | nil =>
              obtain rfl := Option.some.inj h
              exact ⟨.endCycle k r.tick, rfl, fun d hd => by rw [← hd]; rfl⟩
          | cons name rest =>
              have hturn := turn?_eq_some.2 ⟨rest, hphase⟩
              have hreg := isSome_attempt? r name
              have hrun := beginCheck_fst r name
              have hprobe := probe_beginCheck r name
              dsimp only at h
              generalize r.beginCheck name = begun at h hrun hprobe
              obtain ⟨run?, r₁⟩ := begun
              cases ht : r.attempt? name with
              | none =>
                  rw [ht] at hreg hrun hprobe
                  obtain rfl : run? = none := hrun
                  obtain rfl := Option.some.inj h
                  refine ⟨.skipCheck k, rfl, fun d hd => ?_⟩
                  change d.probeAfter (.skipCheck k) = r₁.bridge.probe.skipCheck k
                  rw [hprobe]
                  simp only [probeAfter, hd, hturn, ← hreg]
                  rfl
              | some t =>
                  rw [ht] at hreg hrun hprobe
                  obtain rfl : run? = some (t.run r.bridge.probe name) := hrun
                  obtain rfl := Option.some.inj h
                  refine ⟨.beginCheck k t, rfl, fun d hd => ?_⟩
                  change d.probeAfter (.beginCheck k t) =
                    r₁.bridge.probe.beginCheck k (t.run r.bridge.probe name)
                  rw [hprobe]
                  simp only [probeAfter, hd, hturn, ← hreg]
                  rfl
      | checking run rest =>
          dsimp only at h
          split at h
          · obtain rfl := Option.some.inj h
            exact ⟨.exitLoop k, rfl, fun d hd => by rw [← hd]; rfl⟩
          · split at h
            · obtain rfl := Option.some.inj h
              exact ⟨.endCheck k (r.afterCheck run).tick (r.afterCheck run).read, rfl,
                fun d hd => by rw [← hd]; rfl⟩
            · cases h
      | pausing wake =>
          dsimp only at h
          split at h
          · obtain rfl := Option.some.inj h
            exact ⟨.exitLoop k, rfl, fun d hd => by rw [← hd]; rfl⟩
          · split at h
            · obtain rfl := Option.some.inj h
              exact ⟨.endPause k, rfl, fun d hd => by rw [← hd]; rfl⟩
            · cases h
      | finished => cases h

/-! ## Checks by hand -/

/-- The answer that a caller of the course has. -/
def CheckAnswer.caller : CheckAnswer → Caller
  | .concluded result => .answered result
  | .unregistered => .unregistered
  | .unwound => .unwound

/-- What comes of a check by hand that is over. -/
def concluded (run : CheckRun) (ended : BridgeRun) : CheckAnswer × BridgeRun :=
  match ended.bridge.probe.conclude ended.read run with
  | some (result, probe) => (.concluded result, ended.setProbe probe)
  | none => (.unwound, ended)

theorem checkNow_of_some {run : CheckRun} {asked : BridgeRun}
    (h : r.beginCheck name = (some run, asked)) :
    r.checkNow name = concluded run ((asked.waitUntil run.ends).afterCheck run) := by
  unfold checkNow
  rw [h]
  rfl

theorem concluded_eq (run : CheckRun) (ended : BridgeRun) :
    (concluded run ended).1.caller = (run.result? ended.read).elim .unwound .answered ∧
      (concluded run ended).2.bridge.probe =
        (ended.bridge.probe.conclude ended.read run).elim ended.bridge.probe Prod.snd := by
  unfold concluded
  rw [conclude_eq]
  cases run.result? ended.read with
  | none => exact ⟨rfl, rfl⟩
  | some result => exact ⟨rfl, rfl⟩

/-- A check by hand asks, waits until the check is over, and has its answer. -/
theorem checkNow_acts {t : Attempt} (ht : r.attempt? name = some t) :
    let run := t.run r.bridge.probe name
    let asked := (r.beginCheck name).2
    let ended := (asked.waitUntil run.ends).afterCheck run
    (∀ d : Course, d.probe = r.bridge.probe →
      (d.act (.ask name t)).probe = asked.bridge.probe ∧
        (d.act (.ask name t)).underWay? (.caller d.callers.length) = some run) ∧
    ∀ (d : Course) (i : Nat), d.probe = ended.bridge.probe → d.underWay? (.caller i) = some run →
      (d.act (.answer i ended.read)).probe = (r.checkNow name).2.bridge.probe ∧
        (d.act (.answer i ended.read)).callers[i]? = some (r.checkNow name).1.caller := by
  have hreg : r.bridge.probe.isRegistered name = true := by
    rw [← isSome_attempt?, ht]
    rfl
  have hbegin : r.beginCheck name = (some (t.run r.bridge.probe name), (r.beginCheck name).2) :=
    Prod.ext (by rw [beginCheck_fst, ht]; rfl) rfl
  intro run asked ended
  obtain ⟨hanswer, hprobe⟩ := concluded_eq run ended
  rw [checkNow_of_some hbegin]
  constructor
  · intro d hd
    constructor
    · have hasked : asked.bridge.probe = r.bridge.probe.adopt name t.next := by
        rw [probe_beginCheck, ht]
        rfl
      change d.probeAfter (.ask name t) = _
      simp only [hasked, probeAfter, hd, if_pos hreg]
    · rw [← hd] at hreg
      exact underWay?_begun (begun?_eq_some.2 (.inl ⟨name, t, rfl, hreg, rfl, by rw [hd]⟩))
  · intro d i hd hunder
    constructor
    · refine Eq.trans ?_ hprobe.symm
      change d.probeAfter (.answer i ended.read) = _
      simp only [probeAfter, hunder, hd]
    · refine Eq.trans ?_ (congrArg some hanswer.symm)
      exact callers_of_ended (ended?_eq_some.2 ⟨hunder, .inl ⟨i, rfl, rfl⟩⟩)

end LinkReliability.BridgeRun
