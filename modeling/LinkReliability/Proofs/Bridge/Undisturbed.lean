import LinkReliability.Timeline.BridgeRun
import Mathlib.Data.List.Basic

/-!
# Waits in which nothing happens to a link

While a reconnect loop waits, workers and checks go on. A link is undisturbed when none of them
touches it or the monitor, whatever the attempts come to. So it is on a bridge at rest, where every
worker sleeps or has ended and no loop of the probe is left.
-/

namespace LinkReliability

namespace BridgeRun

/-- The states that a reconnect loop of link `k` can pass through. -/
inductive Reached (k : Nat) (r : BridgeRun) : BridgeRun → Prop
  | start : Reached k r r
  | waited {r' : BridgeRun} (target : Tick) (before : Reached k r r') :
      Reached k r (r'.waitUntil target)
  | ended {r' : BridgeRun} {l : Link} (call : Call Unit) (offset : Float) (c : Link.Connecting)
      (link : r'.bridge.link? k = some l) (before : Reached k r r') :
      Reached k r (r'.endAttempt k l call offset c).2

/-- Nothing but the loop itself acts on link `k` or on the monitor while the loop waits. -/
def Undisturbed (k : Nat) (r : BridgeRun) : Prop :=
  ∀ r', Reached k r r' → ∀ target : Tick,
    (r'.waitUntil target).bridge.link? k = r'.bridge.link? k ∧
      (r'.waitUntil target).bridge.monitor = r'.bridge.monitor

theorem Reached.trans {k : Nat} {r r' r'' : BridgeRun} (first : Reached k r r')
    (second : Reached k r' r'') : Reached k r r'' := by
  induction second with
  | start => exact first
  | waited target _ ih => exact .waited target ih
  | ended call offset c link _ ih => exact .ended call offset c link ih

theorem Undisturbed.reached {k : Nat} {r r' : BridgeRun} (h : Undisturbed k r)
    (reached : Reached k r r') : Undisturbed k r' :=
  fun r'' later => h r'' (reached.trans later)

end BridgeRun

/-! ## A bridge at rest -/

/-- A worker that has ended, or sleeps and was told nothing, takes no step. -/
def Queue.Worker.Rests (w : Queue.Worker) : Prop :=
  w.isFinished = true ∨ (w.phase = .asleep false ∧ w.cancelled = false)

def Queue.Rests (q : Queue) : Prop := ∀ w ∈ q.workers, w.Rests

theorem Queue.stepWorker?_of_rests {σ : Type} (env : Queue.Surroundings σ) (now : Tick) (k : Nat)
    (q : Queue) (s : σ) (h : q.Rests) : Queue.stepWorker? env now k q s = none := by
  unfold stepWorker?
  cases hw : q.worker? k with
  | none => rfl
  | some w =>
      rcases h w (List.mem_of_getElem? hw) with hend | ⟨hsleep, hcancel⟩
      · unfold Worker.isFinished at hend
        split at hend
        · next hphase => simp only [hphase]
        · cases hend
      · simp [hsleep, hcancel]

theorem Queue.drain_of_rests {σ : Type} (env : Queue.Surroundings σ) (now : Tick) (q : Queue)
    (s : σ) (h : q.Rests) : Queue.drain env now q s = (q, s) := by
  have still : ∀ k steps, Queue.runWorker env now k steps q s = (q, s) := by
    intro k steps
    cases steps with
    | zero => rfl
    | succ steps => simp only [runWorker, stepWorker?_of_rests env now k q s h]
  exact List.foldl_fixed' (fun k => still k q.stepBound) _

theorem Link.endAttempt_queue (stamp : Reading) (o : Outcome Unit) (offset : Float)
    (c : Link.Connecting) (l : Link) (m : Monitor) :
    (l.endAttempt stamp o offset c m).2.1.queue = l.queue := by
  unfold endAttempt
  split
  · cases o with
    | done v => rfl
    | failed f =>
        dsimp only [attemptFailed]
        split <;> rfl
    | unprintable | panicked m => rfl
  · rfl

namespace BridgeRun

/-- No worker of any link and no loop of the probe is about to do anything. -/
structure Rests (r : BridgeRun) : Prop where
  links : ∀ l ∈ r.bridge.links, l.queue.Rests
  loops : ∀ p ∈ r.bridge.probe.loops, p.isFinished = true

theorem settleLink_of_rests (k : Nat) (r : BridgeRun) (h : r.Rests) : r.settleLink k = r := by
  unfold settleLink
  cases hl : r.bridge.link? k with
  | none => rfl
  | some l =>
      have rests : l.queue.Rests := h.links l (List.mem_of_getElem? hl)
      have same : r.bridge.links.set k l = r.bridge.links := by
        obtain ⟨hk, rfl⟩ := List.getElem?_eq_some_iff.mp hl
        exact List.set_getElem_self hk
      simp only [Queue.drain_of_rests _ _ _ _ rests, hl, setLink, Bridge.setLink, same]

theorem runLoop_of_rests (k steps : Nat) (r : BridgeRun) (h : r.Rests) :
    runLoop k steps r = r := by
  cases steps with
  | zero => rfl
  | succ steps =>
      have stuck : r.stepLoop? k = none := by
        unfold stepLoop?
        dsimp only
        cases hp : r.bridge.probe.loop? k with
        | none => rfl
        | some p =>
            have hend := of_decide_eq_true (h.loops p (List.mem_of_getElem? hp))
            simp only [hend]
      simp only [runLoop, stuck]

theorem settle_of_rests (now : Tick) (r : BridgeRun) (h : r.Rests) :
    r.settle now = { r with tick := now } := by
  have rests : Rests { r with tick := now } := ⟨h.links, h.loops⟩
  unfold settle
  dsimp only
  rw [List.foldl_fixed' (f := fun r k => settleLink k r) (fun k => settleLink_of_rests k _ rests)]
  exact List.foldl_fixed' (fun k => runLoop_of_rests k _ _ rests) _

theorem runUntil_of_rests (target now : Tick) (r : BridgeRun) (h : r.Rests) :
    ∃ tick, (timeline.runUntil (fun _ => false) target now r).2 = { r with tick := tick } := by
  induction hleft : target - now using Nat.strongRecOn generalizing now r with
  | ind left ih =>
      subst hleft
      unfold Timeline.runUntil
      have hsettle : timeline.settle now r = { r with tick := now } := settle_of_rests now r h
      rw [hsettle, if_neg Bool.false_ne_true]
      split
      · exact ⟨now, rfl⟩
      · next hlt =>
          have rests : Rests { r with tick := now } := ⟨h.links, h.loops⟩
          refine ih _ (Nat.sub_lt_sub_left (Nat.lt_of_not_le hlt) ?_) _ _ rests rfl
          exact Nat.le_max_left (now + 1) _

theorem waitUntil_of_rests (target : Tick) (r : BridgeRun) (h : r.Rests) :
    ∃ tick, r.waitUntil target = { r with tick := tick } := by
  unfold waitUntil
  split
  · exact ⟨r.tick, rfl⟩
  · exact runUntil_of_rests target r.tick r h

theorem rests_of_reached {k : Nat} {r r' : BridgeRun} (reached : Reached k r r') (h : r.Rests) :
    r'.Rests := by
  induction reached with
  | start => exact h
  | @waited r' target before ih =>
      obtain ⟨tick, hwait⟩ := waitUntil_of_rests target r' ih
      rw [hwait]
      exact ⟨ih.links, ih.loops⟩
  | @ended r' l call offset c link before ih =>
      refine ⟨fun other hother => ?_, ih.loops⟩
      rcases List.mem_or_eq_of_mem_set hother with hold | rfl
      · exact ih.links other hold
      · have rests : l.queue.Rests := ih.links l (List.mem_of_getElem? link)
        rwa [← Link.endAttempt_queue] at rests

/-- At rest nobody disturbs a link. -/
theorem undisturbed_of_rests (k : Nat) (r : BridgeRun) (h : r.Rests) : Undisturbed k r := by
  intro r' reached target
  obtain ⟨tick, hwait⟩ := waitUntil_of_rests target r' (rests_of_reached reached h)
  rw [hwait]
  exact ⟨rfl, rfl⟩

end BridgeRun

end LinkReliability
