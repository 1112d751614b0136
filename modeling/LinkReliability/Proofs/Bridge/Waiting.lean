import LinkReliability.Proofs.Queue.Turn
import LinkReliability.Timeline.BridgeRun

/-!
# What a wait leaves alone

While time passes on a bridge, the workers of its links and the loops of its probe act. They send
and report, and they read breakers, but they never touch the name of a link nor its reconnect
strategy. A wait ends at the moment that it was meant for.
-/

namespace LinkReliability

namespace Queue

variable {σ : Type} {env : Surroundings σ} {P : σ → Prop}

/-- What the pacing function and the sender keep is kept by a worker. -/
theorem stepWorker?_keeps (hpause : ∀ s, P s → P (env.pause s).2)
    (hbegin : ∀ p s, P s → P (env.begin p s).2) (hfinish : ∀ call s, P s → P (env.finish call s).2)
    {now : Tick} {k : Nat} {q q' : Queue} {s s' : σ}
    (h : stepWorker? env now k q s = some (q', s')) (hs : P s) : P s' := by
  have hnext {r r' : Queue} {t t' : σ} (hsome : some (r, t) = some (r', t')) (ht : P t) : P t' := by
    obtain ⟨-, rfl⟩ := Prod.mk.inj (Option.some.inj hsome)
    exact ht
  unfold stepWorker? at h
  cases hw : q.worker? k with
  | none => simp [hw] at h
  | some w =>
      rw [hw] at h
      dsimp only at h
      split at h
      · exact hnext h hs
      · exact hnext h hs
      · split_ifs at h
        exact hnext h hs
      · have hpaused := hpause s hs
        split at h
        · next heq =>
            rw [heq] at hpaused
            exact hnext h hpaused
        · next heq =>
            rw [heq] at hpaused
            exact hnext h hpaused
      · split_ifs at h
        · exact hnext h hs
        · exact hnext h hs
      · exact hnext h (hbegin _ s hs)
      · split_ifs at h
        exact hnext h (hfinish _ s hs)
      · cases h

theorem runWorker_keeps (hpause : ∀ s, P s → P (env.pause s).2)
    (hbegin : ∀ p s, P s → P (env.begin p s).2) (hfinish : ∀ call s, P s → P (env.finish call s).2)
    (now : Tick) (k steps : Nat) (q : Queue) (s : σ) (hs : P s) :
    P (runWorker env now k steps q s).2 := by
  induction steps generalizing q s with
  | zero => exact hs
  | succ steps ih =>
      unfold runWorker
      cases hstep : stepWorker? env now k q s with
      | none => exact hs
      | some next =>
          exact ih next.1 next.2 (stepWorker?_keeps hpause hbegin hfinish hstep hs)

theorem drain_keeps (hpause : ∀ s, P s → P (env.pause s).2)
    (hbegin : ∀ p s, P s → P (env.begin p s).2) (hfinish : ∀ call s, P s → P (env.finish call s).2)
    (now : Tick) (q : Queue) (s : σ) (hs : P s) : P (drain env now q s).2 := by
  unfold drain
  generalize List.range q.workers.length = ks
  induction ks generalizing q s with
  | nil => exact hs
  | cons k ks ih => exact ih _ _ (runWorker_keeps hpause hbegin hfinish now k q.stepBound q s hs)

end Queue

namespace Timeline

theorem nextDue_le (now target : Tick) (dues : List Tick) : nextDue now target dues ≤ target := by
  unfold nextDue
  have hfold : ∀ next, dues.foldl (fun next d => if now < d ∧ d < next then d else next) next ≤
      next := by
    induction dues with
    | nil => exact fun next => Nat.le_refl next
    | cons d dues ih =>
        intro next
        refine Nat.le_trans (ih _) ?_
        dsimp only
        split_ifs with hd
        · exact Nat.le_of_lt hd.2
        · exact Nat.le_refl next
  exact hfold target

end Timeline

namespace BridgeRun

variable {r r' : BridgeRun} {k : Nat}

/-- The name and the reconnect strategy of every link. -/
def strategies (r : BridgeRun) : List (String × Reconnect) :=
  r.bridge.links.map (fun l => (l.name, l.strategy))

theorem strategies_getElem? (r : BridgeRun) (k : Nat) :
    r.strategies[k]? = (r.bridge.link? k).map (fun l => (l.name, l.strategy)) :=
  List.getElem?_map

/-- Others have acted at this moment, and the strategies are as before. -/
structure Aside (r r' : BridgeRun) : Prop where
  tick : r'.tick = r.tick
  strategies : r'.strategies = r.strategies

namespace Aside

theorem refl (r : BridgeRun) : Aside r r := ⟨rfl, rfl⟩

theorem trans {r'' : BridgeRun} (h : Aside r r') (h' : Aside r' r'') : Aside r r'' :=
  ⟨h'.tick.trans h.tick, h'.strategies.trans h.strategies⟩

theorem setLink {l next : Link} (hl : r.bridge.link? k = some l) (hname : next.name = l.name)
    (hstrategy : next.strategy = l.strategy) : Aside r (r.setLink k next) := by
  refine ⟨rfl, ?_⟩
  have hget : (r.bridge.links.map (fun l => (l.name, l.strategy)))[k]? =
      some (next.name, next.strategy) := by
    rw [List.getElem?_map, hname, hstrategy]
    exact congrArg (Option.map _) hl
  obtain ⟨hk, hsome⟩ := List.getElem?_eq_some_iff.1 hget
  change (r.bridge.links.set k next).map _ = r.bridge.links.map _
  rw [List.map_set, ← hsome]
  exact List.set_getElem_self hk

theorem reportSend (stamp : Reading) (k : Nat) (o : Outcome Unit) (r : BridgeRun) :
    Aside r { r with bridge := r.bridge.reportSend stamp k o } := by
  unfold Bridge.reportSend
  cases hl : r.bridge.link? k with
  | none => exact .refl r
  | some l =>
      have hsame : (l.reportSend stamp o r.bridge.monitor).1.name = l.name ∧
          (l.reportSend stamp o r.bridge.monitor).1.strategy = l.strategy := by
        unfold Link.reportSend
        split
        · exact ⟨rfl, rfl⟩
        · dsimp only
          split <;> exact ⟨rfl, rfl⟩
      let reported := r.setMonitor (l.reportSend stamp o r.bridge.monitor).2
      have hl' : reported.bridge.link? k = some l := hl
      have hset := Aside.setLink hl' hsame.1 hsame.2
      exact ⟨hset.tick, hset.strategies⟩

theorem breakerVerdict (now : Instant) (k : Nat) (r : BridgeRun) :
    Aside r { r with bridge := (r.bridge.breakerVerdict now k).2 } := by
  unfold Bridge.breakerVerdict
  cases hl : r.bridge.link? k with
  | none => exact .refl r
  | some l =>
      dsimp only
      split <;> exact Aside.setLink hl rfl rfl

theorem beginCheck (name : String) (r : BridgeRun) : Aside r (r.beginCheck name).2 := by
  unfold BridgeRun.beginCheck
  dsimp only
  split
  · exact .refl r
  · exact ⟨rfl, rfl⟩
  · exact .breakerVerdict r.now _ r

theorem stepLoop? (h : r.stepLoop? k = some r') : Aside r r' := by
  have hprobe {s s' : BridgeRun} {p : Probe} (hs : Aside r s)
      (hsome : some (s.setProbe p) = some s') : Aside r s' := by
    obtain rfl := Option.some.inj hsome
    exact hs.trans ⟨rfl, rfl⟩
  unfold BridgeRun.stepLoop? at h
  dsimp only at h
  split at h
  · cases h
  · split at h
    · exact hprobe (.refl r) h
    · exact hprobe (.refl r) h
    · next name _ _ =>
        have hbegun := Aside.beginCheck name r
        split at h
        · next heq =>
            rw [heq] at hbegun
            exact hprobe hbegun h
        · next heq =>
            rw [heq] at hbegun
            exact hprobe hbegun h
    · split_ifs at h
      · exact hprobe (.refl r) h
      · next run _ _ _ _ =>
          have hcheck : Aside r (r.afterCheck run) := ⟨rfl, rfl⟩
          exact hprobe hcheck h
    · split_ifs at h
      · exact hprobe (.refl r) h
      · exact hprobe (.refl r) h
    · cases h

theorem runLoop (k steps : Nat) (r : BridgeRun) : Aside r (r.runLoop k steps) := by
  induction steps generalizing r with
  | zero => exact .refl r
  | succ steps ih =>
      unfold BridgeRun.runLoop
      cases hstep : r.stepLoop? k with
      | none => exact .refl r
      | some next => exact (Aside.stepLoop? hstep).trans (ih next)

theorem settleLink (k : Nat) (r : BridgeRun) : Aside r (r.settleLink k) := by
  unfold BridgeRun.settleLink
  cases hl : r.bridge.link? k with
  | none => exact .refl r
  | some l =>
      have hdrain : Aside r (Queue.drain (surroundings k) r.tick l.queue r).2 := by
        refine Queue.drain_keeps (fun s hs => hs) (fun p s hs => ?_) (fun call s hs => ?_) _ _ _
          (.refl r)
        · refine hs.trans ?_
          dsimp only [surroundings]
          split <;> exact ⟨rfl, rfl⟩
        · exact hs.trans ((⟨rfl, rfl⟩ : Aside s { s with clock := s.clock.advance call.advance }).trans
            (.reportSend _ k call.outcome _))
      dsimp only
      split
      · next hnext => exact hdrain.trans (.setLink hnext rfl rfl)
      · exact hdrain

theorem foldl {α : Type} (f : BridgeRun → α → BridgeRun) (hf : ∀ r a, Aside r (f r a))
    (as : List α) (r : BridgeRun) : Aside r (as.foldl f r) := by
  induction as generalizing r with
  | nil => exact .refl r
  | cons a as ih => exact (hf r a).trans (ih (f r a))

theorem settle (now : Tick) (r : BridgeRun) : Aside { r with tick := now } (r.settle now) := by
  unfold BridgeRun.settle
  dsimp only
  refine Aside.trans ?_ (.foldl _ (fun r k => .runLoop k r.loopBound r) _ _)
  exact .foldl _ (fun r k => .settleLink k r) _ _

end Aside

theorem runUntil_aside {target now : Tick} (hle : now ≤ target) (r : BridgeRun) :
    Aside { r with tick := target } (timeline.runUntil (fun _ => false) target now r).2 := by
  induction hleft : target - now using Nat.strongRecOn generalizing now r with
  | ind left ih =>
      subst hleft
      unfold Timeline.runUntil
      have hsettle : Aside { r with tick := now } (timeline.settle now r) := .settle now r
      rw [if_neg Bool.false_ne_true]
      split
      · next hge =>
          obtain rfl := Nat.le_antisymm hle hge
          exact hsettle
      · next hlt =>
          have hnow := Nat.lt_of_not_le hlt
          have hnext : max (now + 1)
              (Timeline.nextDue now target (timeline.dues (timeline.settle now r))) ≤ target :=
            Nat.max_le.2 ⟨hnow, Timeline.nextDue_le _ _ _⟩
          have hrest := ih _ (Nat.sub_lt_sub_left hnow (Nat.le_max_left (now + 1) _)) hnext
            (timeline.settle now r) rfl
          exact ⟨hrest.tick, hrest.strategies.trans hsettle.strategies⟩

theorem waitUntil_aside (target : Tick) (r : BridgeRun) :
    Aside { r with tick := max r.tick target } (r.waitUntil target) := by
  unfold waitUntil
  split
  · next hle =>
      rw [Nat.max_eq_left hle]
      exact .refl r
  · next hlt =>
      have hle := Nat.le_of_lt (Nat.lt_of_not_le hlt)
      rw [Nat.max_eq_right hle]
      exact runUntil_aside hle r

/-- A wait ends when it should. -/
theorem tick_waitUntil (target : Tick) (r : BridgeRun) :
    (r.waitUntil target).tick = max r.tick target := (waitUntil_aside target r).tick

theorem strategies_waitUntil (target : Tick) (r : BridgeRun) :
    (r.waitUntil target).strategies = r.strategies := (waitUntil_aside target r).strategies

end BridgeRun

end LinkReliability
