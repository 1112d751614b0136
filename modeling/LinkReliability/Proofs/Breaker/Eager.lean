import LinkReliability.Breaker
import Mathlib.Data.List.Induction

/-!
# A breaker and its written history

A breaker stores that it is half open when it is next read or written, so what it stores depends
on who looked at it. What it answers does not: every answer is given by the times of the failures
since the last success or reset. The reference here is computed from those times alone and keeps
no state.
-/

namespace LinkReliability.Breaker

inductive Operation where
  | state
  | allowRequest
  | failures
  | snapshot
  | recordSuccess
  | recordFailure
  | reset
deriving DecidableEq, Repr

namespace Operation

def isRead : Operation → Bool
  | state | allowRequest | failures | snapshot => true
  | recordSuccess | recordFailure | reset => false

end Operation

inductive Answer where
  | state (s : CircuitState)
  | allowed (b : Bool)
  | failures (n : Nat)
  | snapshot (s : Snapshot)
  | done
deriving DecidableEq, Repr

/-- An operation and the time it is made at. -/
structure Event where
  time : Instant
  operation : Operation
deriving DecidableEq, Repr

def act (b : Breaker) (e : Event) : Answer × Breaker :=
  match e.operation with
  | .state => ((b.state e.time).map .state id)
  | .allowRequest => ((b.allowRequest e.time).map .allowed id)
  | .failures => (.failures b.failures, b)
  | .snapshot => ((b.snapshot e.time).map .snapshot id)
  | .recordSuccess => (.done, b.recordSuccess)
  | .recordFailure => (.done, b.recordFailure e.time)
  | .reset => (.done, b.reset)

def run (history : List Event) (b : Breaker) : Breaker :=
  history.foldl (fun b e => (b.act e).2) b

theorem run_append (first second : List Event) (b : Breaker) :
    b.run (first ++ second) = (b.run first).run second := List.foldl_append

/-! ## The reference -/

def noteFailure (times : List Instant) (e : Event) : List Instant :=
  match e.operation with
  | .recordFailure => times ++ [e.time]
  | .recordSuccess | .reset => []
  | .state | .allowRequest | .failures | .snapshot => times

def writes (history : List Event) : List Event := history.filter fun e => !e.operation.isRead

/-- The times of the failures since the last success or reset. -/
def failureTimes (history : List Event) : List Instant := history.foldl noteFailure []

/-- The opening of a breaker after a failure at `t`, which counts if the timeout is over. -/
def reopened (timeout : Duration) (o t : Instant) : Instant := if timeout ≤ t.since o then t else o

/-- When the breaker opened last: at the failure that reached the threshold, or at a later one. -/
def openedAt? (c : Config) (times : List Instant) : Option Instant :=
  times[c.failureThreshold.val - 1]?.map fun o =>
    (times.drop c.failureThreshold.val).foldl (reopened c.recoveryTimeout) o

def eagerState (c : Config) (times : List Instant) (now : Instant) : CircuitState :=
  match openedAt? c times with
  | none => .closed
  | some o => if now.since o < c.recoveryTimeout then .opened else .halfOpen

/-- What is left of the timeout while the breaker is open. -/
def eagerRetryIn (c : Config) (times : List Instant) (now : Instant) : Duration :=
  match openedAt? c times with
  | none => Duration.zero
  | some o =>
    if now.since o < c.recoveryTimeout then c.recoveryTimeout - now.since o else Duration.zero

def eagerAnswer (c : Config) (times : List Instant) (e : Event) : Answer :=
  match e.operation with
  | .state => .state (eagerState c times e.time)
  | .allowRequest => .allowed (eagerState c times e.time != .opened)
  | .failures => .failures (min times.length counterMax)
  | .snapshot =>
    .snapshot ⟨eagerState c times e.time, min times.length counterMax, c.failureThreshold,
      c.recoveryTimeout, eagerRetryIn c times e.time⟩
  | .recordSuccess | .recordFailure | .reset => .done

theorem failureTimes_concat (history : List Event) (e : Event) :
    failureTimes (history ++ [e]) = noteFailure (failureTimes history) e := by
  simp only [failureTimes, List.foldl_append, List.foldl_cons, List.foldl_nil]

theorem noteFailure_read (times : List Instant) (e : Event) (h : e.operation.isRead = true) :
    noteFailure times e = times := by
  cases ho : e.operation <;> simp_all [noteFailure, Operation.isRead]

theorem failureTimes_writes (history : List Event) :
    failureTimes (writes history) = failureTimes history := by
  unfold writes
  induction history using List.reverseRecOn with
  | nil => rfl
  | append_singleton history e ih =>
      rw [List.filter_append, failureTimes_concat]
      cases h : e.operation.isRead with
      | true => simp [h, ih, noteFailure_read]
      | false => simp [h, ih, failureTimes_concat]

theorem openedAt?_eq_none {c : Config} (hc : 0 < c.failureThreshold.val) (times : List Instant) :
    openedAt? c times = none ↔ times.length < c.failureThreshold.val := by
  simp only [openedAt?, Option.map_eq_none_iff, List.getElem?_eq_none_iff]
  omega

/-- A failure opens a breaker when it reaches the threshold, and later ones may open it again. -/
theorem openedAt?_concat {c : Config} (hc : 0 < c.failureThreshold.val) (times : List Instant)
    (t : Instant) :
    openedAt? c (times ++ [t]) =
      match openedAt? c times with
      | some o => some (reopened c.recoveryTimeout o t)
      | none => if c.failureThreshold.val ≤ times.length + 1 then some t else none := by
  rcases Nat.lt_or_ge (c.failureThreshold.val - 1) times.length with hlt | hge
  · have hdrop : c.failureThreshold.val ≤ times.length := by omega
    simp only [openedAt?, List.getElem?_append_left hlt, List.getElem?_eq_getElem hlt,
      Option.map_some, List.drop_append_of_le_length hdrop, List.foldl_append, List.foldl_cons,
      List.foldl_nil]
  · have hnone : openedAt? c times = none := (openedAt?_eq_none hc times).mpr (by omega)
    rw [hnone]
    by_cases hreach : c.failureThreshold.val ≤ times.length + 1
    · have hat : c.failureThreshold.val - 1 - times.length = 0 := by omega
      have hdrop : (times ++ [t]).drop c.failureThreshold.val = [] := by
        apply List.drop_eq_nil_of_le
        simp only [List.length_append, List.length_cons, List.length_nil]
        omega
      rw [openedAt?, List.getElem?_append_right hge, hat, hdrop, if_pos hreach]
      rfl
    · simp only [if_neg hreach]
      refine (openedAt?_eq_none hc _).mpr ?_
      simp only [List.length_append, List.length_cons, List.length_nil]
      omega

/-! ## The stored phase -/

/-- A stored phase stands for an opening: a breaker that is half open has been for some time, and
one that is open may be half open to the next reader. -/
inductive Stands (timeout : Duration) (now : Instant) : Option Instant → Phase → Prop
  | closed : Stands timeout now none .closed
  | opened (o : Instant) : Stands timeout now (some o) (.opened o)
  | halfOpen (o : Instant) (expired : timeout ≤ now.since o) : Stands timeout now (some o) .halfOpen

/-- After a refresh the stored phase is the one that the reference reads. -/
inductive Fresh (timeout : Duration) (now : Instant) : Option Instant → Phase → Prop
  | closed : Fresh timeout now none .closed
  | opened (o : Instant) (early : now.since o < timeout) : Fresh timeout now (some o) (.opened o)
  | halfOpen (o : Instant) (expired : timeout ≤ now.since o) : Fresh timeout now (some o) .halfOpen

structure Agrees (c : Config) (times : List Instant) (now : Instant) (b : Breaker) : Prop where
  config_eq : b.config = c
  failures_eq : b.failures = min times.length counterMax
  stands : Stands c.recoveryTimeout now (openedAt? c times) b.phase

section Phases

variable {c : Config} {times : List Instant} {now next : Instant} {timeout : Duration}
  {o : Option Instant} {p : Phase} {b : Breaker}

theorem since_mono (h : now ≤ next) (o : Instant) : now.since o ≤ next.since o :=
  Nat.sub_le_sub_right h o

theorem Stands.later (s : Stands timeout now o p) (h : now ≤ next) : Stands timeout next o p := by
  cases s with
  | closed => exact .closed
  | opened o => exact .opened o
  | halfOpen o expired => exact .halfOpen o (Nat.le_trans expired (since_mono h o))

theorem Agrees.later (a : Agrees c times now b) (h : now ≤ next) : Agrees c times next b :=
  { a with stands := a.stands.later h }

theorem Fresh.stands (f : Fresh timeout now o p) : Stands timeout now o p := by
  cases f with
  | closed => exact .closed
  | opened o early => exact .opened o
  | halfOpen o expired => exact .halfOpen o expired

theorem refresh_config (now : Instant) (b : Breaker) : (b.refresh now).config = b.config := by
  unfold refresh
  split
  · split <;> rfl
  · rfl

theorem refresh_failures (now : Instant) (b : Breaker) :
    (b.refresh now).failures = b.failures := by
  unfold refresh
  split
  · split <;> rfl
  · rfl

theorem Agrees.fresh (a : Agrees c times now b) :
    Fresh c.recoveryTimeout now (openedAt? c times) (b.refresh now).phase := by
  have hs := a.stands
  generalize openedAt? c times = o at hs ⊢
  rcases hp : b.phase with _ | since | _
  · rw [hp] at hs
    cases hs
    simpa [refresh, hp] using Fresh.closed
  · rw [hp] at hs
    cases hs
    by_cases expired : c.recoveryTimeout ≤ now.since since
    · simpa [refresh, hp, a.config_eq, expired] using Fresh.halfOpen since expired
    · have early : now.since since < c.recoveryTimeout := Duration.not_le.mp expired
      simpa [refresh, hp, a.config_eq, expired] using Fresh.opened since early
  · rw [hp] at hs
    cases hs with
    | halfOpen o expired => simpa [refresh, hp] using Fresh.halfOpen o expired

theorem Agrees.refresh (a : Agrees c times now b) : Agrees c times now (b.refresh now) where
  config_eq := (refresh_config now b).trans a.config_eq
  failures_eq := (refresh_failures now b).trans a.failures_eq
  stands := a.fresh.stands

/-! ## Answers -/

theorem Fresh.state (f : Fresh c.recoveryTimeout now (openedAt? c times) p) :
    p.state = eagerState c times now := by
  unfold eagerState
  generalize openedAt? c times = o at f ⊢
  cases f with
  | closed => rfl
  | opened o early => simp only [Phase.state, if_pos early]
  | halfOpen o expired => simp only [Phase.state, if_neg (Duration.not_lt.mpr expired)]

theorem Agrees.state (a : Agrees c times now b) : (b.state now).1 = eagerState c times now :=
  a.fresh.state

theorem snapshot_retryIn (now : Instant) (b : Breaker) :
    (b.snapshot now).1.retryIn =
      match (b.refresh now).phase with
      | .opened since => (b.refresh now).config.recoveryTimeout - now.since since
      | _ => Duration.zero := rfl

theorem Agrees.retryIn (a : Agrees c times now b) :
    (b.snapshot now).1.retryIn = eagerRetryIn c times now := by
  have fresh := a.fresh
  rw [snapshot_retryIn, a.refresh.config_eq]
  unfold eagerRetryIn
  generalize openedAt? c times = o at fresh ⊢
  generalize (b.refresh now).phase = p at fresh ⊢
  cases fresh with
  | closed => rfl
  | opened o early => simp only [if_pos early]
  | halfOpen o expired => simp only [if_neg (Duration.not_lt.mpr expired)]

theorem Agrees.snapshot (a : Agrees c times now b) :
    (b.snapshot now).1 =
      ⟨eagerState c times now, min times.length counterMax, c.failureThreshold, c.recoveryTimeout,
        eagerRetryIn c times now⟩ := by
  calc (b.snapshot now).1
      = ⟨(b.state now).1, (b.refresh now).failures, (b.refresh now).config.failureThreshold,
          (b.refresh now).config.recoveryTimeout, (b.snapshot now).1.retryIn⟩ := rfl
    _ = _ := by rw [a.state, a.refresh.failures_eq, a.refresh.config_eq, a.retryIn]

/-! ## Failures -/

/-- Where a failure takes a breaker that has been refreshed and counts `n` failures with it. -/
def phaseAfterFailure (c : Config) (n : Nat) (now : Instant) : Phase → Phase
  | .halfOpen => .opened now
  | .closed => if c.failureThreshold.val ≤ n then .opened now else .closed
  | .opened since => .opened since

theorem recordFailure_eq (now : Instant) (b : Breaker) :
    b.recordFailure now =
      { b.refresh now with
        failures := countUp (b.refresh now).failures
        phase := phaseAfterFailure (b.refresh now).config (countUp (b.refresh now).failures) now
          (b.refresh now).phase } := by
  unfold recordFailure phaseAfterFailure
  rcases hp : (b.refresh now).phase with _ | since | _
  · by_cases hreach : (b.refresh now).config.failureThreshold.val ≤
        countUp (b.refresh now).failures
    · simp only [hp, if_pos hreach]
    · simp only [hp, if_neg hreach]
  · simp only [hp]
  · simp only [hp]

theorem threshold_le_counterMax (c : Config) : c.failureThreshold.val ≤ counterMax :=
  Nat.le_pred_of_lt c.failureThreshold.isLt

theorem Fresh.failed (hc : 0 < c.failureThreshold.val)
    (f : Fresh c.recoveryTimeout now (openedAt? c times) p) :
    Stands c.recoveryTimeout now (openedAt? c (times ++ [now]))
      (phaseAfterFailure c (min (times.length + 1) counterMax) now p) := by
  have hnone := openedAt?_eq_none hc times
  rw [openedAt?_concat hc]
  generalize openedAt? c times = o at f hnone ⊢
  cases f with
  | closed =>
      have hmax := threshold_le_counterMax c
      have hbelow : times.length < c.failureThreshold.val := hnone.mp rfl
      by_cases hreach : c.failureThreshold.val ≤ times.length + 1
      · have hfull : c.failureThreshold.val ≤ min (times.length + 1) counterMax := by omega
        simp only [phaseAfterFailure, if_pos hreach, if_pos hfull]
        exact .opened now
      · have hshort : ¬ c.failureThreshold.val ≤ min (times.length + 1) counterMax := by omega
        simp only [phaseAfterFailure, if_neg hreach, if_neg hshort]
        exact .closed
  | opened o early =>
      simp only [phaseAfterFailure, reopened, if_neg (Duration.not_le.mpr early)]
      exact .opened o
  | halfOpen o expired =>
      simp only [phaseAfterFailure, reopened, if_pos expired]
      exact .opened now

theorem Agrees.recordFailure (hc : 0 < c.failureThreshold.val) (a : Agrees c times now b) :
    Agrees c (times ++ [now]) now (b.recordFailure now) := by
  have hcount : countUp (b.refresh now).failures = min (times.length + 1) counterMax := by
    rw [a.refresh.failures_eq, countUp_min]
  have hstands := a.fresh.failed hc
  rw [recordFailure_eq, hcount, a.refresh.config_eq]
  refine ⟨a.refresh.config_eq, ?_, hstands⟩
  rw [List.length_append]
  rfl

end Phases

/-! ## Runs -/

theorem state_snd (now : Instant) (b : Breaker) : (b.state now).2 = b.refresh now := rfl

theorem allowRequest_snd (now : Instant) (b : Breaker) :
    (b.allowRequest now).2 = b.refresh now := rfl

theorem snapshot_snd (now : Instant) (b : Breaker) : (b.snapshot now).2 = b.refresh now := rfl

/-- One operation keeps the stored breaker in step with the written history. -/
theorem Agrees.act {c : Config} (hc : 0 < c.failureThreshold.val) {times : List Instant}
    {b : Breaker} (e : Event) (a : Agrees c times e.time b) :
    Agrees c (noteFailure times e) e.time (b.act e).2 := by
  have cleared : Agrees c [] e.time { b with phase := .closed, failures := 0 } :=
    ⟨a.config_eq, (Nat.zero_min counterMax).symm, .closed⟩
  cases ho : e.operation with
  | state | allowRequest | snapshot =>
      simp only [Breaker.act, ho, noteFailure, Prod.map_snd, id_eq, state_snd, allowRequest_snd,
        snapshot_snd]
      exact a.refresh
  | failures => simpa only [Breaker.act, ho, noteFailure] using a
  | recordSuccess | reset =>
      simp only [Breaker.act, ho, noteFailure, recordSuccess, reset]
      exact cleared
  | recordFailure => simpa only [Breaker.act, ho, noteFailure] using a.recordFailure hc

theorem Agrees.answer {c : Config} {times : List Instant} {b : Breaker} (e : Event)
    (a : Agrees c times e.time b) : (b.act e).1 = eagerAnswer c times e := by
  cases ho : e.operation with
  | state => simp only [Breaker.act, ho, eagerAnswer, Prod.map_fst, a.state]
  | allowRequest =>
      have h : (b.allowRequest e.time).1 = ((b.state e.time).1 != .opened) := rfl
      simp only [Breaker.act, ho, eagerAnswer, Prod.map_fst, h, a.state]
  | failures => simp only [Breaker.act, ho, eagerAnswer, a.failures_eq]
  | snapshot => simp only [Breaker.act, ho, eagerAnswer, Prod.map_fst, a.snapshot]
  | recordSuccess | recordFailure | reset => simp only [Breaker.act, ho, eagerAnswer]

def Ordered (events : List Event) : Prop := events.Pairwise fun x y => x.time ≤ y.time

instance (events : List Event) : Decidable (Ordered events) := List.instDecidablePairwise ..

theorem create_ok {name : String} {c : Config} {b : Breaker} (h : create name c = .ok b) :
    b = ⟨name, c, .closed, 0⟩ ∧ 0 < c.failureThreshold.val := by
  unfold create at h
  cases hv : c.validate with
  | error e => simp [hv, bind, Except.bind] at h
  | ok _ =>
      rw [hv] at h
      have holds := (ConfigError.check_eq_ok _).mp hv
      exact ⟨(Except.ok.inj h).symm, of_decide_eq_true (holds _ (List.mem_cons_self ..))⟩

theorem Agrees.created (c : Config) (name : String) (now : Instant) :
    Agrees c [] now ⟨name, c, .closed, 0⟩ :=
  ⟨rfl, (Nat.zero_min counterMax).symm, .closed⟩

theorem Agrees.run {c : Config} (hc : 0 < c.failureThreshold.val) {b : Breaker}
    (fresh : ∀ now, Agrees c [] now b) (history : List Event) (ordered : Ordered history)
    (now : Instant) (past : ∀ e ∈ history, e.time ≤ now) :
    Agrees c (failureTimes history) now (b.run history) := by
  induction history using List.reverseRecOn generalizing now with
  | nil => exact fresh now
  | append_singleton history e ih =>
      obtain ⟨hhistory, -, hlast⟩ := List.pairwise_append.mp ordered
      have before : Agrees c (failureTimes history) e.time (b.run history) :=
        ih hhistory e.time fun x hx => hlast x hx e (List.mem_singleton_self e)
      have after := before.act hc e
      rw [failureTimes_concat, run_append]
      exact after.later (past e (by simp))

/-- Every answer is the one that the written history gives, and so the reads in between, whoever
makes them, are seen by nobody. -/
theorem answer_eq_eager (name : String) (c : Config) (b : Breaker)
    (created : create name c = .ok b) (history : List Event) (e : Event)
    (ordered : Ordered (history ++ [e])) :
    ((b.run history).act e).1 = eagerAnswer c (failureTimes history) e ∧
      ∀ other : List Event, Ordered (other ++ [e]) → writes other = writes history →
        ((b.run other).act e).1 = ((b.run history).act e).1 := by
  obtain ⟨rfl, hc⟩ := create_ok created
  have eager : ∀ past : List Event, Ordered (past ++ [e]) →
      ((Breaker.run past ⟨name, c, .closed, 0⟩).act e).1 =
        eagerAnswer c (failureTimes past) e := by
    intro past hpast
    obtain ⟨hbefore, -, hlast⟩ := List.pairwise_append.mp hpast
    have agrees := Agrees.run hc (Agrees.created c name) past hbefore e.time
      fun x hx => hlast x hx e (List.mem_singleton_self e)
    exact agrees.answer e
  refine ⟨eager history ordered, ?_⟩
  intro other hother same
  have times : failureTimes other = failureTimes history := by
    rw [← failureTimes_writes other, ← failureTimes_writes history, same]
  rw [eager other hother, eager history ordered, times]

/-- Two failures open the breaker, and a third one after the timeout opens it again. -/
def reopenedRun : List Event := [⟨0, .recordFailure⟩, ⟨5, .recordFailure⟩, ⟨40, .recordFailure⟩]

/-- The same run under the eyes of a reader, who finds the breaker half open before the third
failure. -/
def watchedRun : List Event :=
  [⟨0, .recordFailure⟩, ⟨3, .state⟩, ⟨5, .recordFailure⟩, ⟨20, .snapshot⟩, ⟨36, .allowRequest⟩,
    ⟨40, .recordFailure⟩, ⟨45, .failures⟩]

theorem answer_eq_eager_reopenedRun :
    create "mesh" ⟨2, ⟨30⟩⟩ = .ok ⟨"mesh", ⟨2, ⟨30⟩⟩, .closed, 0⟩ ∧
      Ordered (reopenedRun ++ [⟨50, .snapshot⟩]) ∧ Ordered (watchedRun ++ [⟨50, .snapshot⟩]) ∧
      writes watchedRun = writes reopenedRun ∧
      ((Breaker.run reopenedRun ⟨"mesh", ⟨2, ⟨30⟩⟩, .closed, 0⟩).act ⟨50, .snapshot⟩).1 =
        .snapshot ⟨.opened, 3, 2, ⟨30⟩, ⟨20⟩⟩ ∧
      ((Breaker.run watchedRun ⟨"mesh", ⟨2, ⟨30⟩⟩, .closed, 0⟩).act ⟨50, .snapshot⟩).1 =
        .snapshot ⟨.opened, 3, 2, ⟨30⟩, ⟨20⟩⟩ := by
  have created : create "mesh" ⟨2, ⟨30⟩⟩ = .ok ⟨"mesh", ⟨2, ⟨30⟩⟩, .closed, 0⟩ := rfl
  have quiet : Ordered (reopenedRun ++ [⟨50, .snapshot⟩]) := by decide
  have watched : Ordered (watchedRun ++ [⟨50, .snapshot⟩]) := by decide
  have same : writes watchedRun = writes reopenedRun := rfl
  obtain ⟨answer, unseen⟩ := answer_eq_eager "mesh" ⟨2, ⟨30⟩⟩ _ created
    reopenedRun ⟨50, .snapshot⟩ quiet
  refine ⟨created, quiet, watched, same, answer, ?_⟩
  rw [unseen watchedRun watched same, answer]
  rfl

end LinkReliability.Breaker
