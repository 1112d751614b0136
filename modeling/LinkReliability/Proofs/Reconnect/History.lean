import LinkReliability.Reconnect
import Mathlib.Data.List.Induction

/-!
# A strategy and what was recorded

A strategy keeps a count of failed attempts and the start of its latest ramp, and it never clears a
ramp that is over. Both are determined by the failures, successes and resets that were recorded, and
with them all that the strategy answers: when to give up, and how far the link is throttled.
-/

namespace LinkReliability.Reconnect

inductive Operation where
  | failure
  | success
  | reset
deriving DecidableEq, Repr

structure Event where
  time : Instant
  operation : Operation
deriving DecidableEq, Repr

def act (s : Reconnect) (e : Event) : Reconnect :=
  match e.operation with
  | .failure => s.recordFailure
  | .success => s.recordSuccess e.time
  | .reset => s.reset

def run (history : List Event) (s : Reconnect) : Reconnect := history.foldl act s

theorem run_append (first second : List Event) (s : Reconnect) :
    s.run (first ++ second) = (s.run first).run second := List.foldl_append

theorem run_concat (history : List Event) (e : Event) (s : Reconnect) :
    s.run (history ++ [e]) = (s.run history).act e := run_append history [e] s

/-! ## What the history says -/

/-- The number of failures since the last success or reset. -/
def failuresSince (history : List Event) : Nat :=
  (history.reverse.takeWhile (fun e => e.operation = .failure)).length

/-- A success begins a ramp if the link failed since the last success or reset, and if there are
ramps at all. -/
def Opens (c : Config) (before : List Event) (e : Event) : Prop :=
  e.operation = .success ∧ 0 < failuresSince before ∧ c.slowStartDuration.isZero = false

/-- After `before` there are only failures and successes that begin no ramp. -/
def Keeps (c : Config) : List Event → List Event → Prop
  | _, [] => True
  | before, e :: after =>
    e.operation ≠ .reset ∧ ¬ Opens c before e ∧ Keeps c (before ++ [e]) after

/-- The latest ramp began at `o`, and there was no reset since. -/
def RampFrom (c : Config) (history : List Event) (o : Instant) : Prop :=
  ∃ before e after, history = before ++ e :: after ∧ e.time = o ∧ Opens c before e ∧
    Keeps c (before ++ [e]) after

section History

variable {c : Config}

instance (before : List Event) (e : Event) : Decidable (Opens c before e) :=
  inferInstanceAs (Decidable (_ ∧ _ ∧ _))

instance decidableKeeps : ∀ before after : List Event, Decidable (Keeps c before after)
  | _, [] => isTrue trivial
  | before, e :: after =>
    have := decidableKeeps (before ++ [e]) after
    inferInstanceAs (Decidable (_ ∧ _ ∧ _))

theorem failuresSince_concat (history : List Event) (e : Event) :
    failuresSince (history ++ [e]) =
      if e.operation = .failure then failuresSince history + 1 else 0 := by
  unfold failuresSince
  rw [List.reverse_append, List.reverse_singleton, List.singleton_append, List.takeWhile_cons]
  by_cases h : e.operation = .failure <;> simp [h]

theorem keeps_concat (e : Event) (after before : List Event) :
    Keeps c before (after ++ [e]) ↔
      Keeps c before after ∧ e.operation ≠ .reset ∧ ¬ Opens c (before ++ after) e := by
  induction after generalizing before with
  | nil => simp [Keeps]
  | cons f after ih =>
      simp only [List.cons_append, Keeps, ih, List.append_assoc, List.nil_append, and_assoc]

theorem not_rampFrom_nil (o : Instant) : ¬ RampFrom c [] o := by
  rintro ⟨before, e, after, h, -⟩
  exact List.append_ne_nil_of_right_ne_nil before (List.cons_ne_nil e after) h.symm

/-- A success may begin a ramp of its own. Only a reset takes back one that has begun before. -/
theorem rampFrom_concat (history : List Event) (e : Event) (o : Instant) :
    RampFrom c (history ++ [e]) o ↔
      Opens c history e ∧ e.time = o ∨
        ¬ Opens c history e ∧ e.operation ≠ .reset ∧ RampFrom c history o := by
  constructor
  · rintro ⟨before, f, after, heq, htime, hopens, hkeeps⟩
    rcases List.eq_nil_or_concat after with rfl | ⟨after, g, rfl⟩
    · obtain ⟨rfl, hlast⟩ := List.append_inj' heq rfl
      obtain rfl := List.singleton_inj.1 hlast
      exact .inl ⟨hopens, htime⟩
    · rw [List.concat_eq_append] at heq hkeeps
      rw [← List.cons_append, ← List.append_assoc] at heq
      obtain ⟨rfl, hlast⟩ := List.append_inj' heq rfl
      obtain rfl := List.singleton_inj.1 hlast
      obtain ⟨hkept, hreset, hnot⟩ := (keeps_concat e after _).1 hkeeps
      rw [List.append_assoc] at hnot
      exact .inr ⟨hnot, hreset, before, f, after, rfl, htime, hopens, hkept⟩
  · rintro (⟨hopens, htime⟩ | ⟨hnot, hreset, before, f, after, rfl, htime, hopens, hkeeps⟩)
    · exact ⟨history, e, [], rfl, htime, hopens, trivial⟩
    · refine ⟨before, f, after ++ [e], ?_, htime, hopens, ?_⟩
      · rw [List.append_assoc, List.cons_append]
      · refine (keeps_concat e after _).2 ⟨hkeeps, hreset, ?_⟩
        rw [List.append_assoc]
        exact hnot

/-- Failures, and successes that begin no ramp, neither end nor restart one. -/
theorem rampFrom_append {history more : List Event} (h : Keeps c history more) (o : Instant) :
    RampFrom c (history ++ more) o ↔ RampFrom c history o := by
  induction more using List.reverseRecOn with
  | nil => rw [List.append_nil]
  | append_singleton more e ih =>
      obtain ⟨hkeeps, hreset, hnot⟩ := (keeps_concat e more history).1 h
      rw [← List.append_assoc, rampFrom_concat, ih hkeeps]
      constructor
      · rintro (⟨hopens, -⟩ | ⟨-, -, hramp⟩)
        · exact absurd hopens hnot
        · exact hramp
      · intro hramp
        exact .inr ⟨hnot, hreset, hramp⟩

end History

/-! ## The strategy follows it -/

/-- What a strategy keeps is what the history says. -/
structure Follows (c : Config) (history : List Event) (s : Reconnect) : Prop where
  config_eq : s.config = c
  attempts_eq : s.attempts = min (failuresSince history) counterMax
  rampStart_eq : ∀ o, s.rampStart = some o ↔ RampFrom c history o

section Strategy

variable {c : Config} {history : List Event} {s : Reconnect}

theorem create_eq_ok {name : String} (h : create name c = .ok s) : s = ⟨name, c, 0, none⟩ := by
  unfold create at h
  cases hv : c.validate with
  | error e => rw [hv] at h; cases h
  | ok u =>
      rw [hv] at h
      exact (Except.ok.inj h).symm

theorem Follows.of_create {name : String} (h : create name c = .ok s) : Follows c [] s := by
  rw [create_eq_ok h]
  exact ⟨rfl, rfl, fun o => iff_of_false nofun (not_rampFrom_nil o)⟩

theorem Follows.attempts_pos_iff (f : Follows c history s) :
    0 < s.attempts ↔ 0 < failuresSince history := by
  have hmax : 0 < counterMax := by decide
  rw [f.attempts_eq]
  omega

theorem Follows.act (f : Follows c history s) (e : Event) :
    Follows c (history ++ [e]) (s.act e) := by
  unfold Reconnect.act
  cases ho : e.operation with
  | failure =>
      have hnot : ¬ Opens c history e := fun h => by rw [h.1] at ho; cases ho
      refine ⟨f.config_eq, ?_, fun o => ?_⟩
      · rw [failuresSince_concat, if_pos ho, recordFailure, f.attempts_eq, countUp_min]
      · rw [rampFrom_concat]
        simpa [recordFailure, hnot, ho] using f.rampStart_eq o
  | reset =>
      have hnot : ¬ Opens c history e := fun h => by rw [h.1] at ho; cases ho
      refine ⟨f.config_eq, ?_, fun o => ?_⟩
      · rw [failuresSince_concat, if_neg (by rw [ho]; nofun)]
        exact (Nat.zero_min counterMax).symm
      · rw [rampFrom_concat]
        simp [reset, hnot, ho]
  | success =>
      have hopens : Opens c history e ↔ 0 < s.attempts ∧ ¬ s.config.slowStartDuration.isZero := by
        rw [Opens, f.attempts_pos_iff, f.config_eq]
        simp [ho]
      have hstart : (s.recordSuccess e.time).rampStart =
          if Opens c history e then some e.time else s.rampStart := if_congr hopens.symm rfl rfl
      refine ⟨f.config_eq, ?_, fun o => ?_⟩
      · rw [failuresSince_concat, if_neg (by rw [ho]; nofun)]
        exact (Nat.zero_min counterMax).symm
      · rw [rampFrom_concat, hstart]
        by_cases h : Opens c history e
        · simp [h]
        · simpa [h, ho] using f.rampStart_eq o

theorem Follows.run (f : Follows c [] s) (history : List Event) : Follows c history (s.run history) := by
  induction history using List.reverseRecOn with
  | nil => exact f
  | append_singleton history e ih =>
      rw [run_concat]
      exact ih.act e

/-! ## What it answers -/

theorem rampAge?_of_rampFrom (f : Follows c history s) {o now : Instant}
    (hramp : RampFrom c history o) (hage : now.since o < c.slowStartDuration) :
    s.rampAge? now = some (now.since o) := by
  have hstart := (f.rampStart_eq o).2 hramp
  have hpos : ¬ c.slowStartDuration.isZero = true := by
    obtain ⟨before, e, after, -, -, hopens, -⟩ := hramp
    rw [hopens.2.2]
    exact Bool.false_ne_true
  simp only [rampAge?, hstart, Option.bind_some, f.config_eq]
  exact if_neg (not_or.2 ⟨hpos, Duration.not_le.2 hage⟩)

theorem rampAge?_eq_none (f : Follows c history s) {now : Instant}
    (h : ¬ ∃ o, RampFrom c history o ∧ now.since o < c.slowStartDuration) :
    s.rampAge? now = none := by
  unfold rampAge?
  cases hs : s.rampStart with
  | none => rfl
  | some o =>
      rw [Option.bind_some, f.config_eq]
      have hover : c.slowStartDuration ≤ now.since o :=
        Duration.not_lt.1 fun hlt => h ⟨o, (f.rampStart_eq o).1 hs, hlt⟩
      exact if_pos (.inr hover)

/-- At full throughput nothing is held back. -/
theorem unthrottled {now : Instant} (h : s.rampAge? now = none) :
    s.throughputFactor now = 1.0 ∧ s.inSlowStart now = false ∧
      s.interPacketDelay now = Duration.zero := by
  have hfactor : s.throughputFactor now = 1.0 := by rw [throughputFactor, h]
  have hrest : (if (1.0 : Float) - 1.0 < 0.0 then 0.0 else 1.0 - 1.0) = (0.0 : Float) := by rfl
  refine ⟨hfactor, ?_, ?_⟩
  · rw [inSlowStart, hfactor]
    decide
  · rw [interPacketDelay, hfactor, pacingFor, hrest, Duration.scale_zero]

theorem throughputFactor_congr {s' : Reconnect} (hconfig : s'.config = s.config)
    (hstart : s'.rampStart = s.rampStart) (now : Instant) :
    s'.throughputFactor now = s.throughputFactor now := by
  unfold throughputFactor rampAge?
  rw [hconfig, hstart]

end Strategy

/-- The count of attempts, and with it the decision to give up, the ramp, and the throttling are
what the history says. -/
theorem counter_and_ramp_of_history {name : String} {c : Config} {s : Reconnect}
    (h : create name c = .ok s) (history : List Event) :
    (s.run history).attempts = min (failuresSince history) counterMax ∧
      ((s.run history).shouldRetry = true ↔
        min (failuresSince history) counterMax < c.maxAttempts.val) ∧
      (∀ now o, RampFrom c history o → now.since o < c.slowStartDuration →
        (s.run history).throughputFactor now = rampFactor (now.since o) c.slowStartDuration) ∧
      (∀ now, (¬ ∃ o, RampFrom c history o ∧ now.since o < c.slowStartDuration) →
        (s.run history).throughputFactor now = 1.0 ∧ (s.run history).inSlowStart now = false ∧
          (s.run history).interPacketDelay now = Duration.zero) ∧
      ∀ more, Keeps c history more → ∀ now,
        (s.run (history ++ more)).throughputFactor now = (s.run history).throughputFactor now := by
  have follows := (Follows.of_create h).run history
  refine ⟨follows.attempts_eq, ?_, ?_, ?_, ?_⟩
  · rw [shouldRetry, follows.config_eq, follows.attempts_eq, decide_eq_true_eq]
  · intro now o hramp hage
    rw [throughputFactor, rampAge?_of_rampFrom follows hramp hage, follows.config_eq]
  · intro now hnone
    exact unthrottled (rampAge?_eq_none follows hnone)
  · intro more hkeeps now
    have later := (Follows.of_create h).run (history ++ more)
    refine throughputFactor_congr (later.config_eq.trans follows.config_eq.symm) ?_ now
    ext o
    rw [later.rampStart_eq, follows.rampStart_eq, rampFrom_append hkeeps]

/-- Two failures, a recovery at one second, and another failure within the ramp. -/
def failedAgain : List Event := [
  ⟨0, .failure⟩,
  ⟨500000000, .failure⟩,
  ⟨1000000000, .success⟩,
  ⟨2000000000, .failure⟩]

theorem counter_and_ramp_of_history_failedAgain :
    ∃ s, create "mesh" Config.meshRadio = .ok s ∧
      (s.run failedAgain).attempts = 1 ∧
      (s.run failedAgain).throughputFactor 11000000000 =
        rampFactor (Duration.ofSecs 10) (Duration.ofSecs 30) ∧
      (s.run (failedAgain ++ [⟨3000000000, .failure⟩])).throughputFactor 11000000000 =
        rampFactor (Duration.ofSecs 10) (Duration.ofSecs 30) ∧
      (s.run (failedAgain ++ [⟨3000000000, .reset⟩])).throughputFactor 11000000000 = 1.0 := by
  have hs : create "mesh" Config.meshRadio = .ok _ := rfl
  obtain ⟨hattempts, -, hramp, -, hkeeps⟩ := counter_and_ramp_of_history hs failedAgain
  have hfrom : RampFrom Config.meshRadio failedAgain 1000000000 :=
    ⟨failedAgain.take 2, _, failedAgain.drop 3, rfl, rfl, by decide, by decide⟩
  have hfactor := hramp 11000000000 1000000000 hfrom (by decide)
  have hreset : ¬ ∃ o, RampFrom Config.meshRadio (failedAgain ++ [⟨3000000000, .reset⟩]) o ∧
      Instant.since 11000000000 o < Config.meshRadio.slowStartDuration := by
    rintro ⟨o, hlater, -⟩
    rcases (rampFrom_concat _ _ o).1 hlater with ⟨hopens, -⟩ | ⟨-, hkept, -⟩
    · cases hopens.1
    · exact hkept rfl
  refine ⟨_, hs, hattempts.trans (by decide), hfactor, ?_, ?_⟩
  · exact (hkeeps [⟨3000000000, .failure⟩] (by decide) 11000000000).trans hfactor
  · exact ((counter_and_ramp_of_history hs _).2.2.2.1 11000000000 hreset).1

end LinkReliability.Reconnect
