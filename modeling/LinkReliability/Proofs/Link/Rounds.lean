import LinkReliability.Proofs.Bridge.Waiting
import LinkReliability.Proofs.Link.Attempts

/-!
# The rounds of a reconnect loop

A loop ends one attempt after the other and waits in between, until it is connected, has spent its
attempts, or its token fires. Apart from the waits, the failed attempts are all that it leaves
behind. They are numbered on without a gap, whatever others do to the breaker, to the queue and to
the monitor meanwhile.
-/

namespace LinkReliability

theorem Tick.le_after (now : Tick) (d : Duration) : now ≤ now.after d := Nat.le_add_right ..

namespace BridgeRun

variable {k : Nat} {start r r' : BridgeRun} {l : Link}

/-- Link `k` has the name and the strategy of `l`. Its breaker and its queue can be other ones. -/
def Stands (k : Nat) (l : Link) (r : BridgeRun) : Prop :=
  r.strategies[k]? = some (l.name, l.strategy)

theorem stands_iff : Stands k l r ↔
    ∃ l', r.bridge.link? k = some l' ∧ l'.name = l.name ∧ l'.strategy = l.strategy := by
  rw [Stands, strategies_getElem?, Option.map_eq_some_iff]
  simp only [Prod.mk.injEq]

theorem stands_of_link (h : r.bridge.link? k = some l) : Stands k l r :=
  stands_iff.2 ⟨l, h, rfl, rfl⟩

/-! ## What a loop leaves behind -/

/-- A failed attempt and the number under which it was recorded. -/
structure Note where
  number : Nat
  attempt : FailedAttempt

/-- How a bridge has come from `start` to where it is: these attempts to connect link `k` have
failed, and before and after each of them others have acted as `Between` allows. -/
inductive Trail (Between : BridgeRun → BridgeRun → Prop) (k : Nat) (start : BridgeRun) :
    List Note → BridgeRun → Prop
  | start : Trail Between k start [] start
  | between {notes : List Note} {r r' : BridgeRun} (before : Trail Between k start notes r)
      (between : Between r r') : Trail Between k start notes r'
  | failed {notes : List Note} {r : BridgeRun} {l : Link} {call : Call Unit} {f : Failure}
      (before : Trail Between k start notes r) (link : r.bridge.link? k = some l)
      (outcome : call.outcome = .failed f) (calls : Nat) (offset : Float) :
      Trail Between k start
        (notes ++ [⟨l.strategy.attempts + 1, ⟨(r.clock.advance call.advance).read, f⟩⟩])
        (r.endAttempt k l call offset (l.beginAttempt ⟨calls, .idle⟩)).2

theorem Trail.mono {Between Between' : BridgeRun → BridgeRun → Prop}
    (h : ∀ r r', Between r r' → Between' r r') {notes : List Note}
    (trail : Trail Between k start notes r) : Trail Between' k start notes r := by
  induction trail with
  | start => exact .start
  | between before between ih => exact .between ih (h _ _ between)
  | failed before link outcome calls offset ih => exact .failed ih link outcome calls offset

theorem Trail.append {Between : BridgeRun → BridgeRun → Prop} {notes more : List Note}
    (first : Trail Between k start notes r) (second : Trail Between k r more r') :
    Trail Between k start (notes ++ more) r' := by
  induction second with
  | start => simpa using first
  | between before between ih => exact .between ih between
  | failed before link outcome calls offset ih =>
      rw [← List.append_assoc]
      exact .failed ih link outcome calls offset

/-- These failures have been recorded since `start`, and no others, numbered on from `first`. -/
def Recorded (Between : BridgeRun → BridgeRun → Prop) (k : Nat) (start : BridgeRun) (first : Nat)
    (failures : List Failure) (r : BridgeRun) : Prop :=
  ∃ notes, Trail Between k start notes r ∧ notes.map (·.attempt.failure) = failures ∧
    notes.map Note.number = List.range' first failures.length

/-- Nothing but time has passed for the loop. -/
def Waited (r r' : BridgeRun) : Prop := ∃ target, r' = r.waitUntil target

theorem link?_setLink (r : BridgeRun) (m : Monitor) {k : Nat} {l : Link} (next : Link)
    (h : r.bridge.link? k = some l) :
    ((r.setMonitor m).setLink k next).bridge.link? k = some next := by
  obtain ⟨hk, -⟩ := List.getElem?_eq_some_iff.mp h
  exact List.getElem?_set_self hk

theorem endAttempt_fails (link : r.bridge.link? k = some l) {call : Call Unit} {f : Failure}
    (outcome : call.outcome = .failed f) (calls : Nat) (offset : Float)
    (room : l.strategy.attempts < counterMax) :
    (r.endAttempt k l call offset (l.beginAttempt ⟨calls, .idle⟩)).1 =
        ⟨calls + 1, l.phaseAfterFailure offset 0⟩ ∧
      (r.endAttempt k l call offset (l.beginAttempt ⟨calls, .idle⟩)).2.bridge.link? k =
        some (l.afterFailures 1) := by
  simp only [endAttempt, outcome, Link.endAttempt_fails _ _ _ _ _ _ room, true_and]
  exact link?_setLink _ _ _ link

/-- The failed attempts are numbered on from those that the strategy had counted, and they are all
that it counts. -/
theorem Trail.stands {Between : BridgeRun → BridgeRun → Prop}
    (keeps : ∀ r r', Between r r' → r'.strategies[k]? = r.strategies[k]?) {notes : List Note}
    (trail : Trail Between k start notes r) (hl : Stands k l start)
    (room : notes = [] ∨ l.strategy.attempts + notes.length ≤ counterMax) :
    Stands k (l.afterFailures notes.length) r ∧
      notes.map Note.number = List.range' (l.strategy.attempts + 1) notes.length := by
  induction trail with
  | start => exact ⟨hl, rfl⟩
  | @between notes r r' before between ih =>
      obtain ⟨hstands, hnumbers⟩ := ih room
      exact ⟨(keeps r r' between).trans hstands, hnumbers⟩
  | @failed notes r l₁ call f before link outcome calls offset ih =>
      have hroom := room.resolve_left (by simp)
      rw [List.length_append, List.length_singleton] at hroom ⊢
      obtain ⟨hstands, hnumbers⟩ := ih (.inr (Nat.le_of_succ_le hroom))
      obtain ⟨l', hl', hname, hstrategy⟩ := stands_iff.1 hstands
      obtain rfl := Option.some.inj (hl'.symm.trans link)
      have hattempts : l'.strategy.attempts = l.strategy.attempts + notes.length :=
        congrArg Reconnect.attempts hstrategy
      have hnext := (endAttempt_fails link outcome calls offset (by omega)).2
      constructor
      · refine stands_iff.2 ⟨_, hnext, hname, ?_⟩
        simp only [Link.afterFailures, hstrategy, Nat.add_assoc]
      · rw [List.map_append, hnumbers, List.range'_1_concat]
        simp only [List.map_cons, List.map_nil, hattempts]
        rw [Nat.add_right_comm]

theorem Waited.strategies (h : Waited r r') : r'.strategies = r.strategies := by
  obtain ⟨target, rfl⟩ := h
  exact strategies_waitUntil target r

/-! ## Waits that a token can cut short -/

theorem waitUnlessCancelled_inTime {cancel : Option Tick} {target : Tick} (hle : r.tick ≤ target)
    (spared : ∀ c ∈ cancel, target < c) :
    r.waitUnlessCancelled cancel target = (true, r.waitUntil target) := by
  unfold waitUnlessCancelled Tick.wait
  cases cancel with
  | none => simp only [Nat.max_eq_right hle]
  | some c =>
      have hlater : target < c := spared c rfl
      have hnow : ¬ c ≤ r.tick := Nat.not_le.2 (Nat.lt_of_le_of_lt hle hlater)
      by_cases hdue : target ≤ r.tick
      · obtain rfl := Nat.le_antisymm hdue hle
        simp only [if_neg hnow, Nat.le_refl, ↓reduceIte]
      · simp only [if_neg hnow, if_neg hdue, if_neg (Nat.not_le.2 hlater)]

theorem waitUnlessCancelled_cut {c target : Tick} (cut : c ≤ target) :
    ∃ r', Waited r r' ∧ r.waitUnlessCancelled (some c) target = (false, r') := by
  unfold waitUnlessCancelled Tick.wait
  by_cases hnow : c ≤ r.tick
  · exact ⟨_, ⟨r.tick, rfl⟩, by simp only [if_pos hnow]⟩
  · have hdue : ¬ target ≤ r.tick := fun h => hnow (Nat.le_trans cut h)
    exact ⟨_, ⟨c, rfl⟩, by simp only [if_neg hnow, if_neg hdue, if_pos cut]⟩

/-! ## The moments of the attempts -/

section Moments

variable (l : Link) (script : Script Unit) (offsets : Nat → Float) (begin : Tick)

/-- When attempt `n`, counted from zero, of a loop begins that lets those before it fail. -/
def attemptBegin : Nat → Tick
  | 0 => begin
  | n + 1 => ((attemptBegin n).after (script.reply () n).delay).after
      (l.strategy.delay (l.strategy.attempts + n) (offsets n))

def attemptEnd (n : Nat) : Tick :=
  (attemptBegin l script offsets begin n).after (script.reply () n).delay

theorem attemptBegin_le_attemptEnd (n : Nat) :
    attemptBegin l script offsets begin n ≤ attemptEnd l script offsets begin n :=
  Tick.le_after _ _

theorem attemptEnd_le_attemptBegin (n : Nat) :
    attemptEnd l script offsets begin n ≤ attemptBegin l script offsets begin (n + 1) :=
  Tick.le_after _ _

theorem attemptBegin_le_succ (n : Nat) :
    attemptBegin l script offsets begin n ≤ attemptBegin l script offsets begin (n + 1) :=
  Nat.le_trans (attemptBegin_le_attemptEnd ..) (attemptEnd_le_attemptBegin ..)

end Moments

/-! ## One round -/

section Rounds

variable {script : Script Unit} {offsets : Nat → Float} {cancel : Option Tick} {notes : List Note}

/-- Where the loop stands before an attempt, after the failed ones. -/
structure Underway (k : Nat) (start : BridgeRun) (l : Link) (script : Script Unit)
    (offsets : Nat → Float) (notes : List Note) (r : BridgeRun) : Prop where
  trail : Trail Waited k start notes r
  stands : Stands k (l.afterFailures notes.length) r
  tick : r.tick = attemptBegin l script offsets start.tick notes.length

/-- Where the loop stands when the attempt is answered by `call`. -/
structure Answered (k : Nat) (start : BridgeRun) (l : Link) (script : Script Unit)
    (offsets : Nat → Float) (notes : List Note) (r : BridgeRun) (l' : Link) (call : Call Unit) :
    Prop where
  trail : Trail Waited k start notes r
  link : r.bridge.link? k = some l'
  name : l'.name = l.name
  strategy : l'.strategy = (l.afterFailures notes.length).strategy
  tick : r.tick = attemptEnd l script offsets start.tick notes.length
  outcome : call.outcome = (script.reply () notes.length).outcome

namespace Underway

theorem ends (u : Underway k start l script offsets notes r) :
    ((script.reply () notes.length).callAt r.tick).ends =
      attemptEnd l script offsets start.tick notes.length :=
  congrArg (Tick.after · (script.reply () notes.length).delay) u.tick

theorem le_attemptEnd (u : Underway k start l script offsets notes r) :
    r.tick ≤ attemptEnd l script offsets start.tick notes.length :=
  u.tick ▸ attemptBegin_le_attemptEnd ..

/-- An attempt that ends before the token fires is answered, and then comes what the answer asks
for. -/
theorem attempt (u : Underway k start l script offsets notes r)
    (spared : ∀ c ∈ cancel, attemptEnd l script offsets start.tick notes.length < c)
    (offset : Float) :
    ∃ r₁ l₁ call, Answered k start l script offsets notes r₁ l₁ call ∧
      r.connectRound k cancel offset ⟨notes.length, .idle⟩ (script.after () notes.length) =
        let ended := r₁.endAttempt k l₁ call offset (l₁.beginAttempt ⟨notes.length, .idle⟩)
        let resumed := ended.2.backOff cancel l₁ ended.1
        (resumed.1, script.after () (notes.length + 1), resumed.2) := by
  let r₁ := r.waitUntil (attemptEnd l script offsets start.tick notes.length)
  have hstands : Stands k (l.afterFailures notes.length) r₁ := by
    rw [Stands, strategies_waitUntil]
    exact u.stands
  obtain ⟨l₀, hl₀, -, hstrategy₀⟩ := stands_iff.1 u.stands
  obtain ⟨l₁, hl₁, hname₁, hstrategy₁⟩ := stands_iff.1 hstands
  refine ⟨r₁, l₁, (script.reply () notes.length).callAt r.tick, ?_, ?_⟩
  · exact {
      trail := .between u.trail ⟨_, rfl⟩
      link := hl₁
      name := hname₁
      strategy := hstrategy₁
      tick := (tick_waitUntil _ _).trans (Nat.max_eq_right u.le_attemptEnd)
      outcome := rfl }
  · -- The attempt got its number before the wait, from the same strategy.
    have hbegun : l₀.beginAttempt ⟨notes.length, .idle⟩ =
        l₁.beginAttempt ⟨notes.length, .idle⟩ := by
      simp only [Link.beginAttempt, hstrategy₀, hstrategy₁]
    unfold connectRound
    simp only [hl₀, Script.next_after, u.ends, waitUnlessCancelled_inTime u.le_attemptEnd spared,
      hbegun]
    have hl₁' : (r.waitUntil (attemptEnd l script offsets start.tick notes.length)).bridge.link? k =
        some l₁ := hl₁
    rw [hl₁']

/-- An attempt during which the token fires leaves nothing. -/
theorem cut_in_attempt (u : Underway k start l script offsets notes r) {c : Tick}
    (cut : c ≤ attemptEnd l script offsets start.tick notes.length) (offset : Float) :
    ∃ r', Trail Waited k start notes r' ∧
      r.connectRound k (some c) offset ⟨notes.length, .idle⟩ (script.after () notes.length) =
        (⟨notes.length + 1, .failed (.cancelled l.name)⟩, script.after () (notes.length + 1), r') := by
  obtain ⟨l₀, hl₀, hname₀, -⟩ := stands_iff.1 u.stands
  obtain ⟨r', hwaited, hcut⟩ := waitUnlessCancelled_cut (r := r) cut
  have hname : l₀.name = l.name := hname₀
  refine ⟨r', .between u.trail hwaited, ?_⟩
  unfold connectRound
  simp only [hl₀, Script.next_after, u.ends, hcut]
  rw [← hname]
  rfl

/-- A failed attempt is recorded, and then comes the back-off, if there is another attempt. -/
theorem failed (u : Underway k start l script offsets notes r) (hl : Stands k l start)
    (spared : ∀ c ∈ cancel, attemptEnd l script offsets start.tick notes.length < c) {f : Failure}
    (failing : (script.reply () notes.length).outcome = .failed f)
    (room : l.strategy.attempts + notes.length < counterMax) :
    ∃ note r₂ l₁, note.attempt.failure = f ∧ Trail Waited k start (notes ++ [note]) r₂ ∧
      Stands k (l.afterFailures (notes.length + 1)) r₂ ∧
      r₂.tick = attemptEnd l script offsets start.tick notes.length ∧ l₁.name = l.name ∧
      r.connectRound k cancel (offsets notes.length) ⟨notes.length, .idle⟩
          (script.after () notes.length) =
        let resumed := r₂.backOff cancel l₁
          ⟨notes.length + 1, l.phaseAfterFailure (offsets notes.length) notes.length⟩
        (resumed.1, script.after () (notes.length + 1), resumed.2) := by
  obtain ⟨r₁, l₁, call, a, round⟩ := u.attempt spared (offsets notes.length)
  have outcome := a.outcome.trans failing
  have hattempts : l₁.strategy.attempts = l.strategy.attempts + notes.length :=
    congrArg Reconnect.attempts a.strategy
  have trail := Trail.failed a.trail a.link outcome notes.length (offsets notes.length)
  have stands := (trail.stands (fun _ _ h => congrArg (·[k]?) h.strategies) hl (.inr (by
    rw [List.length_append, List.length_singleton]
    exact room))).1
  rw [List.length_append, List.length_singleton] at stands
  have ended := (endAttempt_fails a.link outcome notes.length (offsets notes.length)
    (hattempts ▸ room)).1
  rw [Link.phaseAfterFailure_eq a.name a.strategy] at ended
  refine ⟨_, _, l₁, rfl, trail, stands, a.tick, a.name, ?_⟩
  rw [round]
  simp only [ended]

/-- The failure with which the attempts are spent ends the loop. -/
theorem last_round (u : Underway k start l script offsets notes r) (hl : Stands k l start)
    (spared : ∀ c ∈ cancel, attemptEnd l script offsets start.tick notes.length < c) {f : Failure}
    (failing : (script.reply () notes.length).outcome = .failed f)
    (room : l.strategy.attempts + notes.length < counterMax)
    (spent : ¬ l.strategy.attempts + notes.length + 1 < l.strategy.config.maxAttempts.val) :
    ∃ note r', note.attempt.failure = f ∧ Trail Waited k start (notes ++ [note]) r' ∧
      r.connectRound k cancel (offsets notes.length) ⟨notes.length, .idle⟩
          (script.after () notes.length) =
        (⟨notes.length + 1,
          .failed (.attemptsExhausted l.name (l.strategy.attempts + notes.length + 1))⟩,
          script.after () (notes.length + 1), r') := by
  obtain ⟨note, r₂, l₁, hfailure, trail, -, -, -, round⟩ := u.failed hl spared failing room
  rw [Link.phaseAfterFailure, if_neg spent] at round
  exact ⟨note, r₂, hfailure, trail, round⟩

/-- A failure that leaves attempts to spend is followed by a back-off until the next one. -/
theorem backing_off (u : Underway k start l script offsets notes r) (hl : Stands k l start)
    (spared : ∀ c ∈ cancel, attemptEnd l script offsets start.tick notes.length < c) {f : Failure}
    (failing : (script.reply () notes.length).outcome = .failed f)
    (more : l.strategy.attempts + notes.length + 1 < l.strategy.config.maxAttempts.val) :
    ∃ note r₂, note.attempt.failure = f ∧ Trail Waited k start (notes ++ [note]) r₂ ∧
      Stands k (l.afterFailures (notes.length + 1)) r₂ ∧
      r₂.tick ≤ attemptBegin l script offsets start.tick (notes.length + 1) ∧
      r.connectRound k cancel (offsets notes.length) ⟨notes.length, .idle⟩
          (script.after () notes.length) =
        let resumed := r₂.waitUnlessCancelled cancel
          (attemptBegin l script offsets start.tick (notes.length + 1))
        (⟨notes.length + 1, if resumed.1 then .idle else .failed (.cancelled l.name)⟩,
          script.after () (notes.length + 1), resumed.2) := by
  have hmax := l.maxAttempts_le_counterMax
  obtain ⟨note, r₂, l₁, hfailure, trail, stands, tick, hname, round⟩ :=
    u.failed hl spared failing (by omega)
  have wake : r₂.tick.after (l.strategy.delay (l.strategy.attempts + notes.length)
      (offsets notes.length)) = attemptBegin l script offsets start.tick (notes.length + 1) := by
    rw [tick]
    rfl
  refine ⟨note, r₂, hfailure, trail, stands, tick ▸ attemptEnd_le_attemptBegin .., ?_⟩
  rw [round, Link.phaseAfterFailure, if_pos more]
  simp only [backOff, wake]
  split
  · rfl
  · rw [← hname]
    rfl

/-- A back-off that is over before the token fires takes the loop to the next attempt. -/
theorem next_round (u : Underway k start l script offsets notes r) (hl : Stands k l start)
    (spared : ∀ c ∈ cancel, attemptBegin l script offsets start.tick (notes.length + 1) < c)
    {f : Failure} (failing : (script.reply () notes.length).outcome = .failed f)
    (more : l.strategy.attempts + notes.length + 1 < l.strategy.config.maxAttempts.val) :
    ∃ note r', note.attempt.failure = f ∧
      Underway k start l script offsets (notes ++ [note]) r' ∧
      r.connectRound k cancel (offsets notes.length) ⟨notes.length, .idle⟩
          (script.after () notes.length) =
        (⟨notes.length + 1, .idle⟩, script.after () (notes.length + 1), r') := by
  have inTime : ∀ c ∈ cancel, attemptEnd l script offsets start.tick notes.length < c :=
    fun c hc => Nat.lt_of_le_of_lt (attemptEnd_le_attemptBegin ..) (spared c hc)
  obtain ⟨note, r₂, hfailure, trail, stands, hle, round⟩ := u.backing_off hl inTime failing more
  simp only [waitUnlessCancelled_inTime hle spared, ↓reduceIte] at round
  refine ⟨note, _, hfailure, ?_, round⟩
  constructor
  · exact .between trail ⟨_, rfl⟩
  · rw [Stands, strategies_waitUntil, List.length_append, List.length_singleton]
    exact stands
  · rw [tick_waitUntil, Nat.max_eq_right hle, List.length_append, List.length_singleton]

/-- A back-off during which the token fires comes after one failure more. -/
theorem cut_in_backOff (u : Underway k start l script offsets notes r) (hl : Stands k l start)
    {c : Tick} (inTime : attemptEnd l script offsets start.tick notes.length < c)
    (cut : c ≤ attemptBegin l script offsets start.tick (notes.length + 1)) {f : Failure}
    (failing : (script.reply () notes.length).outcome = .failed f)
    (more : l.strategy.attempts + notes.length + 1 < l.strategy.config.maxAttempts.val) :
    ∃ note r', note.attempt.failure = f ∧ Trail Waited k start (notes ++ [note]) r' ∧
      r.connectRound k (some c) (offsets notes.length) ⟨notes.length, .idle⟩
          (script.after () notes.length) =
        (⟨notes.length + 1, .failed (.cancelled l.name)⟩, script.after () (notes.length + 1),
          r') := by
  have spared : ∀ c' ∈ some c, attemptEnd l script offsets start.tick notes.length < c' := by
    rintro c' ⟨⟩
    exact inTime
  obtain ⟨note, r₂, hfailure, trail, -, -, round⟩ := u.backing_off hl spared failing more
  obtain ⟨r', hwaited, hcut⟩ := waitUnlessCancelled_cut (r := r₂) cut
  simp only [hcut, Bool.false_eq_true, ↓reduceIte] at round
  exact ⟨note, r', hfailure, .between trail hwaited, round⟩

theorem success_round (u : Underway k start l script offsets notes r)
    (spared : ∀ c ∈ cancel, attemptEnd l script offsets start.tick notes.length < c)
    (offset : Float) (succeeding : (script.reply () notes.length).outcome = .done ()) :
    ∃ r₁ l₁ call, Answered k start l script offsets notes r₁ l₁ call ∧
      r.connectRound k cancel offset ⟨notes.length, .idle⟩ (script.after () notes.length) =
        (⟨notes.length + 1, .connected⟩, script.after () (notes.length + 1),
          (r₁.endAttempt k l₁ call offset (l₁.beginAttempt ⟨notes.length, .idle⟩)).2) := by
  obtain ⟨r₁, l₁, call, a, round⟩ := u.attempt spared offset
  have ended : (r₁.endAttempt k l₁ call offset (l₁.beginAttempt ⟨notes.length, .idle⟩)).1 =
      ⟨notes.length + 1, .connected⟩ := by
    simp only [endAttempt, Link.endAttempt, Link.beginAttempt, a.outcome.trans succeeding]
  refine ⟨r₁, l₁, call, a, ?_⟩
  rw [round]
  simp only [ended, backOff]

end Underway

/-! ## The whole loop -/

theorem connectRounds_of_isOver {c : Link.Connecting} (ended : c.isOver = true) (rounds : Nat) :
    connectRounds k cancel offsets rounds c script r = (c, r) := by
  cases rounds with
  | zero => rfl
  | succ rounds => rw [connectRounds, if_pos ended]

theorem connectRounds_succ {script' : Script Unit} {c c' : Link.Connecting}
    (round : r.connectRound k cancel (offsets c.calls) c script = (c', script', r'))
    (going : c.isOver = false) (rounds : Nat) :
    connectRounds k cancel offsets (rounds + 1) c script r =
      connectRounds k cancel offsets rounds c' script' r' := by
  rw [connectRounds, if_neg (Bool.eq_false_iff.mp going), round]

/-- A round with which the loop is over. -/
theorem connectRounds_last {script' : Script Unit} {c c' : Link.Connecting}
    (round : r.connectRound k cancel (offsets c.calls) c script = (c', script', r'))
    (going : c.isOver = false) (ended : c'.isOver = true) (rounds : Nat) :
    connectRounds k cancel offsets (rounds + 1) c script r = (c', r') := by
  rw [connectRounds_succ round going, connectRounds_of_isOver ended]

/-- As long as there are attempts to spend and the token does not fire, each failure takes the loop
one round further. -/
theorem connectRounds_failing (hl : Stands k l start) {failures : List Failure}
    (failing : script.FailsWith failures)
    (more : failures = [] ∨
      l.strategy.attempts + failures.length < l.strategy.config.maxAttempts.val)
    (spared : failures = [] ∨
      ∀ c ∈ cancel, attemptBegin l script offsets start.tick failures.length < c) :
    ∃ notes r', notes.map (·.attempt.failure) = failures ∧
      Underway k start l script offsets notes r' ∧
      ∀ rounds,
        connectRounds k cancel offsets (notes.length + rounds) Link.Connecting.fresh script start =
          connectRounds k cancel offsets rounds ⟨notes.length, .idle⟩
            (script.after () notes.length) r' := by
  induction failures using List.reverseRecOn with
  | nil =>
      refine ⟨[], start, rfl, ⟨.start, hl, rfl⟩, fun rounds => ?_⟩
      rw [List.length_nil, Nat.zero_add]
      rfl
  | append_singleton failures f ih =>
      obtain ⟨hinit, hlast⟩ := Script.failsWith_concat.mp failing
      have hmore := more.resolve_left (by simp)
      have hspared := spared.resolve_left (by simp)
      rw [List.length_append, List.length_singleton] at hmore hspared
      have earlier : ∀ c ∈ cancel, attemptBegin l script offsets start.tick failures.length < c :=
        fun c hc => Nat.lt_of_le_of_lt (attemptBegin_le_succ ..) (hspared c hc)
      obtain ⟨notes, r', rfl, u, rounds⟩ := ih hinit (.inr (by omega)) (.inr earlier)
      rw [List.length_map] at hlast hmore hspared
      obtain ⟨note, r'', hfailure, u', round⟩ := u.next_round hl hspared hlast (by omega)
      refine ⟨notes ++ [note], r'', by simp [hfailure], u', fun n => ?_⟩
      rw [List.length_append, List.length_singleton, Nat.add_assoc, Nat.add_comm 1 n, rounds,
        connectRounds_succ round rfl]

theorem connectWith_eq (hl : r.bridge.link? k = some l) (script : Script Unit)
    (cancel : Option Tick) (offsets : Nat → Float) {n : Nat} (hn : n < l.budget) :
    ∃ rounds, r.connectWith k script cancel offsets =
      connectRounds k cancel offsets (n + (rounds + 1)) Link.Connecting.fresh script r := by
  unfold Link.budget at hn
  refine ⟨l.strategy.config.maxAttempts.val - l.strategy.attempts - n, ?_⟩
  have hsplit : l.strategy.config.maxAttempts.val - l.strategy.attempts + 1 =
      n + (l.strategy.config.maxAttempts.val - l.strategy.attempts - n + 1) := by
    omega
  simp only [connectWith, hl, Option.elim_some, hsplit]

/-- A success that comes before the attempts are spent and before the token fires ends the loop. -/
theorem connectWith_connects (hl : r.bridge.link? k = some l) {failures : List Failure}
    (failing : script.FailsWith failures) (early : failures.length < l.budget)
    (succeeding : (script.reply () failures.length).outcome = .done ())
    (spared : ∀ c ∈ cancel, attemptEnd l script offsets r.tick failures.length < c) :
    ∃ notes r₁ l₁ call, notes.map (·.attempt.failure) = failures ∧
      Answered k r l script offsets notes r₁ l₁ call ∧
      r.connectWith k script cancel offsets =
        (⟨failures.length + 1, .connected⟩,
          (r₁.endAttempt k l₁ call (offsets notes.length)
            (l₁.beginAttempt ⟨notes.length, .idle⟩)).2) := by
  obtain ⟨n, hrounds⟩ := connectWith_eq hl script cancel offsets early
  have earlier : ∀ c ∈ cancel, attemptBegin l script offsets r.tick failures.length < c :=
    fun c hc => Nat.lt_of_le_of_lt (attemptBegin_le_attemptEnd ..) (spared c hc)
  obtain ⟨notes, r', rfl, u, rounds⟩ := connectRounds_failing (stands_of_link hl) failing
    (l.more_of_lt_budget early) (.inr earlier)
  rw [List.length_map] at succeeding spared hrounds ⊢
  obtain ⟨r₁, l₁, call, a, round⟩ := u.success_round spared (offsets notes.length) succeeding
  refine ⟨notes, r₁, l₁, call, rfl, a, ?_⟩
  rw [hrounds, rounds, connectRounds_last round rfl rfl]

/-- Failures that spend the attempts before the token fires end the loop. -/
theorem connectWith_spends (hl : r.bridge.link? k = some l)
    (room : l.strategy.attempts < counterMax) {failures : List Failure}
    (failing : script.FailsWith failures) (spent : failures.length = l.budget)
    (spared : ∀ c ∈ cancel, attemptEnd l script offsets r.tick (failures.length - 1) < c) :
    ∃ notes r', notes.map (·.attempt.failure) = failures ∧ Trail Waited k r notes r' ∧
      r.connectWith k script cancel offsets =
        (⟨l.budget, .failed (.attemptsExhausted l.name (l.strategy.attempts + l.budget))⟩, r') := by
  rcases List.eq_nil_or_concat' failures with rfl | ⟨init, f, rfl⟩
  · have hpos := l.budget_pos
    rw [List.length_nil] at spent
    omega
  · obtain ⟨hinit, hlast⟩ := Script.failsWith_concat.mp failing
    rw [List.length_append, List.length_singleton, Nat.add_sub_cancel] at spared
    rw [List.length_append, List.length_singleton] at spent
    have hmax := l.maxAttempts_le_counterMax
    have early : init.length < l.budget := spent ▸ Nat.lt_succ_self _
    obtain ⟨n, hrounds⟩ := connectWith_eq hl script cancel offsets early
    have earlier : ∀ c ∈ cancel, attemptBegin l script offsets r.tick init.length < c :=
      fun c hc => Nat.lt_of_le_of_lt (attemptBegin_le_attemptEnd ..) (spared c hc)
    obtain ⟨notes, r₁, rfl, u, rounds⟩ := connectRounds_failing (stands_of_link hl) hinit
      (l.more_of_lt_budget early) (.inr earlier)
    rw [List.length_map] at hlast spent spared hrounds
    have hbudget := spent
    unfold Link.budget at hbudget
    obtain ⟨note, r', hfailure, trail, round⟩ := u.last_round (stands_of_link hl) spared hlast
      (by omega) (by omega)
    refine ⟨notes ++ [note], r', by simp [hfailure], trail, ?_⟩
    rw [hrounds, rounds, connectRounds_last round rfl rfl, spent, Nat.add_assoc, spent]

end Rounds

end BridgeRun

end LinkReliability
