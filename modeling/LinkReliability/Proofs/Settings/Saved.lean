import LinkReliability.Breaker.Config
import LinkReliability.Monitor.Config
import LinkReliability.Probe.Config
import LinkReliability.Queue.Config
import LinkReliability.Reconnect.Config

/-!
# Settings read back

Settings are saved with each duration cut to whole milliseconds, as many as 64 bits hold at most.
Every other field is written as it is. What is read from the saved form is therefore the settings
with their durations cut.
-/

namespace LinkReliability

namespace Duration

/-- What settings keep of a duration. -/
def wholeMillis (d : Duration) : Duration := ofMillis d.cappedMillis

theorem cappedMillis_le_maxMillis (d : Duration) : d.cappedMillis ≤ maxMillis := by
  unfold cappedMillis
  split <;> omega

theorem cappedMillis_mono {a b : Duration} (h : a ≤ b) : a.cappedMillis ≤ b.cappedMillis := by
  have hmillis : a.millis ≤ b.millis := Nat.div_le_div_right h
  unfold cappedMillis
  split <;> split <;> omega

theorem cappedMillis_eq_zero_iff (d : Duration) :
    d.cappedMillis = 0 ↔ ¬ ofMillis 1 ≤ d := by
  have hmax : 0 < maxMillis := by decide
  have hmillis : d.millis = 0 ↔ d.nanos < 1000000 := Nat.div_eq_zero_iff_lt (by omega)
  have hlt : ¬ ofMillis 1 ≤ d ↔ d.nanos < 1000000 := Nat.not_le
  rw [hlt, ← hmillis]
  unfold cappedMillis
  split <;> omega

theorem wholeMillis_mono {a b : Duration} (h : a ≤ b) : a.wholeMillis ≤ b.wholeMillis :=
  Nat.mul_le_mul_right 1000000 (cappedMillis_mono h)

theorem cappedMillis_le_millis (d : Duration) : d.cappedMillis ≤ d.millis := by
  unfold cappedMillis
  split <;> omega

theorem cappedMillis_eq_min (d : Duration) : d.cappedMillis = Min.min d.millis maxMillis := by
  unfold cappedMillis
  split <;> omega

theorem wholeMillis_le (d : Duration) : d.wholeMillis ≤ d :=
  Nat.le_trans (Nat.mul_le_mul_right 1000000 d.cappedMillis_le_millis)
    (Nat.div_mul_le_self d.nanos 1000000)

/-- Below the cap the cut takes less than a millisecond. -/
theorem lt_wholeMillis_add {d : Duration} (h : d < ofMillis (maxMillis + 1)) :
    d < d.wholeMillis + ofMillis 1 := by
  have hfits : d.millis ≤ maxMillis := Nat.le_of_lt_succ (Nat.div_lt_of_lt_mul (Nat.mul_comm .. ▸ h))
  have hcapped : d.cappedMillis = d.millis := if_pos hfits
  change d.nanos < d.cappedMillis * 1000000 + 1 * 1000000
  rw [hcapped, millis]
  omega

theorem cappedMillis_ofMillis {n : Nat} (h : n ≤ maxMillis) : (ofMillis n).cappedMillis = n := by
  have hmillis : (ofMillis n).millis = n := Nat.mul_div_cancel n (by decide)
  rw [cappedMillis, hmillis, if_pos h]

/-- A duration of whole milliseconds below the cap is kept. -/
theorem wholeMillis_ofMillis {n : Nat} (h : n ≤ maxMillis) :
    (ofMillis n).wholeMillis = ofMillis n := congrArg ofMillis (cappedMillis_ofMillis h)

@[simp] theorem cappedMillis_wholeMillis (d : Duration) :
    d.wholeMillis.cappedMillis = d.cappedMillis :=
  cappedMillis_ofMillis d.cappedMillis_le_maxMillis

/-- The cut takes all of a duration that is shorter than a millisecond, and of no other. -/
theorem isZero_wholeMillis (d : Duration) : d.wholeMillis.isZero = !decide (ofMillis 1 ≤ d) := by
  have hzero : d.wholeMillis.nanos = 0 ↔ d.cappedMillis = 0 := by
    change d.cappedMillis * 1000000 = 0 ↔ _
    omega
  simp [isZero, hzero, cappedMillis_eq_zero_iff]

end Duration

namespace Document

/-! ## Plain values -/

theorem countBelow?_val {bound : Nat} (n : Fin bound) : countBelow? bound n.val = some n := by
  simp [countBelow?]

@[simp] theorem nat?_nat (n : Nat) : (nat n).nat? = some n := by
  simp [nat, nat?]

@[simp] theorem count32?_ofCount (n : Count32) : (ofCount n).count32? = some n := by
  simp [count32?, ofCount, countBelow?_val]

@[simp] theorem count64?_ofCount (n : Count64) : (ofCount n).count64? = some n := by
  simp [count64?, ofCount, countBelow?_val]

@[simp] theorem duration?_ofDuration (d : Duration) :
    (ofDuration d).duration? = some d.wholeMillis := by
  have hlt : d.cappedMillis < Nat.pow 2 64 := by
    have hle := d.cappedMillis_le_maxMillis
    have hpos : 0 < Nat.pow 2 64 := by decide
    unfold Duration.maxMillis at hle
    omega
  simp [duration?, count64?, ofDuration, countBelow?, hlt, Duration.wholeMillis]

@[simp] theorem float?_float (x : Float) : (float x).float? = some x := rfl

@[simp] theorem texts?_ofTexts (texts : List String) : (ofTexts texts).texts? = some texts := by
  simp only [ofTexts, texts?]
  induction texts with
  | nil => rfl
  | cons s rest ih => simp [text?, ih]

/-! ## Records -/

theorem find?_cons_of_ne {name other : String} (hne : name ≠ other) (d : Document)
    (fields : List (String × Document)) :
    find? name ((other, d) :: fields) = find? name fields := by
  simp [find?, List.find?_cons_of_neg, hne.symm]

/-- A record that has each of its fields, under names of their own, is read field by field. -/
theorem fields?_eq {names : List String} (hnames : names.Nodup) {docs : List Document}
    (hlength : names.length = docs.length) {d : Document} (hd : d = record (names.zip docs)) :
    d.fields? names = some (docs.map some) := by
  subst hd
  suffices hmap : names.map (fun n => find? n (names.zip docs)) = docs.map some by
    simp [fields?, hmap]
  induction names generalizing docs with
  | nil => simp [List.length_eq_zero_iff.1 hlength.symm]
  | cons name names ih =>
    obtain ⟨hfresh, hnames⟩ := List.nodup_cons.1 hnames
    cases docs with
    | nil => simp at hlength
    | cons d docs =>
      have hhead : find? name ((name, d) :: names.zip docs) = some d := by simp [find?]
      have htail : ∀ n ∈ names, find? n ((name, d) :: names.zip docs) = find? n (names.zip docs) :=
        fun n hn => find?_cons_of_ne (ne_of_mem_of_not_mem hn hfresh) d _
      rw [List.zip_cons_cons, List.map_cons, List.map_cons, hhead, List.map_congr_left htail,
        ih hnames (Nat.succ.inj hlength)]

end Document

/-! ## The settings of each component -/

namespace Breaker.Config

/-- What is left of the settings once they were saved. -/
def wholeMillis (c : Config) : Config :=
  { c with recoveryTimeout := c.recoveryTimeout.wholeMillis }

theorem fieldNames_nodup : fieldNames.Nodup := by decide

theorem ofDocument?_toDocument (c : Config) : ofDocument? c.toDocument = some c.wholeMillis := by
  have hfields : c.toDocument.fields? fieldNames =
      some ([.ofCount c.failureThreshold, .ofDuration c.recoveryTimeout].map some) :=
    Document.fields?_eq fieldNames_nodup rfl rfl
  simp [ofDocument?, hfields, Document.optional?, wholeMillis]

end Breaker.Config

namespace Reconnect.Config

def wholeMillis (c : Config) : Config :=
  { c with
    initialDelay := c.initialDelay.wholeMillis
    maxDelay := c.maxDelay.wholeMillis
    slowStartDuration := c.slowStartDuration.wholeMillis
    maxPacingDelay := c.maxPacingDelay.wholeMillis }

theorem fieldNames_nodup : fieldNames.Nodup := by decide

theorem ofDocument?_toDocument (c : Config) : ofDocument? c.toDocument = some c.wholeMillis := by
  have hfields : c.toDocument.fields? fieldNames =
      some ([.ofDuration c.initialDelay, .ofDuration c.maxDelay, .float c.multiplier,
        .float c.jitter, .ofCount c.maxAttempts, .ofDuration c.slowStartDuration,
        .ofDuration c.maxPacingDelay].map some) :=
    Document.fields?_eq fieldNames_nodup rfl rfl
  simp [ofDocument?, hfields, Document.optional?, wholeMillis]

end Reconnect.Config

namespace Probe.Config

def wholeMillis (c : Config) : Config :=
  { c with
    interval := c.interval.wholeMillis
    checkTimeout := c.checkTimeout.wholeMillis }

theorem fieldNames_nodup : fieldNames.Nodup := by decide

theorem ofDocument?_toDocument (c : Config) : ofDocument? c.toDocument = some c.wholeMillis := by
  have hfields : c.toDocument.fields? fieldNames =
      some ([.ofDuration c.interval, .ofCount c.fails, .ofCount c.passes,
        .ofDuration c.checkTimeout].map some) :=
    Document.fields?_eq fieldNames_nodup rfl rfl
  simp [ofDocument?, hfields, Document.optional?, wholeMillis]

end Probe.Config

namespace Queue.Config

theorem fieldNames_nodup : fieldNames.Nodup := by decide

theorem ofDocument?_toDocument (c : Config) : ofDocument? c.toDocument = some c := by
  have hfields : c.toDocument.fields? fieldNames = some ([.ofCount c.capacity].map some) :=
    Document.fields?_eq fieldNames_nodup rfl rfl
  simp [ofDocument?, hfields, Document.optional?]

end Queue.Config

namespace Monitor.Config

def wholeMillis (c : Config) : Config :=
  { c with
    errorWindow := c.errorWindow.wholeMillis
    rateWindow := c.rateWindow.wholeMillis }

theorem fieldNames_nodup : fieldNames.Nodup := by decide

theorem ofDocument?_toDocument (c : Config) : ofDocument? c.toDocument = some c.wholeMillis := by
  have hfields : c.toDocument.fields? fieldNames =
      some ([.ofTexts c.services, .ofCount c.windowSize, .ofDuration c.errorWindow,
        .ofCount c.degradedErrorThreshold, .ofCount c.pauseErrorThreshold,
        .ofDuration c.rateWindow].map some) :=
    Document.fields?_eq fieldNames_nodup rfl rfl
  simp [ofDocument?, hfields, Document.optional?, wholeMillis]

end Monitor.Config

end LinkReliability
