import LinkReliability.Bridge.Config
import LinkReliability.Link.Config
import LinkReliability.Proofs.Settings.Validity

/-!
# What saving does to settings

The settings of every component, and those of a link and of a bridge, are saved as records. Reading
them back gives the settings with their durations cut to whole milliseconds, and that is all that is
lost: saving once more writes the same record, and settings that come out of any document, with
whatever fields it leaves to the defaults, have nothing that could be cut.
-/

namespace LinkReliability

namespace Document

variable {α : Type} {P : α → Prop} {read : Document → Option α} {field : Option Document} {a : α}

/-- What holds of all that can be read holds of a field that is there. -/
theorem required?_prop (hread : ∀ {d a}, read d = some a → P a)
    (h : required? read field = some a) : P a := by
  obtain ⟨d, -, hd⟩ := Option.bind_eq_some_iff.1 h
  exact hread hd

/-- A field that is missing has the default, so what holds of a field has to hold of that too. -/
theorem optional?_prop {fallback : α} (hfallback : P fallback)
    (hread : ∀ {d a}, read d = some a → P a) (h : optional? fallback read field = some a) :
    P a := by
  cases field with
  | none => exact Option.some.inj h ▸ hfallback
  | some d => exact hread h

/-- A duration that was read consists of whole milliseconds. -/
theorem wholeMillis_of_duration? {doc : Document} {d : Duration} (h : doc.duration? = some d) :
    d.wholeMillis = d := by
  obtain ⟨n, -, rfl⟩ := Option.map_eq_some_iff.1 h
  exact Duration.wholeMillis_ofMillis (Nat.le_pred_of_lt n.isLt)

theorem wholeMillis_of_optional? {fallback d : Duration}
    (hfallback : fallback.wholeMillis = fallback)
    (h : optional? fallback duration? field = some d) : d.wholeMillis = d :=
  optional?_prop (P := fun d => d.wholeMillis = d) hfallback wholeMillis_of_duration? h

@[simp] theorem ofDuration_wholeMillis (d : Duration) : ofDuration d.wholeMillis = ofDuration d := by
  rw [ofDuration, Duration.cappedMillis_wholeMillis, ofDuration]

end Document

/-! ## Saving twice, and saving what was read -/

namespace Breaker.Config

theorem toDocument_wholeMillis (c : Config) : c.wholeMillis.toDocument = c.toDocument := by
  simp [toDocument, wholeMillis]

theorem wholeMillis_of_ofDocument? {d : Document} {c : Config} (h : ofDocument? d = some c) :
    c.wholeMillis = c := by
  unfold ofDocument? at h
  split at h
  · simp only [Option.bind_eq_bind, Option.bind_eq_some_iff, Option.some.injEq] at h
    obtain ⟨threshold, -, timeout, htimeout, rfl⟩ := h
    simp [wholeMillis, Document.wholeMillis_of_optional? rfl htimeout]
  · cases h

end Breaker.Config

namespace Reconnect.Config

theorem toDocument_wholeMillis (c : Config) : c.wholeMillis.toDocument = c.toDocument := by
  simp [toDocument, wholeMillis]

theorem wholeMillis_of_ofDocument? {d : Document} {c : Config} (h : ofDocument? d = some c) :
    c.wholeMillis = c := by
  unfold ofDocument? at h
  split at h
  · simp only [Option.bind_eq_bind, Option.bind_eq_some_iff, Option.some.injEq] at h
    obtain ⟨initial, hinitial, max, hmax, multiplier, -, jitter, -, attempts, -, slowStart,
      hslowStart, pacing, hpacing, rfl⟩ := h
    simp [wholeMillis, Document.wholeMillis_of_optional? rfl hinitial,
      Document.wholeMillis_of_optional? rfl hmax,
      Document.wholeMillis_of_optional? rfl hslowStart,
      Document.wholeMillis_of_optional? rfl hpacing]
  · cases h

end Reconnect.Config

namespace Probe.Config

theorem toDocument_wholeMillis (c : Config) : c.wholeMillis.toDocument = c.toDocument := by
  simp [toDocument, wholeMillis]

theorem wholeMillis_of_ofDocument? {d : Document} {c : Config} (h : ofDocument? d = some c) :
    c.wholeMillis = c := by
  unfold ofDocument? at h
  split at h
  · simp only [Option.bind_eq_bind, Option.bind_eq_some_iff, Option.some.injEq] at h
    obtain ⟨interval, hinterval, fails, -, passes, -, timeout, htimeout, rfl⟩ := h
    simp [wholeMillis, Document.wholeMillis_of_optional? rfl hinterval,
      Document.wholeMillis_of_optional? rfl htimeout]
  · cases h

end Probe.Config

namespace Monitor.Config

theorem toDocument_wholeMillis (c : Config) : c.wholeMillis.toDocument = c.toDocument := by
  simp [toDocument, wholeMillis]

theorem wholeMillis_of_ofDocument? {d : Document} {c : Config} (h : ofDocument? d = some c) :
    c.wholeMillis = c := by
  unfold ofDocument? at h
  split at h
  · simp only [Option.bind_eq_bind, Option.bind_eq_some_iff, Option.some.injEq] at h
    obtain ⟨services, -, size, -, errorWindow, herror, degraded, -, pause, -, rateWindow, hrate,
      rfl⟩ := h
    simp [wholeMillis, Document.wholeMillis_of_optional? rfl herror,
      Document.wholeMillis_of_optional? rfl hrate]
  · cases h

end Monitor.Config

/-! ## Links and bridges -/

theorem Direction.ofDocument?_toDocument (d : Direction) : ofDocument? d.toDocument = some d := by
  cases d <;> rfl

namespace Link.Config

def wholeMillis (c : Config) : Config :=
  { c with breaker := c.breaker.wholeMillis, reconnect := c.reconnect.wholeMillis }

theorem fieldNames_nodup : fieldNames.Nodup := by decide

theorem ofDocument?_toDocument (c : Config) : ofDocument? c.toDocument = some c.wholeMillis := by
  have hfields : c.toDocument.fields? fieldNames =
      some ([c.breaker.toDocument, c.reconnect.toDocument, c.queue.toDocument,
        c.outbound.toDocument].map some) :=
    Document.fields?_eq fieldNames_nodup rfl rfl
  simp [ofDocument?, hfields, Document.required?, Breaker.Config.ofDocument?_toDocument,
    Reconnect.Config.ofDocument?_toDocument, Queue.Config.ofDocument?_toDocument,
    Direction.ofDocument?_toDocument, wholeMillis]

theorem toDocument_wholeMillis (c : Config) : c.wholeMillis.toDocument = c.toDocument := by
  simp [toDocument, wholeMillis, Breaker.Config.toDocument_wholeMillis,
    Reconnect.Config.toDocument_wholeMillis]

theorem wholeMillis_of_ofDocument? {d : Document} {c : Config} (h : ofDocument? d = some c) :
    c.wholeMillis = c := by
  unfold ofDocument? at h
  split at h
  · simp only [Option.bind_eq_bind, Option.bind_eq_some_iff, Option.some.injEq] at h
    obtain ⟨breaker, hbreaker, reconnect, hreconnect, queue, -, outbound, -, rfl⟩ := h
    have hbreaker := Document.required?_prop Breaker.Config.wholeMillis_of_ofDocument? hbreaker
    have hreconnect :=
      Document.required?_prop Reconnect.Config.wholeMillis_of_ofDocument? hreconnect
    simp [wholeMillis, hbreaker, hreconnect]
  · cases h

end Link.Config

namespace Bridge.Config

def wholeMillis (c : Config) : Config :=
  ⟨c.monitor.wholeMillis, c.probe.wholeMillis⟩

theorem fieldNames_nodup : fieldNames.Nodup := by decide

theorem ofDocument?_toDocument (c : Config) : ofDocument? c.toDocument = some c.wholeMillis := by
  have hfields : c.toDocument.fields? fieldNames =
      some ([c.monitor.toDocument, c.probe.toDocument].map some) :=
    Document.fields?_eq fieldNames_nodup rfl rfl
  simp [ofDocument?, hfields, Document.optional?, Monitor.Config.ofDocument?_toDocument,
    Probe.Config.ofDocument?_toDocument, wholeMillis]

theorem toDocument_wholeMillis (c : Config) : c.wholeMillis.toDocument = c.toDocument := by
  simp [toDocument, wholeMillis, Monitor.Config.toDocument_wholeMillis,
    Probe.Config.toDocument_wholeMillis]

theorem wholeMillis_of_ofDocument? {d : Document} {c : Config} (h : ofDocument? d = some c) :
    c.wholeMillis = c := by
  unfold ofDocument? at h
  split at h
  · simp only [Option.bind_eq_bind, Option.bind_eq_some_iff, Option.some.injEq] at h
    obtain ⟨monitor, hmonitor, probe, hprobe, rfl⟩ := h
    have hmonitor := Document.optional?_prop (P := fun m => m.wholeMillis = m) rfl
      Monitor.Config.wholeMillis_of_ofDocument? hmonitor
    have hprobe := Document.optional?_prop (P := fun p => p.wholeMillis = p) rfl
      Probe.Config.wholeMillis_of_ofDocument? hprobe
    simp [wholeMillis, hmonitor, hprobe]
  · cases h

end Bridge.Config

/-! ## All settings -/

namespace Settings

def Kind.wholeMillis : (k : Kind) → k.Config → k.Config
  | .breaker => Breaker.Config.wholeMillis
  | .reconnect => Reconnect.Config.wholeMillis
  | .probe => Probe.Config.wholeMillis
  | .queue => id
  | .monitor => Monitor.Config.wholeMillis

/-- Whatever is saved: the settings of a component, of a link or of a bridge. -/
inductive Form where
  | component (k : Kind)
  | link
  | bridge

namespace Form

def Config : Form → Type
  | component k => k.Config
  | link => Link.Config
  | bridge => Bridge.Config

def toDocument : (f : Form) → f.Config → Document
  | component k => k.toDocument
  | link => Link.Config.toDocument
  | bridge => Bridge.Config.toDocument

def ofDocument? : (f : Form) → Document → Option f.Config
  | component k => k.ofDocument?
  | link => Link.Config.ofDocument?
  | bridge => Bridge.Config.ofDocument?

/-- The settings with every duration cut to whole milliseconds. -/
def wholeMillis : (f : Form) → f.Config → f.Config
  | component k => k.wholeMillis
  | link => Link.Config.wholeMillis
  | bridge => Bridge.Config.wholeMillis

theorem ofDocument?_toDocument (f : Form) (c : f.Config) :
    f.ofDocument? (f.toDocument c) = some (f.wholeMillis c) := by
  match f with
  | component .breaker => exact Breaker.Config.ofDocument?_toDocument c
  | component .reconnect => exact Reconnect.Config.ofDocument?_toDocument c
  | component .probe => exact Probe.Config.ofDocument?_toDocument c
  | component .queue => exact Queue.Config.ofDocument?_toDocument c
  | component .monitor => exact Monitor.Config.ofDocument?_toDocument c
  | link => exact Link.Config.ofDocument?_toDocument c
  | bridge => exact Bridge.Config.ofDocument?_toDocument c

theorem toDocument_wholeMillis (f : Form) (c : f.Config) :
    f.toDocument (f.wholeMillis c) = f.toDocument c := by
  match f with
  | component .breaker => exact Breaker.Config.toDocument_wholeMillis c
  | component .reconnect => exact Reconnect.Config.toDocument_wholeMillis c
  | component .probe => exact Probe.Config.toDocument_wholeMillis c
  | component .queue => rfl
  | component .monitor => exact Monitor.Config.toDocument_wholeMillis c
  | link => exact Link.Config.toDocument_wholeMillis c
  | bridge => exact Bridge.Config.toDocument_wholeMillis c

theorem wholeMillis_of_ofDocument? {f : Form} {d : Document} {c : f.Config}
    (h : f.ofDocument? d = some c) : f.wholeMillis c = c := by
  match f with
  | component .breaker => exact Breaker.Config.wholeMillis_of_ofDocument? h
  | component .reconnect => exact Reconnect.Config.wholeMillis_of_ofDocument? h
  | component .probe => exact Probe.Config.wholeMillis_of_ofDocument? h
  | component .queue => rfl
  | component .monitor => exact Monitor.Config.wholeMillis_of_ofDocument? h
  | link => exact Link.Config.wholeMillis_of_ofDocument? h
  | bridge => exact Bridge.Config.wholeMillis_of_ofDocument? h

end Form

/-- Reading saved settings gives them back but for the cut of their durations. So what was written
is written again, and what was read once is read again. -/
theorem readBack_eq_wholeMillis (f : Form) (c : f.Config) :
    f.ofDocument? (f.toDocument c) = some (f.wholeMillis c) ∧
      (f.ofDocument? (f.toDocument c)).map f.toDocument = some (f.toDocument c) ∧
      (∀ d, f.ofDocument? d = some c → f.ofDocument? (f.toDocument c) = some c) ∧
      (∀ a : Duration,
        a.wholeMillis = Duration.ofMillis (min (a.nanos / 1000000) (Nat.pow 2 64 - 1))) ∧
      (∀ a b : Duration, a ≤ b → a.wholeMillis ≤ b.wholeMillis) ∧
      (∀ a : Duration, a.wholeMillis ≤ a) ∧
      ∀ a : Duration, a < Duration.ofMillis (Nat.pow 2 64) →
        a < a.wholeMillis + Duration.ofMillis 1 := by
  have hread := f.ofDocument?_toDocument c
  refine ⟨hread, ?_, ?_, ?_, fun a b => Duration.wholeMillis_mono, Duration.wholeMillis_le, ?_⟩
  · rw [hread, Option.map_some, f.toDocument_wholeMillis]
  · intro d hd
    rw [hread, Form.wholeMillis_of_ofDocument? hd]
  · intro a
    rw [Duration.wholeMillis, Duration.cappedMillis_eq_min]
    rfl
  · intro a ha
    exact Duration.lt_wholeMillis_add ha

/-- A link whose breaker stays open for a fraction of a millisecond more than one and a half, and
whose delays may grow as long as a duration can be. -/
def patientLink : Link.Config :=
  { Link.Config.meshRadio with
    breaker := ⟨5, ⟨1500001⟩⟩
    reconnect :=
      { Reconnect.Config.meshRadio with maxDelay := ⟨Nat.pow 2 64 * 1000000000 - 1⟩ } }

/-- The settings of a bridge that are left to the defaults but for one interval. -/
def hastyBridge : Document := .record [("probe", .record [("interval", .nat 5)])]

theorem readBack_eq_wholeMillis_patientLink :
    Link.Config.ofDocument? patientLink.toDocument =
        some { Link.Config.meshRadio with
          breaker := ⟨5, Duration.ofMillis 1⟩
          reconnect :=
            { Reconnect.Config.meshRadio with maxDelay := Duration.ofMillis (Nat.pow 2 64 - 1) } } ∧
      (⟨1500001⟩ : Duration) < Duration.ofMillis (Nat.pow 2 64) ∧
      (⟨1500001⟩ : Duration) < Duration.wholeMillis ⟨1500001⟩ + Duration.ofMillis 1 ∧
      ∃ c, Bridge.Config.ofDocument? hastyBridge = some c ∧
        c.probe.interval = Duration.ofMillis 5 ∧
        Bridge.Config.ofDocument? c.toDocument = some c := by
  obtain ⟨hread, -, -, -, -, -, hcut⟩ := readBack_eq_wholeMillis .link patientLink
  have hfits : (⟨1500001⟩ : Duration) < Duration.ofMillis (Nat.pow 2 64) := by decide
  have hbridge : Bridge.Config.ofDocument? hastyBridge = some _ := rfl
  obtain ⟨-, -, hagain, -⟩ := readBack_eq_wholeMillis .bridge _
  exact ⟨hread, hfits, hcut _ hfits, _, hbridge, rfl, hagain hastyBridge hbridge⟩

end Settings

end LinkReliability
