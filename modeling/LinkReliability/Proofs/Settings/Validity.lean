import LinkReliability.Proofs.Document.Json
import LinkReliability.Proofs.Settings.Saved

/-!
# Saved settings checked again

Settings that were checked when they were built are checked once more when they are read from their
saved form. Limits and orders come through. A duration that must not be zero comes through if it has
a millisecond, and is refused under its own name if it is shorter. A double comes through as it is,
unless its text is read as another one: then it is checked anew.
-/

namespace LinkReliability

namespace ConfigError

/-- What the check of a duration that must not be zero comes to once the duration was saved. -/
def keepsMillis (field : String × Duration) : Bool × ConfigError :=
  (decide (Duration.ofMillis 1 ≤ field.2), mustBePositive field.1)

theorem check_keepsMillis_eq_ok (fields : List (String × Duration)) :
    check (fields.map keepsMillis) = .ok () ↔ ∀ f ∈ fields, Duration.ofMillis 1 ≤ f.2 := by
  rw [check_eq_ok, List.forall_mem_map]
  simp only [keepsMillis, decide_eq_true_eq]

theorem check_append_of_forall {first second : List (Bool × ConfigError)}
    (h : ∀ x ∈ second, x.1 = true) : check (first ++ second) = check first := by
  induction first with
  | nil => exact (check_eq_ok second).2 h
  | cons x first ih => rw [List.cons_append, check, check, ih]

end ConfigError

/-! ## Plain values as text -/

namespace Document

open Json

variable {real : Float → String} {carry : Float → Float}

theorem readable_nat {n : Nat} (h : n < Nat.pow 2 64) : Readable real carry (nat n) := by
  have hlow : -(Nat.pow 2 63 : Int) ≤ (n : Int) := by omega
  have hhigh : (n : Int) < (Nat.pow 2 64 : Int) := by exact_mod_cast h
  rw [nat, Readable]
  exact ⟨hlow, hhigh⟩

@[simp] theorem readable_ofCount32 (n : Count32) : Readable real carry (ofCount n) :=
  readable_nat (Nat.lt_trans n.isLt (by decide))

@[simp] theorem readable_ofCount64 (n : Count64) : Readable real carry (ofCount n) :=
  readable_nat n.isLt

@[simp] theorem readable_ofDuration (d : Duration) : Readable real carry (ofDuration d) :=
  readable_nat (Nat.lt_of_le_of_lt d.cappedMillis_le_maxMillis (by decide))

@[simp] theorem readable_ofTexts (texts : List String) : Readable real carry (ofTexts texts) := by
  rw [ofTexts, Readable]
  induction texts with
  | nil => trivial
  | cons s texts ih => exact ⟨trivial, ih⟩

@[simp] theorem carried_ofCount {bound : Nat} (n : Fin bound) :
    carried carry (ofCount n) = ofCount n := rfl

@[simp] theorem carried_ofDuration (d : Duration) :
    carried carry (ofDuration d) = ofDuration d := rfl

@[simp] theorem carried_ofTexts (texts : List String) :
    carried carry (ofTexts texts) = ofTexts texts := by
  rw [ofTexts, carried]
  congr 1
  induction texts with
  | nil => rfl
  | cons s texts ih =>
      have htext : carried carry (text s) = text s := rfl
      rw [List.map_cons, carriedItems, htext, ih]

end Document

/-! ## The settings of each component

`positive` lists the durations that must not be zero, under the names that errors give them and in
the order in which they are checked. -/

namespace Breaker.Config

def positive (c : Config) : List (String × Duration) := [("recovery_timeout", c.recoveryTimeout)]

theorem validate_wholeMillis {c : Config} (h : c.validate = .ok ()) :
    c.wholeMillis.validate = ConfigError.check (c.positive.map ConfigError.keepsMillis) := by
  have hconditions := (ConfigError.check_eq_ok _).1 h
  simp only [List.forall_mem_cons, decide_eq_true_eq] at hconditions
  obtain ⟨hthreshold, -, -⟩ := hconditions
  simp [validate, wholeMillis, hthreshold, Duration.isZero_wholeMillis, positive,
    ConfigError.keepsMillis, ConfigError.check]

end Breaker.Config

namespace Reconnect.Config

def positive (c : Config) : List (String × Duration) := [("initial_delay", c.initialDelay)]

/-- The conditions on the two doubles. -/
def fractions (c : Config) : List (Bool × ConfigError) := [
  (c.multiplier.isFinite && 1.0 ≤ c.multiplier,
    ⟨"multiplier", "must be a finite value >= 1.0"⟩),
  (0.0 ≤ c.jitter && c.jitter < 1.0, ⟨"jitter", "must be in [0.0, 1.0)"⟩)]

/-- The settings with what is read of the two doubles. -/
def carried (carry : Float → Float) (c : Config) : Config :=
  { c with multiplier := carry c.multiplier, jitter := carry c.jitter }

theorem fractions_of_valid {c : Config} (h : c.validate = .ok ()) :
    ∀ x ∈ c.fractions, x.1 = true := by
  have hconditions := (ConfigError.check_eq_ok _).1 h
  simp only [List.forall_mem_cons] at hconditions
  obtain ⟨-, -, hmultiplier, hjitter, -⟩ := hconditions
  simp [fractions, hmultiplier, hjitter]

/-- The cut keeps the order of the two delays. -/
theorem validate_wholeMillis {c : Config} (h : c.validate = .ok ()) (carry : Float → Float) :
    (c.carried carry).wholeMillis.validate =
      ConfigError.check
        (c.positive.map ConfigError.keepsMillis ++ (c.carried carry).fractions) := by
  have hconditions := (ConfigError.check_eq_ok _).1 h
  simp only [List.forall_mem_cons, decide_eq_true_eq] at hconditions
  obtain ⟨-, hmax, -, -, hattempts, -⟩ := hconditions
  have hkept : decide (c.initialDelay.wholeMillis ≤ c.maxDelay.wholeMillis) = true :=
    decide_eq_true (Duration.wholeMillis_mono hmax)
  unfold validate carried wholeMillis
  dsimp only
  rw [hkept, decide_eq_true hattempts, Duration.isZero_wholeMillis, Bool.not_not]
  rfl

end Reconnect.Config

namespace Probe.Config

def positive (c : Config) : List (String × Duration) :=
  [("interval", c.interval), ("check_timeout", c.checkTimeout)]

theorem validate_wholeMillis {c : Config} (h : c.validate = .ok ()) :
    c.wholeMillis.validate = ConfigError.check (c.positive.map ConfigError.keepsMillis) := by
  have hconditions := (ConfigError.check_eq_ok _).1 h
  simp only [List.forall_mem_cons, decide_eq_true_eq] at hconditions
  obtain ⟨-, hfails, hpasses, -, -⟩ := hconditions
  simp [validate, wholeMillis, hfails, hpasses, Duration.isZero_wholeMillis, positive,
    ConfigError.keepsMillis, ConfigError.check]

end Probe.Config

namespace Monitor.Config

def positive (c : Config) : List (String × Duration) :=
  [("error_window", c.errorWindow), ("rate_window", c.rateWindow)]

theorem validate_wholeMillis {c : Config} (h : c.validate = .ok ()) :
    c.wholeMillis.validate = ConfigError.check (c.positive.map ConfigError.keepsMillis) := by
  have hconditions := (ConfigError.check_eq_ok _).1 h
  simp only [List.forall_mem_cons, decide_eq_true_eq] at hconditions
  obtain ⟨hservices, hsize, -, -, hdegraded, hpause, -⟩ := hconditions
  simp [validate, wholeMillis, hservices, hsize, hdegraded, hpause, Duration.isZero_wholeMillis,
    positive, ConfigError.keepsMillis, ConfigError.check]

end Monitor.Config

/-! ## Every component -/

namespace Settings

/-- The components that check settings of their own. -/
inductive Kind where
  | breaker
  | reconnect
  | probe
  | queue
  | monitor

namespace Kind

def Config : Kind → Type
  | breaker => Breaker.Config
  | reconnect => Reconnect.Config
  | probe => Probe.Config
  | queue => Queue.Config
  | monitor => Monitor.Config

def toDocument : (k : Kind) → k.Config → Document
  | breaker => Breaker.Config.toDocument
  | reconnect => Reconnect.Config.toDocument
  | probe => Probe.Config.toDocument
  | queue => Queue.Config.toDocument
  | monitor => Monitor.Config.toDocument

def ofDocument? : (k : Kind) → Document → Option k.Config
  | breaker => Breaker.Config.ofDocument?
  | reconnect => Reconnect.Config.ofDocument?
  | probe => Probe.Config.ofDocument?
  | queue => Queue.Config.ofDocument?
  | monitor => Monitor.Config.ofDocument?

def validate : (k : Kind) → k.Config → Except ConfigError Unit
  | breaker => Breaker.Config.validate
  | reconnect => Reconnect.Config.validate
  | probe => Probe.Config.validate
  | queue => Queue.Config.validate
  | monitor => Monitor.Config.validate

/-- The durations that must not be zero. -/
def positive : (k : Kind) → k.Config → List (String × Duration)
  | breaker => Breaker.Config.positive
  | reconnect => Reconnect.Config.positive
  | probe => Probe.Config.positive
  | queue => fun _ => []
  | monitor => Monitor.Config.positive

def doubles : (k : Kind) → k.Config → List Float
  | breaker => fun _ => []
  | reconnect => fun c => [c.multiplier, c.jitter]
  | probe => fun _ => []
  | queue => fun _ => []
  | monitor => fun _ => []

/-- The settings with what is read of the doubles. -/
def carried (carry : Float → Float) : (k : Kind) → k.Config → k.Config
  | breaker => id
  | reconnect => Reconnect.Config.carried carry
  | probe => id
  | queue => id
  | monitor => id

/-- The conditions on the doubles. -/
def fractions : (k : Kind) → k.Config → List (Bool × ConfigError)
  | breaker => fun _ => []
  | reconnect => Reconnect.Config.fractions
  | probe => fun _ => []
  | queue => fun _ => []
  | monitor => fun _ => []

/-! ### As text -/

/-- The settings as text, where doubles are written by `real`. -/
def save (real : Float → String) (k : Kind) (c : k.Config) : String :=
  Document.Json.write real (k.toDocument c)

def load? (k : Kind) (text : String) : Option k.Config :=
  (Document.Json.read? text).bind k.ofDocument?

end Kind

open Document

variable {k : Kind} {c : k.Config} {real : Float → String} {carry : Float → Float}

theorem readable_toDocument
    (h : ∀ x ∈ k.doubles c, Json.Denotes (real x) (.float (carry x))) :
    Json.Readable real carry (k.toDocument c) := by
  cases k with
  | reconnect =>
    simp only [Kind.doubles, List.forall_mem_cons] at h
    obtain ⟨hmultiplier, hjitter, -⟩ := h
    simp [Kind.toDocument, Reconnect.Config.toDocument, Json.Readable, Json.ReadableFields,
      hmultiplier, hjitter]
  | breaker =>
    simp [Kind.toDocument, Breaker.Config.toDocument, Json.Readable, Json.ReadableFields]
  | probe => simp [Kind.toDocument, Probe.Config.toDocument, Json.Readable, Json.ReadableFields]
  | queue => simp [Kind.toDocument, Queue.Config.toDocument, Json.Readable, Json.ReadableFields]
  | monitor =>
    simp [Kind.toDocument, Monitor.Config.toDocument, Json.Readable, Json.ReadableFields]

theorem carried_toDocument :
    Json.carried carry (k.toDocument c) = k.toDocument (k.carried carry c) := by
  cases k with
  | reconnect =>
    simp [Kind.toDocument, Kind.carried, Reconnect.Config.carried, Reconnect.Config.toDocument,
      Json.carried, Json.carriedFields]
  | breaker =>
    simp [Kind.toDocument, Kind.carried, Breaker.Config.toDocument, Json.carried,
      Json.carriedFields]
  | probe =>
    simp [Kind.toDocument, Kind.carried, Probe.Config.toDocument, Json.carried,
      Json.carriedFields]
  | queue =>
    simp [Kind.toDocument, Kind.carried, Queue.Config.toDocument, Json.carried,
      Json.carriedFields]
  | monitor =>
    simp [Kind.toDocument, Kind.carried, Monitor.Config.toDocument, Json.carried,
      Json.carriedFields]

/-- Settings that were saved as text are those whose doubles are what is read of them. -/
theorem load?_save (h : ∀ x ∈ k.doubles c, Json.Denotes (real x) (.float (carry x))) :
    k.load? (k.save real c) = k.ofDocument? (k.toDocument (k.carried carry c)) := by
  rw [Kind.load?, Kind.save, Json.read?_write (readable_toDocument h), carried_toDocument,
    Option.bind_some]

/-- The settings of every component, read with any doubles in place of their own. -/
theorem validate_carried (h : k.validate c = .ok ()) (carry : Float → Float) :
    ∃ r, k.ofDocument? (k.toDocument (k.carried carry c)) = some r ∧
      k.validate r = ConfigError.check
        ((k.positive c).map ConfigError.keepsMillis ++ k.fractions (k.carried carry c)) := by
  cases k with
  | breaker =>
    refine ⟨_, Breaker.Config.ofDocument?_toDocument c, ?_⟩
    exact (Breaker.Config.validate_wholeMillis h).trans (congrArg _ (List.append_nil _).symm)
  | reconnect =>
    exact ⟨_, Reconnect.Config.ofDocument?_toDocument (c.carried carry),
      Reconnect.Config.validate_wholeMillis h carry⟩
  | probe =>
    refine ⟨_, Probe.Config.ofDocument?_toDocument c, ?_⟩
    exact (Probe.Config.validate_wholeMillis h).trans (congrArg _ (List.append_nil _).symm)
  | queue => exact ⟨c, Queue.Config.ofDocument?_toDocument c, h⟩
  | monitor =>
    refine ⟨_, Monitor.Config.ofDocument?_toDocument c, ?_⟩
    exact (Monitor.Config.validate_wholeMillis h).trans (congrArg _ (List.append_nil _).symm)

theorem carried_of_eq (h : ∀ x ∈ k.doubles c, carry x = x) : k.carried carry c = c := by
  cases k with
  | reconnect =>
    simp only [Kind.doubles, List.forall_mem_cons] at h
    obtain ⟨hmultiplier, hjitter, -⟩ := h
    change { c with multiplier := carry c.multiplier, jitter := carry c.jitter } = c
    rw [hmultiplier, hjitter]
    rfl
  | _ => rfl

theorem fractions_of_valid (h : k.validate c = .ok ()) : ∀ x ∈ k.fractions c, x.1 = true := by
  cases k with
  | reconnect => exact Reconnect.Config.fractions_of_valid h
  | _ => exact nofun

/-- Settings whose doubles come through are checked for their durations only. -/
theorem check_carried (h : k.validate c = .ok ()) (hcarry : ∀ x ∈ k.doubles c, carry x = x) :
    ConfigError.check
        ((k.positive c).map ConfigError.keepsMillis ++ k.fractions (k.carried carry c)) =
      ConfigError.check ((k.positive c).map ConfigError.keepsMillis) := by
  rw [carried_of_eq hcarry]
  exact ConfigError.check_append_of_forall (fractions_of_valid h)

/-- Valid settings can be read back from their saved form. Where the doubles come through, the check
of what is read fails only at a duration that must not be zero and that is shorter than a
millisecond. This holds of documents, which keep doubles as they are. Of text it holds with whatever
doubles are read there, and these have to pass their checks again. -/
theorem validate_readBack (k : Kind) (c : k.Config) (h : k.validate c = .ok ()) :
    (∃ r, k.ofDocument? (k.toDocument c) = some r ∧
      k.validate r = ConfigError.check ((k.positive c).map ConfigError.keepsMillis) ∧
      (k.validate r = .ok () ↔ ∀ f ∈ k.positive c, Duration.ofMillis 1 ≤ f.2)) ∧
    ∀ (real : Float → String) (carry : Float → Float),
      (∀ x ∈ k.doubles c, Json.Denotes (real x) (.float (carry x))) →
      ∃ r, k.load? (k.save real c) = some r ∧
        k.validate r = ConfigError.check
          ((k.positive c).map ConfigError.keepsMillis ++ k.fractions (k.carried carry c)) ∧
        ((∀ x ∈ k.doubles c, carry x = x) →
          (k.validate r = .ok () ↔ ∀ f ∈ k.positive c, Duration.ofMillis 1 ≤ f.2)) := by
  constructor
  · have hsame : ∀ x ∈ k.doubles c, id x = x := fun x _ => rfl
    obtain ⟨r, hr, hcheck⟩ := validate_carried h id
    rw [carried_of_eq hsame] at hr
    rw [check_carried h hsame] at hcheck
    exact ⟨r, hr, hcheck, by rw [hcheck, ConfigError.check_keepsMillis_eq_ok]⟩
  · intro real carry hreal
    obtain ⟨r, hr, hcheck⟩ := validate_carried h carry
    refine ⟨r, (load?_save hreal).trans hr, hcheck, fun hsame => ?_⟩
    rw [hcheck, check_carried h hsame, ConfigError.check_keepsMillis_eq_ok]

/-- A strategy whose delays move by almost their whole length. -/
def wideJitter : Reconnect.Config := { Reconnect.Config.standard with jitter := 0.9999999999999999 }

/-- What is read of the doubles of that strategy. -/
def roundedUp (x : Float) : Float := if x < 1.0 then 1.0 else x

theorem denotes_wideJitter :
    ∀ x ∈ Kind.reconnect.doubles wideJitter,
      Json.Denotes (Decimal.general x) (.float (roundedUp x)) := by
  have hmultiplier : Json.Denotes "2.0" (.float 2.0) := by
    have hchars : "2.0".toList.all Json.isNumberChar = true := by rfl
    have hnumber : Json.numberOf? "2.0".toList = Json.signedFloat? false ⟨20, -1⟩ := by rfl
    have hread : Decimal.Scientific.float? ⟨20, -1⟩ = some 2.0 := by decide +kernel
    rw [Json.signedFloat?, hread] at hnumber
    exact ⟨by decide, List.all_eq_true.1 hchars, hnumber⟩
  have hjitter : Json.Denotes "0.9999999999999999" (.float 1.0) := by
    have hchars : "0.9999999999999999".toList.all Json.isNumberChar = true := by rfl
    have hnumber : Json.numberOf? "0.9999999999999999".toList =
        Json.signedFloat? false ⟨9999999999999999, -16⟩ := by rfl
    have hread : Decimal.Scientific.float? ⟨9999999999999999, -16⟩ = some 1.0 := by decide +kernel
    rw [Json.signedFloat?, hread] at hnumber
    exact ⟨by decide, List.all_eq_true.1 hchars, hnumber⟩
  have htexts : Decimal.general 2.0 = "2.0" ∧
      Decimal.general 0.9999999999999999 = "0.9999999999999999" := by decide +kernel
  have hrounded : roundedUp 2.0 = 2.0 ∧ roundedUp 0.9999999999999999 = 1.0 := by decide +kernel
  change ∀ x ∈ [2.0, 0.9999999999999999], _
  simp only [List.forall_mem_cons, htexts.1, htexts.2, hrounded.1, hrounded.2]
  exact ⟨hmultiplier, hjitter, nofun⟩

/-- The strategy is accepted when it is built and when it is read from a document. As text its
jitter becomes one, and is refused. -/
theorem validate_readBack_wideJitter :
    Reconnect.Config.build [.jitter 0.9999999999999999] = .ok wideJitter ∧
      (∃ r, Reconnect.Config.ofDocument? wideJitter.toDocument = some r ∧ r.validate = .ok ()) ∧
      ∃ r, Kind.reconnect.load? (Kind.reconnect.save Decimal.general wideJitter) = some r ∧
        Reconnect.Config.validate r = .error ⟨"jitter", "must be in [0.0, 1.0)"⟩ := by
  have hbuilt : Reconnect.Config.build [.jitter 0.9999999999999999] = .ok wideJitter := rfl
  have hvalid := (ConfigError.checked_eq_ok.1 hbuilt).2
  obtain ⟨⟨r, hr, hcheck, -⟩, htext⟩ := validate_readBack .reconnect wideJitter hvalid
  obtain ⟨s, hs, hrefused, -⟩ := htext Decimal.general roundedUp denotes_wideJitter
  exact ⟨hbuilt, ⟨r, hr, hcheck⟩, s, hs, hrefused⟩

/-- A breaker that stays open for half a millisecond. -/
def briefBreaker : Breaker.Config := ⟨5, Duration.ofMicros 500⟩

/-- Not all valid settings are valid once they were saved and read back: a duration may be too short
for that, and a jitter may be read as one from the text that was written for it. -/
theorem not_valid_of_readBack :
    (¬ ∀ (k : Kind) (c : k.Config), k.validate c = .ok () →
        ∃ r, k.ofDocument? (k.toDocument c) = some r ∧ k.validate r = .ok ()) ∧
      ¬ ∀ (k : Kind) (c : k.Config), k.validate c = .ok () →
        (∀ f ∈ k.positive c, Duration.ofMillis 1 ≤ f.2) →
        ∃ r, k.load? (k.save Decimal.general c) = some r ∧ k.validate r = .ok () := by
  constructor
  · intro hsurvives
    obtain ⟨r, hr, hvalid⟩ := hsurvives .breaker briefBreaker rfl
    have hcut : r = briefBreaker.wholeMillis :=
      Option.some.inj (hr.symm.trans (Breaker.Config.ofDocument?_toDocument briefBreaker))
    have herror : briefBreaker.wholeMillis.validate =
        .error (ConfigError.mustBePositive "recovery_timeout") := rfl
    rw [hcut] at hvalid
    exact nomatch herror.symm.trans hvalid
  · intro hsurvives
    have hbuilt : wideJitter.validate = .ok () := rfl
    have hlong : ∀ f ∈ wideJitter.positive, Duration.ofMillis 1 ≤ f.2 := by decide
    obtain ⟨r, hr, hvalid⟩ := hsurvives .reconnect wideJitter hbuilt hlong
    obtain ⟨s, hs, hrefused⟩ := validate_carried (k := .reconnect) hbuilt roundedUp
    rw [load?_save denotes_wideJitter, hs] at hr
    obtain rfl := Option.some.inj hr
    exact nomatch hrefused.symm.trans hvalid

end Settings

end LinkReliability
