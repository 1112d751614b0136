import LinkReliability.Decimal.Text

/-!
# Lengths of time

A duration is a number of nanoseconds. Settings keep whole milliseconds, capped at 64 bits, and
arithmetic with fractions goes through seconds as a double.
-/

namespace LinkReliability

structure Duration where
  nanos : Nat
deriving DecidableEq, Repr

namespace Duration

instance : Inhabited Duration := ⟨⟨0⟩⟩

def zero : Duration := ⟨0⟩

def ofNanos (n : Nat) : Duration := ⟨n⟩

def ofMicros (n : Nat) : Duration := ⟨n * 1000⟩

def ofMillis (n : Nat) : Duration := ⟨n * 1000000⟩

def ofSecs (n : Nat) : Duration := ⟨n * 1000000000⟩

def isZero (d : Duration) : Bool := d.nanos = 0

instance : Add Duration := ⟨fun a b => ⟨a.nanos + b.nanos⟩⟩

/-- Subtraction stops at zero. -/
instance : Sub Duration := ⟨fun a b => ⟨a.nanos - b.nanos⟩⟩

instance : LE Duration := ⟨fun a b => a.nanos ≤ b.nanos⟩

instance : LT Duration := ⟨fun a b => a.nanos < b.nanos⟩

instance (a b : Duration) : Decidable (a ≤ b) := inferInstanceAs (Decidable (a.nanos ≤ b.nanos))

instance (a b : Duration) : Decidable (a < b) := inferInstanceAs (Decidable (a.nanos < b.nanos))

theorem not_lt {a b : Duration} : ¬ a < b ↔ b ≤ a := Nat.not_lt

theorem not_le {a b : Duration} : ¬ a ≤ b ↔ b < a := Nat.not_le

def min (a b : Duration) : Duration := if a ≤ b then a else b

/-- The largest number of milliseconds that a setting can hold. -/
def maxMillis : Nat := Nat.pow 2 64 - 1

def millis (d : Duration) : Nat := d.nanos / 1000000

def cappedMillis (d : Duration) : Nat := if d.millis ≤ maxMillis then d.millis else maxMillis

/-- The first millisecond that is not before the end of the duration. -/
def ceilMillis (d : Duration) : Nat := (d.nanos + 999999) / 1000000

/-- Whole seconds and the remaining nanoseconds are converted apart and then added. -/
def seconds (d : Duration) : Float :=
  Nat.toFloat (d.nanos / 1000000000) + Nat.toFloat (d.nanos % 1000000000) / 1e9

/-- The exact value is rounded to the nearest nanosecond, half to even. Negative numbers, and
numbers of seconds beyond 64 bits, are no durations. -/
def ofSeconds? (x : Float) : Option Duration :=
  match Binary64.ofFloat? x with
  | none => none
  | some b =>
    if b.negative ∧ b.significand ≠ 0 then none
    else if Nat.pow 2 64 * b.denominator ≤ b.numerator then none
    else some ⟨Decimal.roundHalfEven (b.numerator * 1000000000) b.denominator⟩

theorem ofSeconds?_of_zero {x : Float} {negative : Bool} {exponent : Int}
    (h : Binary64.ofFloat? x = some ⟨negative, 0, exponent⟩) : ofSeconds? x = some zero := by
  have hbound : 0 < Nat.pow 2 64 * Nat.pow 2 (-exponent).toNat :=
    Nat.mul_pos (Nat.pow_pos Nat.two_pos) (Nat.pow_pos Nat.two_pos)
  simp only [ofSeconds?, h, Binary64.numerator, Binary64.denominator, Nat.zero_mul, ne_eq,
    not_true_eq_false, and_false, if_false, if_neg (Nat.not_le.2 hbound),
    Decimal.roundHalfEven_zero]
  rfl

def scale (d : Duration) (factor : Float) : Duration :=
  (ofSeconds? (factor * d.seconds)).getD zero

/-- Nothing is left of a duration, however long. -/
theorem scale_zero (d : Duration) : d.scale 0.0 = zero := by
  unfold scale
  rcases Binary64.zero_mul d.seconds with h | h | h
  · rw [h, ofSeconds?_of_zero (x := 0.0) rfl]
    rfl
  · rw [h, ofSeconds?_of_zero (x := -0.0) rfl]
    rfl
  · have hnone : Binary64.ofFloat? (0.0 / 0.0) = none := by rfl
    rw [h, ofSeconds?, hnone]
    rfl

/-- A fraction of `width` digits without its trailing zeros, and no point when nothing is left. -/
def fractionText (width n : Nat) : String :=
  if n = 0 then ""
  else
    let digits := (Decimal.padded width n).toList
    "." ++ String.ofList (digits.reverse.dropWhile (· == '0')).reverse

/-- The largest of the units s, ms, µs and ns whose whole part is not zero, with the exact
fraction. -/
def text (d : Duration) : String :=
  let n := d.nanos
  if 1000000000 ≤ n then
    Nat.repr (n / 1000000000) ++ fractionText 9 (n % 1000000000) ++ "s"
  else if 1000000 ≤ n then
    Nat.repr (n / 1000000) ++ fractionText 6 (n % 1000000) ++ "ms"
  else if 1000 ≤ n then
    Nat.repr (n / 1000) ++ fractionText 3 (n % 1000) ++ "µs"
  else Nat.repr n ++ "ns"

end Duration

end LinkReliability
