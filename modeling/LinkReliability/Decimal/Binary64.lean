/-!
# The exact value of a double

A finite double is `± significand · 2 ^ exponent`. The texts and roundings of this library are
computed from that value in integer arithmetic.
-/

namespace LinkReliability

structure Binary64 where
  negative : Bool
  significand : Nat
  exponent : Int
deriving DecidableEq, Repr

namespace Binary64

/-- Infinities and NaN have no exact value. -/
def ofFloat? (x : Float) : Option Binary64 :=
  let bits := x.toBits.toNat
  let negative := bits / Nat.pow 2 63 % 2 == 1
  let biased : Nat := bits / Nat.pow 2 52 % Nat.pow 2 11
  let fraction : Nat := bits % Nat.pow 2 52
  if biased = 2047 then none
  else if biased = 0 then some ⟨negative, fraction, -1074⟩
  else some ⟨negative, fraction + Nat.pow 2 52, Int.ofNat biased - 1075⟩

/-- The magnitude is `numerator / denominator`. -/
def numerator (b : Binary64) : Nat := b.significand * Nat.pow 2 b.exponent.toNat

def denominator (b : Binary64) : Nat := Nat.pow 2 (-b.exponent).toNat

/-- Zero times any double is a zero, or no number if the other factor is not finite. -/
theorem zero_mul (x : Float) :
    (0.0 : Float) * x = 0.0 ∨ (0.0 : Float) * x = -0.0 ∨ (0.0 : Float) * x = 0.0 / 0.0 := by
  have hzero : (0.0 : Float).toModel.unpack = .zero .positive := by rfl
  have hmul : (0.0 : Float) * x =
      ⟨Float.Model.pack ((Float.Model.UnpackedFloat.zero .positive).mul
        Float.Model.Format.binary64 x.toModel.unpack)⟩ := by
    rw [← hzero]
    rfl
  rw [hmul]
  cases x.toModel.unpack with
  | notANumber => exact .inr (.inr (by rfl))
  | infinity sign => exact .inr (.inr (by rfl))
  | zero sign =>
      cases sign with
      | positive => exact .inl (by rfl)
      | negative => exact .inr (.inl (by rfl))
  | finite sign mantissa exponent hpos =>
      cases sign with
      | positive => exact .inl (by rfl)
      | negative => exact .inr (.inl (by rfl))

end Binary64

namespace Decimal

/-- The integer nearest to `num / den`; of two equally near ones the even one. -/
def roundHalfEven (num den : Nat) : Nat :=
  let q := num / den
  let r := num % den
  if 2 * r < den then q
  else if den < 2 * r then q + 1
  else if q % 2 = 0 then q else q + 1

theorem roundHalfEven_zero (den : Nat) : roundHalfEven 0 den = 0 := by
  unfold roundHalfEven
  dsimp only
  rw [Nat.zero_div, Nat.zero_mod]
  split
  · rfl
  · split
    · omega
    · rfl

/-- The integer nearest to `num / den`; of two equally near ones the greater. -/
def roundHalfUp (num den : Nat) : Nat := (2 * num + den) / (2 * den)

end Decimal

end LinkReliability
