/-!
# Decimals in scientific form

A decimal is collected digit by digit, as far as 64 bits hold it, and becomes a double in two steps
that both round: first its digits do, and then their product with a power of ten. The double of a
long decimal can therefore be a neighbour of the nearest one.
-/

namespace LinkReliability.Decimal

/-- The value `digits · 10 ^ scale`. -/
structure Scientific where
  digits : Nat
  scale : Int
deriving DecidableEq, Repr

/-- Appends digits to `n` as long as the result has no more than 64 bits, and hands back those that
are left. -/
def appendDigits (n : Nat) : List Char → Nat × List Char
  | [] => (n, [])
  | c :: rest =>
    let longer := 10 * n + (c.toNat - '0'.toNat)
    if longer < Nat.pow 2 64 then appendDigits longer rest else (n, c :: rest)

/-- The greatest power of ten that a double holds. -/
def greatestPower : Nat := 308

def powerOfTen (k : Nat) : Float := Float.ofScientific 1 false k

/-- `x · 10 ^ scale`, unless that is too large for a double. Only a scale below all powers of ten
takes more than one division. -/
def scaled? (x : Float) (scale : Int) : Option Float :=
  if scale.natAbs ≤ greatestPower then
    if scale < 0 then some (x / powerOfTen scale.natAbs)
    else
      let y := x * powerOfTen scale.natAbs
      if y.isInf then none else some y
  else if x == 0 then some x
  else if 0 < scale then none
  else scaled? (x / powerOfTen greatestPower) (scale + greatestPower)
termination_by scale.natAbs
decreasing_by
  simp only [greatestPower] at *
  omega

namespace Scientific

/-- The digits on both sides of the point. Of those in front that do not fit only the number counts,
and those behind that do not fit are passed over. -/
def ofDigits (whole places : List Char) : Scientific :=
  let (n, left) := appendDigits 0 whole
  let (n, unread) := appendDigits n places
  ⟨n, Int.ofNat left.length - Int.ofNat (places.length - unread.length)⟩

def float? (d : Scientific) : Option Float := scaled? (Nat.toFloat d.digits) d.scale

end Scientific

end LinkReliability.Decimal
