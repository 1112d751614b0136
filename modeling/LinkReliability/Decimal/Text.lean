import LinkReliability.Decimal.Binary64
import LinkReliability.Decimal.Scientific

/-!
# Decimals as text

A double is written with a fixed number of places, or with as many digits as it takes to read it
back.
-/

namespace LinkReliability.Decimal

/-! ## A fixed number of places

The exact value is rounded once, half to even, and every place is written. -/

/-- The decimal digits of `n`, with zeros in front up to `width` digits. -/
def padded (width n : Nat) : String :=
  let digits := Nat.repr n
  "".pushn '0' (width - digits.length) ++ digits

def fixed (places : Nat) (x : Float) : String :=
  match Binary64.ofFloat? x with
  | none => if x.isNaN then "NaN" else if x < 0 then "-inf" else "inf"
  | some b =>
    let scaled := roundHalfEven (b.numerator * Nat.pow 10 places) b.denominator
    let sign := if b.negative then "-" else ""
    let whole := Nat.repr (scaled / Nat.pow 10 places)
    if places = 0 then sign ++ whole
    else sign ++ whole ++ "." ++ padded places (scaled % Nat.pow 10 places)

/-! ## The shortest decimal that reads back

Among the decimals inside the rounding interval of a double the one with the fewest digits is
chosen, of those the nearest, and of two equally near ones the greater. `general` writes it
positionally from `10 ^ -4` up to, but not including, `10 ^ 16`, and with an exponent elsewhere. -/

/-- The reals that round to `b` are those from `4s - below` to `4s + 2` quarters of a unit in the
last place, where `s` is the significand. -/
def gapBelow (b : Binary64) : Nat :=
  if b.significand = Nat.pow 2 52 ∧ -1074 < b.exponent then 1 else 2

/-- Whether `d · 10 ^ scale` rounds to `b`; the ends of the interval do when the significand is
even. -/
def readsBack (b : Binary64) (d : Nat) (scale : Int) : Bool :=
  let value := 4 * d * Nat.pow 10 scale.toNat * b.denominator
  let unit := Nat.pow 10 (-scale).toNat * Nat.pow 2 b.exponent.toNat
  let low := (4 * b.significand - gapBelow b) * unit
  let high := (4 * b.significand + 2) * unit
  if b.significand % 2 = 0 then low ≤ value ∧ value ≤ high else low < value ∧ value < high

/-- The nearer of the two neighbours of `b` on the grid of step `10 ^ scale` that reads back. -/
def onGrid? (b : Binary64) (scale : Int) : Option Nat :=
  let num := b.numerator * Nat.pow 10 (-scale).toNat
  let den := b.denominator * Nat.pow 10 scale.toNat
  let d := num / den
  let nearest := roundHalfUp num den
  let other := if nearest = d then d + 1 else d
  if readsBack b nearest scale then some nearest
  else if readsBack b other scale then some other
  else none

/-- The number of digits of the whole part when `10 ^ k` is the first power above the value. -/
def magnitude (b : Binary64) : Int :=
  let rec climb (fuel : Nat) (k : Int) : Int :=
    match fuel with
    | 0 => k
    | fuel + 1 =>
      if b.numerator * Nat.pow 10 (-k).toNat < Nat.pow 10 k.toNat * b.denominator then k
      else climb fuel (k + 1)
  climb 640 (-324)

def shortest (b : Binary64) : Scientific :=
  if b.significand = 0 then ⟨0, 0⟩
  else
    let top := magnitude b
    let grids := (List.range 18).map (fun (n : Nat) => top - Int.ofNat n)
    match grids.findSome? (fun s => (onGrid? b s).bind
        (fun d => if d = 0 then none else some (Scientific.mk d s))) with
    | some s => s
    | none => ⟨b.numerator, 0⟩

def dropTrailingZeros (s : Scientific) : Scientific :=
  let rec go (fuel d : Nat) (scale : Int) : Scientific :=
    match fuel with
    | 0 => ⟨d, scale⟩
    | fuel + 1 => if d % 10 = 0 ∧ d ≠ 0 then go fuel (d / 10) (scale + 1) else ⟨d, scale⟩
  go 20 s.digits s.scale

/-- At least one place is written after the point; an exponent stands alone after `e`. -/
def general (x : Float) : String :=
  match Binary64.ofFloat? x with
  | none => if x.isNaN then "NaN" else if x < 0 then "-inf" else "inf"
  | some b =>
    let sign := if b.negative then "-" else ""
    if b.significand = 0 then sign ++ "0.0"
    else
      let s := dropTrailingZeros (shortest b)
      let text := Nat.repr s.digits
      let count := text.length
      let point : Int := count + s.scale
      if point < -3 ∨ 16 < point then
        let head := String.ofList (text.toList.take 1)
        let tail := String.ofList (text.toList.drop 1)
        sign ++ head ++ (if tail.isEmpty then "" else "." ++ tail) ++ "e" ++ toString (point - 1)
      else if point ≤ 0 then
        sign ++ "0." ++ "".pushn '0' (-point).toNat ++ text
      else if count ≤ point.toNat then
        sign ++ text ++ "".pushn '0' (point.toNat - count) ++ ".0"
      else
        sign ++ String.ofList (text.toList.take point.toNat) ++ "." ++
          String.ofList (text.toList.drop point.toNat)

end LinkReliability.Decimal
