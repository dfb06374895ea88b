/-!
The fewest digits that read back to a binary64 value. A value stands for all reals that round to it, an
interval around it; of the decimals in that interval the one with the fewest digits is taken, of several
the nearest, and of two equally near the one whose last digit is even. All arithmetic is exact.
-/
namespace StyleInline.Decimal

/-- The number `digits * 10 ^ exponent`. -/
structure Scaled where
  digits : Nat
  exponent : Int
deriving DecidableEq, Repr

/-- A positive binary64 value with the reals that round to it. The numbers are counted in units of
`2 ^ (-halvings)`; the ends of the interval belong to it when `closed` holds. -/
structure Rounding where
  low : Nat
  value : Nat
  high : Nat
  halvings : Nat
  closed : Bool
deriving DecidableEq, Repr

namespace Rounding

/-- From the bits of a positive finite value. Half the gap to each neighbour bounds the interval, and
below a power of two the gap is half as wide as above. The even significand wins at the ends. -/
def ofBits (bits : UInt64) : Rounding :=
  let field := ((bits >>> 52) &&& 0x7FF).toNat
  let fraction := (bits &&& 0xFFFFFFFFFFFFF).toNat
  let significand := if field = 0 then fraction else Nat.pow 2 52 + fraction
  let below := if fraction = 0 ∧ 1 < field then 1 else 2
  -- quarter units of the last place, whose weight is 2 ^ (max field 1 - 1077)
  let doublings := max field 1 - 1077
  { low := (4 * significand - below) * Nat.pow 2 doublings
    value := 4 * significand * Nat.pow 2 doublings
    high := (4 * significand + 2) * Nat.pow 2 doublings
    halvings := 1077 - max field 1
    closed := significand % 2 = 0 }

/-- The decimal lies among the reals that round to the value. -/
def Holds (r : Rounding) (d : Scaled) : Prop :=
  let point := d.digits * Nat.pow 10 d.exponent.toNat * Nat.pow 2 r.halvings
  let low := r.low * Nat.pow 10 (-d.exponent).toNat
  let high := r.high * Nat.pow 10 (-d.exponent).toNat
  if r.closed then low ≤ point ∧ point ≤ high else low < point ∧ point < high

instance (r : Rounding) (d : Scaled) : Decidable (r.Holds d) := by
  unfold Holds
  infer_instance

/-- The exponent of the leading decimal digit of the value. -/
def leading (r : Rounding) : Int :=
  if Nat.pow 2 r.halvings ≤ r.value then
    ((Nat.toDigits 10 (r.value / Nat.pow 2 r.halvings)).length : Int) - 1
  else
    match (List.range 400).find? fun (zeros : Nat) =>
        Nat.pow 2 r.halvings ≤ r.value * Nat.pow 10 (zeros + 1) with
    | some zeros => -(zeros : Int) - 1
    | none => -400

/-- Of the decimals that are multiples of `10 ^ exponent`, the one that stands for the value, if any
does. Only the two neighbours of the value need a look. -/
def onGrid? (r : Rounding) (exponent : Int) : Option Scaled :=
  let num := r.value * Nat.pow 10 (-exponent).toNat
  let den := Nat.pow 10 exponent.toNat * Nat.pow 2 r.halvings
  let below : Scaled := ⟨num / den, exponent⟩
  let above : Scaled := ⟨num / den + 1, exponent⟩
  if r.Holds below then
    if r.Holds above then
      match compare (2 * (num % den)) den with
      | .lt => some below
      | .gt => some above
      | .eq => some (if below.digits % 2 = 0 then below else above)
    else some below
  else if r.Holds above then some above
  else none

/-- The value itself, with as many digits as it takes. -/
def exact (r : Rounding) : Scaled :=
  ⟨r.value * Nat.pow 5 r.halvings, -(r.halvings : Int)⟩

/-- The decimal with the fewest digits; seventeen always suffice. -/
def shortest (r : Rounding) : Scaled :=
  let found := (List.range 17).findSome? fun (count : Nat) => r.onGrid? (r.leading - count)
  found.getD r.exact

end Rounding
end StyleInline.Decimal
