/-!
# Shortest decimal digits of a binary64 value

A finite binary64 value is `m · 2^e`. The reals that round to it form an interval around it whose
ends lie half-way to the neighbouring values (a quarter of the way below when `m` is the smallest
significand of its binade) and belong to it exactly when `m` is even. The shortest decimal of the
value is a decimal with the fewest significant digits inside that interval, and among those the
nearest to the value, an exact tie going to the even last digit. All arithmetic is on natural
numbers: the bounds are scaled by `4 · 2^max(-e, 0)` and compared with candidates `c · 10^k`.
Powers are written `Nat.pow`, which reads the same whatever algebraic instances are in scope.
-/

namespace Switchboard
namespace Decimal

/-- A finite binary64 value as sign, significand and binary exponent: `m · 2^e`. -/
structure Binary where
  negative : Bool
  significand : Nat
  exponent : Int
  /-- Whether the value below is nearer than the value above (the significand starts a binade). -/
  narrowBelow : Bool

/-- Splits the bits of a finite binary64 value. -/
def Binary.ofBits (bits : UInt64) : Binary :=
  let negative := (bits >>> 63) == 1
  let field := ((bits >>> 52) &&& 0x7FF).toNat
  let fraction := (bits &&& 0xFFFFFFFFFFFFF).toNat
  if field = 0 then
    { negative, significand := fraction, exponent := -1074, narrowBelow := false }
  else
    { negative, significand := fraction + Nat.pow 2 52, exponent := (field : Int) - 1075,
      narrowBelow := fraction = 0 ∧ field > 1 }

/-- The number of decimal digits of a positive number. -/
def digitCount (n : Nat) : Nat :=
  (Nat.toDigits 10 n).length

/-- The least `t ≥ 1` with `num · 10^t ≥ den`, searching at most `fuel` steps. -/
def firstPower (num den : Nat) : Nat → Nat → Nat
  | 0, t => t
  | fuel + 1, t => if num * Nat.pow 10 t ≥ den then t else firstPower num den fuel (t + 1)

/-- `⌊log₁₀ (num / den)⌋` for positive `num` and `den`. -/
def floorLog10 (num den : Nat) : Int :=
  if num ≥ den then (digitCount (num / den) : Int) - 1
  else -((firstPower num den 400 1 : Nat) : Int)

/-- The candidates on the grid `10^k`: the least and greatest multiplier inside the interval and
the multiplier nearest the value. Bounds are numerators over `den`. -/
structure Grid where
  least : Nat
  greatest : Nat
  nearest : Nat

/-- Places the interval `[lower, upper]` (ends included when `inclusive`) and `value` on `10^k`. -/
def onGrid (lower value upper den : Nat) (inclusive : Bool) (k : Int) : Grid :=
  let scaleA := den * Nat.pow 10 k.toNat
  let scaleB := Nat.pow 10 (-k).toNat
  let lowNum := lower * scaleB
  let upNum := upper * scaleB
  let valNum := value * scaleB
  let ceilLow := (lowNum + scaleA - 1) / scaleA
  let least := if !inclusive && ceilLow * scaleA = lowNum then ceilLow + 1 else ceilLow
  let floorUp := upNum / scaleA
  let greatest := if !inclusive && floorUp * scaleA = upNum then floorUp - 1 else floorUp
  let q := valNum / scaleA
  let r := valNum - q * scaleA
  let nearest :=
    if 2 * r > scaleA then q + 1
    else if 2 * r < scaleA then q
    else if q % 2 = 0 then q else q + 1
  { least, greatest, nearest }

/-- Removes trailing zeros from a multiplier, raising the exponent for each. -/
def stripZeros : Nat → Nat × Nat → Nat × Nat
  | 0, acc => acc
  | fuel + 1, (digits, shift) =>
      if digits ≠ 0 ∧ digits % 10 = 0 then stripZeros fuel (digits / 10, shift + 1)
      else (digits, shift)

/-- Tries 1, 2, … significant digits until a grid meets the interval. -/
def searchDigits (lower value upper den : Nat) (inclusive : Bool) (top : Int) :
    Nat → Nat → Nat × Int
  | 0, _ => (value / den, 0)
  | fuel + 1, count =>
      let k := top - (count : Int) + 1
      let grid := onGrid lower value upper den inclusive k
      if grid.least ≤ grid.greatest ∧ 0 < grid.greatest then
        let chosen := min (max grid.nearest grid.least) grid.greatest
        let (digits, shift) := stripZeros 20 (chosen, 0)
        (digits, k + shift)
      else searchDigits lower value upper den inclusive top fuel (count + 1)

/-- The shortest decimal of a positive value `m · 2^e`: digits without trailing zeros and the
exponent `k` with value `digits · 10^k`. -/
def shortest (b : Binary) : Nat × Int :=
  let m := b.significand
  let up := Nat.pow 2 b.exponent.toNat
  let den := 4 * Nat.pow 2 (-b.exponent).toNat
  let value := 4 * m * up
  let upper := (4 * m + 2) * up
  let lower := (if b.narrowBelow then 4 * m - 1 else 4 * m - 2) * up
  searchDigits lower value upper den (m % 2 = 0) (floorLog10 value den) 17 1

end Decimal
end Switchboard
