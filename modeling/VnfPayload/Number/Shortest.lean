import VnfPayload.Number.Binary64

/-!
# Shortest decimal text

The text of a binary64 number has the fewest digits that read back as that number, and
among those the nearest to it.  `Binary64.shortest` finds the digits: for one, two, and
so on up to seventeen digits it looks at the two neighbours of the value on the decimal
grid of that size, and takes the first grid with a neighbour that rounds to the value.

`Binary64.text` lays the digits out: positional for values from 0.00001 up to below
10^16, with at least one digit after the point, and otherwise with a signed exponent.
-/

namespace VnfPayload

/-- A decimal number `0.d₁d₂… * 10 ^ point`, given by its digits. -/
structure DecimalDigits where
  digits : List Char
  point : Int
deriving DecidableEq

namespace Binary64

/-- The largest `x` with `10 ^ x ≤ num / den`, for positive `num` and `den`. -/
def decimalExponent (num den : Nat) : Int :=
  if den ≤ num then (Nat.toDigits 10 (num / den)).length - 1
  else
    let k := (Nat.toDigits 10 (den / num)).length
    if den ≤ num * Nat.pow 10 (k - 1) then -((k - 1 : Nat) : Int) else -(k : Int)

/-- The value and the ends of the interval that rounds to it, all as multiples of a
quarter of the last place: value, lower end, upper end. -/
def interval (x : Binary64) : Nat × Nat × Nat :=
  let m := 4 * x.mantissa
  let below := if x.mantissa = Nat.pow 2 52 ∧ x.exponent ≠ -1074 then 1 else 2
  (m, m - below, m + 2)

/-- A grid point `c * 10 ^ unit` and the interval, brought to one denominator:
the point, then value, lower end and upper end. -/
def onGrid (x : Binary64) (c : Nat) (unit : Int) : Nat × Nat × Nat × Nat :=
  let (v, lo, hi) := x.interval
  let e := x.exponent - 2
  let up := Nat.pow 2 e.toNat
  let down := Nat.pow 2 (-e).toNat
  let tenUp := Nat.pow 10 unit.toNat
  let tenDown := Nat.pow 10 (-unit).toNat
  (c * tenUp * down, v * up * tenDown, lo * up * tenDown, hi * up * tenDown)

/-- Whether the grid point rounds to the number: it lies in the interval, whose ends
belong to it when the mantissa is even. -/
def rounds (x : Binary64) (c : Nat) (unit : Int) : Bool :=
  let (p, _, lo, hi) := x.onGrid c unit
  if x.mantissa % 2 = 0 then lo ≤ p && p ≤ hi else lo < p && p < hi

/-- Whether the lower of two neighbouring grid points is the nearer one; at equal
distance the even one is taken. -/
def lowerIsNearer (x : Binary64) (c : Nat) (unit : Int) : Bool :=
  let (p, v, _, _) := x.onGrid c unit
  let (q, _, _, _) := x.onGrid (c + 1) unit
  v - p < q - v || (v - p = q - v && c % 2 = 0)

/-- The neighbour of the value on a grid that rounds to it, the nearer one if both do. -/
def neighbour? (x : Binary64) (unit : Int) : Option Nat :=
  let (num, den) := x.ratio
  let c :=
    if 0 ≤ unit then num / (den * Nat.pow 10 unit.toNat)
    else num * Nat.pow 10 (-unit).toNat / den
  match rounds x c unit, rounds x (c + 1) unit with
  | true, true => some (if lowerIsNearer x c unit then c else c + 1)
  | true, false => some c
  | false, true => some (c + 1)
  | false, false => none

/-- The digits without the zeros at their end. -/
def trimZeros (ds : List Char) : List Char :=
  (ds.reverse.dropWhile (· == '0')).reverse

/-- Tries the grids from `n` digits on, `fuel` of them, for a value whose first digit
stands at `10 ^ x`. -/
def shortestFrom (v : Binary64) (x : Int) : (fuel n : Nat) → DecimalDigits
  | 0, _ => ⟨['0'], 1⟩
  | fuel + 1, n =>
      let unit := x - n + 1
      match neighbour? v unit with
      | some c =>
          let ds := Nat.toDigits 10 c
          ⟨trimZeros ds, ds.length + unit⟩
      | none => shortestFrom v x fuel (n + 1)

/-- The fewest digits that read back as the magnitude, nearest to it. -/
def shortest (x : Binary64) : DecimalDigits :=
  if x.mantissa = 0 then ⟨['0'], 1⟩
  else
    let (num, den) := x.ratio
    shortestFrom x (decimalExponent num den) 17 1

/-- Positional or exponent text of digits: `positionalLow ≤ x ≤ positionalHigh` is written
positionally, where `x` is the power of ten of the first digit. -/
structure DecimalLayout where
  positionalLow : Int
  positionalHigh : Int

/-- Numbers are positional from 0.00001 up to below 10^16. -/
def layout : DecimalLayout := ⟨-5, 15⟩

/-- The text of digits in a layout. -/
def DecimalLayout.text (l : DecimalLayout) (d : DecimalDigits) : List Char :=
  let x := d.point - 1
  if l.positionalLow ≤ x ∧ x ≤ l.positionalHigh then
    if d.point ≤ 0 then
      '0' :: '.' :: (List.replicate (-d.point).toNat '0' ++ d.digits)
    else
      let k := d.point.toNat
      let whole := d.digits.take k ++ List.replicate (k - d.digits.length) '0'
      let part := d.digits.drop k
      whole ++ '.' :: (if part.isEmpty then ['0'] else part)
  else
    let mantissa := match d.digits with
      | [] => []
      | [c] => [c]
      | c :: cs => c :: '.' :: cs
    mantissa ++ 'e' :: (if x < 0 then '-' else '+') :: Nat.toDigits 10 x.natAbs

/-- The decimal text of a number, with its sign. -/
def text (x : Binary64) : List Char :=
  let magnitude := layout.text x.shortest
  if x.negative then '-' :: magnitude else magnitude

end Binary64

end VnfPayload
