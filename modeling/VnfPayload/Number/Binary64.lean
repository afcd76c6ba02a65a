/-!
# Finite binary64 numbers

A finite binary64 number is a sign, a mantissa of at most 53 bits and a power of two.
The representation is canonical: a mantissa below 2^52 occurs only with the smallest
exponent, so two numbers are the same bits exactly when their parts agree.

`Binary64.ofDecimal?` reads `digits * 10 ^ exponent`, rounded to the nearest number,
a half going to the even mantissa.  All arithmetic is exact, on natural numbers.
-/

namespace VnfPayload

/-- The finite number `± mantissa * 2 ^ exponent` in its canonical form. -/
structure Binary64 where
  negative : Bool
  mantissa : Nat
  exponent : Int
  mantissa_lt : mantissa < Nat.pow 2 53
  exponent_ge : -1074 ≤ exponent
  exponent_le : exponent ≤ 971
  normal : exponent = -1074 ∨ Nat.pow 2 52 ≤ mantissa
deriving DecidableEq

namespace Binary64

/-- Zero, which has a sign. -/
def zero (negative : Bool) : Binary64 where
  negative
  mantissa := 0
  exponent := -1074
  mantissa_lt := by decide
  exponent_ge := by decide
  exponent_le := by decide
  normal := .inl rfl

/-- The number with these parts; there is none when they are not canonical, as for
a value too large to be finite. -/
def ofParts? (negative : Bool) (mantissa : Nat) (exponent : Int) : Option Binary64 :=
  if h : mantissa < Nat.pow 2 53 ∧ -1074 ≤ exponent ∧ exponent ≤ 971 ∧
      (exponent = -1074 ∨ Nat.pow 2 52 ≤ mantissa) then
    some ⟨negative, mantissa, exponent, h.1, h.2.1, h.2.2.1, h.2.2.2⟩
  else
    none

/-- Equality of values: the two zeros are equal. -/
def eqv (x y : Binary64) : Bool :=
  x = y || (x.mantissa = 0 && y.mantissa = 0)

/-- The quotient rounded to the nearest integer, a half to the even neighbour. -/
def roundHalfEven (num den : Nat) : Nat :=
  let q := num / den
  let r := num % den
  if 2 * r < den then q
  else if den < 2 * r then q + 1
  else if q % 2 = 0 then q
  else q + 1

/-- The fraction `num / den` divided by `2 ^ e`, again as a fraction. -/
def scaleDown (num den : Nat) (e : Int) : Nat × Nat :=
  if 0 ≤ e then (num, den * Nat.pow 2 e.toNat) else (num * Nat.pow 2 (-e).toNat, den)

/-- The power of two that leaves 53 bits before the point of `num / den`, but never
one below the smallest exponent. -/
def scaleOf (num den : Nat) : Int :=
  let e : Int := (num.log2 : Int) - den.log2 - 53
  let (n, d) := scaleDown num den e
  max (if n / d < Nat.pow 2 53 then e else e + 1) (-1074)

/-- The number nearest to `num / den`, for a positive `den`. -/
def ofRatio? (negative : Bool) (num den : Nat) : Option Binary64 :=
  if num = 0 then some (zero negative)
  else
    let e := scaleOf num den
    let (n, d) := scaleDown num den e
    let m := roundHalfEven n d
    if m = Nat.pow 2 53 then ofParts? negative (Nat.pow 2 52) (e + 1)
    else ofParts? negative m e

/-- The number nearest to `digits * 10 ^ exponent`; none when that is too large.
Values far outside the range are settled by their decimal size. -/
def ofDecimal? (negative : Bool) (digits : Nat) (exponent : Int) : Option Binary64 :=
  if digits = 0 then some (zero negative)
  else
    let size : Int := (Nat.toDigits 10 digits).length + exponent
    if 310 < size then none
    else if size < -330 then some (zero negative)
    else if 0 ≤ exponent then ofRatio? negative (digits * Nat.pow 10 exponent.toNat) 1
    else ofRatio? negative digits (Nat.pow 10 (-exponent).toNat)

/-- The magnitude as a fraction of natural numbers. -/
def ratio (x : Binary64) : Nat × Nat :=
  if 0 ≤ x.exponent then (x.mantissa * Nat.pow 2 x.exponent.toNat, 1)
  else (x.mantissa, Nat.pow 2 (-x.exponent).toNat)

end Binary64

end VnfPayload
