import VnfPayload.Number.Shortest

/-!
# Numbers

A number is either an integer of at most 64 bits, signed or unsigned, or a finite
binary64 number.  The two never compare equal: `1` is not `1.0`.
-/

namespace VnfPayload

/-- An integer that fits an unsigned or a signed 64-bit word: at least -2^63, and below
2^64. -/
structure WideInt where
  val : Int
  lower : -9223372036854775808 ≤ val
  upper : val < 18446744073709551616
deriving DecidableEq

namespace WideInt

/-- The integer as one of 64 bits, if it fits. -/
def ofInt? (n : Int) : Option WideInt :=
  if h : -9223372036854775808 ≤ n ∧ n < 18446744073709551616 then some ⟨n, h.1, h.2⟩
  else none

/-- The decimal digits of an integer, with a minus sign in front if it is negative. -/
def text (n : WideInt) : List Char :=
  if n.val < 0 then '-' :: Nat.toDigits 10 n.val.natAbs else Nat.toDigits 10 n.val.natAbs

end WideInt

/-- A number of a document: an integer of 64 bits or a finite binary64 number. -/
inductive Number where
  | int (n : WideInt)
  | real (x : Binary64)
deriving DecidableEq

namespace Number

/-- Equality of values within integers and within reals. -/
def eqv : Number → Number → Bool
  | .int m, .int n => m = n
  | .real x, .real y => x.eqv y
  | _, _ => false

/-- The text of a number; that of a real number has a point or an exponent. -/
def text : Number → List Char
  | .int n => n.text
  | .real x => x.text

end Number

end VnfPayload
