/-! Double-precision numbers as their 64 bits, with the value of a finite one read off as
`significand · 2 ^ scale` and the double nearest to a ratio of natural numbers. All arithmetic is
exact on `Nat` up to the one rounding at the end. -/
namespace ColumnQuery

/-- An IEEE 754 double, given by its bits. Two doubles are equal when their bits are, so the two
zeros differ and every NaN equals itself. -/
structure Binary64 where
  bits : UInt64
deriving DecidableEq, Inhabited

namespace Binary64

/-- The number of fractions of one exponent: the fraction field has 52 bits. -/
def fractionCount : Nat :=
  0x10000000000000

/-- The sign bit, which is above the 63 bits of the other fields. -/
def negative (x : Binary64) : Bool :=
  0x8000000000000000 ≤ x.bits.toNat

/-- The exponent field: 0 for zeros and subnormal numbers, 2047 for infinities and NaN. -/
def exponentField (x : Binary64) : Nat :=
  x.bits.toNat / fractionCount % 2048

/-- The fraction field. -/
def fractionField (x : Binary64) : Nat :=
  x.bits.toNat % fractionCount

/-- Neither an infinity nor a NaN. -/
def isFinite (x : Binary64) : Bool :=
  x.exponentField != 2047

/-- Not a number. -/
def isNaN (x : Binary64) : Bool :=
  x.exponentField == 2047 && x.fractionField != 0

/-- The integer significand of a finite double, with its leading bit. -/
def significand (x : Binary64) : Nat :=
  if x.exponentField = 0 then x.fractionField else fractionCount + x.fractionField

/-- The power of two that the significand of a finite double is multiplied with. -/
def scale (x : Binary64) : Int :=
  if x.exponentField = 0 then -1074 else (x.exponentField : Int) - 1075

/-- Whether the next smaller magnitude is nearer than the next larger one: so it is at the lower end
of each range of one exponent but the first. -/
def atBinadeStart (x : Binary64) : Bool :=
  x.fractionField == 0 && 1 < x.exponentField

/-- A power of an integer base as a ratio of two natural numbers. -/
def powerRatio (base : Nat) (exponent : Int) : Nat × Nat :=
  (Nat.pow base exponent.toNat, Nat.pow base (-exponent).toNat)

/-- The magnitude of a finite double as a ratio. -/
def magnitude (x : Binary64) : Nat × Nat :=
  let power := powerRatio 2 x.scale
  (x.significand * power.1, power.2)

/-- The nearest integer to a ratio; a tie goes to the even one. -/
def nearestEven (num den : Nat) : Nat :=
  let below := num / den
  let rest := num % den
  if 2 * rest < den then below
  else if den < 2 * rest then below + 1
  else below + below % 2

/-- The exponent of the leading bit of a positive ratio: the ratio is at least that power of two and
less than the next. -/
def leadingExponent (num den : Nat) : Int :=
  let guess : Int := (Nat.log2 num : Int) - Nat.log2 den
  let power := powerRatio 2 guess
  if den * power.1 ≤ num * power.2 then guess else guess - 1

/-- Infinity. -/
def infinity : Binary64 :=
  ⟨0x7ff0000000000000⟩

/-- The non-negative double nearest to a ratio, infinity when the ratio is too large. A tie goes to
the even significand. The bits of the finite doubles count up with their magnitudes, so a rounding
that carries into the next exponent needs no case of its own. -/
def nearest (num den : Nat) : Binary64 :=
  if num = 0 then ⟨0⟩
  else
    let unit := max (-1074) (leadingExponent num den - 52)
    let power := powerRatio 2 unit
    let bits := (unit + 1074).toNat * fractionCount + nearestEven (num * power.2) (den * power.1)
    if infinity.bits.toNat ≤ bits then infinity else ⟨UInt64.ofNat bits⟩

/-- The double nearest to a natural number. -/
def ofNat (n : Nat) : Binary64 :=
  nearest n 1

/-- The same magnitude with the sign bit set. -/
def negated (x : Binary64) : Binary64 :=
  ⟨x.bits ||| 0x8000000000000000⟩

/-- The rounded product of two non-negative finite doubles. -/
def product (x y : Binary64) : Binary64 :=
  nearest (x.magnitude.1 * y.magnitude.1) (x.magnitude.2 * y.magnitude.2)

/-- The rounded quotient of a non-negative finite double by a positive one. -/
def quotient (x y : Binary64) : Binary64 :=
  nearest (x.magnitude.1 * y.magnitude.2) (x.magnitude.2 * y.magnitude.1)

end Binary64

end ColumnQuery
