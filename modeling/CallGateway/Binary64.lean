import CallGateway.Basic

/-! Finite binary floating-point numbers of 64 bits. A number is a sign and a rank: the non-negative
ones in ascending order have the ranks 0, 1, 2, ... below that of infinity, which are also their bit
patterns. -/

namespace CallGateway

structure Binary64 where
  negative : Bool
  rank : Nat
  rank_lt : rank < 2047 * 2 ^ 52
  deriving DecidableEq

namespace Binary64

def zero : Binary64 := ⟨false, 0, by decide⟩

instance : Inhabited Binary64 := ⟨zero⟩

/-- The integer `m` of the value `m * 2 ^ exponent`. -/
def mantissa (x : Binary64) : Nat :=
  if x.rank < 2 ^ 52 then x.rank else 2 ^ 52 + x.rank % 2 ^ 52

def exponent (x : Binary64) : Int := (max (x.rank / 2 ^ 52) 1 : Nat) - 1075

/-- The absolute value as a fraction. -/
def fraction (x : Binary64) : Nat × Nat :=
  if 0 ≤ x.exponent then (x.mantissa * 2 ^ x.exponent.toNat, 1)
  else (x.mantissa, 2 ^ (-x.exponent).toNat)

/-- Divide and round to the nearest integer, a tie to the even one. -/
def roundDiv (num den : Nat) : Nat :=
  let q := num / den
  let twice := 2 * (num % den)
  if twice < den ∨ (twice = den ∧ q % 2 = 0) then q else q + 1

/-- The greatest `e` with `2 ^ e ≤ num / den`, for positive `num` and `den`. -/
def floorLog2 (num den : Nat) : Int :=
  let e : Int := num.log2 - den.log2
  if 0 ≤ e then (if den * 2 ^ e.toNat ≤ num then e else e - 1)
  else if den ≤ num * 2 ^ (-e).toNat then e else e - 1

/-- The rank nearest to `num / den`; it may lie beyond the finite numbers. -/
def nearestRank (num den : Nat) : Nat :=
  if num = 0 then 0
  else
    let e := max (floorLog2 num den - 52) (-1074)
    let m := if 0 ≤ e then roundDiv num (den * 2 ^ e.toNat)
      else roundDiv (num * 2 ^ (-e).toNat) den
    (e + 1074).toNat * 2 ^ 52 + m

/-- The nearest number, a tie going to the even rank; none beyond the finite numbers. -/
def ofFraction? (negative : Bool) (num den : Nat) : Option Binary64 :=
  let r := nearestRank num den
  if h : r < 2047 * 2 ^ 52 then some ⟨negative, r, h⟩ else none

/-- The number nearest to `digits * 10 ^ scale`. Scales so large or small that the outcome is plain
are not multiplied out. -/
def ofDecimal? (negative : Bool) (digits : Nat) (scale : Int) : Option Binary64 :=
  if digits = 0 then some ⟨negative, 0, by decide⟩
  else if 400 < scale then none
  else if 0 ≤ scale then ofFraction? negative (digits * 10 ^ scale.toNat) 1
  else if scale + digits.log2 + 400 < 0 then some ⟨negative, 0, by decide⟩
  else ofFraction? negative digits (10 ^ (-scale).toNat)

/-- The product, rounded; none beyond the finite numbers. -/
def mul? (x y : Binary64) : Option Binary64 :=
  ofFraction? (x.negative != y.negative) (x.fraction.1 * y.fraction.1) (x.fraction.2 * y.fraction.2)

/-- The quotient, rounded; none for a divisor of zero and beyond the finite numbers. -/
def div? (x y : Binary64) : Option Binary64 :=
  if y.rank = 0 then none
  else ofFraction? (x.negative != y.negative) (x.fraction.1 * y.fraction.2)
    (x.fraction.2 * y.fraction.1)

def ofInt (n : Int) : Option Binary64 := ofFraction? (n < 0) n.natAbs 1

/-- The hardware number with the same bits. -/
def toFloat (x : Binary64) : Float :=
  Float.ofBits (UInt64.ofNat ((if x.negative then 2 ^ 63 else 0) + x.rank))

/-- The number with the bits of `f`; none for infinities and for what is no number. -/
def ofFloat? (f : Float) : Option Binary64 :=
  let bits := f.toBits.toNat
  if h : bits % 2 ^ 63 < 2047 * 2 ^ 52 then some ⟨2 ^ 63 ≤ bits, bits % 2 ^ 63, h⟩ else none

end Binary64

end CallGateway
