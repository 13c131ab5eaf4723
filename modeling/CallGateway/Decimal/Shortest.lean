import CallGateway.Binary64

/-! The shortest decimal that reads back as a given number: the fewest digits, and of those the
nearest. Candidates lie on the decimal grids from the coarsest on; only the two neighbours of the
value on a grid can be nearest to it, and where both are equally near a rule for ties decides. -/

namespace CallGateway

/-- The number `digits * 10 ^ scale`. -/
structure Decimal where
  digits : Nat
  scale : Int
  deriving DecidableEq

namespace Decimal

/-- Which of two neighbours counts for the value half-way between them. -/
inductive Tie
  | toEven
  | awayFromZero
  deriving DecidableEq

/-- The number of decimal digits. -/
def width (n : Nat) : Nat := (Nat.toDigits 10 n).length

/-- A power of ten above `num / den`. -/
def ceiling (num den : Nat) : Int :=
  if den ≤ num then width (num / den) else 1 - (width (den / num) : Int)

/-- Of the neighbours `low` and `low + 1` of `num / den` the lower counts as the nearer. -/
def Tie.takesLower (tie : Tie) (num den : Nat) : Bool :=
  let twice := 2 * (num % den)
  twice < den || (twice == den && tie == .toEven && num / den % 2 == 0)

/-- The fraction `num / den`, counted in units of `10 ^ scale`. -/
def inUnits (num den : Nat) (scale : Int) : Nat × Nat :=
  if 0 ≤ scale then (num, den * 10 ^ scale.toNat) else (num * 10 ^ (-scale).toNat, den)

def readsBack (x : Binary64) (d : Decimal) : Bool :=
  Binary64.ofDecimal? x.negative d.digits d.scale == some x

/-- The neighbour of `x` on the grid of `10 ^ scale` that reads back as `x`, the nearer of two. -/
def onGrid? (tie : Tie) (x : Binary64) (scale : Int) : Option Decimal :=
  let (num, den) := inUnits x.fraction.1 x.fraction.2 scale
  let low : Decimal := ⟨num / den, scale⟩
  let high : Decimal := ⟨num / den + 1, scale⟩
  match readsBack x low, readsBack x high with
  | true, true => some (if tie.takesLower num den then low else high)
  | true, false => some low
  | false, true => some high
  | false, false => none

/-- The exact value, in as many digits as it takes. -/
def exact (x : Binary64) : Decimal :=
  if 0 ≤ x.exponent then ⟨x.mantissa * 2 ^ x.exponent.toNat, 0⟩
  else ⟨x.mantissa * 5 ^ (-x.exponent).toNat, x.exponent⟩

/-- Try `tries` grids, each ten times finer than the one before. -/
def search (tie : Tie) (x : Binary64) : Nat → Int → Decimal
  | 0, _ => exact x
  | tries + 1, scale => (onGrid? tie x scale).getD (search tie x tries (scale - 1))

/-- The shortest decimal that reads back as the absolute value of `x`. The search starts above the
value; seventeen digits always suffice. -/
def shortest (tie : Tie) (x : Binary64) : Decimal :=
  if x.rank = 0 then ⟨0, 0⟩ else search tie x 19 (ceiling x.fraction.1 x.fraction.2)

end Decimal

end CallGateway
