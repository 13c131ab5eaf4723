import CallGateway.Json.Value

/-! What a number in JSON text is worth. Integers of 64 bits are exact. Every other number is worked
out in steps: the digits that 64 bits hold are rounded to a floating-point number, so is the power
of ten, and their product or quotient is rounded once more. The result may lie beside the number
nearest to the text. -/

namespace CallGateway.Json

def ofDigits (ds : List Nat) : Nat := ds.foldl (fun n d => n * 10 + d) 0

/-- Put digits behind those of `n` while the number stays below `2 ^ 64`; with the digits left
over. -/
def appendDigits (n : Nat) : List Nat → Nat × List Nat
  | [] => (n, [])
  | d :: ds => if n * 10 + d < 2 ^ 64 then appendDigits (n * 10 + d) ds else (n, d :: ds)

/-- The leading digits as an integer, and the power of ten that belongs to it. A whole digit without
room still counts as a place, a digit of the fraction without room for nothing. -/
def significand (whole fraction : List Nat) : Nat × Int :=
  let (n, excess) := appendDigits 0 whole
  let (n, dropped) := appendDigits n fraction
  (n, excess.length + dropped.length - fraction.length)

/-- The number nearest to `10 ^ k`; the greatest that there is has `k = 308`. -/
def powerOfTen? (k : Nat) : Option Binary64 := Binary64.ofFraction? false (10 ^ k) 1

/-- Move the decimal point of `x`, by a power of ten or, where that is too great, by two. A number
below `2 ^ 64` has vanished after two divisions by the greatest power. -/
def movePoint? (x : Binary64) (scale : Int) : Option Binary64 := do
  if 0 ≤ scale then
    if x.rank = 0 then return x
    if 308 < scale then none
    x.mul? (← powerOfTen? scale.toNat)
  else
    let places := (-scale).toNat
    if places ≤ 308 then
      x.div? (← powerOfTen? places)
    else
      let y ← x.div? (← powerOfTen? 308)
      y.div? (← powerOfTen? (min (places - 308) 308))

/-- The number that a sign, digits and an exponent stand for. Without point and exponent it is an
integer if it fits; the negative zero is not one. -/
def readNumber (negative : Bool) (whole fraction : List Nat) (exponent : Option Int) :
    Option Number :=
  let n : Int := if negative then -(ofDigits whole : Int) else ofDigits whole
  if h : fraction = [] ∧ exponent = none ∧ (negative = true → n ≠ 0) ∧ -2 ^ 63 ≤ n ∧ n < 2 ^ 64 then
    some (.int n ⟨h.2.2.2.1, h.2.2.2.2⟩)
  else do
    let (digits, scale) := significand whole fraction
    let x ← Binary64.ofFraction? false digits 1
    let y ← movePoint? x (scale + exponent.getD 0)
    return .float { y with negative }

end CallGateway.Json
