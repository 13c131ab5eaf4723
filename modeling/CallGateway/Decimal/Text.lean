import CallGateway.Decimal.Shortest

/-! Two ways to write a number: positionally throughout, for messages, and as JSON numbers are
written, where the very large and the very small take an exponent. -/

namespace CallGateway.Decimal

def digitChars (n : Nat) : List Char := Nat.toDigits 10 n

/-- The digits in front of the decimal point and those behind it. -/
def positional (d : Decimal) : List Char × List Char :=
  let ds := digitChars d.digits
  if 0 ≤ d.scale then
    (if d.digits = 0 then ds else ds ++ List.replicate d.scale.toNat '0', [])
  else
    let places := (-d.scale).toNat
    if places < ds.length then (ds.take (ds.length - places), ds.drop (ds.length - places))
    else (['0'], List.replicate (places - ds.length) '0' ++ ds)

/-- What distinguishes the ways to write a number. -/
structure Style where
  /-- Below `10 ^ least` an exponent is written, and from `10 ^ most` on; none: never. -/
  exponentOutside : Option (Int × Int)
  /-- A whole number shows a zero behind its point. -/
  zeroFraction : Bool
  tie : Tie

def plainStyle : Style := ⟨none, false, .awayFromZero⟩

def jsonStyle : Style := ⟨some (-5, 16), true, .toEven⟩

/-- The exponent of the first digit. -/
def leading (d : Decimal) : Int := d.scale + (width d.digits : Int) - 1

def Style.isPositional (style : Style) (d : Decimal) : Bool :=
  match style.exponentOutside with
  | none => true
  | some (least, most) => d.digits == 0 || (least ≤ d.leading && d.leading < most)

/-- One digit, the others behind a point, and the exponent with its sign. -/
def scientific (d : Decimal) : List Char :=
  let point := match digitChars d.digits with
    | [] => []
    | [c] => [c]
    | c :: cs => c :: '.' :: cs
  point ++ 'e' :: (if d.leading < 0 then '-' else '+') :: digitChars d.leading.natAbs

def Style.write (style : Style) (d : Decimal) : List Char :=
  if style.isPositional d then
    match d.positional with
    | (whole, []) => if style.zeroFraction then whole ++ ['.', '0'] else whole
    | (whole, fraction) => whole ++ '.' :: fraction
  else d.scientific

def Style.writeBinary (style : Style) (x : Binary64) : List Char :=
  (if x.negative then ['-'] else []) ++ style.write (shortest style.tie x)

end CallGateway.Decimal
