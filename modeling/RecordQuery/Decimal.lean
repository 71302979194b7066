import RecordQuery.Text.Digits

/-! Decimals of any precision. `30`, `30.0` and `3e1` are different decimals of equal value, and
order sees the value alone. -/
namespace RecordQuery

/-- The number `coeff / 10 ^ scale`, with the digits and the scale it was written with. -/
structure Decimal where
  coeff : Int
  scale : Int
  deriving DecidableEq, Repr, Inhabited

namespace Decimal

def ofInt (n : Int) : Decimal := ⟨n, 0⟩

def value (d : Decimal) : Rat :=
  mkRat (d.coeff * Nat.pow 10 (-d.scale).toNat) (Nat.pow 10 d.scale.toNat)

/-- The power of ten just above a nonzero decimal:
`10 ^ (magnitude - 1) ≤ |value| < 10 ^ magnitude`. -/
def magnitude (d : Decimal) : Int := digitCount d.coeff.natAbs - d.scale

def compareAligned (a b : Decimal) : Ordering :=
  let scale := max a.scale b.scale
  Ord.compare (a.coeff * Nat.pow 10 (scale - a.scale).toNat)
    (b.coeff * Nat.pow 10 (scale - b.scale).toNat)

/-- Order by value. Signs and magnitudes decide first, so that coefficients are aligned only when
the scales are close. -/
def compare (a b : Decimal) : Ordering :=
  match Ord.compare a.coeff.sign b.coeff.sign with
  | .eq =>
    if a.coeff = 0 then .eq
    else if a.magnitude = b.magnitude then compareAligned a b
    else if 0 < a.coeff then Ord.compare a.magnitude b.magnitude
    else Ord.compare b.magnitude a.magnitude
  | order => order

def sameValue (a b : Decimal) : Bool := a.compare b == .eq

end Decimal

end RecordQuery
