import RecordQuery.Binary64

/-! The shortest decimal that reads back as a given binary64 number, and of several of that length
the nearest one. -/
namespace RecordQuery

def stripZeros (digits : Nat) (scale : Int) : Decimal :=
  let cs := numeral digits
  let tail := (cs.reverse.takeWhile (· = '0')).length
  ⟨digits / Nat.pow 10 tail, scale - tail⟩

namespace Binary64

/-- The decimal exponent of the leading digit of a positive ratio, or one less. -/
def leadingDigit (num den : Nat) : Int :=
  if den ≤ num then digitCount (num / den) - 1 else -(digitCount (den / num) : Int)

def readsBack (x : Binary64) (digits : Nat) (scale : Int) : Bool :=
  nearest? x.negative ⟨digits, scale⟩ == some x

/-- The better of the two neighbours of `x` on the grid of multiples of `10 ^ -scale`, if one of
them reads back. -/
def onGrid? (x : Binary64) (scale : Int) : Option Decimal :=
  let (num, den) := scaleDecimal x.ratio.1 x.ratio.2 scale
  let below := num / den
  let nearer := roundHalfEven num den
  if readsBack x nearer scale then some (stripZeros nearer scale)
  else if readsBack x (below + 1) scale then some (stripZeros (below + 1) scale)
  else if readsBack x below scale then some (stripZeros below scale)
  else none

def exact (x : Binary64) : Decimal :=
  if 0 ≤ x.exponent then stripZeros (x.mantissa * Nat.pow 2 x.exponent.toNat) 0
  else stripZeros (x.mantissa * Nat.pow 5 (-x.exponent).toNat) (-x.exponent)

def shortest (x : Binary64) : Decimal :=
  let lead := leadingDigit x.ratio.1 x.ratio.2
  let grids := (List.range 18).map fun (n : Nat) => (n : Int) - lead
  (grids.findSome? x.onGrid?).getD x.exact

def withSign (x : Binary64) (d : Decimal) : Decimal :=
  if x.negative then ⟨-d.coeff, d.scale⟩ else d

/-- The decimal as written positionally: no digits after the point unless they are needed. -/
def toDecimal (x : Binary64) : Decimal :=
  if x.isZero then ⟨0, 0⟩
  else
    let d := x.shortest
    x.withSign <| if d.scale ≤ 0 then ⟨d.coeff * Nat.pow 10 (-d.scale).toNat, 0⟩ else d

end Binary64

end RecordQuery
