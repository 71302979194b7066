import RecordQuery.Decimal

/-! Finite numbers of the IEEE binary64 format as sign, mantissa and exponent, and rounding to the
nearest of them. -/
namespace RecordQuery

/-- The least mantissa of a number that is not subnormal: 52 binary places. -/
def leastNormal : Nat := 4503599627370496

/-- Mantissas have at most 53 binary digits. -/
def mantissaBound : Nat := 9007199254740992

/-- The number `± mantissa * 2 ^ exponent`. Both zeros are numbers here. -/
structure Binary64 where
  negative : Bool
  mantissa : Nat
  exponent : Int
  small : mantissa < mantissaBound
  low : -1074 ≤ exponent
  high : exponent ≤ 971
  normal : leastNormal ≤ mantissa ∨ exponent = -1074
  deriving DecidableEq, Repr

def roundHalfEven (num den : Nat) : Nat :=
  let quotient := num / den
  let rest := num % den
  if 2 * rest < den then quotient
  else if den < 2 * rest then quotient + 1
  else quotient + quotient % 2

def scaleBinary (num den : Nat) (shift : Int) : Nat × Nat :=
  (num * Nat.pow 2 shift.toNat, den * Nat.pow 2 (-shift).toNat)

def scaleDecimal (num den : Nat) (shift : Int) : Nat × Nat :=
  (num * Nat.pow 10 shift.toNat, den * Nat.pow 10 (-shift).toNat)

def leadingBit (num den : Nat) : Int :=
  let guess : Int := num.log2 - den.log2
  let (n, d) := scaleBinary num den (-guess)
  if n < d then guess - 1 else guess

namespace Binary64

def zero (negative : Bool) : Binary64 :=
  ⟨negative, 0, -1074, by decide, by decide, by decide, by decide⟩

instance : Inhabited Binary64 := ⟨zero false⟩

def isZero (x : Binary64) : Bool := x.mantissa == 0

/-- Sign, mantissa and exponent as a number; `none` past the largest finite one. -/
def ofParts? (negative : Bool) (mantissa : Nat) (exponent : Int) : Option Binary64 :=
  if h : mantissa < mantissaBound ∧ -1074 ≤ exponent ∧ exponent ≤ 971 ∧
      (leastNormal ≤ mantissa ∨ exponent = -1074) then
    some ⟨negative, mantissa, exponent, h.1, h.2.1, h.2.2.1, h.2.2.2⟩
  else none

/-- The number nearest to `± num / den`, a half going to the even mantissa. -/
def ofRatio? (negative : Bool) (num den : Nat) : Option Binary64 :=
  let exponent := max (leadingBit num den - 52) (-1074)
  let (n, d) := scaleBinary num den (-exponent)
  let mantissa := roundHalfEven n d
  if mantissa = mantissaBound then ofParts? negative leastNormal (exponent + 1)
  else ofParts? negative mantissa exponent

/-- The number nearest to a decimal, whose own sign is left out of account; `none` past the largest
finite one. -/
def nearest? (negative : Bool) (d : Decimal) : Option Binary64 :=
  if d.coeff = 0 ∨ d.magnitude < -324 then some (zero negative)
  else if 310 < d.magnitude then none
  else
    let (n, den) := scaleDecimal d.coeff.natAbs 1 (-d.scale)
    ofRatio? negative n den

def ratio (x : Binary64) : Nat × Nat := scaleBinary x.mantissa 1 x.exponent

end Binary64

end RecordQuery
