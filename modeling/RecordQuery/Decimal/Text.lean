import RecordQuery.Decimal
import RecordQuery.Word

/-! Reading and writing decimals as text. -/
namespace RecordQuery

def pointed (digits : List Char) (scale : Int) : List Char :=
  let places := scale.toNat
  if scale ≤ 0 then digits ++ zeros (-scale).toNat
  else if places < digits.length then
    digits.take (digits.length - places) ++ '.' :: digits.drop (digits.length - places)
  else '0' :: '.' :: zeros (places - digits.length) ++ digits

def leadPointed : List Char → List Char
  | [] => []
  | [d] => [d]
  | d :: rest => d :: '.' :: rest

def signed (negative : Bool) (cs : List Char) : List Char :=
  if negative then '-' :: cs else cs

namespace Decimal

/-- Zeros written before the first digit, or behind the last one, before exponent notation takes
over. -/
def maxLeadingZeros : Nat := 5

def maxTrailingZeros : Nat := 15

/-- The text of a decimal: its digits as they are, positional unless too many zeros would be
needed. Zero is `0` whatever its scale. -/
def toChars (d : Decimal) : List Char :=
  if d.coeff = 0 then ['0']
  else
    let digits := numeral d.coeff.natAbs
    signed (d.coeff < 0) <|
      if digits.length + maxLeadingZeros < d.scale then
        leadPointed digits ++ 'E' :: '-' :: numeral (d.scale - digits.length + 1).toNat
      else if (maxTrailingZeros : Int) < -d.scale then
        digits ++ 'e' :: '+' :: numeral (-d.scale).toNat
      else pointed digits d.scale

def toText (d : Decimal) : String := String.ofList d.toChars

/-- Digits in which underscores may stand anywhere but in front. -/
def readGrouped? (cs : List Char) : Option Nat :=
  if cs.head? = some '_' then none else readNat? (cs.filter (· ≠ '_'))

def readCoeff? : List Char → Option Int
  | '-' :: '+' :: _ => none
  | '-' :: cs => (readGrouped? cs).map fun n => -(n : Int)
  | '+' :: cs => (readGrouped? cs).map fun n => (n : Int)
  | cs => (readGrouped? cs).map fun n => (n : Int)

/-- Reads `digits[.digits][e exponent]`; one side of the point may be empty. A scale takes 64
bits. -/
def ofChars? (cs : List Char) : Option Decimal := do
  let mantissa := cs.takeWhile fun c => c ≠ 'e' ∧ c ≠ 'E'
  let exponent ← match cs.dropWhile fun c => c ≠ 'e' ∧ c ≠ 'E' with
    | [] => some 0
    | _ :: cs => readInt? cs
  let whole := mantissa.takeWhile (· ≠ '.')
  let fraction := (mantissa.dropWhile (· ≠ '.')).drop 1
  let coeff ← readCoeff? (whole ++ fraction)
  let scale : Int := (fraction.filter (· ≠ '_')).length - exponent
  if minInt64 ≤ scale ∧ scale ≤ maxInt64 then some ⟨coeff, scale⟩ else none

def ofText? (s : String) : Option Decimal := ofChars? s.toList

end Decimal

end RecordQuery
