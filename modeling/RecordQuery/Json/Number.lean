import RecordQuery.Json
import RecordQuery.Binary64.Shortest
import RecordQuery.Decimal.Text

/-! The text of JSON numbers, and JSON numbers as decimals. -/
namespace RecordQuery.Json.Number

/-- Decimal exponents of the leading digit for which a binary64 number is written positionally. -/
def minPositional : Int := -5
def maxPositional : Int := 15

def leadingExponent (d : Decimal) : Int := d.magnitude - 1

def isPositional (d : Decimal) : Bool :=
  minPositional ≤ leadingExponent d && leadingExponent d ≤ maxPositional

/-- The decimal that the text of a binary64 number spells: the fewest digits that read back, and
a zero after the point where the number is whole and written positionally. -/
def spelled (x : Binary64) : Decimal :=
  if x.isZero then ⟨0, 1⟩
  else
    let d := x.shortest
    x.withSign <|
      if isPositional d ∧ d.scale ≤ 0 then ⟨d.coeff * Nat.pow 10 (1 - d.scale).toNat, 1⟩ else d

def toDecimal : Number → Decimal
  | .int n => .ofInt n
  | .real x => spelled x

/-- As in `12.5`, `30.0`, `0.00001`, and in `1e+16`, `1.5e-7` outside the positional range. -/
def realChars (x : Binary64) : List Char :=
  signed x.negative <|
    if x.isZero then ['0', '.', '0']
    else
      let d := spelled x
      let digits := numeral d.coeff.natAbs
      if isPositional d then pointed digits d.scale
      else
        let exponent := leadingExponent d
        leadPointed digits ++ 'e' :: (if 0 ≤ exponent then '+' else '-') :: numeral exponent.natAbs

def toChars : Number → List Char
  | .int n => signed (n < 0) (numeral n.natAbs)
  | .real x => realChars x

/-- An integer literal: exact where it fits 64 bits, else the nearest binary64 number, which a
reader is assumed to find as for other literals; `-0` is the negative zero. -/
def ofInt? (negative : Bool) (n : Nat) : Option Number :=
  let int : Int := if negative then -n else n
  if fitsWord int && !(negative && n == 0) then some (.int int)
  else (Binary64.nearest? negative ⟨n, 0⟩).map .real

def readWhole? (cs : List Char) : Option Nat :=
  if cs.head? = some '0' ∧ cs.length ≠ 1 then none else readNat? cs

structure Literal where
  negative : Bool
  whole : Nat
  fraction : List Char
  exponent : Option Int
  deriving DecidableEq, Repr

/-- Reads `[-]digits[.digits][e[sign]digits]`. -/
def Literal.ofChars? (cs : List Char) : Option Literal := do
  let negative := cs.head? = some '-'
  let cs := if negative then cs.drop 1 else cs
  let whole ← readWhole? (cs.takeWhile isDecimalDigit)
  let rest := cs.dropWhile isDecimalDigit
  let (fraction, rest) ← match rest with
    | '.' :: cs => do
      let digits := cs.takeWhile isDecimalDigit
      if digits.isEmpty then none else some (digits, cs.dropWhile isDecimalDigit)
    | _ => some ([], rest)
  let exponent ← match rest with
    | [] => some none
    | 'e' :: cs | 'E' :: cs => (readInt? cs).map some
    | _ => none
  some ⟨negative, whole, fraction, exponent⟩

/-- The number that a literal spells; none past the largest one. Correct rounding is assumed of
the reader: one that scales the digits by a power of ten which is itself rounded comes out a last
place off for some literals, as for `1e-23`. -/
def Literal.number? (l : Literal) : Option Number :=
  if l.fraction.isEmpty && l.exponent.isNone then ofInt? l.negative l.whole
  else
    let coeff := l.whole * Nat.pow 10 l.fraction.length + Nat.ofDigitChars 10 l.fraction 0
    (Binary64.nearest? l.negative ⟨coeff, l.fraction.length - l.exponent.getD 0⟩).map .real

def ofChars? (cs : List Char) : Option Number := (Literal.ofChars? cs).bind Literal.number?

def ofDecimal? (d : Decimal) : Option Number := ofChars? d.toChars

end RecordQuery.Json.Number
