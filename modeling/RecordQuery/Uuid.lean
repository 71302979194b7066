/-! Universally unique identifiers: 32 hexadecimal digits. -/
namespace RecordQuery

structure Uuid where
  digits : List (Fin 16)
  length_eq : digits.length = 32
  deriving DecidableEq, Repr

namespace Uuid

def hexChar (d : Fin 16) : Char := Nat.digitChar d

def hexDigit? (c : Char) : Option (Fin 16) :=
  if '0' ≤ c ∧ c ≤ '9' then some (Fin.ofNat 16 (c.toNat - '0'.toNat))
  else if 'a' ≤ c ∧ c ≤ 'f' then some (Fin.ofNat 16 (c.toNat - 'a'.toNat + 10))
  else if 'A' ≤ c ∧ c ≤ 'F' then some (Fin.ofNat 16 (c.toNat - 'A'.toNat + 10))
  else none

def compare (a b : Uuid) : Ordering := Ord.compare (a.digits.map Fin.val) (b.digits.map Fin.val)

/-- Lengths of the groups between which the hyphens stand. -/
def groups : List Nat := [8, 4, 4, 4, 12]

def cut : List Nat → List α → List (List α)
  | [], _ => []
  | n :: ns, xs => xs.take n :: cut ns (xs.drop n)

/-- Lower-case digits in hyphenated groups. -/
def toChars (u : Uuid) : List Char :=
  ['-'].intercalate ((cut groups u.digits).map (·.map hexChar))

def toText (u : Uuid) : String := String.ofList u.toChars

def ofDigits? (cs : List Char) : Option Uuid := do
  let digits ← cs.mapM hexDigit?
  if h : digits.length = 32 then some ⟨digits, h⟩ else none

/-- Reads hyphenated groups of exactly the right lengths. -/
def ofHyphenated? (cs : List Char) : Option Uuid :=
  let parts := cs.splitOn '-'
  if parts.map List.length = groups then ofDigits? parts.flatten else none

/-- Reads 32 bare digits, hyphenated groups, those in braces, or those after `urn:uuid:`. -/
def ofChars? (cs : List Char) : Option Uuid :=
  if cs.length = 32 then ofDigits? cs
  else if cs.head? = some '\x7b' ∧ cs.getLast? = some '\x7d' then
    ofHyphenated? (cs.drop 1).dropLast
  else if "urn:uuid:".toList.isPrefixOf cs then ofHyphenated? (cs.drop 9)
  else ofHyphenated? cs

def ofText? (s : String) : Option Uuid := ofChars? s.toList

end Uuid

end RecordQuery
