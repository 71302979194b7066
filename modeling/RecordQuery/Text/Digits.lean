/-! Digits: the numeral of a natural number and its reading. -/
namespace RecordQuery

def isDecimalDigit (c : Char) : Bool := '0' ≤ c && c ≤ '9'

def numeral (n : Nat) : List Char := Nat.toDigits 10 n

def digitCount (n : Nat) : Nat := (numeral n).length

/-- Reads a numeral; leading zeros are allowed, the empty text and any other character are not. -/
def readNat? (cs : List Char) : Option Nat :=
  if cs ≠ [] ∧ cs.all isDecimalDigit then some (Nat.ofDigitChars 10 cs 0) else none

def readSignedNat? : List Char → Option Nat
  | '+' :: cs => readNat? cs
  | cs => readNat? cs

def readInt? : List Char → Option Int
  | '-' :: cs => (readNat? cs).map fun n => -(n : Int)
  | cs => (readSignedNat? cs).map fun n => (n : Int)

def hexValue? (c : Char) : Option Nat :=
  if '0' ≤ c ∧ c ≤ '9' then some (c.toNat - '0'.toNat)
  else if 'a' ≤ c ∧ c ≤ 'f' then some (c.toNat - 'a'.toNat + 10)
  else if 'A' ≤ c ∧ c ≤ 'F' then some (c.toNat - 'A'.toNat + 10)
  else none

/-- Reads a numeral in a base up to 16. -/
def readBase? (base : Nat) (cs : List Char) : Option Nat :=
  if cs.isEmpty then none
  else cs.foldlM (fun n c => ((hexValue? c).filter (· < base)).map (base * n + ·)) 0

def zeros (n : Nat) : List Char := List.replicate n '0'

end RecordQuery
