/-! Integers of 64 bits: their bounds, and arithmetic on words that does not wrap around. -/
namespace RecordQuery

def minInt64 : Int := -9223372036854775808

def maxInt64 : Int := 9223372036854775807

def maxUInt64 : Nat := 18446744073709551615

/-- The integers of 64 bits, with or without a sign. -/
def fitsWord (n : Int) : Bool := minInt64 ≤ n && n ≤ maxUInt64

/-- The product, unless it needs more than 64 bits. -/
def checkedMul (a b : UInt64) : Option UInt64 :=
  if a.toNat * b.toNat ≤ maxUInt64 then some (a * b) else none

/-- The sum, or the largest word if that needs more than 64 bits. -/
def saturatingAdd (a b : UInt64) : UInt64 := if a + b < a then .ofNat maxUInt64 else a + b

def saturatingSub (a b : UInt64) : UInt64 := if a < b then 0 else a - b

def ceilDiv (a b : UInt64) : UInt64 := if a % b = 0 then a / b else a / b + 1

end RecordQuery
