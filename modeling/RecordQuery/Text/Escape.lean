import RecordQuery.Text.Digits

/-! Characters spelled behind a backslash: by a letter, or by a letter and hexadecimal digits that
give the code point. -/
namespace RecordQuery

inductive Escape where
  | none
  | start
  | code (left : Nat) (value : Nat)
  deriving DecidableEq, Repr

structure EscapeStyle where
  letter? : Char → Option Char
  /-- The number of digits behind a letter. -/
  digits? : Char → Option Nat

def charOfCode? (n : Nat) : Option Char := if n.isValidChar then some (Char.ofNat n) else none

/-- One character further in an escape; also the character that it completes. -/
def EscapeStyle.next? (style : EscapeStyle) (escape : Escape) (c : Char) :
    Option (Escape × Option Char) :=
  match escape with
  | .none => some (.none, some c)
  | .start =>
    match style.digits? c with
    | some n => some (.code n 0, none)
    | none => (style.letter? c).map fun c => (.none, some c)
  | .code left value => do
    let value := 16 * value + (← hexValue? c)
    if left ≤ 1 then (charOfCode? value).map fun c => (.none, some c)
    else some (.code (left - 1) value, none)

end RecordQuery
