import RecordQuery.Text.Unprintable

/-! Texts between double quotes. Quotes, backslashes and characters that would not show are
spelled by escapes. -/
namespace RecordQuery

structure QuoteStyle where
  single : Bool
  combining : Bool

def codeEscape (c : Char) : List Char :=
  '\\' :: 'u' :: '\x7b' :: Nat.toDigits 16 c.toNat ++ ['\x7d']

def QuoteStyle.escape (style : QuoteStyle) (c : Char) : List Char :=
  match c with
  | '\x00' => ['\\', '0']
  | '\t' => ['\\', 't']
  | '\r' => ['\\', 'r']
  | '\n' => ['\\', 'n']
  | '\\' => ['\\', '\\']
  | '"' => ['\\', '"']
  | '\'' => if style.single then ['\\', '\''] else ['\'']
  | c => if style.combining && isCombining c || isUnprintable c then codeEscape c else [c]

/-- A name quoted in a message: every combining mark is spelled out, single quotes are left. -/
def quoteName (s : String) : String :=
  String.ofList ('"' :: s.toList.flatMap (QuoteStyle.escape ⟨false, true⟩) ++ ['"'])

def escapeLiteral : List Char → List Char
  | [] => []
  | c :: rest =>
    QuoteStyle.escape ⟨true, true⟩ c ++ rest.flatMap (QuoteStyle.escape ⟨true, false⟩)

/-- A text as a value is shown: single quotes are escaped too, and a combining mark only at the
start, where it would join the opening quote. -/
def quoteLiteral (s : String) : String := String.ofList ('"' :: escapeLiteral s.toList ++ ['"'])

end RecordQuery
