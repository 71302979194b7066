import RecordQuery.Json.Number

/-! JSON text, either on one line without blanks or indented by two spaces. -/
namespace RecordQuery.Json

def hexDigit (n : Nat) : Char := Nat.digitChar (n % 16)

/-- The quote, the backslash and the control characters are escaped, the common ones by a letter. -/
def escapeChar (c : Char) : List Char :=
  match c with
  | '"' => ['\\', '"']
  | '\\' => ['\\', '\\']
  | '\n' => ['\\', 'n']
  | '\r' => ['\\', 'r']
  | '\t' => ['\\', 't']
  | '\x08' => ['\\', 'b']
  | '\x0c' => ['\\', 'f']
  | c =>
    if c.toNat < 0x20 then ['\\', 'u', '0', '0', hexDigit (c.toNat / 16), hexDigit c.toNat] else [c]

def quote (s : String) : String := String.ofList ('"' :: s.toList.flatMap escapeChar ++ ['"'])

def scalarText : Json → String
  | .null => "null"
  | .bool b => if b then "true" else "false"
  | .number n => String.ofList n.toChars
  | .string s => quote s
  | .array _ => "[]"
  | .object _ => "\x7b\x7d"

mutual

/-- Text on one line, members in the order they have. -/
def compact : Json → String
  | .array items => "[" ++ ",".intercalate (compactItems items) ++ "]"
  | .object members => "\x7b" ++ ",".intercalate (compactMembers members) ++ "\x7d"
  | json => json.scalarText

def compactItems : List Json → List String
  | [] => []
  | json :: rest => compact json :: compactItems rest

def compactMembers : List (String × Json) → List String
  | [] => []
  | (name, json) :: rest => (quote name ++ ":" ++ compact json) :: compactMembers rest

end

/-- A line break and two spaces for every level. -/
def newline (level : Nat) : String := "\n" ++ String.ofList (List.replicate (2 * level) ' ')

/-- Elements one to a line between two brackets, which stand side by side if there are none. -/
def block (level : Nat) (opening closing : String) (elements : List String) : String :=
  if elements.isEmpty then opening ++ closing
  else
    opening ++ newline (level + 1) ++ ("," ++ newline (level + 1)).intercalate elements ++
      newline level ++ closing

mutual

def prettyAt (level : Nat) : Json → String
  | .array items => block level "[" "]" (prettyItems (level + 1) items)
  | .object members => block level "\x7b" "\x7d" (prettyMembers (level + 1) members)
  | json => json.scalarText

def prettyItems (level : Nat) : List Json → List String
  | [] => []
  | json :: rest => prettyAt level json :: prettyItems level rest

def prettyMembers (level : Nat) : List (String × Json) → List String
  | [] => []
  | (name, json) :: rest =>
    (quote name ++ ": " ++ prettyAt level json) :: prettyMembers level rest

end

def pretty (json : Json) : String := prettyAt 0 json

end RecordQuery.Json
