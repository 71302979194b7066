import RecordQuery.Binary64.Literal
import RecordQuery.Setting
import RecordQuery.Text.Blank
import RecordQuery.Text.Escape

/-! Settings on one line, as in `7`, `"a b"`, `[1, 2]` and `{size = 5}`. A text that is none of
these stands for itself. -/
namespace RecordQuery.Setting

def isSpace (c : Char) : Bool := c = ' ' || c = '\t' || c = '\n' || c = '\r' || c = '\x0c'

def skipSpace (cs : List Char) : List Char := cs.dropWhile isSpace

def endsWord (c : Char) : Bool := c = ',' || c = '\x7b' || c = '\x7d' || c = '[' || c = ']'

def isNameChar (c : Char) : Bool := c.isAlphanum || c = '_' || c = '-'

/-- A number with a point, an integer of 64 bits, or a text. -/
def ofWord (cs : List Char) : Setting :=
  if '.' ∈ cs ∧ (Binary64.literal? cs).isSome then .fractional
  else
    match (readInt? cs).filter fitsWord with
    | some n => .whole n
    | none => .text (String.ofList cs)

def inlineEscapes : EscapeStyle where
  letter?
    | '"' => some '"'
    | '\\' => some '\\'
    | 'b' => some '\x08'
    | 'f' => some '\x0c'
    | 'n' => some '\n'
    | 'r' => some '\r'
    | 't' => some '\t'
    | _ => none
  digits?
    | 'u' => some 4
    | 'U' => some 8
    | _ => none

/-- The text up to the closing quote, and what follows; it has no controls but tabs. -/
def quoted? (done : List Char) (escape : Escape) : List Char → Option (String × List Char)
  | [] => none
  | c :: rest =>
    match escape with
    | .none =>
      if c = '"' then some (String.ofList done.reverse, rest)
      else if c = '\\' then quoted? done .start rest
      else if c.toNat < 0x20 && c ≠ '\t' || c.toNat = 0x7f then none
      else quoted? (c :: done) .none rest
    | escape =>
      (inlineEscapes.next? escape c).bind fun r => quoted? (r.2.toList ++ done) r.1 rest

def name? : List Char → Option (String × List Char)
  | '"' :: rest => quoted? [] .none rest
  | cs =>
    if (cs.takeWhile isNameChar).isEmpty then none
    else some (String.ofList (cs.takeWhile isNameChar), cs.dropWhile isNameChar)

mutual

def value? : Nat → List Char → Option (Setting × List Char)
  | 0, _ => none
  | fuel + 1, cs => do
    let (setting, rest) ← match skipSpace cs with
      | 't' :: 'r' :: 'u' :: 'e' :: rest => some (.flag true, rest)
      | 'f' :: 'a' :: 'l' :: 's' :: 'e' :: rest => some (.flag false, rest)
      | '\x7b' :: rest => (inlineMembers? fuel rest).map fun r => (ofMembers r.1, r.2)
      | '[' :: rest => (inlineItems? fuel rest).map fun r => (.list r.1, r.2)
      | '"' :: rest => (quoted? [] .none rest).map fun r => (.text r.1, r.2)
      | '\'' :: c :: '\'' :: rest => some (.text c.toString, rest)
      | '\'' :: _ => none
      | cs => some (ofWord (trimBlank (cs.takeWhile (!endsWord ·))), cs.dropWhile (!endsWord ·))
    some (setting, skipSpace rest)

/-- Items up to the closing bracket; a comma may stand behind the last one. -/
def inlineItems? : Nat → List Char → Option (List Setting × List Char)
  | 0, _ => none
  | _ + 1, ']' :: rest => some ([], rest)
  | fuel + 1, cs => do
    let (item, rest) ← value? fuel cs
    match rest with
    | ',' :: rest => do
      let (items, rest) ← inlineItems? fuel rest
      some (item :: items, rest)
    | ']' :: rest => some ([item], rest)
    | _ => none

def inlineMembers? : Nat → List Char → Option (List (String × Setting) × List Char)
  | 0, _ => none
  | _ + 1, '\x7d' :: rest => some ([], rest)
  | fuel + 1, cs => do
    let (name, rest) ← name? (skipSpace cs)
    match skipSpace rest with
    | '=' :: rest => do
      let (setting, rest) ← value? fuel rest
      match rest with
      | ',' :: rest => do
        let (members, rest) ← inlineMembers? fuel rest
        some ((name, setting) :: members, rest)
      | '\x7d' :: rest => some ([(name, setting)], rest)
      | _ => none
    | _ => none

end

/-- Every value takes two steps at most for each of its characters. -/
def ofInline (s : String) : Setting :=
  match value? (2 * s.length + 2) s.toList with
  | some (setting, []) => setting
  | _ => .text s

end RecordQuery.Setting
