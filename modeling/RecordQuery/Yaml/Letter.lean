/-! The characters of YAML text, each with its place in the text. -/
namespace RecordQuery.Yaml

/-- A character in its line and column, both counted from zero. -/
structure Letter where
  char : Char
  line : Nat
  column : Nat
  deriving DecidableEq, Repr

/-- Stands behind the last character; no text has it. -/
def endMark : Char := '\x00'

def byteOrderMark : Char := '\ufeff'

def isAllowed (c : Char) : Bool :=
  c = '\t' || c = '\n' || c = '\r' || 0x20 ≤ c.toNat && c.toNat ≤ 0x7e || c = '\u0085' ||
    0xa0 ≤ c.toNat && c.toNat ≤ 0xfffd || 0x10000 ≤ c.toNat

/-- The characters that end a line, once all common line breaks are written in one way. -/
def isBreak (c : Char) : Bool := c = '\n' || c = '\u2028' || c = '\u2029'

def isSpace (c : Char) : Bool := c = ' ' || c = '\t'

def isBreakOrEnd (c : Char) : Bool := isBreak c || c = endMark

def isGap (c : Char) : Bool := isSpace c || isBreakOrEnd c

def isNameChar (c : Char) : Bool := c.isAlphanum || c = '-' || c = '_'

/-- Writes every line break as one line feed, but for the separators of lines and paragraphs. -/
def unifyBreaks : List Char → List Char
  | '\r' :: '\n' :: rest => '\n' :: unifyBreaks rest
  | c :: rest => (if c = '\r' || c = '\u0085' then '\n' else c) :: unifyBreaks rest
  | [] => []

def place (line column : Nat) : List Char → List Letter
  | [] => [⟨endMark, line, column⟩]
  | c :: rest =>
    ⟨c, line, column⟩ ::
      if isBreak c then place (line + 1) 0 rest else place line (column + 1) rest

/-- The letters of a text; a byte order mark in front of it counts for nothing, one more only
takes up a column. -/
def letters? (s : String) : Option (List Letter) :=
  if s.toList.all isAllowed then
    let cs := match s.toList with
      | c :: rest => if c = byteOrderMark then rest else c :: rest
      | [] => []
    match place 0 0 (unifyBreaks cs) with
    | first :: rest => some (if first.char = byteOrderMark then rest else first :: rest)
    | [] => none
  else none

def headIs (test : Char → Bool) (letters : List Letter) : Bool :=
  letters.head?.any fun l => test l.char

def isDelimiter : List Letter → Bool
  | a :: b :: c :: rest =>
    a.column == 0 && (a.char = '-' || a.char = '.') && b.char == a.char && c.char == a.char &&
      headIs isGap rest
  | _ => false

end RecordQuery.Yaml
