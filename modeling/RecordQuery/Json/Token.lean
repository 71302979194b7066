import RecordQuery.Json.Number

/-! The tokens of JSON text, found one character after the other. -/
namespace RecordQuery.Json

/-- A text or a number may have the right form and yet stand for no value: a text with half of a
surrogate pair, a number past the largest one. -/
inductive Token where
  | openArray | closeArray | openObject | closeObject | comma | colon
  | string (s : Option String)
  | scalar (json : Option Json)

/-- The part of a text that is still being read, backwards; none once it stands for no text. -/
abbrev Partial := Option (List Char)

inductive Lexing where
  | between
  | word (done : List Char)
  | number (done : List Char)
  | string (done : Partial)
  | escape (done : Partial)
  | code (done : Partial) (digits : Nat) (value : Nat)
  /-- The first half of a surrogate pair has been read; the other half must follow. -/
  | half (done : Partial) (high : Nat)
  | halfEscape (done : Partial) (high : Nat)
  | halfCode (done : Partial) (high : Nat) (digits : Nat) (value : Nat)

def isSpace (c : Char) : Bool := c = ' ' || c = '\n' || c = '\r' || c = '\t'

def isNumberChar (c : Char) : Bool :=
  isDecimalDigit c || c = '-' || c = '+' || c = '.' || c = 'e' || c = 'E'

def wordToken? (word : String) : Option Token :=
  match word with
  | "null" => some (.scalar (some .null))
  | "true" => some (.scalar (some (.bool true)))
  | "false" => some (.scalar (some (.bool false)))
  | _ => none

def unescape? (c : Char) : Option Char :=
  match c with
  | '"' | '\\' | '/' => some c
  | 'b' => some '\x08'
  | 'f' => some '\x0c'
  | 'n' => some '\n'
  | 'r' => some '\r'
  | 't' => some '\t'
  | _ => none

def begin? (c : Char) : Option (Lexing × List Token) :=
  match c with
  | '[' => some (.between, [.openArray])
  | ']' => some (.between, [.closeArray])
  | '\x7b' => some (.between, [.openObject])
  | '\x7d' => some (.between, [.closeObject])
  | ',' => some (.between, [.comma])
  | ':' => some (.between, [.colon])
  | '"' => some (.string (some []), [])
  | c =>
    if isSpace c then some (.between, [])
    else if isDecimalDigit c || c = '-' then some (.number [c], [])
    else if c.isAlpha then some (.word [c], [])
    else none

def finish? : Lexing → Option (List Token)
  | .between => some []
  | .word done => do some [← wordToken? (String.ofList done.reverse)]
  | .number done =>
    (Number.Literal.ofChars? done.reverse).map fun l => [.scalar (l.number?.map .number)]
  | _ => none

def Partial.push (done : Partial) (c : Char) : Partial := done.map (c :: ·)

def endCode (done : Partial) (unit : Nat) : Lexing :=
  if 0xd800 ≤ unit ∧ unit < 0xdc00 then .half done unit
  else if 0xdc00 ≤ unit ∧ unit < 0xe000 then .string none
  else .string (done.push (Char.ofNat unit))

def endHalf (done : Partial) (high unit : Nat) : Lexing :=
  if 0xdc00 ≤ unit ∧ unit < 0xe000 then
    .string (done.push (Char.ofNat (0x10000 + (high - 0xd800) * 0x400 + (unit - 0xdc00))))
  else .string none

def lexString? (done : Partial) (c : Char) : Option (Lexing × List Token) :=
  if c = '"' then some (.between, [.string (done.map fun cs => String.ofList cs.reverse)])
  else if c = '\\' then some (.escape done, [])
  else if c.toNat < 0x20 then none
  else some (.string (done.push c), [])

def lexEscape? (done : Partial) (c : Char) : Option (Lexing × List Token) :=
  if c = 'u' then some (.code done 0 0, [])
  else (unescape? c).map fun c => (.string (done.push c), [])

/-- One character further; also the tokens that it completes. -/
def lex? (state : Lexing) (c : Char) : Option (Lexing × List Token) :=
  match state with
  | .between => begin? c
  | .word done =>
    if c.isAlpha then some (.word (c :: done), [])
    else do
      let tokens ← finish? state
      let (next, more) ← begin? c
      some (next, tokens ++ more)
  | .number done =>
    if isNumberChar c then some (.number (c :: done), [])
    else do
      let tokens ← finish? state
      let (next, more) ← begin? c
      some (next, tokens ++ more)
  | .string done => lexString? done c
  | .escape done => lexEscape? done c
  | .code done digits value => do
    let value := 16 * value + (← hexValue? c)
    some (if digits = 3 then endCode done value else .code done (digits + 1) value, [])
  | .half done high => if c = '\\' then some (.halfEscape done high, []) else lexString? none c
  | .halfEscape done high =>
    if c = 'u' then some (.halfCode done high 0 0, []) else lexEscape? none c
  | .halfCode done high digits value => do
    let value := 16 * value + (← hexValue? c)
    some (if digits = 3 then endHalf done high value else .halfCode done high (digits + 1) value,
      [])

/-- The tokens of a text, put in front of `done` backwards. -/
def tokensOnto? (state : Lexing) (done : List Token) : List Char → Option (List Token)
  | [] => (finish? state).map (·.reverse ++ done)
  | c :: cs =>
    match lex? state c with
    | none => none
    | some (next, tokens) => tokensOnto? next (tokens.reverse ++ done) cs

def tokens? (cs : List Char) : Option (List Token) := (tokensOnto? .between [] cs).map (·.reverse)

end RecordQuery.Json
