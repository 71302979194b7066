import RecordQuery.Text.Escape
import RecordQuery.Yaml.Letter

/-! The texts of YAML scalars: in quotes, plain, or in a block of lines. Inside the first two a
line break with the spaces around it is folded into one space, further ones are kept. -/
namespace RecordQuery.Yaml

/-- What stands between two words of a scalar, backwards. -/
inductive Between where
  | spaces (cs : List Char)
  /-- Line breaks: the first one, unless it is escaped, and the others. -/
  | breaks (first : Option Char) (more : List Char)

namespace Between

def nothing : Between := spaces []

def isNothing : Between → Bool
  | spaces [] => true
  | _ => false

def hasBreak : Between → Bool
  | breaks _ _ => true
  | _ => false

/-- One space or line break more; spaces beside a line break do not count. -/
def push (b : Between) (c : Char) : Between :=
  match b with
  | spaces cs => if isBreak c then breaks (some c) [] else spaces (c :: cs)
  | breaks first more => if isBreak c then breaks first (c :: more) else b

def folded : Between → List Char
  | spaces cs => cs
  | breaks (some '\n') [] => [' ']
  | breaks (some '\n') more => more
  | breaks first more => more ++ first.toList

end Between

def escapes : EscapeStyle where
  letter?
    | '0' => some '\x00'
    | 'a' => some '\x07'
    | 'b' => some '\x08'
    | 't' | '\t' => some '\t'
    | 'n' => some '\n'
    | 'v' => some '\x0b'
    | 'f' => some '\x0c'
    | 'r' => some '\r'
    | 'e' => some '\x1b'
    | ' ' => some ' '
    | '"' => some '"'
    | '/' => some '/'
    | '\\' => some '\\'
    | 'N' => some '\u0085'
    | '_' => some '\u00a0'
    | 'L' => some '\u2028'
    | 'P' => some '\u2029'
    | _ => none
  digits?
    | 'x' => some 2
    | 'u' => some 4
    | 'U' => some 8
    | _ => none

def doubleQuoted? (done : List Char) (between : Between) (escape : Escape) :
    List Letter → Option (String × List Letter)
  | [] => none
  | l :: rest =>
    if escape = .none then
      if l.char = endMark then none
      else if isSpace l.char || isBreak l.char then
        doubleQuoted? done (between.push l.char) .none rest
      else if isDelimiter (l :: rest) then none
      else
        let done := between.folded ++ done
        if l.char = '"' then some (String.ofList done.reverse, rest)
        else if l.char = '\\' then doubleQuoted? done .nothing .start rest
        else doubleQuoted? (l.char :: done) .nothing .none rest
    else if escape = .start && isBreak l.char then doubleQuoted? done (.breaks none []) .none rest
    else
      (escapes.next? escape l.char).bind fun r =>
        doubleQuoted? (r.2.toList ++ done) .nothing r.1 rest

def singleQuoted? (done : List Char) (between : Between) (quote : Bool) :
    List Letter → Option (String × List Letter)
  | [] => none
  | l :: rest =>
    if quote then
      if l.char = '\'' then singleQuoted? ('\'' :: done) .nothing false rest
      else some (String.ofList done.reverse, l :: rest)
    else if l.char = endMark then none
    else if isSpace l.char || isBreak l.char then
      singleQuoted? done (between.push l.char) false rest
    else if isDelimiter (l :: rest) then none
    else
      let done := between.folded ++ done
      if l.char = '\'' then singleQuoted? done .nothing true rest
      else singleQuoted? (l.char :: done) .nothing false rest

def isFlowChar (c : Char) : Bool := c = ',' || c = '[' || c = ']' || c = '\x7b' || c = '\x7d'

/-- The characters of a plain scalar, backwards; also whether a line has ended behind it, and what
follows. Outside of flow collections its lines are indented by `indent` at least. -/
def plain? (inFlow : Bool) (indent : Int) (done : List Char) (between : Between) :
    List Letter → Option (List Char × Bool × List Letter)
  | [] => none
  | l :: rest =>
    let stop := some (done, between.hasBreak, l :: rest)
    if isSpace l.char || isBreak l.char then
      if between.hasBreak && l.column < indent && l.char = '\t' then none
      else plain? inFlow indent done (between.push l.char) rest
    else if l.char = endMark || isDelimiter (l :: rest) then stop
    else if between.hasBreak && !inFlow && l.column < indent then stop
    else if l.char = '#' && (done.isEmpty || !between.isNothing) then stop
    else if inFlow && l.char = ':' && headIs (fun c => isFlowChar c || c = '?') rest then none
    else if l.char = ':' && headIs isGap rest || inFlow && isFlowChar l.char then stop
    else plain? inFlow indent (l.char :: (between.folded ++ done)) .nothing rest

inductive Chomping where
  | strip
  | clip
  | keep
  deriving DecidableEq, Repr

structure BlockStyle where
  /-- Whether a line break between two lines stays. -/
  literal : Bool
  chomping : Chomping
  indent : Option Nat

namespace BlockStyle

def chompingOf? : Char → Option Chomping
  | '+' => some .keep
  | '-' => some .strip
  | _ => none

def indentOf? (c : Char) : Option Nat :=
  if '1' ≤ c ∧ c ≤ '9' then some (c.toNat - '0'.toNat) else none

def ofMarks? (literal : Bool) : List Char → Option BlockStyle
  | [] => some ⟨literal, .clip, none⟩
  | [c] =>
    match chompingOf? c, indentOf? c with
    | some chomping, _ => some ⟨literal, chomping, none⟩
    | none, some indent => some ⟨literal, .clip, some indent⟩
    | none, none => none
  | [c, d] =>
    match chompingOf? c, indentOf? d, indentOf? c, chompingOf? d with
    | some chomping, some indent, _, _ | _, _, some indent, some chomping =>
      some ⟨literal, chomping, some indent⟩
    | _, _, _, _ => none
  | _ => none

end BlockStyle

/-- Drops the rest of a line, which may hold spaces and a comment only. -/
def endLine? (letters : List Letter) : Option (List Letter) :=
  let rest := letters.dropWhile fun l => isSpace l.char
  let rest := if headIs (· = '#') rest then rest.dropWhile fun l => !isBreakOrEnd l.char else rest
  if headIs isBreak rest then some (rest.drop 1)
  else if headIs (· = endMark) rest then some rest
  else none

/-- The empty lines at the start of a block, and the largest indentation up to its first line;
`indent` is none as long as it is not known. -/
def leadingLines? (indent : Option Nat) (deepest : Nat) (breaks : List Char) :
    List Letter → Option (Nat × List Char × List Letter)
  | [] => none
  | l :: rest =>
    let inside := indent.all fun n => l.column < n
    if inside && l.char = ' ' then leadingLines? indent deepest breaks rest
    else if inside && l.char = '\t' then none
    else
      let deepest := max deepest l.column
      if isBreak l.char then leadingLines? indent deepest (l.char :: breaks) rest
      else some (deepest, breaks, l :: rest)

structure Block where
  done : List Char := []
  last : Option Char := none
  breaks : List Char := []
  spaced : Bool := false
  inLine : Bool := false

namespace Block

/-- Begins a line; the break before it is folded unless a space begins one of the two lines. -/
def beginLine (b : Block) (literal : Bool) (c : Char) : Block :=
  let between :=
    if !literal && b.last = some '\n' && !b.spaced && !isSpace c then
      if b.breaks.isEmpty then [' '] else []
    else b.last.toList
  ⟨c :: (b.breaks ++ between ++ b.done), none, [], isSpace c, true⟩

def text (b : Block) (chomping : Chomping) : String :=
  let last := if chomping = .strip then [] else b.last.toList
  let breaks := if chomping = .keep then b.breaks else []
  String.ofList (breaks ++ last ++ b.done).reverse

def ofLines? (literal : Bool) (indent : Nat) (b : Block) :
    List Letter → Option (Block × List Letter)
  | [] => none
  | l :: rest =>
    if b.inLine then
      if isBreak l.char then ofLines? literal indent { b with last := l.char, inLine := false } rest
      else if l.char = endMark then some (b, l :: rest)
      else ofLines? literal indent { b with done := l.char :: b.done } rest
    else if l.column < indent && l.char = ' ' then ofLines? literal indent b rest
    else if l.column < indent && l.char = '\t' then none
    else if isBreak l.char then
      ofLines? literal indent { b with breaks := l.char :: b.breaks } rest
    else if l.column = indent && l.char ≠ endMark then
      ofLines? literal indent (b.beginLine literal l.char) rest
    else some (b, l :: rest)

end Block

def block? (literal : Bool) (outer : Int) (letters : List Letter) :
    Option (String × List Letter) := do
  let isMark (l : Letter) : Bool := l.char = '+' || l.char = '-' || isDecimalDigit l.char
  let style ← BlockStyle.ofMarks? literal ((letters.takeWhile isMark).map Letter.char)
  let rest ← endLine? (letters.dropWhile isMark)
  let indent := style.indent.map fun n => if 0 ≤ outer then outer.toNat + n else n
  let (deepest, breaks, rest) ← leadingLines? indent 0 [] rest
  let indent := indent.getD (max deepest (max (outer + 1).toNat 1))
  let (b, rest) ← Block.ofLines? literal indent { breaks := breaks } rest
  some (b.text style.chomping, rest)

end RecordQuery.Yaml
