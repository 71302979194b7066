import RecordQuery.Yaml.Token

/-! The layout of YAML text: block collections get tokens for their start and end from the
indentation, and keys without a question mark get theirs from the colons behind them. -/
namespace RecordQuery.Yaml

/-- Where a key without a question mark may have begun. -/
structure KeyStart where
  required : Bool
  position : Nat
  line : Nat
  column : Nat

structure Layout where
  /-- Backwards. -/
  tokens : List Token := []
  indent : Int := -1
  outer : List Int := []
  /-- The key that may have begun in every open flow collection, the innermost first, and outside
  of them. -/
  keys : List (Option KeyStart) := [none]
  keyAllowed : Bool := true

namespace Layout

def inFlow (l : Layout) : Bool := 1 < l.keys.length

def emit (l : Layout) (t : Token) : Layout := { l with tokens := t :: l.tokens }

def insert (l : Layout) (position : Nat) (t : Token) : Layout :=
  { l with tokens := l.tokens.insertIdx (l.tokens.length - position) t }

/-- Nothing before this point is a key; none if it had to be one. -/
def dropKey? (l : Layout) : Option Layout :=
  match l.keys with
  | some k :: rest => if k.required then none else some { l with keys := none :: rest }
  | _ => some l

def saveKey? (l : Layout) (first : Letter) : Option Layout :=
  if l.keyAllowed then
    (l.dropKey?).map fun l =>
      let required := !l.inFlow && l.indent == (first.column : Int)
      { l with keys := some ⟨required, l.tokens.length, first.line, first.column⟩ :: l.keys.drop 1 }
  else some l

/-- A key ends on the line on which it begins and is not too long. -/
def expireKeys? (l : Layout) (first : Letter) : Option Layout := do
  let keys ← l.keys.mapM fun
    | some k =>
      if k.line < first.line || k.column + 1024 < first.column then
        if k.required then none else some none
      else some (some k)
    | none => some none
  return { l with keys := keys }

def unroll (l : Layout) (column : Int) : Layout :=
  if l.inFlow then l
  else
    let rec go (tokens : List Token) (indent : Int) : List Int → Layout
      | below :: rest =>
        if column < indent then go (.blockEnd :: tokens) below rest
        else { l with tokens := tokens, indent := indent, outer := below :: rest }
      | [] => { l with tokens := tokens, indent := indent, outer := [] }
    go l.tokens l.indent l.outer

def roll (l : Layout) (column position : Nat) (t : Token) : Layout :=
  if l.inFlow || column ≤ l.indent then l
  else { l.insert position t with indent := column, outer := l.indent :: l.outer }

def finish? (l : Layout) : Option Layout :=
  ((l.unroll (-1)).dropKey?).map fun l => { l with keyAllowed := false }

def openFlow? (l : Layout) (first : Letter) (t : Token) : Option Layout :=
  (l.saveKey? first).map fun l => { l.emit t with keys := none :: l.keys, keyAllowed := true }

def closeFlow? (l : Layout) (t : Token) : Option Layout :=
  (l.dropKey?).map fun l =>
    { l.emit t with keys := if l.inFlow then l.keys.drop 1 else l.keys, keyAllowed := false }

def flowEntry? (l : Layout) : Option Layout :=
  (l.dropKey?).map fun l => { l.emit .flowEntry with keyAllowed := true }

def blockEntry? (l : Layout) (first : Letter) : Option Layout :=
  if !l.inFlow && !l.keyAllowed then none
  else
    ((l.roll first.column l.tokens.length .blockSequence).dropKey?).map fun l =>
      { l.emit .blockEntry with keyAllowed := true }

def key? (l : Layout) (first : Letter) : Option Layout :=
  if !l.inFlow && !l.keyAllowed then none
  else
    ((l.roll first.column l.tokens.length .blockMapping).dropKey?).map fun l =>
      { l.emit .key with keyAllowed := !l.inFlow }

/-- A colon makes a key of what may have begun as one. -/
def value? (l : Layout) (first : Letter) : Option Layout :=
  match l.keys with
  | some k :: rest =>
    let l := (l.insert k.position .key).roll k.column k.position .blockMapping
    some { l.emit .value with keys := none :: rest, keyAllowed := false }
  | _ =>
    if !l.inFlow && !l.keyAllowed then none
    else
      let l := l.roll first.column l.tokens.length .blockMapping
      some { l.emit .value with keyAllowed := !l.inFlow }

def node? (l : Layout) (first : Letter) (token : Option (Token × List Letter)) :
    Option (Layout × List Letter) := do
  let l ← l.saveKey? first
  let (t, rest) ← token
  return ({ l.emit t with keyAllowed := false }, rest)

end Layout

/-- Skips spaces, comments and line breaks. A new line may begin with a key, and tabs may not
stand where one may begin, outside of flow collections; the result tells whether one may. -/
def skipGap (inFlow keyAllowed comment : Bool) : List Letter → Bool × List Letter
  | [] => (keyAllowed, [])
  | l :: rest =>
    if isBreak l.char then skipGap inFlow (keyAllowed || !inFlow) false rest
    else if l.char = endMark then (keyAllowed, l :: rest)
    else if comment || l.char = ' ' || l.char = '\t' && (inFlow || !keyAllowed) then
      skipGap inFlow keyAllowed comment rest
    else if l.char = '#' then skipGap inFlow keyAllowed true rest
    else (keyAllowed, l :: rest)

def beginsPlain (inFlow : Bool) (c : Char) (rest : List Letter) : Bool :=
  !(isGap c || "-?:,[]\x7b\x7d#&*!|>'\"%@\x60".contains c) ||
    c = '-' && !headIs isSpace rest ||
    !inFlow && (c = '?' || c = ':') && !headIs isGap rest

namespace Layout

def next? (l : Layout) (first : Letter) (rest : List Letter) : Option (Layout × List Letter) :=
  let loose := l.inFlow || headIs isGap rest
  let here (l : Option Layout) : Option (Layout × List Letter) := l.map (·, rest)
  let scalar (plain : Bool) (r : String × List Letter) : Token × List Letter :=
    (.scalar r.1 plain, r.2)
  if first.column = 0 && first.char = '%' then do
    let l ← l.finish?
    let (t, rest) ← directive? rest
    return (l.emit t, rest)
  else if isDelimiter (first :: rest) then
    (l.finish?).map fun l =>
      (l.emit (if first.char = '-' then .documentStart else .documentEnd), rest.drop 2)
  else
    match first.char with
    | '[' => here (l.openFlow? first .flowSequence)
    | '\x7b' => here (l.openFlow? first .flowMapping)
    | ']' => here (l.closeFlow? .flowSequenceEnd)
    | '\x7d' => here (l.closeFlow? .flowMappingEnd)
    | ',' => here l.flowEntry?
    | '*' => l.node? first ((anchorName? rest).map fun r => (.alias r.1, r.2))
    | '&' => l.node? first ((anchorName? rest).map fun r => (.anchor r.1, r.2))
    | '!' => l.node? first (tag? l.inFlow rest)
    | '\'' => l.node? first ((singleQuoted? [] .nothing false rest).map (scalar false))
    | '"' => l.node? first ((doubleQuoted? [] .nothing .none rest).map (scalar false))
    | c =>
      if c = '-' && headIs isGap rest then here (l.blockEntry? first)
      else if c = '?' && loose then here (l.key? first)
      else if c = ':' && loose then here (l.value? first)
      else if (c = '|' || c = '>') && !l.inFlow then do
        let l ← l.dropKey?
        let (text, rest) ← block? (c = '|') l.indent rest
        return ({ l.emit (.scalar text false) with keyAllowed := true }, rest)
      else if beginsPlain l.inFlow c rest then do
        let l ← l.saveKey? first
        let (done, broken, rest) ← plain? l.inFlow (l.indent + 1) [] .nothing (first :: rest)
        let text := String.ofList done.reverse
        return ({ l.emit (.scalar text true) with keyAllowed := broken }, rest)
      else none

end Layout

/-- Every step takes at least one letter. -/
def tokensFrom? (l : Layout) : Nat → List Letter → Option (List Token)
  | 0, _ => none
  | fuel + 1, letters => do
    let (keyAllowed, letters) := skipGap l.inFlow l.keyAllowed false letters
    match letters with
    | [] => none
    | first :: rest =>
      let l ← { l with keyAllowed := keyAllowed }.expireKeys? first
      let l := l.unroll first.column
      if first.char = endMark then (l.finish?).map fun l => l.tokens.reverse
      else
        let (l, rest) ← l.next? first rest
        tokensFrom? l fuel rest

def tokens? (letters : List Letter) : Option (List Token) :=
  tokensFrom? {} (letters.length + 1) letters

end RecordQuery.Yaml
