import RecordQuery.Yaml.Scalar

/-! The tokens of YAML text, and the reading of anchors, tags and directives. -/
namespace RecordQuery.Yaml

inductive Token where
  | version
  | tagStart (handle start : String)
  | documentStart | documentEnd
  | blockSequence | blockMapping | blockEnd
  | flowSequence | flowSequenceEnd | flowMapping | flowMappingEnd
  | blockEntry | flowEntry | key | value
  | alias (name : String)
  | anchor (name : String)
  | tag (handle suffix : String)
  | scalar (text : String) (plain : Bool)
  deriving DecidableEq, Repr

/-- Characters of a tag; some of them only where flow collections cannot be meant. -/
def isTagChar (all : Bool) (c : Char) : Bool :=
  isNameChar c || ";/?:@&=+$.%!~*'()".contains c || all && ",[]".contains c

def textOf (letters : List Letter) : String := String.ofList (letters.map Letter.char)

def span (test : Char → Bool) (letters : List Letter) : String × List Letter :=
  (textOf (letters.takeWhile fun l => test l.char), letters.dropWhile fun l => test l.char)

def anchorName? (letters : List Letter) : Option (String × List Letter) :=
  let (name, rest) := span isNameChar letters
  if !name.isEmpty && headIs (fun c => isGap c || "?:,]\x7d%@\x60".contains c) rest then
    some (name, rest)
  else none

/-- A tag behind its exclamation mark: in angle brackets, or with a handle in front. -/
def tag? (inFlow : Bool) (letters : List Letter) : Option (Token × List Letter) := do
  let (token, rest) ←
    if headIs (· = '<') letters then
      let (uri, rest) := span (isTagChar true) (letters.drop 1)
      if !uri.isEmpty && headIs (· = '>') rest then some (Token.tag "" uri, rest.drop 1) else none
    else
      let (name, rest) := span isNameChar letters
      if headIs (· = '!') rest then
        let (suffix, rest) := span (isTagChar false) (rest.drop 1)
        if suffix.isEmpty then none else some (.tag ("!" ++ name ++ "!") suffix, rest)
      else
        let (suffix, rest) := span (isTagChar false) letters
        some (if suffix.isEmpty then .tag "" "!" else .tag "!" suffix, rest)
  if inFlow && headIs (· = ',') rest || headIs isGap rest then some (token, rest) else none

/-- A directive behind its percent sign: the version of the notation, or the start of the tags
with a handle. -/
def directive? (letters : List Letter) : Option (Token × List Letter) := do
  let (name, rest) := span isNameChar letters
  let (spaces, rest) := span isSpace rest
  let (token, rest) ← match name with
    | "YAML" =>
      let (version, rest) := span (fun c => isDecimalDigit c || c = '.') rest
      match version.splitOn "." with
      | [major, minor] =>
        match readNat? major.toList, readNat? minor.toList with
        | some 1, some 1 | some 1, some 2 => some (Token.version, rest)
        | _, _ => none
      | _ => none
    | "TAG" =>
      let (handle, rest) := span (fun c => isNameChar c || c = '!') rest
      let (between, rest) := span isSpace rest
      let (start, rest) := span (isTagChar true) rest
      if isHandle handle.toList && !between.isEmpty && !start.isEmpty && headIs isGap rest then
        some (.tagStart handle start, rest)
      else none
    | _ => none
  if spaces.isEmpty then none else (endLine? rest).map fun rest => (token, rest)
where
  isHandle : List Char → Bool
    | ['!'] => true
    | '!' :: rest => rest.getLast? == some '!' && rest.dropLast.all isNameChar
    | _ => false

end RecordQuery.Yaml
