import RecordQuery.Yaml.Layout

/-! The nodes of a YAML document, read from its tokens. An alias is replaced by the node that its
anchor marks. -/
namespace RecordQuery.Yaml

inductive Node where
  | scalar (tag : Option String) (text : String) (plain : Bool)
  | sequence (tag : Option String) (items : List Node)
  | mapping (tag : Option String) (members : List (Node × Node))
  deriving Repr, Inhabited

namespace Node

/-- Stands where a node is left out. -/
def absent : Node := scalar none "" true

mutual

def depth : Node → Nat
  | scalar _ _ _ => 0
  | sequence _ items => 1 + depthOfItems items
  | mapping _ members => 1 + depthOfMembers members

def depthOfItems : List Node → Nat
  | [] => 0
  | n :: rest => max (depth n) (depthOfItems rest)

def depthOfMembers : List (Node × Node) → Nat
  | [] => 0
  | (key, value) :: rest => max (max (depth key) (depth value)) (depthOfMembers rest)

end

end Node

/-- A node with an anchor, which cannot be referred to from inside itself. -/
structure Anchored where
  name : String
  node : Option Node
  /-- The number of aliases in it, those that stand behind aliases included. -/
  aliases : Nat

structure Source where
  tokens : List Token
  tagStarts : List (String × String)
  anchors : List Anchored := []
  /-- The number of ends of collections, scalars and aliases. -/
  size : Nat := 0
  aliases : Nat := 0

structure Properties where
  anchor : Option String := none
  tag : Option String := none

namespace Source

def goOn (s : Source) (tokens : List Token) (count : Nat) : Source :=
  { s with tokens := tokens, size := s.size + count }

def tag? (s : Source) (handle suffix : String) : Option String :=
  if handle.isEmpty then some suffix
  else (s.tagStarts.find? fun t => t.1 == handle).map fun t => t.2 ++ suffix

def properties? (s : Source) : Option (Properties × Source) :=
  match s.tokens with
  | .anchor name :: .tag handle suffix :: rest | .tag handle suffix :: .anchor name :: rest =>
    (s.tag? handle suffix).map fun tag => (⟨some name, some tag⟩, s.goOn rest 0)
  | .tag handle suffix :: rest =>
    (s.tag? handle suffix).map fun tag => (⟨none, some tag⟩, s.goOn rest 0)
  | .anchor name :: rest => some (⟨some name, none⟩, s.goOn rest 0)
  | _ => some ({}, s)

def alias? (s : Source) (name : String) (rest : List Token) : Option (Node × Source) := do
  let found ← s.anchors.find? fun a => a.name == name
  let node ← found.node
  some (node, { s.goOn rest 1 with aliases := s.aliases + 1 + found.aliases })

/-- Makes an anchor known before its node, and with it. -/
def announce (s : Source) : Option String → Source
  | some name => { s with anchors := ⟨name, none, 0⟩ :: s.anchors }
  | none => s

def record (s : Source) (before : Nat) (anchor : Option String) (node : Node) : Source :=
  match anchor with
  | some name => { s with anchors := ⟨name, some node, s.aliases - before⟩ :: s.anchors }
  | none => s

end Source

def leavesOut : Token → Bool
  | .key | .value | .blockEnd | .flowEntry | .flowSequenceEnd | .flowMappingEnd => true
  | _ => false

def orAbsent (read : Source → Option (Node × Source)) (s : Source) : Option (Node × Source) :=
  if s.tokens.head?.any leavesOut then some (.absent, s.goOn s.tokens 1) else read s

def pair? (read : Source → Option (Node × Source)) (s : Source) :
    Option ((Node × Node) × Source) := do
  let (key, s) ← orAbsent read s
  match s.tokens with
  | .value :: rest => do
    let (value, s) ← orAbsent read (s.goOn rest 0)
    some ((key, value), s)
  | rest => some ((key, .absent), s.goOn rest 1)

mutual

/-- Reads a node. Block collections are admitted by `block`; inside a block mapping the entries of
a sequence need no indentation of their own. -/
def node? : Nat → Bool → Bool → Source → Option (Node × Source)
  | 0, _, _, _ => none
  | fuel + 1, block, inMapping, s =>
    match s.tokens with
    | .alias name :: rest => s.alias? name rest
    | _ => do
      let (p, s) ← s.properties?
      let before := s.aliases
      let s := s.announce p.anchor
      let (node, s) ← match s.tokens with
        | .scalar text plain :: rest => some (.scalar p.tag text plain, s.goOn rest 1)
        | .flowSequence :: rest =>
          (flowItems? fuel true (s.goOn rest 2)).map fun r => (.sequence p.tag r.1, r.2)
        | .flowMapping :: rest =>
          (flowMembers? fuel true (s.goOn rest 2)).map fun r => (.mapping p.tag r.1, r.2)
        | tokens =>
          match block, inMapping, tokens with
          | true, _, .blockSequence :: rest =>
            (blockItems? fuel false (s.goOn rest 2)).map fun r => (.sequence p.tag r.1, r.2)
          | true, _, .blockMapping :: rest =>
            (blockMembers? fuel (s.goOn rest 2)).map fun r => (.mapping p.tag r.1, r.2)
          | _, true, .blockEntry :: _ =>
            (blockItems? fuel true (s.goOn tokens 2)).map fun r => (.sequence p.tag r.1, r.2)
          | _, _, _ =>
            if p.anchor.isSome || p.tag.isSome then
              some (.scalar p.tag "" true, s.goOn tokens 1)
            else none
      some (node, s.record before p.anchor node)

/-- The entries of a block sequence; without indentation of their own, whatever else comes ends
them. -/
def blockItems? : Nat → Bool → Source → Option (List Node × Source)
  | 0, _, _ => none
  | fuel + 1, bare, s =>
    match s.tokens with
    | .blockEntry :: rest => do
      let (item, s) ←
        if rest.head? = some .blockEntry then some (.absent, s.goOn rest 1)
        else orAbsent (node? fuel true false) (s.goOn rest 0)
      let (items, s) ← blockItems? fuel bare s
      some (item :: items, s)
    | .blockEnd :: rest => some ([], if bare then s else s.goOn rest 0)
    | _ => if bare then some ([], s) else none

def blockMembers? : Nat → Source → Option (List (Node × Node) × Source)
  | 0, _ => none
  | fuel + 1, s =>
    match s.tokens with
    | .key :: rest => do
      let (member, s) ← pair? (node? fuel true true) (s.goOn rest 0)
      let (members, s) ← blockMembers? fuel s
      some (member :: members, s)
    | .blockEnd :: rest => some ([], s.goOn rest 0)
    | _ => none

/-- The items of a flow sequence, some of which may be a single pair; commas stand between them
and perhaps behind the last one. -/
def flowItems? : Nat → Bool → Source → Option (List Node × Source)
  | 0, _, _ => none
  | fuel + 1, first, s =>
    match first, s.tokens with
    | _, .flowSequenceEnd :: rest | false, .flowEntry :: .flowSequenceEnd :: rest =>
      some ([], s.goOn rest 0)
    | false, .flowEntry :: tokens | true, tokens => do
      let (item, s) ← match tokens with
        | .key :: rest =>
          if rest.head?.any leavesOut then none
          else
            (pair? (node? fuel false false) (s.goOn rest 2)).map fun r =>
              (.mapping none [r.1], r.2)
        | tokens => node? fuel false false (s.goOn tokens 0)
      let (items, s) ← flowItems? fuel false s
      some (item :: items, s)
    | false, _ => none

def flowMembers? : Nat → Bool → Source → Option (List (Node × Node) × Source)
  | 0, _, _ => none
  | fuel + 1, first, s =>
    match first, s.tokens with
    | _, .flowMappingEnd :: rest | false, .flowEntry :: .flowMappingEnd :: rest =>
      some ([], s.goOn rest 0)
    | false, .flowEntry :: tokens | true, tokens => do
      let (member, s) ← match tokens with
        | .key :: rest => pair? (node? fuel false false) (s.goOn rest 0)
        | tokens =>
          (node? fuel false false (s.goOn tokens 0)).map fun r =>
            ((r.1, .absent), r.2.goOn r.2.tokens 1)
      let (members, s) ← flowMembers? fuel false s
      some (member :: members, s)
    | false, _ => none

end

def knownTagStarts : List (String × String) := [("!", "!"), ("!!", "tag:yaml.org,2002:")]

/-- The directives in front of a document, none of which may be repeated. -/
def directives? (version : Bool) (tagStarts : List (String × String)) :
    List Token → Option (Bool × List (String × String) × List Token)
  | .version :: rest => if version then none else directives? true tagStarts rest
  | .tagStart handle start :: rest =>
    if tagStarts.any fun t => t.1 == handle then none
    else directives? version ((handle, start) :: tagStarts) rest
  | rest => some (version || !tagStarts.isEmpty, tagStarts, rest)

def content? (fuel : Nat) (tagStarts : List (String × String)) (tokens : List Token) :
    Option (Node × Source) :=
  let s : Source := { tokens := tokens, tagStarts := tagStarts ++ knownTagStarts }
  match tokens with
  | [] | .documentStart :: _ | .documentEnd :: _ | .version :: _ | .tagStart _ _ :: _ =>
    some (.absent, s)
  | _ => node? fuel true false s

/-- The node of the only document of a text. Aliases must not blow up the document more than a
hundredfold. -/
def Node.ofTokens? (tokens : List Token) : Option Node := do
  let fuel := 2 * tokens.length + 2
  let (directed, tagStarts, rest) ← directives? false [] tokens
  let (node, s) ← match directed, rest with
    | _, .documentStart :: rest => content? fuel tagStarts rest
    | true, _ | _, .documentEnd :: _ => none
    | false, _ => content? fuel [] rest
  if s.tokens.all (· = .documentEnd) ∧ s.aliases ≤ 100 * s.size then some node else none

def Node.ofText? (text : String) : Option Node := do
  let letters ← letters? text
  let tokens ← tokens? letters
  Node.ofTokens? tokens

end RecordQuery.Yaml
