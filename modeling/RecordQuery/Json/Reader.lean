import RecordQuery.Json.Token

/-! Reading JSON: tokens to a value, one after the other, by means of a stack of the containers
still open. An outline says which parts of a value there is a use for; the others need no more
than the right form. -/
namespace RecordQuery.Json

structure Outline (σ : Type) where
  member : σ → String → Option σ
  item : σ → Nat → σ

def Outline.whole : Outline Unit := ⟨fun _ _ => some (), fun _ _ => ()⟩

/-- Reads of an object the members of these names; of an array, or further down, everything. -/
def Outline.ofNames (names : List String) : Outline Bool :=
  ⟨fun top name => if top && !names.contains name then none else some false, fun _ _ => false⟩

/-- A container still open, its contents so far held backwards; `part` is none if it is not
read. -/
inductive Frame (σ : Type) where
  | array (part : Option σ) (position : Nat) (items : List Json)
  | object (part : Option σ) (members : List (String × Json)) (name : String)

inductive Expecting where
  | item
  | itemOrEnd
  | name (members : List (String × Json))
  | nameOrEnd
  | colon (members : List (String × Json)) (name : String)
  /-- A value is complete; it belongs to the innermost open container. It is none if it is not
  read. -/
  | complete (json : Option Json)

namespace Outline

def next (o : Outline σ) (start : σ) : List (Frame σ) → Option σ
  | [] => some start
  | .array part position _ :: _ => part.map fun p => o.item p position
  | .object part _ name :: _ => part.bind fun p => o.member p name

/-- A value that is read stands for something; any other is left out. -/
def keep? (part : Option σ) (value : Option α) : Option (Option α) :=
  match part with
  | some _ => value.map some
  | none => some none

def open? (limit : Option Nat) (part : Option σ) (frames : List (Frame σ)) :
    Token → Option (List (Frame σ) × Expecting)
  | .string s => (keep? part (s.map Json.string)).map fun json => (frames, .complete json)
  | .scalar json => (keep? part json).map fun json => (frames, .complete json)
  | .openArray => if room then some (.array part 0 [] :: frames, .itemOrEnd) else none
  | .openObject => if room then some (.object part [] "" :: frames, .nameOrEnd) else none
  | _ => none
where
  room : Bool := part.isNone || limit.all fun n => frames.length + 1 < n

def build? (o : Outline σ) (start : σ) (limit : Option Nat) (frames : List (Frame σ))
    (state : Expecting) (token : Token) : Option (List (Frame σ) × Expecting) :=
  let begin := open? limit (o.next start frames) frames token
  match state, token, frames with
  | .itemOrEnd, .closeArray, .array part _ _ :: below =>
    some (below, .complete (part.map fun _ => .array []))
  | .item, _, _ | .itemOrEnd, _, _ => begin
  | .nameOrEnd, .closeObject, .object part _ _ :: below =>
    some (below, .complete (part.map fun _ => .object []))
  | .nameOrEnd, .string s, .object part _ _ :: _ =>
    (keep? part s).map fun name => (frames, .colon [] (name.getD ""))
  | .name members, .string s, .object part _ _ :: _ =>
    (keep? part s).map fun name => (frames, .colon members (name.getD ""))
  | .colon members name, .colon, .object part _ _ :: below =>
    some (.object part members name :: below, .item)
  | .complete json, .comma, .array part position items :: below =>
    some (.array part (position + 1) (json.toList ++ items) :: below, .item)
  | .complete json, .closeArray, .array part _ items :: below =>
    some (below, .complete (part.map fun _ => .array (json.toList ++ items).reverse))
  | .complete json, .comma, .object _ members name :: _ =>
    some (frames, .name ((json.map (name, ·)).toList ++ members))
  | .complete json, .closeObject, .object part members name :: below =>
    some (below, .complete (part.map fun _ =>
      .object ((json.map (name, ·)).toList ++ members).reverse))
  | _, _, _ => none

def buildAll? (o : Outline σ) (start : σ) (limit : Option Nat) (frames : List (Frame σ))
    (state : Expecting) : List Token → Option Json
  | [] =>
    match frames, state with
    | [], .complete json => json
    | _, _ => none
  | token :: rest =>
    match o.build? start limit frames state token with
    | none => none
    | some (frames, state) => buildAll? o start limit frames state rest

end Outline

def depthLimit : Nat := 128

/-- Reads a text, members in the order written and repeated names kept. -/
def ofText? (s : String) (limit : Option Nat) : Option Json :=
  (tokens? s.toList).bind (Outline.whole.buildAll? () limit [] .item)

def Outline.ofText? (o : Outline σ) (start : σ) (s : String) : Option Json :=
  (tokens? s.toList).bind (o.buildAll? start depthLimit [] .item)

end RecordQuery.Json
