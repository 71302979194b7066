import RecordQuery.Binary64
import RecordQuery.Binary64.Literal
import RecordQuery.Setting
import RecordQuery.Yaml.Node

/-! Settings in YAML. A plain scalar may be a truth value, a number or nothing at all, and tags can
ask for one of these; keys are always texts. -/
namespace RecordQuery.Setting

/-- An integer, of 128 bits, has a base after its sign if it is not decimal. A decimal one does not
begin with a needless zero. -/
def integer? (cs : List Char) : Option Int :=
  match cs with
  | '-' :: rest => (magnitude? rest).bind fun n => if n ≤ bound then some (-(n : Int)) else none
  | '+' :: rest => (magnitude? rest).bind fun n => if n < 2 * bound then some (n : Int) else none
  | _ => (magnitude? cs).bind fun n => if n < 2 * bound then some (n : Int) else none
where
  bound : Nat := 170141183460469231731687303715884105728
  magnitude? : List Char → Option Nat
    | '0' :: 'x' :: rest => readBase? 16 rest
    | '0' :: 'o' :: rest => readBase? 8 rest
    | '0' :: 'b' :: rest => readBase? 2 rest
    | '0' :: _ :: _ => none
    | cs => readNat? cs

/-- Digits that begin with a needless zero, behind a sign or not, are a text. -/
def hasNeedlessZero (cs : List Char) : Bool :=
  let digits := if cs.head? = some '-' || cs.head? = some '+' then cs.drop 1 else cs
  digits.head? = some '0' && digits.length ≠ 1 && digits.all isDecimalDigit

/-- Numbers with a point or an exponent, and the names of infinities and of no number. -/
def isFractional (cs : List Char) : Bool :=
  match String.ofList cs with
  | ".inf" | ".Inf" | ".INF" | "+.inf" | "+.Inf" | "+.INF" | "-.inf" | "-.Inf" | "-.INF"
  | ".nan" | ".NaN" | ".NAN" => true
  | _ => (Binary64.literal? cs).any fun d => (Binary64.nearest? (d.coeff < 0) d).isSome

def ofFlagName? : String → Option Setting
  | "true" | "True" | "TRUE" => some (.flag true)
  | "false" | "False" | "FALSE" => some (.flag false)
  | _ => none

def ofEmptyName? : String → Option Setting
  | "null" | "Null" | "NULL" | "~" => some .empty
  | _ => none

def ofInteger? (s : String) : Option Setting := (integer? s.toList).map .whole

def ofFractional? (s : String) : Option Setting :=
  if isFractional s.toList then some .fractional else none

def ofPlain (s : String) : Setting :=
  if s.isEmpty then .empty
  else
    (ofEmptyName? s <|> ofFlagName? s <|> ofInteger? s <|>
      (if hasNeedlessZero s.toList then none else ofFractional? s)).getD (.text s)

/-- Tags of our own have no meaning; those of the standard ask for a kind of value. -/
def ofTagged? (tag content : String) : Option Setting :=
  match tag with
  | "tag:yaml.org,2002:bool" => ofFlagName? content
  | "tag:yaml.org,2002:int" => ofInteger? content
  | "tag:yaml.org,2002:float" => ofFractional? content
  | "tag:yaml.org,2002:null" => ofEmptyName? content
  | _ => if tag.startsWith "!" then none else some (.text content)

def isLocal (tag : Option String) : Bool := tag.any fun tag => tag.startsWith "!"

mutual

def ofNode? : Yaml.Node → Option Setting
  | .scalar none content plain => some (if plain then ofPlain content else .text content)
  | .scalar (some tag) content _ => ofTagged? tag content
  | .sequence tag items => if isLocal tag then none else (ofItems? items).map .list
  | .mapping tag members => if isLocal tag then none else (ofPairs? members).map ofMembers

def ofItems? : List Yaml.Node → Option (List Setting)
  | [] => some []
  | node :: rest => do
    let setting ← ofNode? node
    let settings ← ofItems? rest
    some (setting :: settings)

def ofPairs? : List (Yaml.Node × Yaml.Node) → Option (List (String × Setting))
  | [] => some []
  | (.scalar _ name _, node) :: rest => do
    let setting ← ofNode? node
    let members ← ofPairs? rest
    some ((name, setting) :: members)
  | _ => none

end

/-- Collections are nested no deeper than this. -/
def depthLimit : Nat := 128

/-- A document as a group of settings; one without content is empty. -/
def ofDocument? (document : String) : Option Setting :=
  match Yaml.Node.ofText? document with
  | some (.mapping tag members) =>
    if (Yaml.Node.mapping tag members).depth ≤ depthLimit then (ofPairs? members).map ofMembers
    else none
  | some (.scalar _ "" true) => some (.group [])
  | _ => none

end RecordQuery.Setting
