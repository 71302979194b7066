import RecordQuery.Text.Digits
import RecordQuery.Word

/-! Arguments of the program. Options may stand before or after the command; those after it win. -/
namespace RecordQuery

inductive Command where
  | query
  | check
  deriving DecidableEq, Repr

def Command.ofName? : String → Option Command
  | "query" => some query
  | "check" => some check
  | _ => none

structure Options where
  config : Option String := none
  data : Option String := none
  request : Option String := none
  index : Option UInt64 := none
  size : Option UInt64 := none
  origin : Option UInt64 := none
  printConfig : Bool := false
  verbosity : Nat := 0
  deriving Repr, Inhabited

structure Arguments where
  options : Options
  command : Option Command
  deriving Repr, Inhabited

inductive Usage where
  | wrong
  | help
  | version
  deriving DecidableEq, Repr

inductive ValueOption where
  | config | data | request | index | size | origin
  deriving DecidableEq, Repr

namespace ValueOption

def ofLong? : String → Option ValueOption
  | "config" => some config
  | "data" => some data
  | "request" => some request
  | "index" => some index
  | "size" => some size
  | "origin" => some origin
  | _ => none

def ofShort? : Char → Option ValueOption
  | 'c' => some config
  | 'd' => some data
  | 'r' => some request
  | _ => none

end ValueOption

namespace Options

def put (old : Option α) (new : Option α) : Except Usage (Option α) :=
  match old, new with
  | none, some x => .ok (some x)
  | _, _ => .error .wrong

def word? (value : String) : Option UInt64 :=
  ((readSignedNat? value.toList).filter (· ≤ maxUInt64)).map UInt64.ofNat

def path? (value : String) : Option String := if value.isEmpty then none else some value

/-- Sets an option, which may be given once. -/
def set (o : Options) (option : ValueOption) (value : String) : Except Usage Options := do
  match option with
  | .config => return { o with config := ← put o.config (path? value) }
  | .data => return { o with data := ← put o.data (path? value) }
  | .request => return { o with request := ← put o.request (path? value) }
  | .index => return { o with index := ← put o.index (word? value) }
  | .size => return { o with size := ← put o.size (word? value) }
  | .origin => return { o with origin := ← put o.origin (word? value) }

def setPrintConfig (o : Options) : Except Usage Options :=
  if o.printConfig then .error .wrong else .ok { o with printConfig := true }

def merge (before after : Options) : Options where
  config := after.config <|> before.config
  data := after.data <|> before.data
  request := after.request <|> before.request
  index := after.index <|> before.index
  size := after.size <|> before.size
  origin := after.origin <|> before.origin
  printConfig := after.printConfig || before.printConfig
  verbosity := if after.verbosity = 0 then before.verbosity else after.verbosity

end Options

inductive Options.Next where
  | done (o : Options)
  | value (o : Options) (option : ValueOption)

namespace Options

/-- Takes letters behind one hyphen; the first option that takes a value has the rest as its
value. -/
def short (o : Options) : List Char → Except Usage Next
  | [] => .ok (.done o)
  | c :: rest =>
    match ValueOption.ofShort? c with
    | some option =>
      match rest with
      | [] => .ok (.value o option)
      | '=' :: value => (o.set option (String.ofList value)).map .done
      | value => (o.set option (String.ofList value)).map .done
    | none =>
      match c with
      | 'v' => short { o with verbosity := o.verbosity + 1 } rest
      | 'h' => .error .help
      | 'V' => .error .version
      | _ => .error .wrong

/-- Takes a word behind two hyphens, with a value after an equals sign. -/
def long (o : Options) (cs : List Char) : Except Usage Next :=
  let name := String.ofList (cs.takeWhile (· ≠ '='))
  match cs.dropWhile (· ≠ '='), ValueOption.ofLong? name with
  | [], some option => .ok (.value o option)
  | _ :: value, some option => (o.set option (String.ofList value)).map .done
  | [], none =>
    match name with
    | "print-config" => o.setPrintConfig.map .done
    | "verbose" => .ok (.done { o with verbosity := o.verbosity + 1 })
    | "help" => .error .help
    | "version" => .error .version
    | _ => .error .wrong
  | _ :: _, none => .error .wrong

end Options

structure Reading where
  /-- The command and the options in front of it, once the command has been seen. -/
  before : Option (Options × Command) := none
  options : Options := {}
  /-- The option whose value comes next. -/
  pending : Option ValueOption := none
  /-- Two hyphens alone end the arguments. -/
  ended : Bool := false

namespace Reading

def take (r : Reading) : Options.Next → Reading
  | .done o => { r with options := o, pending := none }
  | .value o option => { r with options := o, pending := some option }

/-- The version can be asked for in front of the command only. -/
def usage (r : Reading) : Usage → Usage
  | .version => if r.before.isSome then .wrong else .version
  | u => u

def isOption (cs : List Char) : Bool := cs.head? = some '-' && cs.length ≠ 1

def step (r : Reading) (arg : String) : Except Usage Reading :=
  if r.ended then .error .wrong
  else
    match r.pending with
    | some option =>
      if isOption arg.toList then .error .wrong
      else (r.options.set option arg).map fun o => r.take (.done o)
    | none =>
      match arg.toList with
      | ['-', '-'] => .ok { r with ended := true }
      | '-' :: '-' :: cs => ((r.options.long cs).map r.take).mapError r.usage
      | '-' :: c :: cs => ((r.options.short (c :: cs)).map r.take).mapError r.usage
      | _ =>
        match r.before, Command.ofName? arg with
        | none, some command => .ok { r with before := some (r.options, command), options := {} }
        | _, _ => .error .wrong

/-- The arguments, if no option lacks its value. -/
def finish (r : Reading) : Except Usage Arguments :=
  match r.pending, r.before with
  | some _, _ => .error .wrong
  | none, none => .ok ⟨r.options, none⟩
  | none, some (first, command) => .ok ⟨first.merge r.options, some command⟩

end Reading

def Arguments.read (args : List String) : Except Usage Arguments := do
  let r ← args.foldlM Reading.step {}
  r.finish

end RecordQuery
