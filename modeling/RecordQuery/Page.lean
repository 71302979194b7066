import RecordQuery.FetchError
import RecordQuery.Json.Fields
import RecordQuery.Json.Reader

/-! Pages and requests for them, in 64-bit words. -/
namespace RecordQuery

/-- Page `index` of `size` records, where the first page has index `origin`. -/
structure PageRequest where
  index : UInt64
  size : UInt64
  origin : UInt64
  deriving DecidableEq, Repr

namespace PageRequest

def standard : PageRequest := ⟨1, 10, 1⟩

instance : Inhabited PageRequest := ⟨standard⟩

def oneBased (index size : UInt64) : PageRequest := ⟨index, size, 1⟩

/-- How many records come before the page. -/
def offset (r : PageRequest) : Except PageArgumentError UInt64 :=
  if r.index < r.origin then .error (.originPastIndex r.origin r.index)
  else if r.size = 0 then .error .zeroSize
  else
    match checkedMul (r.index - r.origin) r.size with
    | some n => .ok n
    | none => .error .offsetOverflow

def fieldNames : List String := ["index", "size", "origin"]

def ofJson? (json : Json) : Option PageRequest := do
  match ← json.fields? (fieldNames.map fun name => [name]) with
  | [index, size, origin] =>
    some ⟨← Json.orElse Json.word? standard.index index,
      ← Json.orElse Json.word? standard.size size,
      ← Json.orElse Json.word? standard.origin origin⟩
  | _ => none

/-- Reads a text, of which nothing but the fields matters. -/
def ofText? (s : String) : Option PageRequest :=
  ((Json.Outline.ofNames fieldNames).ofText? true s).bind ofJson?

def toJson (r : PageRequest) : Json :=
  .object [("index", .ofWord r.index), ("size", .ofWord r.size), ("origin", .ofWord r.origin)]

end PageRequest

/-- Some of the records that match, and where they stand among all of them. -/
structure Page (α : Type) where
  origin : UInt64
  index : UInt64
  size : UInt64
  totalCount : UInt64
  totalPages : UInt64
  items : List α
  hasPrevious : Bool
  hasNext : Bool
  deriving Repr

namespace Page

/-- The page for a request with the number of all matches and the records of the page. -/
def new (r : PageRequest) (totalCount : UInt64) (items : List α) : Page α :=
  let totalPages := ceilDiv totalCount (max r.size 1)
  let position := saturatingSub r.index r.origin
  { origin := r.origin
    index := r.index
    size := r.size
    totalCount := totalCount
    totalPages := totalPages
    items := items
    hasPrevious := 0 < position
    hasNext := saturatingAdd position 1 < totalPages }

def map (f : α → β) (p : Page α) : Page β := { p with items := p.items.map f }

def toJson (item : α → Json) (p : Page α) : Json :=
  .object
    [("origin", .ofWord p.origin), ("index", .ofWord p.index), ("size", .ofWord p.size),
      ("totalCount", .ofWord p.totalCount), ("totalPages", .ofWord p.totalPages),
      ("items", .array (p.items.map item)), ("hasPrevious", .bool p.hasPrevious),
      ("hasNext", .bool p.hasNext)]

def ofJson? (item : Json → Option α) (json : Json) : Option (Page α) := do
  match ← json.fields? [["origin"], ["index"], ["size"], ["totalCount"], ["totalPages"], ["items"],
      ["hasPrevious"], ["hasNext"]] with
  | [some origin, some index, some size, some totalCount, some totalPages, some items,
      some hasPrevious, some hasNext] =>
    some ⟨← origin.word?, ← index.word?, ← size.word?, ← totalCount.word?, ← totalPages.word?,
      ← (← items.items?).mapM item, ← hasPrevious.flag?, ← hasNext.flag?⟩
  | _ => none

def same (item : α → α → Bool) (a b : Page α) : Bool :=
  a.origin == b.origin && a.index == b.index && a.size == b.size &&
    a.totalCount == b.totalCount && a.totalPages == b.totalPages &&
    a.items.length == b.items.length && (a.items.zip b.items).all (fun ab => item ab.1 ab.2) &&
    a.hasPrevious == b.hasPrevious && a.hasNext == b.hasNext

end Page

end RecordQuery
