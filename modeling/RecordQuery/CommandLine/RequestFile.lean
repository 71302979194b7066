import RecordQuery.Page
import RecordQuery.Request.Json

/-! The request file of the command line: a request and the page to show, in one JSON object. -/
namespace RecordQuery

structure PageChoice where
  index : Option UInt64
  size : Option UInt64
  origin : Option UInt64
  deriving DecidableEq, Repr

namespace PageChoice

def empty : PageChoice := ⟨none, none, none⟩

def ofJson? (json : Json) : Option PageChoice := do
  let word? := Json.orElse (Json.nullable Json.word?) none
  match ← json.fields? (PageRequest.fieldNames.map fun name => [name]) with
  | [index, size, origin] => some ⟨← word? index, ← word? size, ← word? origin⟩
  | _ => none

end PageChoice

structure RequestFile where
  request : Request
  page : PageChoice

namespace RequestFile

def empty : RequestFile := ⟨.empty, .empty⟩

/-- An object; a null page is none. -/
def ofJson? : Json → Option RequestFile
  | .object members => do
    match ← (Json.object members).fields? [["page"]] with
    | [page] =>
      some ⟨← Request.ofJson? (.object members), ← Json.orElse PageChoice.ofJson? .empty page⟩
    | _ => none
  | _ => none

inductive Place where
  | file
  | page
  | value

namespace Place

/-- Everything outside the page has to be readable, with or without a use for it. -/
def member? : Place → String → Option Place
  | file, "page" => some page
  | page, name => if PageRequest.fieldNames.contains name then some value else none
  | _, _ => some value

end Place

def outline : Json.Outline Place := ⟨Place.member?, fun _ _ => .value⟩

def ofText? (s : String) : Option RequestFile := (outline.ofText? .file s).bind ofJson?

end RequestFile

end RecordQuery
