import RecordQuery.Json.Fields
import RecordQuery.Json.Reader
import RecordQuery.Request
import RecordQuery.Value.Json

/-! Requests as JSON. Every field may be missing. `filters` stands for `children` and `dir` for
`direction`; a null filter, value or logic is absent. Of a text no more is read than the fields. -/
namespace RecordQuery

namespace Condition

inductive Part where
  | field (s : String)
  | operator (s : String)
  | value (v : Option Value)
  | logic (s : Option String)
  | children (cs : List Condition)
  | unknown

namespace Part

def field? : Part → Option String
  | field s => some s
  | _ => none

def operator? : Part → Option String
  | operator s => some s
  | _ => none

def value? : Part → Option (Option Value)
  | value v => some v
  | _ => none

def logic? : Part → Option (Option String)
  | logic s => some s
  | _ => none

def children? : Part → Option (List Condition)
  | children cs => some cs
  | _ => none

end Part

/-- A condition from its parts, none of which may be given twice. -/
def ofParts? (parts : List Part) : Option Condition := do
  let field ← single? (parts.filterMap Part.field?)
  let operator ← single? (parts.filterMap Part.operator?)
  let value ← single? (parts.filterMap Part.value?)
  let logic ← single? (parts.filterMap Part.logic?)
  let children ← single? (parts.filterMap Part.children?)
  some (node (field.getD "") (operator.getD "") value.join logic.join (children.getD []))

def scalar? (json : Json) : Option Value := (Value.ofJson json).toOption

/-- The fields in the order in which an array gives them. -/
def fieldNames : List String := ["field", "operator", "value", "logic", "children"]

mutual

def ofJson? : Json → Option Condition
  | .object members => (partsOfMembers? members).bind ofParts?
  | .array items =>
    if items.length ≤ fieldNames.length then (partsOfItems? fieldNames items).bind ofParts?
    else none
  | _ => none

def part? (name : String) : Json → Option Part
  | .array items =>
    match name with
    | "children" | "filters" => (listOfItems? items).map Part.children
    | "field" | "operator" | "value" | "logic" => none
    | _ => some .unknown
  | json =>
    match name with
    | "field" => json.text?.map Part.field
    | "operator" => json.text?.map Part.operator
    | "value" => (Json.nullable scalar? json).map Part.value
    | "logic" => (Json.nullable Json.text? json).map Part.logic
    | "children" | "filters" => none
    | _ => some .unknown

def partsOfMembers? : List (String × Json) → Option (List Part)
  | [] => some []
  | (name, json) :: rest => do
    let part ← part? name json
    let parts ← partsOfMembers? rest
    some (part :: parts)

def partsOfItems? : List String → List Json → Option (List Part)
  | name :: names, json :: rest => do
    let part ← part? name json
    let parts ← partsOfItems? names rest
    some (part :: parts)
  | _, _ => some []

def listOfItems? : List Json → Option (List Condition)
  | [] => some []
  | json :: rest => do
    let c ← ofJson? json
    let cs ← listOfItems? rest
    some (c :: cs)

end

mutual

def toJson : Condition → Json
  | node field operator value logic children =>
    .object <|
      [("field", .string field), ("operator", .string operator)] ++
        (value.map fun v => ("value", v.toJson)).toList ++
        (logic.map fun word => ("logic", Json.string word)).toList ++
        childrenToJson children

/-- The member for the children, left out if there are none. -/
def childrenToJson : List Condition → List (String × Json)
  | [] => []
  | c :: cs => [("children", .array (toJson c :: listToJson cs))]

def listToJson : List Condition → List Json
  | [] => []
  | c :: cs => toJson c :: listToJson cs

end

end Condition

namespace SortEntry

def ofJson? (json : Json) : Option SortEntry := do
  match ← json.fields? [["field"], ["direction", "dir"]] with
  | [field, direction] =>
    some ⟨← Json.orElse Json.text? "" field, ← Json.orElse Json.text? "" direction⟩
  | _ => none

def toJson (entry : SortEntry) : Json :=
  .object [("field", .string entry.field), ("direction", .string entry.direction)]

end SortEntry

namespace Request

def sortOfJson? (json : Json) : Option (List SortEntry) :=
  json.items?.bind fun items => items.mapM SortEntry.ofJson?

def ofJson? (json : Json) : Option Request := do
  match ← json.fields? [["sort"], ["filter"]] with
  | [sort, filter] =>
    some ⟨← Json.orElse sortOfJson? [] sort,
      ← Json.orElse (Json.nullable Condition.ofJson?) none filter⟩
  | _ => none

inductive Place where
  | request
  | entries
  | entry
  | condition
  | conditions
  | value

namespace Place

def member? : Place → String → Option Place
  | request, "sort" => some entries
  | request, "filter" => some condition
  | entry, "field" | entry, "direction" | entry, "dir" => some value
  | condition, "children" | condition, "filters" => some conditions
  | condition, name => if Condition.fieldNames.contains name then some value else none
  | request, _ | entry, _ => none
  | _, _ => some value

def item : Place → Nat → Place
  | request, 0 => entries
  | request, 1 => condition
  | entries, _ => entry
  | conditions, _ => condition
  | condition, 4 => conditions
  | _, _ => value

end Place

def outline : Json.Outline Place := ⟨Place.member?, Place.item⟩

def ofText? (s : String) : Option Request := (outline.ofText? .request s).bind ofJson?

def toJson (request : Request) : Json :=
  .object <|
    ("sort", .array (request.sort.map SortEntry.toJson)) ::
      (request.filter.map fun c => ("filter", c.toJson)).toList

end Request

end RecordQuery
