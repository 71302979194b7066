import RecordQuery.Proofs.DecimalText
import RecordQuery.Proofs.Fits
import RecordQuery.Proofs.Preorder
import RecordQuery.Proofs.Shortest
import RecordQuery.Request.Json

/-! Requests that are written as JSON and read again. A number may come back in another form, a real
one as an integer even, but never with another value. -/
namespace RecordQuery

namespace Json.Number

/-- Written as a decimal and read back, a number has the value that it had. -/
theorem reread {n : Number} (fits : n.Fits) :
    ∃ m, ofDecimal? n.toDecimal = some m ∧ m.toDecimal.value = n.toDecimal.value := by
  by_cases zero : n.toDecimal.coeff = 0
  · have same : (Number.int 0).toDecimal.value = n.toDecimal.value :=
      (Decimal.value_of_zero rfl).trans (Decimal.value_of_zero zero).symm
    exact ⟨.int 0, Decimal.ofDecimal?_zero zero, same⟩
  have read := Decimal.ofDecimal?_eq zero
  cases n with
  | int n =>
    have same : (Number.int n).toDecimal.integer = n := mul_one n
    have inside : fitsWord n = true := fits
    have short : (-15 : Int) ≤ 0 := by decide
    rw [same, if_pos ⟨Int.le_refl 0, short, inside⟩] at read
    exact ⟨.int n, read, rfl⟩
  | real x =>
    have nonzero : x.mantissa ≠ 0 := by
      intro none
      have real : x.isZero = true := beq_iff_eq.mpr none
      simp [toDecimal, spelled, real] at zero
    obtain ⟨-, sign, rounds⟩ := spelled_rounds nonzero
    split at read
    · -- the text is an integer of 64 bits, which is what comes back
      rename_i whole
      exact ⟨_, read, Decimal.integer_value whole.1⟩
    · rw [toDecimal, sign, rounds] at read
      exact ⟨.real x, read, rfl⟩

end Json.Number

/-- What is written for the value is read as a value equal to it. -/
def Value.Rereads (v : Value) : Prop :=
  ∃ w, Json.nullable Condition.scalar? v.toJson = some (some w) ∧ w.same v = true

theorem Value.rereads_of_read {json : Json} (fits : json.Fits) {v : Value}
    (read : Json.nullable Condition.scalar? json = some (some v)) : v.Rereads := by
  cases json with
  | null | array | object => cases read
  | bool b =>
    cases read
    exact ⟨.bool b, rfl, by simp [same]⟩
  | string s =>
    cases read
    exact ⟨.text s, rfl, by simp [same]⟩
  | number n =>
    cases read
    obtain ⟨m, found, value⟩ := Json.Number.reread fits
    refine ⟨.number m.toDecimal, ?_, (Decimal.sameValue_iff _ _).mpr value⟩
    rw [toJson, found]
    rfl

namespace Condition

/-- All values in the tree are read back as they were. -/
def Rereads (c : Condition) : Prop :=
  ∀ n ∈ c.nodes, ∀ v, n.value = some v → v.Rereads

def AllReread (cs : List Condition) : Prop :=
  ∀ n ∈ nodesAll cs, ∀ v, n.value = some v → v.Rereads

theorem rereads_node (field operator : String) (value : Option Value) (logic : Option String)
    (children : List Condition) :
    (node field operator value logic children).Rereads ↔
      (∀ v, value = some v → v.Rereads) ∧ AllReread children := by
  rw [Rereads, nodes, List.forall_mem_cons]
  rfl

theorem allReread_cons (c : Condition) (cs : List Condition) :
    AllReread (c :: cs) ↔ c.Rereads ∧ AllReread cs := by
  rw [AllReread, nodesAll, List.forall_mem_append]
  rfl

def Part.Rereads : Part → Prop
  | .value v => ∀ w, v = some w → w.Rereads
  | .children cs => AllReread cs
  | _ => True

theorem rereads_of_parts {parts : List Part} (good : ∀ part ∈ parts, part.Rereads) {c : Condition}
    (made : ofParts? parts = some c) : c.Rereads := by
  obtain ⟨field, -, made⟩ := Option.bind_eq_some_iff.mp made
  obtain ⟨operator, -, made⟩ := Option.bind_eq_some_iff.mp made
  obtain ⟨value, oneValue, made⟩ := Option.bind_eq_some_iff.mp made
  obtain ⟨logic, -, made⟩ := Option.bind_eq_some_iff.mp made
  obtain ⟨children, oneList, made⟩ := Option.bind_eq_some_iff.mp made
  obtain rfl := Option.some.inj made
  refine (rereads_node _ _ _ _ _).mpr ⟨fun v given => ?_, ?_⟩
  · obtain rfl := Option.join_eq_some_iff.mp given
    obtain ⟨part, member, this⟩ := List.mem_filterMap.mp (mem_of_single? oneValue)
    cases part with
    | value w =>
      obtain rfl := Option.some.inj this
      exact good _ member v rfl
    | field | operator | logic | children | unknown => cases this
  · cases children with
    | none => exact nofun
    | some cs =>
      obtain ⟨part, member, this⟩ := List.mem_filterMap.mp (mem_of_single? oneList)
      cases part with
      | children ds =>
        obtain rfl := Option.some.inj this
        exact good _ member
      | field | operator | value | logic | unknown => cases this

/-- Of the parts that are no lists only values matter. -/
theorem part?_rereads_plain {name : String} {json : Json} (fits : json.Fits) {part : Part}
    (read : part? name json = some part) (plain : ∀ items, json ≠ .array items) :
    part.Rereads := by
  cases json with
  | array items => exact absurd rfl (plain items)
  | null | bool | number | string | object =>
    simp only [part?] at read
    split at read
    · obtain ⟨_, -, rfl⟩ := Option.map_eq_some_iff.mp read
      trivial
    · obtain ⟨_, -, rfl⟩ := Option.map_eq_some_iff.mp read
      trivial
    · obtain ⟨w, found, rfl⟩ := Option.map_eq_some_iff.mp read
      exact fun v given => Value.rereads_of_read fits (given ▸ found)
    · obtain ⟨_, -, rfl⟩ := Option.map_eq_some_iff.mp read
      trivial
    · cases read
    · cases read
    · cases read
      trivial

-- The induction goes the way the reading goes, down the JSON value, with one statement for each of
-- the functions that read: a tree, a part of it, and the parts in an object, an array or a list.
mutual

theorem ofJson?_rereads : ∀ {json : Json}, json.Fits → ∀ {c : Condition}, ofJson? json = some c →
    c.Rereads
  | .object members, fits, c, read => by
    obtain ⟨parts, found, made⟩ := Option.bind_eq_some_iff.mp read
    exact rereads_of_parts (partsOfMembers?_reread fits found) made
  | .array items, fits, c, read => by
    simp only [ofJson?] at read
    split at read
    · obtain ⟨parts, found, made⟩ := Option.bind_eq_some_iff.mp read
      exact rereads_of_parts (partsOfItems?_reread fits found) made
    · cases read
  | .null, _, _, read | .bool _, _, _, read | .number _, _, _, read | .string _, _, _, read => by
    cases read

theorem part?_rereads {name : String} : ∀ {json : Json}, json.Fits → ∀ {part : Part},
    part? name json = some part → part.Rereads
  | .array items, fits, part, read => by
    simp only [part?] at read
    split at read
    · obtain ⟨cs, found, rfl⟩ := Option.map_eq_some_iff.mp read
      exact listOfItems?_reread fits found
    · obtain ⟨cs, found, rfl⟩ := Option.map_eq_some_iff.mp read
      exact listOfItems?_reread fits found
    · cases read
    · cases read
    · cases read
    · cases read
    · cases read
      trivial
  | .null, fits, _, read | .bool _, fits, _, read | .number _, fits, _, read
  | .string _, fits, _, read | .object _, fits, _, read =>
    part?_rereads_plain fits read fun _ => nofun

theorem partsOfMembers?_reread : ∀ {members : List (String × Json)}, Json.FitMembers members →
    ∀ {parts : List Part}, partsOfMembers? members = some parts → ∀ part ∈ parts, part.Rereads
  | [], _, parts, read => by
    cases read
    exact nofun
  | (name, json) :: rest, fits, parts, read => by
    obtain ⟨part, first, others⟩ := Option.bind_eq_some_iff.mp read
    obtain ⟨more, found, made⟩ := Option.bind_eq_some_iff.mp others
    cases made
    exact List.forall_mem_cons.mpr
      ⟨part?_rereads fits.1 first, partsOfMembers?_reread fits.2 found⟩

theorem partsOfItems?_reread : ∀ {names : List String} {items : List Json}, Json.FitAll items →
    ∀ {parts : List Part}, partsOfItems? names items = some parts → ∀ part ∈ parts, part.Rereads
  | name :: names, json :: rest, fits, parts, read => by
    obtain ⟨part, first, others⟩ := Option.bind_eq_some_iff.mp read
    obtain ⟨more, found, made⟩ := Option.bind_eq_some_iff.mp others
    cases made
    exact List.forall_mem_cons.mpr
      ⟨part?_rereads fits.1 first, partsOfItems?_reread fits.2 found⟩
  | [], _, _, _, read => by
    simp only [partsOfItems?] at read
    cases read
    exact nofun
  | _ :: _, [], _, _, read => by
    cases read
    exact nofun

theorem listOfItems?_reread : ∀ {items : List Json}, Json.FitAll items →
    ∀ {cs : List Condition}, listOfItems? items = some cs → AllReread cs
  | [], _, cs, read => by
    cases read
    exact nofun
  | json :: rest, fits, cs, read => by
    obtain ⟨c, first, others⟩ := Option.bind_eq_some_iff.mp read
    obtain ⟨more, found, made⟩ := Option.bind_eq_some_iff.mp others
    cases made
    exact (allReread_cons c more).mpr
      ⟨ofJson?_rereads fits.1 first, listOfItems?_reread fits.2 found⟩

end

/-- The parts that a condition is written in. -/
def written (field operator : String) (value : Option Value) (logic : Option String)
    (children : List Condition) : List Part :=
  [.field field, .operator operator] ++ (value.map fun v => Part.value (some v)).toList ++
    (logic.map fun word => Part.logic (some word)).toList ++
    if children.isEmpty then [] else [.children children]

theorem ofParts?_written (field operator : String) (value : Option Value) (logic : Option String)
    (children : List Condition) :
    ofParts? (written field operator value logic children) =
      some (node field operator value logic children) := by
  cases value <;> cases logic <;> cases children <;> rfl

theorem partsOfMembers?_append {left right : List (String × Json)} {ps qs : List Part}
    (first : partsOfMembers? left = some ps) (second : partsOfMembers? right = some qs) :
    partsOfMembers? (left ++ right) = some (ps ++ qs) := by
  induction left generalizing ps with
  | nil =>
    cases first
    exact second
  | cons m rest ih =>
    obtain ⟨part, head, others⟩ := Option.bind_eq_some_iff.mp first
    obtain ⟨more, tail, made⟩ := Option.bind_eq_some_iff.mp others
    cases made
    have joined := ih tail
    simp [partsOfMembers?, head, joined]

theorem part?_value {json : Json} {w : Value}
    (read : Json.nullable scalar? json = some (some w)) :
    part? "value" json = some (.value (some w)) := by
  cases json with
  | array => cases read
  | null | bool | number | string | object => simp only [part?, read, Option.map_some]

theorem value_written {value : Option Value} (good : ∀ v, value = some v → v.Rereads) :
    ∃ w : Option Value, (w == value) = true ∧
      partsOfMembers? (value.map fun v => ("value", v.toJson)).toList =
        some (w.map fun v => Part.value (some v)).toList := by
  cases value with
  | none => exact ⟨none, rfl, rfl⟩
  | some v =>
    obtain ⟨w, read, same⟩ := good v rfl
    refine ⟨some w, same, ?_⟩
    simp [partsOfMembers?, part?_value read]

theorem logic_written (logic : Option String) :
    partsOfMembers? (logic.map fun word => ("logic", Json.string word)).toList =
      some (logic.map fun word => Part.logic (some word)).toList := by
  cases logic <;> rfl

/-- Children that are read from no list are the ones of a condition without any. -/
theorem children_written {cs ds : List Condition}
    (found : listOfItems? (listToJson cs) = some ds) :
    partsOfMembers? (childrenToJson cs) = some (if ds.isEmpty then [] else [.children ds]) := by
  cases cs with
  | nil =>
    cases found
    rfl
  | cons c cs =>
    have nonempty : ds.isEmpty = false := by
      obtain ⟨d, -, others⟩ := Option.bind_eq_some_iff.mp found
      obtain ⟨more, -, made⟩ := Option.bind_eq_some_iff.mp others
      cases made
      rfl
    rw [listToJson] at found
    simp [childrenToJson, partsOfMembers?, part?, found, nonempty]

mutual

theorem tree_reread : ∀ {c : Condition}, c.Rereads →
    ∃ d, ofJson? c.toJson = some d ∧ d.same c = true
  | node field operator value logic children, good => by
    obtain ⟨values, below⟩ := (rereads_node _ _ _ _ _).mp good
    obtain ⟨w, sameValue, valuePart⟩ := value_written values
    obtain ⟨ds, found, sameChildren⟩ := list_reread below
    have parts : partsOfMembers? ([("field", Json.string field), ("operator", .string operator)] ++
        (value.map fun v => ("value", v.toJson)).toList ++
        (logic.map fun word => ("logic", Json.string word)).toList ++ childrenToJson children) =
          some (written field operator w logic ds) := by
      have named : partsOfMembers? [("field", .string field), ("operator", .string operator)] =
          some [.field field, .operator operator] := rfl
      exact partsOfMembers?_append (partsOfMembers?_append (partsOfMembers?_append named valuePart)
        (logic_written logic)) (children_written found)
    -- only the value and the children may differ from what was written, and both by numbers alone
    refine ⟨node field operator w logic ds, ?_, ?_⟩
    · rw [toJson, ofJson?, parts, Option.bind_some, ofParts?_written]
    · simp [same, sameValue, sameChildren]

theorem list_reread : ∀ {cs : List Condition}, AllReread cs →
    ∃ ds, listOfItems? (listToJson cs) = some ds ∧ sameAll ds cs = true
  | [], _ => ⟨[], rfl, rfl⟩
  | c :: cs, good => by
    obtain ⟨first, others⟩ := (allReread_cons c cs).mp good
    obtain ⟨d, head, sameHead⟩ := tree_reread first
    obtain ⟨ds, tail, sameTail⟩ := list_reread others
    refine ⟨d :: ds, ?_, ?_⟩
    · simp [listToJson, listOfItems?, head, tail]
    · simp [sameAll, sameHead, sameTail]

end

end Condition

theorem SortEntry.ofJson?_toJson (entry : SortEntry) : ofJson? entry.toJson = some entry := rfl

namespace Request

theorem sortOfJson?_toJson (entries : List SortEntry) :
    sortOfJson? (.array (entries.map SortEntry.toJson)) = some entries := by
  have each : SortEntry.ofJson? ∘ SortEntry.toJson = some := funext SortEntry.ofJson?_toJson
  rw [sortOfJson?, Json.items?, Option.bind_some, List.mapM_map, each]
  exact List.mapM_pure.trans (by simp)

theorem fields?_toJson (request : Request) :
    request.toJson.fields? [["sort"], ["filter"]] =
      some [some (.array (request.sort.map SortEntry.toJson)), request.filter.map (·.toJson)] := by
  obtain ⟨entries, root⟩ := request
  cases root <;> rfl

/-- All values in the filter are read back as they were. -/
def Rereads (q : Request) : Prop := ∀ c, q.filter = some c → c.Rereads

theorem filter_rereads {field : Option Json} (fits : ∀ json ∈ field, json.Fits)
    {filter : Option Condition}
    (read : Json.orElse (Json.nullable Condition.ofJson?) none field = some filter) :
    ∀ c, filter = some c → c.Rereads := by
  rintro c rfl
  cases field with
  | none => cases read
  | some json =>
    cases json with
    | null | bool | number | string => cases read
    | array | object =>
      obtain ⟨d, found, same⟩ := Option.map_eq_some_iff.mp read
      cases same
      exact Condition.ofJson?_rereads (fits _ rfl) found

theorem ofJson?_rereads {json : Json} (fits : json.Fits) {q : Request}
    (read : ofJson? json = some q) : q.Rereads := by
  obtain ⟨fields, found, read⟩ := Option.bind_eq_some_iff.mp read
  have parts := Json.fields?_fit fits found
  split at read
  · rename_i sort filter
    obtain ⟨entries, -, read⟩ := Option.bind_eq_some_iff.mp read
    obtain ⟨root, readFilter, made⟩ := Option.bind_eq_some_iff.mp read
    obtain rfl := Option.some.inj made
    exact filter_rereads (parts filter (by simp)) readFilter
  · cases read

/-- A condition that is read at all is not read from null. -/
theorem filter_written {c d : Condition} (read : Condition.ofJson? c.toJson = some d) :
    Json.nullable Condition.ofJson? c.toJson = some (some d) := by
  cases c
  simp only [Condition.toJson] at read ⊢
  simp only [Json.nullable, read, Option.map_some]

theorem ofJson?_of_fields {request : Request} {filter : Option Condition}
    (read : Json.orElse (Json.nullable Condition.ofJson?) none (request.filter.map (·.toJson)) =
      some filter) : ofJson? request.toJson = some ⟨request.sort, filter⟩ := by
  have entries : Json.orElse sortOfJson? [] (some (.array (request.sort.map SortEntry.toJson))) =
      some request.sort := sortOfJson?_toJson request.sort
  rw [ofJson?, fields?_toJson]
  simp [read, entries]

theorem reread {q : Request} (good : q.Rereads) :
    ∃ r, ofJson? q.toJson = some r ∧ r.same q = true := by
  obtain ⟨entries, root⟩ := q
  cases root with
  | none => exact ⟨⟨entries, none⟩, ofJson?_of_fields rfl, by simp [same]⟩
  | some c =>
    obtain ⟨d, again, alike⟩ := Condition.tree_reread (good c rfl)
    have written := filter_written again
    exact ⟨⟨entries, some d⟩, ofJson?_of_fields written, by simp [same, alike]⟩

/-- The integers in a text take 64 bits or are read as binary64 numbers. -/
theorem reread_of_text {s : String} {q : Request} (read : ofText? s = some q) :
    ∃ r, ofJson? q.toJson = some r ∧ r.same q = true := by
  obtain ⟨json, text, made⟩ := Option.bind_eq_some_iff.mp read
  exact reread (ofJson?_rereads (Json.Outline.ofText?_fits text) made)

end Request

/-- A request that was read from JSON is read again from what is written for it, up to the form of
its numbers. That the value fits says no more than that its integers are of the kind JSON values
hold; the ones read from a text are, see `Json.Outline.ofText?_fits`. -/
theorem request_reread {json : Json} (fits : json.Fits) {q : Request}
    (read : Request.ofJson? json = some q) :
    ∃ r, Request.ofJson? q.toJson = some r ∧ r.same q = true :=
  Request.reread (Request.ofJson?_rereads fits read)

/-- The number 12345678000000000000. -/
def largeReal : Binary64 :=
  ⟨false, 6028163085937500, 11, by decide, by decide, by decide, by decide⟩

/-- A request with other names for its members, an array in place of a condition, a null and a
member that is not known, and with a real number that is written as an integer. -/
def looseJson : Json :=
  .object [("page", .number (.int 3)),
    ("filter", .object [("field", .string "age"), ("operator", .string "gte"),
      ("value", .number (.int 18)), ("logic", .string "or"),
      ("filters", .array [.array [.string "size", .string "lt", .number (.real largeReal)],
        .object [("operator", .string "isNull"), ("value", .null)]])]),
    ("sort", .array [.object [("dir", .string "desc"), ("field", .string "age")]])]

def looseRequest : Request :=
  ⟨[⟨"age", "desc"⟩], some <| .node "age" "gte" (some (.ofInt 18)) (some "or")
    [.node "size" "lt" (some (.number ⟨12345678, -12⟩)) none [], .node "" "isNull" none none []]⟩

theorem request_reread_loose :
    looseJson.Fits ∧ Request.ofJson? looseJson = some looseRequest ∧
      (Value.number ⟨12345678, -12⟩).toJson = .number (.int 12345678000000000000) ∧
      ∃ r, Request.ofJson? looseRequest.toJson = some r ∧ r.same looseRequest = true := by
  have fits : looseJson.Fits := by
    simp [looseJson, Json.Fits, Json.FitAll, Json.FitMembers, Json.Number.Fits, fitsWord, minInt64,
      maxUInt64]
  have read : Request.ofJson? looseJson = some looseRequest := rfl
  exact ⟨fits, read, rfl, request_reread fits read⟩

end RecordQuery
