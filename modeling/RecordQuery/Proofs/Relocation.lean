import Mathlib.Data.List.Nodup
import RecordQuery.Json.Path
import RecordQuery.Proofs.Digits
import RecordQuery.Proofs.Views

/-! Records that stand inside other records. A filter or an order is moved to the outer record by
putting the name of the member, or the index of the element, in front of every path. It then does
outside what it did inside. -/
namespace RecordQuery

variable {α β γ δ ε ζ σ τ : Type}

section

variable {x : Except ε σ} {blame : ε → ζ} {next : σ → Except ε γ}

theorem bind_mapError {x' : Except ζ σ} {next' : σ → Except ζ γ} (first : x' = x.mapError blame)
    (rest : ∀ a, next' a = (next a).mapError blame) :
    x' >>= next' = (x >>= next).mapError blame := by
  subst first
  cases x with
  | error e => rfl
  | ok a => exact rest a

theorem bind_map_mapError {x' : Except ζ τ} {carry : σ → τ} {next' : τ → Except ζ γ}
    (first : x' = (x.map carry).mapError blame)
    (rest : ∀ a, next' (carry a) = (next a).mapError blame) :
    x' >>= next' = (x >>= next).mapError blame := by
  subst first
  cases x with
  | error e => rfl
  | ok a => exact rest a

end

section

variable {x : Except ε σ} {y : Except ζ τ} {f : σ → γ} {g : τ → γ} {blame : ζ → ε}

theorem ok_iff_of_map_eq (same : x.map f = (y.map g).mapError blame) :
    (∃ a, x = .ok a) ↔ ∃ b, y = .ok b := by
  cases x <;> cases y
  all_goals simp_all [Except.map, Except.mapError]

end

/-! Other paths for the fields. -/

def BindError.mapPath (g : String → String) : BindError → BindError
  | unknownField path => unknownField (g path)
  | typeMismatch field expected got => typeMismatch (g field) expected got
  | e => e

def Operand.mapPath (g : String → String) : Operand α → Operand α
  | literal v => literal v
  | field path f => field (g path) f

def SortKey.mapPath (g : String → String) (key : SortKey) : SortKey := ⟨g key.field, key.direction⟩

namespace Formula

def mapPaths (g : String → String) : Formula → Formula
  | field p path => field p (g path)
  | compare l c r => compare (l.mapPaths g) c (r.mapPaths g)
  | textTest t n l r => textTest t n (l.mapPaths g) (r.mapPaths g)
  | join logic l r => join logic (l.mapPaths g) (r.mapPaths g)
  | not inner => not (inner.mapPaths g)
  | f => f

end Formula

def Filter.mapPaths (g : String → String) (f : Filter) : Filter :=
  ⟨⟨f.lambda.record, f.lambda.body.mapPaths g⟩, f.slots⟩

section

variable (g : String → String)

theorem Operand.value?_mapPath (l : Operand α) : (l.mapPath g).value? = l.value? := by
  cases l <;> rfl

theorem Operand.isNullLiteral_mapPath (l : Operand α) :
    (l.mapPath g).isNullLiteral = l.isNullLiteral := by
  cases l <;> rfl

theorem checkLiteral_mapPath (l r : Operand α) : checkLiteral (l.mapPath g) (r.mapPath g) =
    (checkLiteral l r).mapError (BindError.mapPath g) := by
  cases l with
  | literal v => rfl
  | field path f =>
    cases r with
    | field => rfl
    | literal v =>
      simp only [Operand.mapPath, checkLiteral]
      cases f.kind with
      | none => rfl
      | some kind => cases accepted : kind.accepts v <;> simp [accepted] <;> rfl

theorem checkText_mapPath (l : Operand α) : checkText (l.mapPath g) =
    (checkText l).mapError (BindError.mapPath g) := by
  cases l with
  | literal v => rfl
  | field path f =>
    simp only [Operand.mapPath, checkText]
    rcases f.kind with _ | kind
    · rfl
    · cases kind <;> rfl

theorem bindComparison_mapPath (l r : Operand α) (comparison : Comparison) :
    bindComparison (l.mapPath g) comparison (r.mapPath g) =
      (bindComparison l comparison r).mapError (BindError.mapPath g) := by
  simp only [bindComparison, Operand.isNullLiteral_mapPath, Operand.value?_mapPath]
  split
  · rfl
  split
  · rfl
  · refine bind_mapError (checkLiteral_mapPath g l r) fun _ => ?_
    exact bind_mapError (checkLiteral_mapPath g r l) fun _ => rfl

theorem bindTextTest_mapPath (test : TextTest) (negated : Bool) (l r : Operand α) :
    bindTextTest test negated (l.mapPath g) (r.mapPath g) =
      (bindTextTest test negated l r).mapError (BindError.mapPath g) := by
  simp only [bindTextTest, Operand.value?_mapPath]
  refine bind_mapError (checkText_mapPath g l) fun _ => ?_
  exact bind_mapError (checkText_mapPath g r) fun _ => rfl

variable (schema : Schema α)

namespace Formula

variable (record : Placeholder) (slots : List (Option Value)) (f : Formula)

theorem operand_mapPaths : (f.mapPaths g).operand schema record slots =
    ((f.operand (schema ∘ g) record slots).map (Operand.mapPath g)).mapError
      (BindError.mapPath g) := by
  cases f with
  | slot index =>
    simp only [mapPaths, operand, slotValue]
    split <;> rfl
  | field p path =>
    simp only [mapPaths, operand, Function.comp_apply]
    split
    · rfl
    · cases schema (g path) <;> rfl
  | _ => rfl

/-- A formula with other paths binds as the formula does where the fields are looked up under the
other paths. -/
theorem bind_mapPaths : (f.mapPaths g).bind schema record slots =
    (f.bind (schema ∘ g) record slots).mapError (BindError.mapPath g) := by
  induction f with
  | const | slot | field => rfl
  | literal v => cases v <;> rfl
  | compare l comparison r =>
    refine bind_map_mapError (operand_mapPaths g schema record slots l) fun a => ?_
    refine bind_map_mapError (operand_mapPaths g schema record slots r) fun b => ?_
    exact bindComparison_mapPath g a b comparison
  | textTest test negated l r =>
    refine bind_map_mapError (operand_mapPaths g schema record slots l) fun a => ?_
    refine bind_map_mapError (operand_mapPaths g schema record slots r) fun b => ?_
    exact bindTextTest_mapPath g test negated a b
  | join logic l r ihl ihr => exact bind_mapError ihl fun s => bind_mapError ihr fun t => rfl
  | not inner ih => exact bind_mapError ih fun s => rfl

end Formula

theorem SortKey.bindAll_mapPath (keys : List SortKey) :
    bindAll schema (keys.map (mapPath g)) =
      (bindAll (schema ∘ g) keys).mapError (BindError.mapPath g) := by
  have key (k : SortKey) : (mapPath g k).bind schema =
      (k.bind (schema ∘ g)).mapError (BindError.mapPath g) := by
    simp only [SortKey.bind, mapPath, Function.comp_apply]
    cases schema (g k.field) <;> rfl
  unfold bindAll
  induction keys with
  | nil => rfl
  | cons k rest ih =>
    rw [List.map_cons, List.mapM_cons, List.mapM_cons]
    exact bind_mapError (key k) fun b => bind_mapError ih fun bs => rfl

end

/-! Two schemas that show the same under corresponding paths. -/

section

variable {g : String → String} {schema : Schema α} {schema' : Schema β} {outer outer' : α}
  {inner inner' : β}
  (same : ∀ path, view schema outer (g path) = view schema' inner path)

include same

theorem Filter.bind_mapPaths (f : Filter) : ((f.mapPaths g).bind schema).map (· outer) =
    ((f.bind schema').map (· inner)).mapError (BindError.mapPath g) := by
  have alike : (f.bind (schema ∘ g)).map (· outer) = (f.bind schema').map (· inner) :=
    Filter.bind_congr same f
  rw [← alike]
  have moved := f.lambda.body.bind_mapPaths g schema f.lambda.record f.slots
  rw [Filter.bind, Filter.mapPaths, moved, Filter.bind]
  cases f.lambda.body.bind (schema ∘ g) f.lambda.record f.slots <;> rfl

theorem SortKey.compare_mapPath
    (same' : ∀ path, view schema outer' (g path) = view schema' inner' path)
    (keys : List SortKey) :
    (bindAll schema (keys.map (mapPath g))).map (compareRecords · outer outer') =
      ((bindAll schema' keys).map (compareRecords · inner inner')).mapError
        (BindError.mapPath g) := by
  have alike : (bindAll (schema ∘ g) keys).map (compareRecords · outer outer') =
      (bindAll schema' keys).map (compareRecords · inner inner') :=
    SortKey.bindAll_congr same same' keys
  rw [← alike, bindAll_mapPath]
  cases bindAll (schema ∘ g) keys <;> rfl

end

namespace Json

/-- The path in a record that holds the one it belongs to under that key. -/
def pathUnder (key path : String) : String := key ++ "." ++ path

theorem segments?_pathUnder {key : String} (nonempty : key ≠ "") (undotted : '.' ∉ key.toList)
    (path : String) : segments? (pathUnder key path) = (segments? path).map (key :: ·) := by
  have cut : (pathUnder key path).toList.splitOn '.' = key.toList :: path.toList.splitOn '.' := by
    have apart : ∀ c ∈ key.toList, (c == '.') = false := by
      intro c member
      exact beq_false_of_ne fun dot => undotted (dot ▸ member)
    have chars : (pathUnder key path).toList = key.toList ++ '.' :: path.toList := by
      simp [pathUnder]
    rw [chars]
    exact List.splitOnP_append_cons_of_forall_mem apart '.' (beq_self_eq_true '.') path.toList
  have filled : key.toList.isEmpty = false := by simpa using nonempty
  simp only [segments?, cut, List.any_cons, filled, Bool.false_or, List.map_cons,
    String.ofList_toList]
  split <;> rfl

/-- What the outer record shows under the key is what the inner one shows. -/
theorem view_pathUnder {key : String} (nonempty : key ≠ "") (undotted : '.' ∉ key.toList)
    {inner outer : Json} (stands : step? key outer = some inner) (path : String) :
    view schema outer (pathUnder key path) = view schema inner path := by
  have read (segments : List String) : readPath (key :: segments) outer =
      readPath segments inner := by
    rw [readPath, readPath, walk?, stands, Option.bind_some]
  unfold view schema
  rw [segments?_pathUnder nonempty undotted, Option.map_map, Option.map_map, Option.map_map]
  congr 1
  funext segments
  simp [Field.value?, read]

/-- The value is a member of the object, in which no two members have one name. -/
def HasMember (name : String) (inner : Json) : Json → Prop
  | .object members => (members.map (·.1)).Nodup ∧ (name, inner) ∈ members
  | _ => False

def HasElement (i : Nat) (inner : Json) : Json → Prop
  | .array items => items[i]? = some inner
  | _ => False

theorem step?_member {name : String} {inner outer : Json} (has : HasMember name inner outer) :
    step? name outer = some inner := by
  cases outer with
  | object members =>
    obtain ⟨distinct, member⟩ := has
    have some : (members.find? fun m => m.1 == name).isSome :=
      List.find?_isSome.mpr ⟨_, member, beq_self_eq_true name⟩
    obtain ⟨m, found⟩ := Option.isSome_iff_exists.mp some
    have named := List.find?_some found
    have same : m = (name, inner) := List.inj_on_of_nodup_map distinct
      (List.mem_of_find?_eq_some found) member (eq_of_beq named)
    rw [step?, member?, found, same]
    rfl
  | _ => exact has.elim

theorem step?_element {i : Nat} {inner outer : Json} (has : HasElement i inner outer) :
    step? (String.ofList (numeral i)) outer = some inner := by
  cases outer with
  | array items =>
    have index : readSignedNat? (numeral i) = some i := by
      unfold readSignedNat?
      split
      next plus =>
        have digit := numeral_digits i '+' (plus ▸ List.mem_cons_self)
        cases digit
      next => exact readNat?_numeral i
    rw [step?, String.toList_ofList, index]
    exact has
  | _ => exact has.elim

end Json

/-- Under the key in front of every path, filters and orders bind if they bind without it, and treat
the records that hold others as they treat the others without it. -/
structure Relocates (key : String) (holds : Json → Json → Prop) : Prop where
  filter_binds (f : Filter) :
    (∃ test, (f.mapPaths (Json.pathUnder key)).bind Json.schema = .ok test) ↔
      ∃ test, f.bind Json.schema = .ok test
  filter_truth {f : Filter} {moved test : Json → Truth} :
    (f.mapPaths (Json.pathUnder key)).bind Json.schema = .ok moved →
      f.bind Json.schema = .ok test →
        ∀ outer inner, holds outer inner → moved outer = test inner
  order_binds (keys : List SortKey) :
    (∃ bound, SortKey.bindAll Json.schema (keys.map (.mapPath (Json.pathUnder key))) = .ok bound) ↔
      ∃ bound, SortKey.bindAll Json.schema keys = .ok bound
  order_compare {keys : List SortKey} {moved bound : List (BoundKey Json)} :
    SortKey.bindAll Json.schema (keys.map (.mapPath (Json.pathUnder key))) = .ok moved →
      SortKey.bindAll Json.schema keys = .ok bound →
        ∀ outer inner outer' inner', holds outer inner → holds outer' inner' →
          compareRecords moved outer outer' = compareRecords bound inner inner'

theorem relocates_of_step {key : String} (nonempty : key ≠ "") (undotted : '.' ∉ key.toList)
    {holds : Json → Json → Prop} {outer inner : Json} (some : holds outer inner)
    (stands : ∀ outer inner, holds outer inner → Json.step? key outer = .some inner) :
    Relocates key holds := by
  have same (outer inner : Json) (here : holds outer inner) (path : String) :=
    Json.view_pathUnder nonempty undotted (stands outer inner here) path
  refine ⟨?_, ?_, ?_, ?_⟩
  · intro f
    exact ok_iff_of_map_eq (Filter.bind_mapPaths (same outer inner some) f)
  · intro f moved test found found' outer inner here
    have alike := Filter.bind_mapPaths (same outer inner here) f
    rw [found, found'] at alike
    exact Except.ok.inj alike
  · intro keys
    exact ok_iff_of_map_eq
      (SortKey.compare_mapPath (same outer inner some) (same outer inner some) keys)
  · intro keys moved bound found found' outer inner outer' inner' here here'
    have alike := SortKey.compare_mapPath (same outer inner here) (same outer' inner' here') keys
    rw [found, found'] at alike
    exact Except.ok.inj alike

/-- A filter or an order does to records what it does, moved under the name of a member or the index
of an element, to objects that hold them as that member or arrays that hold them as that element. -/
theorem relocated_alike :
    (∀ name : String, name ≠ "" → '.' ∉ name.toList →
      Relocates name fun outer inner => Json.HasMember name inner outer) ∧
    ∀ i : Nat, Relocates (String.ofList (numeral i))
      fun outer inner => Json.HasElement i inner outer := by
  constructor
  · intro name nonempty undotted
    have object : Json.HasMember name .null (.object [(name, .null)]) := by simp [Json.HasMember]
    exact relocates_of_step nonempty undotted object fun _ _ => Json.step?_member
  · intro i
    have nonempty : String.ofList (numeral i) ≠ "" := by simp [numeral_ne_nil]
    have undotted : '.' ∉ (String.ofList (numeral i)).toList := by
      rw [String.toList_ofList]
      intro dot
      cases numeral_digits i '.' dot
    have array : Json.HasElement i .null (.array (List.replicate (i + 1) .null)) := by
      simp [Json.HasElement]
    exact relocates_of_step nonempty undotted array fun _ _ => Json.step?_element

/-- Two people, once as the member `user` and once as the element 1; the filter has one value in a
slot. -/
theorem relocated_alike_people :
    let ann : Json := .object [("age", .number (.int 30)), ("name", .string "Ann"),
      ("tags", .array [.string "new"])]
    let bob : Json := .object [("age", .number (.int 41)), ("name", .string "Bob")]
    let named (person : Json) : Json := .object [("note", .string "late"), ("user", person)]
    let listed (person : Json) : Json := .array [.null, person]
    let filter : Filter := ⟨⟨⟨0⟩, .join .or ((FieldRef.mk ⟨0⟩ "name").test .startsWith "A")
      (.compare (.field ⟨0⟩ "tags.0") .eq (.slot 0))⟩, [some (.text "new")]⟩
    let keys : List SortKey := [⟨"tags.0", .descending⟩, ⟨"age", .ascending⟩]
    ∃ test moved shifted bound away,
      filter.bind Json.schema = .ok test ∧
      (filter.mapPaths (Json.pathUnder "user")).bind Json.schema = .ok moved ∧
      (filter.mapPaths (Json.pathUnder "1")).bind Json.schema = .ok shifted ∧
      SortKey.bindAll Json.schema keys = .ok bound ∧
      SortKey.bindAll Json.schema (keys.map (.mapPath (Json.pathUnder "user"))) = .ok away ∧
      moved (named ann) = test ann ∧ test ann = .yes ∧
      shifted (listed bob) = test bob ∧ test bob = .unknown ∧
      compareRecords away (named ann) (named bob) = compareRecords bound ann bob ∧
      compareRecords bound ann bob = .lt := by
  intro ann bob named listed filter keys
  have user := relocated_alike.1 "user" (by decide) (by decide)
  have first := relocated_alike.2 1
  have held (person : Json) : Json.HasMember "user" person (named person) := by
    simp [named, Json.HasMember]
  have element (person : Json) : Json.HasElement 1 person (listed person) := rfl
  obtain ⟨test, found⟩ : ∃ test, filter.bind Json.schema = .ok test := ⟨_, rfl⟩
  obtain ⟨moved, there⟩ := (user.filter_binds filter).mpr ⟨test, found⟩
  obtain ⟨shifted, inside⟩ := (first.filter_binds filter).mpr ⟨test, found⟩
  obtain ⟨bound, sorted⟩ : ∃ bound, SortKey.bindAll Json.schema keys = .ok bound := ⟨_, rfl⟩
  obtain ⟨away, elsewhere⟩ := (user.order_binds keys).mpr ⟨bound, sorted⟩
  refine ⟨test, moved, shifted, bound, away, found, there, inside, sorted, elsewhere,
    user.filter_truth there found _ _ (held ann), ?_,
    first.filter_truth inside found _ _ (element bob), ?_,
    user.order_compare elsewhere sorted _ _ _ _ (held ann) (held bob), ?_⟩
  · cases found
    rfl
  · cases found
    rfl
  · cases sorted
    rfl

end RecordQuery
