import Mathlib.Logic.IsEmpty.Basic
import RecordQuery.Proofs.Members
import RecordQuery.Proofs.RecordSort
import RecordQuery.Proofs.Views

/-! Members that are null. An object with such a member and the object without it look the same
under every path, so filters and orders do not tell the records apart. -/
namespace RecordQuery

namespace Json

mutual

/-- The second value is the first one without some members that are null, at any depth. -/
inductive Prunes : Json → Json → Prop where
  | same (json : Json) : Prunes json json
  | array {items kept : List Json} : PrunesAll items kept → Prunes (.array items) (.array kept)
  | object {members kept : List (String × Json)} :
      PrunesMembers members kept → Prunes (.object members) (.object kept)

inductive PrunesAll : List Json → List Json → Prop where
  | nil : PrunesAll [] []
  | cons {json json' : Json} {items kept : List Json} :
      Prunes json json' → PrunesAll items kept → PrunesAll (json :: items) (json' :: kept)

inductive PrunesMembers : List (String × Json) → List (String × Json) → Prop where
  | nil : PrunesMembers [] []
  | keep {json json' : Json} {members kept : List (String × Json)} (name : String) :
      Prunes json json' → PrunesMembers members kept →
        PrunesMembers ((name, json) :: members) ((name, json') :: kept)
  | drop {members kept : List (String × Json)} (name : String) :
      PrunesMembers members kept → PrunesMembers ((name, .null) :: members) kept

end

/-- What is found in two such values: parts that differ no more than they do, or null in the first
one where the second one has nothing. -/
inductive Fades : Option Json → Option Json → Prop where
  | missing : Fades none none
  | there {json json' : Json} : Prunes json json' → Fades (some json) (some json')
  | gone : Fades (some .null) none

theorem names_of_prunes {members kept : List (String × Json)}
    (prunes : PrunesMembers members kept) :
    (kept.map (·.1)).Sublist (members.map (·.1)) := by
  induction members generalizing kept with
  | nil =>
    cases prunes
    exact .slnil
  | cons m rest ih =>
    cases prunes with
    | keep name _ others => exact (ih others).cons_cons name
    | drop name others => exact (ih others).cons name

theorem member?_prunes {members kept : List (String × Json)} (prunes : PrunesMembers members kept)
    (distinct : (members.map (·.1)).Nodup) (name : String) :
    Fades ((Json.object members).member? name) ((Json.object kept).member? name) := by
  induction members generalizing kept with
  | nil =>
    cases prunes
    exact .missing
  | cons m rest ih =>
    obtain ⟨other, others⟩ := List.nodup_cons.mp distinct
    cases prunes with
    | keep own json more =>
      have below := ih more others
      simp only [member?, List.find?_cons] at below ⊢
      cases own == name with
      | true => exact .there json
      | false => exact below
    | drop own more =>
      have below := ih more others
      simp only [member?, List.find?_cons] at below ⊢
      cases here : own == name with
      | true =>
        -- the names are distinct, so no other member of that name comes into sight
        have absent : kept.find? (fun m => m.1 == name) = none := by
          rw [List.find?_eq_none]
          intro m member same
          apply other
          have names : m.1 ∈ rest.map (·.1) :=
            (names_of_prunes more).subset (List.mem_map_of_mem member)
          rwa [eq_of_beq same, ← eq_of_beq here] at names
        rw [absent]
        exact .gone
      | false => exact below

theorem getElem?_prunes {items kept : List Json} (prunes : PrunesAll items kept) (i : Nat) :
    Fades items[i]? kept[i]? := by
  induction items generalizing kept i with
  | nil =>
    cases prunes
    simpa using .missing
  | cons json rest ih =>
    cases prunes with
    | cons head others =>
      cases i with
      | zero => exact .there head
      | succ i => simpa using ih others i

theorem Fades.refl (found : Option Json) : Fades found found := by
  cases found with
  | none => exact .missing
  | some json => exact .there (.same json)

theorem step?_prunes {json json' : Json} (prunes : Prunes json json') (distinct : json.Distinct)
    (segment : String) : Fades (step? segment json) (step? segment json') := by
  cases prunes with
  | same => exact .refl _
  | array items =>
    simp only [step?]
    cases readSignedNat? segment.toList with
    | none => exact .missing
    | some i => exact getElem?_prunes items i
  | object members => exact member?_prunes members distinct.1 segment

theorem Fades.step {found found' : Option Json} (fades : Fades found found')
    (distinct : ∀ json, found = some json → json.Distinct) (segment : String) :
    Fades (found.bind (step? segment)) (found'.bind (step? segment)) := by
  cases fades with
  | missing => exact .missing
  | there prunes => exact step?_prunes prunes (distinct _ rfl) segment
  | gone => exact .missing

theorem Fades.walk {found found' : Option Json} (fades : Fades found found')
    (distinct : ∀ json, found = some json → json.Distinct) (segments : List String) :
    Fades (found.bind (walk? segments)) (found'.bind (walk? segments)) := by
  induction segments generalizing found found' with
  | nil => simpa [walk?] using fades
  | cons segment rest ih =>
    have below := ih (fades.step distinct segment) fun json reached => by
      obtain ⟨outer, within, stepped⟩ := Option.bind_eq_some_iff.mp reached
      exact distinct_of_step? (distinct outer within) stepped
    rwa [Option.bind_assoc, Option.bind_assoc] at below

theorem readPath_prunes {json json' : Json} (prunes : Prunes json json') (distinct : json.Distinct)
    (segments : List String) : readPath segments json = readPath segments json' := by
  have walked : Fades (walk? segments json) (walk? segments json') :=
    (Fades.there prunes).walk (by rintro _ ⟨⟩; exact distinct) segments
  unfold readPath
  generalize walk? segments json = found at walked
  generalize walk? segments json' = found' at walked
  cases walked with
  | missing => rfl
  | gone => rfl
  | there below =>
    -- of a value that is not a scalar nothing is read, whatever is in it
    cases below <;> rfl

theorem view_prunes {record record' : Json} (pruned : Prunes record record')
    (distinct : record.Distinct) (path : String) :
    view schema record path = view schema record' path := by
  unfold view schema
  rw [Option.map_map, Option.map_map]
  congr 1
  funext segments
  simp [Field.value?, readPath_prunes pruned distinct]

end Json

variable {α β γ δ : Type}

/-- A field that is the same but for records of which it reads null and the other one nothing. -/
structure Field.PaddedBy (f padded : Field α) : Prop where
  kind : padded.kind = f.kind
  read (record : α) : padded.read record = f.read record ∨
    f.read record = none ∧ padded.read record = some .null

theorem Field.PaddedBy.value?_eq {f padded : Field α} (pads : f.PaddedBy padded) (record : α) :
    f.value? record = padded.value? record := by
  unfold value?
  obtain same | ⟨nothing, null⟩ := pads.read record
  · rw [same]
  · rw [nothing, null]
    rfl

/-- The fields of one schema are those of the other one, padded. -/
def Schema.PaddedBy (schema padded : Schema α) : Prop :=
  ∀ path, Option.Rel Field.PaddedBy (schema path) (padded path)

theorem map_eq_of_rel {R : β → γ → Prop} {x : Option β} {y : Option γ} (rel : Option.Rel R x y)
    {f : β → δ} {g : γ → δ} (alike : ∀ b c, R b c → f b = g c) : x.map f = y.map g := by
  cases rel with
  | none => rfl
  | some related => exact congrArg some (alike _ _ related)

section

variable {schema padded : Schema α} (pads : schema.PaddedBy padded)

include pads

theorem view_padded (record : α) (path : String) :
    view schema record path = view padded record path := by
  apply map_eq_of_rel (pads path)
  intro f g field
  rw [field.kind, field.value?_eq record]

theorem eq_of_padded [IsEmpty α] : schema = padded := by
  funext path
  have same (f g : Field α) (field : f.PaddedBy g) : f = g := by
    obtain ⟨read, kind⟩ := f
    obtain ⟨read', kind'⟩ := g
    cases field.kind
    congr 1
    exact Subsingleton.elim read read'
  simpa using map_eq_of_rel (f := id) (g := id) (pads path) same

theorem bind_padded :
    (∀ f : Filter, f.bind schema = f.bind padded) ∧
      ∀ keys, (SortKey.bindAll schema keys).map compareRecords =
        (SortKey.bindAll padded keys).map compareRecords := by
  by_cases inhabited : Nonempty α
  · exact bind_eq_of_view (view_padded pads)
  · have := not_nonempty_iff.mp inhabited
    simp [eq_of_padded pads]

end

/-- A record cannot be told from one that is left when null members are deleted from it at any
depth, nor can a field that reads null from one that reads nothing. -/
theorem null_members_unseen {record record' : Json} (distinct : record.Distinct)
    (pruned : record.Prunes record') :
    (∀ (f : Filter) (test : Json → Truth), f.bind Json.schema = .ok test →
      test record = test record') ∧
    (∀ (keys : List SortKey) (bound : List (BoundKey Json)),
      SortKey.bindAll Json.schema keys = .ok bound →
        compareRecords bound record record' = .eq ∧
        ∀ other, compareRecords bound record other = compareRecords bound record' other ∧
          compareRecords bound other record = compareRecords bound other record') ∧
    ∀ (α : Type) (schema padded : Schema α), schema.PaddedBy padded →
      (∀ f : Filter, f.bind schema = f.bind padded) ∧
      ∀ keys, (SortKey.bindAll schema keys).map compareRecords =
        (SortKey.bindAll padded keys).map compareRecords := by
  have same := Json.view_prunes pruned distinct
  refine ⟨?_, ?_, ?_⟩
  · intro f test bound
    exact test_eq_of_view same bound
  · intro keys bound found
    refine ⟨?_, fun other => ⟨?_, ?_⟩⟩
    · calc compareRecords bound record record'
        _ = compareRecords bound record' record' :=
          compareRecords_eq_of_view same (fun _ => rfl) found
        _ = .eq := Std.ReflCmp.compare_self
    · exact compareRecords_eq_of_view same (fun _ => rfl) found
    · exact compareRecords_eq_of_view (fun _ => rfl) same found
  · intro α schema padded pads
    exact bind_padded pads

/-- A note, a city and a rank are deleted; the null among the tags is an element and stays. In the
second schema a person without an age has one that is null. -/
theorem null_members_unseen_people :
    let raw : Json := .object [("note", .null), ("name", .string "Ann"),
      ("tags", .array [.object [("rank", .null), ("label", .string "new")], .null]),
      ("address", .object [("street", .string "Elm"), ("city", .null)])]
    let kept : Json := .object [("address", .object [("street", .string "Elm")]),
      ("name", .string "Ann"), ("tags", .array [.object [("label", .string "new")], .null])]
    let bob : Json := .object [("name", .string "Bob"), ("note", .string "late")]
    let homeless : Filter := .ofLambda ⟨⟨0⟩, .join .and (FieldRef.isNull ⟨⟨0⟩, "address.city"⟩)
      (FieldRef.isNull ⟨⟨0⟩, "tags.0.rank"⟩)⟩
    let age (read : Option Int → Option Value) : Schema (Option Int) := fun path =>
      if path = "age" then some ⟨read, some .i64⟩ else none
    ∃ test bound, homeless.bind Json.schema = .ok test ∧
      SortKey.bindAll Json.schema [⟨"tags.0.rank", .ascending⟩, ⟨"note", .descending⟩] = .ok bound ∧
      test raw.canonical = test kept ∧ test kept = .yes ∧
      compareRecords bound raw.canonical kept = .eq ∧
      compareRecords bound raw.canonical bob = compareRecords bound kept bob ∧
      compareRecords bound kept bob = .gt ∧
      ∀ f : Filter, f.bind (age fun n => n.map .ofInt) =
        f.bind (age fun n => some (n.elim .null .ofInt)) := by
  intro raw kept bob homeless age
  have canonical : raw.canonical = .object [
      ("address", .object [("city", .null), ("street", .string "Elm")]), ("name", .string "Ann"),
      ("note", .null),
      ("tags", .array [.object [("label", .string "new"), ("rank", .null)], .null])] := rfl
  have pruned : raw.canonical.Prunes kept := by
    rw [canonical]
    have address : Json.Prunes (.object [("city", .null), ("street", .string "Elm")])
        (.object [("street", .string "Elm")]) := .object (.drop _ (.keep _ (.same _) .nil))
    have tag : Json.Prunes (.object [("label", .string "new"), ("rank", .null)])
        (.object [("label", .string "new")]) := .object (.keep _ (.same _) (.drop _ .nil))
    have tags : Json.Prunes (.array [.object [("label", .string "new"), ("rank", .null)], .null])
        (.array [.object [("label", .string "new")], .null]) :=
      .array (.cons tag (.cons (.same _) .nil))
    exact .object (.keep _ address (.keep _ (.same _) (.drop _ (.keep _ tags .nil))))
  have pads : (age fun n => n.map .ofInt).PaddedBy (age fun n => some (n.elim .null .ofInt)) := by
    intro path
    by_cases named : path = "age"
    · simp only [age, if_pos named]
      refine .some ⟨rfl, fun n => ?_⟩
      cases n with
      | none => exact .inr ⟨rfl, rfl⟩
      | some n => exact .inl rfl
    · simp only [age, if_neg named]
      exact .none
  obtain ⟨filters, orders, schemas⟩ := null_members_unseen (Json.distinct_canonical raw) pruned
  obtain ⟨test, bound⟩ : ∃ test, homeless.bind Json.schema = .ok test := ⟨_, rfl⟩
  obtain ⟨keys, found⟩ : ∃ keys, SortKey.bindAll Json.schema
      [⟨"tags.0.rank", .ascending⟩, ⟨"note", .descending⟩] = .ok keys := ⟨_, rfl⟩
  have same := filters homeless test bound
  obtain ⟨tie, alike⟩ := orders _ keys found
  refine ⟨test, keys, bound, found, same, ?_, tie, (alike bob).1, ?_, (schemas _ _ _ pads).1⟩
  · cases bound
    rfl
  · cases found
    rfl

end RecordQuery
