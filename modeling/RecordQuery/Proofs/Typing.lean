import RecordQuery.Proofs.Binding
import RecordQuery.Proofs.ValueOrder
import RecordQuery.Registry

/-! Registries whose fields read values of their own kind. A filter that binds to one is definite on
every record that has values for the fields it names. -/
namespace RecordQuery

theorem Value.toText?_of_real {v : Value} (real : v.isNull = false) : ∃ s, v.toText? = some s := by
  cases v with
  | null => cases real
  | bool | number | uuid | instant | text => exact ⟨_, rfl⟩

namespace FieldKind

/-- The values that a field of a kind is there to read. -/
inductive Holds : FieldKind → Value → Prop where
  | string (s : String) : Holds string (.text s)
  | i64 (d : Decimal) : Holds i64 (.number d)
  | f64 (d : Decimal) : Holds f64 (.number d)
  | decimal (d : Decimal) : Holds decimal (.number d)
  | bool (b : Bool) : Holds bool (.bool b)
  | uuid (u : Uuid) : Holds uuid (.uuid u)
  | dateTimeUtc (t : Instant) : Holds dateTimeUtc (.instant t)

/-- Whether a text beside a field of a kind stands for a value: as itself, or by being read. -/
def Understands : FieldKind → String → Prop
  | uuid, s => (Uuid.ofText? s).isSome
  | dateTimeUtc, s => (Instant.ofText? s).isSome
  | _, _ => True

variable {kind : FieldKind} {a b v : Value}

theorem Holds.isNull (held : kind.Holds a) : a.isNull = false := by
  cases held <;> rfl

theorem Holds.compare (left : kind.Holds a) (right : kind.Holds b) :
    ∃ order, a.compare b = some order := by
  cases left <;> cases right <;> exact ⟨_, rfl⟩

/-- A value that a kind accepts is of that kind, or a text that is read. -/
theorem accepts_cases (fits : kind.accepts v = true) (real : v.isNull = false) :
    kind.Holds v ∨ ∃ s, v = .text s ∧ (kind = .uuid ∨ kind = .dateTimeUtc) := by
  cases v with
  | null => cases real
  | bool b => cases kind <;> first | exact .inl (.bool b) | cases fits
  | number d => cases kind <;> first | exact .inl (by constructor) | cases fits
  | uuid u => cases kind <;> first | exact .inl (.uuid u) | cases fits
  | instant t => cases kind <;> first | exact .inl (.dateTimeUtc t) | cases fits
  | text s =>
    cases kind with
    | string => exact .inl (.string s)
    | uuid => exact .inr ⟨s, rfl, .inl rfl⟩
    | dateTimeUtc => exact .inr ⟨s, rfl, .inr rfl⟩
    | i64 | f64 | decimal | bool => cases fits

/-- No kind accepts a literal that its values have no order with. -/
theorem compare_of_accepts (held : kind.Holds a) (fits : kind.accepts v = true)
    (real : v.isNull = false) (readable : ∀ s, v = .text s → kind.Understands s) :
    ∃ order, a.compare v = some order := by
  rcases accepts_cases fits real with same | ⟨s, rfl, coerced⟩
  · exact held.compare same
  · have read := readable s rfl
    rcases coerced with rfl | rfl
    · cases held with
      | uuid u =>
        obtain ⟨w, found⟩ := Option.isSome_iff_exists.mp read
        exact ⟨u.compare w, by simp [Value.compare, found]⟩
    · cases held with
      | dateTimeUtc t =>
        obtain ⟨w, found⟩ := Option.isSome_iff_exists.mp read
        exact ⟨t.compare w, by simp [Value.compare, found]⟩

end FieldKind

/-- A field of that kind, which reads nothing, null or values of the kind. -/
structure Field.OfKind (f : Field α) (kind : FieldKind) : Prop where
  declared : f.kind = some kind
  reads : ∀ x v, f.read x = some v → v = .null ∨ kind.Holds v

theorem Field.OfKind.value? {f : Field α} {kind : FieldKind} (typed : f.OfKind kind) {x : α}
    {v : Value} (found : f.value? x = some v) : kind.Holds v := by
  obtain ⟨read, real⟩ := Option.filter_eq_some_iff.mp found
  rcases typed.reads x v read with rfl | held
  · cases real
  · exact held

namespace Registry

def Typed (registry : Registry α) : Prop :=
  ∀ name f, registry.get? name = some f → ∃ kind, f.OfKind kind

theorem find?_without (entries : List (String × Field α)) (key other : String) :
    (entries.filter fun e => e.1 ≠ key).find? (fun e => e.1 == other) =
      if other = key then none else entries.find? fun e => e.1 == other := by
  induction entries with
  | nil => simp
  | cons e rest ih =>
    by_cases removed : e.1 = key
    · by_cases same : other = key
      · simp_all
      · have apart : (e.1 == other) = false := by simp [removed, Ne.symm same]
        simp_all
    · by_cases found : e.1 = other
      · simp_all
      · simp_all

theorem get?_insert (registry : Registry α) (name other : String) (kind : FieldKind)
    (read : α → Option Value) :
    (registry.insert name kind read).get? other =
      if lowercase other = lowercase name then some ⟨read, some kind⟩
      else registry.get? other := by
  simp only [get?, insert, List.find?_append, find?_without]
  by_cases same : lowercase other = lowercase name
  · simp [same]
  · simp [same, Ne.symm same]

theorem typed_empty : (empty : Registry α).Typed := by
  intro name f found
  cases found

/-- Registries that are filled by fields of their kinds alone are typed. -/
theorem typed_insert {registry : Registry α} (typed : registry.Typed) (name : String)
    {kind : FieldKind} {read : α → Option Value}
    (reads : ∀ x v, read x = some v → v = .null ∨ kind.Holds v) :
    (registry.insert name kind read).Typed := by
  intro other f found
  rw [get?_insert] at found
  split at found
  · obtain rfl := Option.some.inj found
    exact ⟨kind, rfl, reads⟩
  · exact typed other f found

end Registry

theorem Logic.combine_definite {logic : Logic} {ts : List Truth} (definite : .unknown ∉ ts) :
    logic.combine ts ≠ .unknown := by
  cases logic with
  | and =>
    simp only [combine, Truth.all, if_neg definite]
    split <;> simp
  | or =>
    simp only [combine, Truth.any, if_neg definite]
    split <;> simp

theorem Truth.ofBool_definite (b : Bool) : Truth.ofBool b ≠ .unknown := by
  cases b <;> decide

namespace Condition

variable {schema : Schema α} {x : α}

mutual

/-- A tree is definite where all its nodes are. -/
theorem meaning_definite : ∀ c : Condition, (∀ n ∈ c.nodes, n.WellFormed) →
    (∀ n ∈ c.nodes, n.ownTruth schema x ≠ .unknown) → c.meaning schema x ≠ .unknown
  | node _ _ _ _ [], _, definite => definite _ List.mem_cons_self
  | node field operator value keyword (c :: cs), formed, definite => by
    obtain ⟨logic, (named : keyword.bind Logic.ofKeyword? = some logic)⟩ :=
      logic_of_wellFormed (formed _ List.mem_cons_self) (List.cons_ne_nil c cs)
    have below : .unknown ∉ meanings schema x (c :: cs) :=
      meanings_definite (c :: cs) (fun n here => formed n (List.mem_cons_of_mem _ here))
        fun n here => definite n (List.mem_cons_of_mem _ here)
    rw [meaning_join named]
    apply Logic.combine_definite
    intro unknown
    rcases List.mem_cons.mp unknown with own | others
    · exact definite _ List.mem_cons_self own.symm
    · exact below others

theorem meanings_definite : ∀ cs : List Condition, (∀ n ∈ nodesAll cs, n.WellFormed) →
    (∀ n ∈ nodesAll cs, n.ownTruth schema x ≠ .unknown) → .unknown ∉ meanings schema x cs
  | [], _, _ => List.not_mem_nil
  | c :: cs, formed, definite => by
    obtain ⟨first, others⟩ := List.forall_mem_append.mp formed
    obtain ⟨head, tail⟩ := List.forall_mem_append.mp definite
    intro unknown
    rcases List.mem_cons.mp unknown with here | later
    · exact meaning_definite c first head here.symm
    · exact meanings_definite cs others tail later

end

/-- The test of one node that fits a field of a kind, beside a value of that kind. -/
theorem ownTruth_definite {c : Condition} (formed : c.WellFormed) {f : Field α} {kind : FieldKind}
    (known : schema c.field = some f) (typed : f.OfKind kind)
    (fits : c.schemaFault schema = none) {v : Value} (present : f.value? x = some v)
    (readable : ∀ s, c.value = some (.text s) → kind.Understands s) :
    c.ownTruth schema x ≠ .unknown := by
  have held := typed.value? present
  have noFault : c.kindFault kind = none := by
    simpa [schemaFault, known, typed.declared] using fits
  unfold ownTruth
  rw [(op_of_wellFormed formed).1, known, Option.bind_some, present]
  cases kindOf : c.op.kind with
  | nullCheck negated =>
    simp only [Operator.truth_nullCheck kindOf]
    exact Truth.ofBool_definite _
  | compare comparison =>
    have takes : c.op.takesValue = true := by simp [Operator.takesValue, kindOf]
    obtain ⟨w, given, real⟩ := operand_of_takesValue formed takes
    have accepted : kind.accepts w = true := by simpa [kindFault, kindOf, given] using noFault
    have written : c.value = some w := (Option.filter_eq_some_iff.mp given).1
    obtain ⟨order, ordered⟩ := FieldKind.compare_of_accepts held accepted real
      fun s text => readable s (by rw [written, text])
    simp only [Operator.truth_compare kindOf, given, compareTruth, ordered]
    exact Truth.ofBool_definite _
  | textTest test negated =>
    have takes : c.op.takesValue = true := by simp [Operator.takesValue, kindOf]
    obtain ⟨w, given, real⟩ := operand_of_takesValue formed takes
    obtain ⟨text, left⟩ := Value.toText?_of_real held.isNull
    obtain ⟨part, right⟩ := Value.toText?_of_real real
    simp only [Operator.truth_textTest kindOf, given, textTruth, Option.bind_some, left, right]
    exact Truth.ofBool_definite _

end Condition

/-- A filter that binds to a typed registry is definite on every record that has a value for each
field the tree names, if the texts beside uuids and instants can be read. -/
theorem typed_filter_definite {registry : Registry α} (typed : registry.Typed) {limits : Limits}
    {record : Placeholder} {root : Condition} {f : Filter}
    (compiled : Filter.ofCondition limits record root = .ok f) {test : α → Truth}
    (bound : f.bind registry.schema = .ok test) {x : α}
    (present : ∀ c ∈ root.nodes, ∀ g, registry.get? c.field = some g → (g.value? x).isSome)
    (readable : ∀ c ∈ root.nodes, ∀ g kind s, registry.get? c.field = some g →
      g.kind = some kind → c.value = some (.text s) → kind.Understands s) :
    test x = .yes ∨ test x = .no := by
  rw [Filter.ofCondition_eq] at compiled
  obtain ⟨sound, rfl⟩ := verdict_eq_ok.mp compiled
  have formed := ((Condition.tree_fault_eq_none limits root).mp sound).2.2
  rw [Filter.bind_eq formed] at bound
  obtain ⟨fits, rfl⟩ := verdict_eq_ok.mp bound
  have definite : root.meaning registry.schema x ≠ .unknown := by
    apply Condition.meaning_definite root formed
    intro c member
    have fit := List.findSome?_eq_none_iff.mp fits c member
    cases known : registry.get? c.field with
    | none => simp [Condition.schemaFault, Registry.schema, known] at fit
    | some g =>
      obtain ⟨kind, ofKind⟩ := typed c.field g known
      obtain ⟨v, found⟩ := Option.isSome_iff_exists.mp (present c member g known)
      exact Condition.ownTruth_definite (formed c member) known ofKind fit found
        fun s => readable c member g kind s known ofKind.declared
  cases meant : root.meaning registry.schema x with
  | yes => exact .inl meant
  | no => exact .inr meant
  | unknown => exact absurd meant definite

def ageReader : Int × Instant → Option Value := fun p => some (.ofInt p.1)

def birthReader : Int × Instant → Option Value := fun p => some (.instant p.2)

def peopleRegistry : Registry (Int × Instant) :=
  (Registry.empty.insert "Age" .i64 ageReader).insert "born" .dateTimeUtc birthReader

theorem peopleRegistry_typed : peopleRegistry.Typed := by
  refine Registry.typed_insert (Registry.typed_insert Registry.typed_empty _ ?_) _ ?_
  · rintro x _ ⟨⟩
    exact .inr (.i64 _)
  · rintro x _ ⟨⟩
    exact .inr (.dateTimeUtc _)

def grownOrBornLate : Condition :=
  .node "AGE" "gte" (some (.ofInt 18)) (some "or")
    [.node "born" "gt" (some (.text "2000-01-01T00:00:00+01:00")) none []]

theorem typed_filter_definite_people :
    ∃ f test, Filter.ofCondition .standard ⟨0⟩ grownOrBornLate = .ok f ∧
      f.bind peopleRegistry.schema = .ok test ∧ ∀ x, test x = .yes ∨ test x = .no := by
  have age : peopleRegistry.get? "AGE" = some ⟨ageReader, some .i64⟩ := rfl
  have birth : peopleRegistry.get? "born" = some ⟨birthReader, some .dateTimeUtc⟩ := rfl
  have compiled : Filter.ofCondition .standard ⟨0⟩ grownOrBornLate =
      .ok (grownOrBornLate.filter ⟨0⟩) := rfl
  obtain ⟨test, bound⟩ : ∃ test,
      (grownOrBornLate.filter ⟨0⟩).bind peopleRegistry.schema = .ok test := ⟨_, rfl⟩
  refine ⟨_, test, compiled, bound, fun x => ?_⟩
  refine typed_filter_definite peopleRegistry_typed compiled bound ?_ ?_
  · intro c member g known
    rcases List.mem_cons.mp member with rfl | member
    · obtain rfl := Option.some.inj (age.symm.trans known)
      rfl
    · obtain rfl := List.mem_singleton.mp member
      obtain rfl := Option.some.inj (birth.symm.trans known)
      rfl
  · intro c member g kind s known declared given
    rcases List.mem_cons.mp member with rfl | member
    · cases given
    · obtain rfl := List.mem_singleton.mp member
      obtain rfl := Option.some.inj (birth.symm.trans known)
      obtain rfl := Option.some.inj declared
      cases given
      exact rfl

end RecordQuery
