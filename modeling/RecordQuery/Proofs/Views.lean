import RecordQuery.Proofs.Verdict
import RecordQuery.Selection

/-! What a schema shows of a record: the kinds and the values of its fields, where null is no value.
Filters and orders see no more than that, so where two records look the same, under one schema or
under two, every filter and every order treats them alike. -/
namespace RecordQuery

variable {α β γ δ ε σ τ υ : Type}

def view (schema : Schema α) (record : α) (path : String) :
    Option (Option FieldKind × Option Value) :=
  (schema path).map fun f => (f.kind, f.value? record)

/-- Two steps in a row give the same where the first ones do and the second ones do on results that
look the same. -/
theorem map_bind_congr {x : Except ε σ} {y : Except ε τ} {f : σ → υ} {g : τ → υ}
    {next : σ → Except ε α} {next' : τ → Except ε β} {h : α → γ} {k : β → γ}
    (same : x.map f = y.map g)
    (rest : ∀ s t, f s = g t → (next s).map h = (next' t).map k) :
    (x >>= next).map h = (y >>= next').map k := by
  cases x with
  | error e =>
    cases y with
    | error e' =>
      cases same
      rfl
    | ok t => cases same
  | ok s =>
    cases y with
    | error e' => cases same
    | ok t => exact rest s t (Except.ok.inj same)

/-- What an operand is for a record: a literal, or a field with what it shows. -/
def Operand.view (record : α) : Operand α → Value ⊕ String × Option FieldKind × Option Value
  | .literal v => .inl v
  | .field path f => .inr (path, f.kind, f.value? record)

section

variable {x : α} {y : β}

theorem Operand.value?_congr {l : Operand α} {l' : Operand β} (same : l.view x = l'.view y) :
    l.value? x = l'.value? y := by
  cases l <;> cases l' <;> simp_all [Operand.view, Operand.value?]

theorem Operand.isNullLiteral_congr {l : Operand α} {l' : Operand β}
    (same : l.view x = l'.view y) : l.isNullLiteral = l'.isNullLiteral := by
  cases l <;> cases l' <;> simp_all [Operand.view, Operand.isNullLiteral]

theorem checkLiteral_congr {l r : Operand α} {l' r' : Operand β} (left : l.view x = l'.view y)
    (right : r.view x = r'.view y) : checkLiteral l r = checkLiteral l' r' := by
  cases l <;> cases l' <;> cases r <;> cases r' <;> simp_all [Operand.view, checkLiteral]

theorem checkText_congr {l : Operand α} {l' : Operand β} (same : l.view x = l'.view y) :
    checkText l = checkText l' := by
  cases l <;> cases l' <;> simp_all [Operand.view, checkText]

theorem bindComparison_congr {l r : Operand α} {l' r' : Operand β} (left : l.view x = l'.view y)
    (right : r.view x = r'.view y) (comparison : Comparison) :
    (bindComparison l comparison r).map (· x) = (bindComparison l' comparison r').map (· y) := by
  have first := Operand.value?_congr left
  have second := Operand.value?_congr right
  simp only [bindComparison, Operand.isNullLiteral_congr left, Operand.isNullLiteral_congr right,
    checkLiteral_congr left right, checkLiteral_congr right left]
  split
  · simp [Except.map, first]
  split
  · simp [Except.map, second]
  cases checkLiteral l' r' with
  | error e => rfl
  | ok _ =>
    cases checkLiteral r' l' with
    | error e => rfl
    | ok _ => exact congrArg Except.ok (congrArg₂ (compareTruth comparison) first second)

theorem bindTextTest_congr {l r : Operand α} {l' r' : Operand β} (left : l.view x = l'.view y)
    (right : r.view x = r'.view y) (test : TextTest) (negated : Bool) :
    (bindTextTest test negated l r).map (· x) = (bindTextTest test negated l' r').map (· y) := by
  have first := Operand.value?_congr left
  have second := Operand.value?_congr right
  simp only [bindTextTest, checkText_congr left, checkText_congr right]
  cases checkText l' with
  | error e => rfl
  | ok _ =>
    cases checkText r' with
    | error e => rfl
    | ok _ => exact congrArg Except.ok (congrArg₂ (textTruth test negated) first second)

variable {schema : Schema α} {schema' : Schema β}
  (same : ∀ path, view schema x path = view schema' y path)

include same

namespace Formula

variable (record : Placeholder) (slots : List (Option Value)) (f : Formula)

theorem operand_congr :
    (f.operand schema record slots).map (Operand.view x) =
      (f.operand schema' record slots).map (Operand.view y) := by
  cases f with
  | slot index =>
    rw [operand, operand]
    cases slotValue slots index <;> rfl
  | field p path =>
    have shown := same path
    unfold view at shown
    simp only [operand]
    split
    · rfl
    cases known : schema path <;> cases known' : schema' path <;> rw [known, known'] at shown
    all_goals simp_all [Except.map, Operand.view]
  | _ => rfl

theorem bind_congr :
    (f.bind schema record slots).map (· x) = (f.bind schema' record slots).map (· y) := by
  induction f with
  | const | slot | field => rfl
  | literal v => cases v <;> rfl
  | compare l comparison r =>
    refine map_bind_congr (operand_congr same record slots l) fun a a' left => ?_
    refine map_bind_congr (operand_congr same record slots r) fun b b' right => ?_
    exact bindComparison_congr left right comparison
  | textTest test negated l r =>
    refine map_bind_congr (operand_congr same record slots l) fun a a' left => ?_
    refine map_bind_congr (operand_congr same record slots r) fun b b' right => ?_
    exact bindTextTest_congr left right test negated
  | join logic l r ihl ihr =>
    refine map_bind_congr ihl fun s s' left => map_bind_congr ihr fun t t' right => ?_
    exact congrArg Except.ok (congrArg₂ logic.truth left right)
  | not inner ih =>
    exact map_bind_congr ih fun s s' below => congrArg Except.ok (congrArg Truth.denied below)

end Formula

theorem Filter.bind_congr (f : Filter) : (f.bind schema).map (· x) = (f.bind schema').map (· y) :=
  f.lambda.body.bind_congr same f.lambda.record f.slots

end

section

variable {x x' : α} {y y' : β} {schema : Schema α} {schema' : Schema β}

/-- Two pairs of records that look the same are in the same order. -/
theorem SortKey.bindAll_congr (same : ∀ path, view schema x path = view schema' y path)
    (same' : ∀ path, view schema x' path = view schema' y' path) (keys : List SortKey) :
    (bindAll schema keys).map (compareRecords · x x') =
      (bindAll schema' keys).map (compareRecords · y y') := by
  have key (k : SortKey) : (k.bind schema).map (fun b => b.compare x x') =
      (k.bind schema').map (fun b => b.compare y y') := by
    have first := same k.field
    have second := same' k.field
    unfold view at first second
    unfold SortKey.bind
    cases known : schema k.field <;> cases known' : schema' k.field <;>
      rw [known, known'] at first second
    all_goals simp_all [Except.map, BoundKey.compare]
  unfold bindAll
  induction keys with
  | nil => rfl
  | cons k rest ih =>
    rw [List.mapM_cons, List.mapM_cons]
    refine map_bind_congr (key k) fun b b' first => map_bind_congr ih fun bs bs' others => ?_
    exact congrArg Except.ok (congrArg₂ Ordering.then first others)

end

section

variable {schema : Schema α} {x y x' y' : α}

theorem test_eq_of_view (same : ∀ path, view schema x path = view schema y path) {f : Filter}
    {test : α → Truth} (bound : f.bind schema = .ok test) : test x = test y := by
  have alike := Filter.bind_congr same f
  rw [bound] at alike
  exact Except.ok.inj alike

theorem compareRecords_eq_of_view (same : ∀ path, view schema x path = view schema y path)
    (same' : ∀ path, view schema x' path = view schema y' path) {keys : List SortKey}
    {bound : List (BoundKey α)} (found : SortKey.bindAll schema keys = .ok bound) :
    compareRecords bound x x' = compareRecords bound y y' := by
  have alike := SortKey.bindAll_congr same same' keys
  rw [found] at alike
  exact Except.ok.inj alike

end

section

variable {schema schema' : Schema α} [Nonempty α]

theorem eq_of_map_eq {a b : Except ε (α → τ)} (same : ∀ x, a.map (· x) = b.map (· x)) : a = b := by
  cases a with
  | error e =>
    cases b with
    | error e' =>
      cases same (Classical.arbitrary α)
      rfl
    | ok g => cases same (Classical.arbitrary α)
  | ok f =>
    cases b with
    | error e' => cases same (Classical.arbitrary α)
    | ok g =>
      congr 1
      funext x
      exact Except.ok.inj (same x)

/-- Under two schemas that show the same of every record, filters and orders bind to the same. -/
theorem bind_eq_of_view (same : ∀ record path, view schema record path = view schema' record path) :
    (∀ f : Filter, f.bind schema = f.bind schema') ∧
      ∀ keys, (SortKey.bindAll schema keys).map compareRecords =
        (SortKey.bindAll schema' keys).map compareRecords := by
  constructor
  · intro f
    exact eq_of_map_eq fun x => Filter.bind_congr (same x) f
  · intro keys
    refine eq_of_map_eq fun x => eq_of_map_eq fun y => ?_
    have alike := SortKey.bindAll_congr (same x) (same y) keys
    cases found : SortKey.bindAll schema keys <;> cases found' : SortKey.bindAll schema' keys <;>
      rw [found, found'] at alike
    all_goals exact alike

end

end RecordQuery
