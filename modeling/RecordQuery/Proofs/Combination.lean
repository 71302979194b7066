import RecordQuery.Proofs.Kleene
import RecordQuery.Proofs.Verdict

/-! Lambdas combined by `and`, `or` and `not`. Where the parts bind on their own the combination
does, and what it says of a record is made of what they say of it. -/
namespace RecordQuery

namespace Formula

variable {α : Type} {schema : Schema α} {slots : List (Option Value)} {old new : Placeholder}

theorem operand_field_ok {record p : Placeholder} {path : String} {o : Operand α}
    (found : (field p path).operand schema record slots = .ok o) :
    p = record ∧ ∃ f, schema path = some f ∧ o = .field path f := by
  by_cases own : p = record
  · cases known : schema path with
    | none => simp [operand, own, known] at found
    | some f =>
      simp only [operand, own, known, ne_eq, not_true_eq_false, if_false] at found
      exact ⟨own, f, rfl, (Except.ok.inj found).symm⟩
  · simp [operand, own] at found

theorem placeholders_of_operand {record : Placeholder} {f : Formula} {o : Operand α}
    (found : f.operand schema record slots = .ok o) : ∀ p ∈ f.placeholders, p = record := by
  cases f with
  | field p path =>
    intro q member
    obtain rfl := List.mem_singleton.mp member
    exact (operand_field_ok found).1
  | const | literal | slot => exact fun _ member => nomatch member
  | compare | textTest | join | not => cases found

/-- A formula that binds is about the record of its lambda alone. -/
theorem placeholders_of_bind {record : Placeholder} {f : Formula} {t : α → Truth}
    (bound : f.bind schema record slots = .ok t) : ∀ p ∈ f.placeholders, p = record := by
  induction f generalizing t with
  | const | literal => exact fun _ member => nomatch member
  | slot | field => cases bound
  | compare l _ r _ _ | textTest _ _ l r _ _ =>
    obtain ⟨a, left, rest⟩ := bind_eq_ok.mp bound
    obtain ⟨b, right, -⟩ := bind_eq_ok.mp rest
    exact List.forall_mem_append.mpr
      ⟨placeholders_of_operand left, placeholders_of_operand right⟩
  | join logic l r ihl ihr =>
    obtain ⟨s, left, rest⟩ := bind_eq_ok.mp bound
    obtain ⟨t, right, -⟩ := bind_eq_ok.mp rest
    exact List.forall_mem_append.mpr ⟨ihl left, ihr right⟩
  | not inner ih =>
    obtain ⟨s, below, -⟩ := bind_eq_ok.mp bound
    exact ih below

theorem operand_replace {f : Formula} {o : Operand α}
    (found : f.operand schema old slots = .ok o) :
    (f.replace old new).operand schema new slots = .ok o := by
  cases f with
  | field p path =>
    obtain ⟨rfl, g, known, rfl⟩ := operand_field_ok found
    simp [replace, operand, known]
  | literal | slot => exact found
  | const | compare | textTest | join | not => cases found

/-- A formula that binds does so about another placeholder too, once its own is replaced. -/
theorem bind_replace {f : Formula} {t : α → Truth} (bound : f.bind schema old slots = .ok t) :
    (f.replace old new).bind schema new slots = .ok t := by
  induction f generalizing t with
  | const => exact bound
  | literal v => cases v <;> exact bound
  | slot | field => cases bound
  | compare l _ r _ _ | textTest _ _ l r _ _ =>
    obtain ⟨a, left, rest⟩ := bind_eq_ok.mp bound
    obtain ⟨b, right, made⟩ := bind_eq_ok.mp rest
    exact bind_eq_ok.mpr
      ⟨a, operand_replace left, bind_eq_ok.mpr ⟨b, operand_replace right, made⟩⟩
  | join logic l r ihl ihr =>
    obtain ⟨s, left, rest⟩ := bind_eq_ok.mp bound
    obtain ⟨u, right, made⟩ := bind_eq_ok.mp rest
    exact bind_eq_ok.mpr ⟨s, ihl left, bind_eq_ok.mpr ⟨u, ihr right, made⟩⟩
  | not inner ih =>
    obtain ⟨s, below, made⟩ := bind_eq_ok.mp bound
    exact bind_eq_ok.mpr ⟨s, ih below, made⟩

end Formula

variable {α : Type} {schema : Schema α}

/-- The lambda is about that placeholder and no other, it binds, and this is what it says of every
record. -/
structure Means (schema : Schema α) (l : Lambda) (record : Placeholder) (truth : α → Truth) :
    Prop where
  about : l.record = record
  alone : ∀ p ∈ l.body.placeholders, p = record
  bound : l.bind schema = .ok truth

theorem means_of_bind {l : Lambda} {t : α → Truth} (bound : l.bind schema = .ok t) :
    Means schema l l.record t :=
  ⟨rfl, Formula.placeholders_of_bind bound, bound⟩

theorem means_join (logic : Logic) {l r : Lambda} {s t : α → Truth}
    (left : l.bind schema = .ok s) (right : r.bind schema = .ok t) :
    Means schema (.join logic l r) l.record (fun x => logic.combine [s x, t x]) := by
  have moved : (r.body.replace r.record l.record).bind schema l.record [] = .ok t :=
    Formula.bind_replace right
  have truth (x : α) : logic.truth (s x) (t x) = logic.combine [s x, t x] :=
    logic.truth_foldl (s x) (t x) []
  simp only [← truth]
  exact means_of_bind (bind_eq_ok.mpr ⟨s, left, bind_eq_ok.mpr ⟨t, moved, rfl⟩⟩)

theorem means_not {l : Lambda} {s : α → Truth} (bound : l.bind schema = .ok s) :
    Means schema l.not l.record (fun x => .ofBool (s x ≠ .yes)) := by
  have truth (t : Truth) : t.denied = .ofBool (t ≠ .yes) := by cases t <;> rfl
  simp only [← truth]
  exact means_of_bind (bind_eq_ok.mpr ⟨s, bound, rfl⟩)

/-- Lambdas put together by the combinators. -/
inductive Combination where
  | single (l : Lambda)
  | and (left right : Combination)
  | or (left right : Combination)
  | not (inner : Combination)

namespace Combination

def lambda : Combination → Lambda
  | single l => l
  | and l r => l.lambda.and r.lambda
  | or l r => l.lambda.or r.lambda
  | not inner => inner.lambda.not

def parts : Combination → List Lambda
  | single l => [l]
  | and l r | or l r => l.parts ++ r.parts
  | not inner => inner.parts

/-- The leftmost lambda. -/
def first : Combination → Lambda
  | single l => l
  | and l _ | or l _ => l.first
  | not inner => inner.first

/-- What a combination says, given what its parts say. -/
def truth (part : Lambda → Truth) : Combination → Truth
  | single l => part l
  | and l r => .all [l.truth part, r.truth part]
  | or l r => .any [l.truth part, r.truth part]
  | not inner => .ofBool (inner.truth part ≠ .yes)

/-- Whether a combination holds, given which parts do. -/
def holds (part : Lambda → Bool) : Combination → Bool
  | single l => part l
  | and l r => l.holds part && r.holds part
  | or l r => l.holds part || r.holds part
  | not inner => !inner.holds part

theorem means (c : Combination) {test : Lambda → α → Truth}
    (bound : ∀ l ∈ c.parts, l.bind schema = .ok (test l)) :
    Means schema c.lambda c.first.record (fun x => c.truth fun l => test l x) := by
  induction c with
  | single l => exact means_of_bind (bound l List.mem_cons_self)
  | and l r ihl ihr =>
    obtain ⟨boundl, boundr⟩ := List.forall_mem_append.mp bound
    have left := ihl boundl
    exact left.about ▸ means_join .and left.bound (ihr boundr).bound
  | or l r ihl ihr =>
    obtain ⟨boundl, boundr⟩ := List.forall_mem_append.mp bound
    have left := ihl boundl
    exact left.about ▸ means_join .or left.bound (ihr boundr).bound
  | not inner ih =>
    have below := ih bound
    exact below.about ▸ means_not below.bound

/-- Only what is definitely true counts, so combinations are two-valued once that is asked. -/
theorem truth_eq_yes (part : Lambda → Truth) (c : Combination) :
    (c.truth part == .yes) = c.holds fun l => part l == .yes := by
  have both (a b : Truth) : (Truth.all [a, b] == .yes) = (a == .yes && b == .yes) := by
    cases a <;> cases b <;> rfl
  have either (a b : Truth) : (Truth.any [a, b] == .yes) = (a == .yes || b == .yes) := by
    cases a <;> cases b <;> rfl
  have neither (a : Truth) : (Truth.ofBool (a ≠ .yes) == .yes) = !(a == .yes) := by
    cases a <;> rfl
  induction c with
  | single l => rfl
  | and l r ihl ihr => rw [truth, both, ihl, ihr, holds]
  | or l r ihl ihr => rw [truth, either, ihl, ihr, holds]
  | not inner ih => rw [truth, neither, ih, holds]

end Combination

/-- Of two lambdas that bind, `and` and `or` give Kleene's connectives of what they say, `not` says
whether the first one is not definitely true, and all of these are about the first one's record
alone. Nested in any way, combinations match the records that the connectives of the same names
tell from the parts that match. -/
theorem combination_exact {p q : Lambda} {s t : α → Truth} (left : p.bind schema = .ok s)
    (right : q.bind schema = .ok t) :
    Means schema (p.and q) p.record (fun x => .all [s x, t x]) ∧
    Means schema (p.or q) p.record (fun x => .any [s x, t x]) ∧
    Means schema p.not p.record (fun x => .ofBool (s x ≠ .yes)) ∧
    ∀ (c : Combination) (test : Lambda → α → Truth),
      (∀ l ∈ c.parts, l.bind schema = .ok (test l)) →
        ∃ u, Means schema c.lambda c.first.record u ∧
          ∀ x, u x = (c.truth fun l => test l x) ∧
            isMatch u x = c.holds fun l => isMatch (test l) x := by
  refine ⟨means_join .and left right, means_join .or left right, means_not left, ?_⟩
  intro c test bound
  exact ⟨_, c.means bound, fun x => ⟨rfl, c.truth_eq_yes fun l => test l x⟩⟩

def ageSchema : Schema (Option Int)
  | "age" => some ⟨fun age => age.map .ofInt, some .i64⟩
  | _ => none

def atLeast (record : Placeholder) (years : Int) : Lambda :=
  ⟨record, FieldRef.compare ⟨record, "age"⟩ .ge (.ofInt years)⟩

def ageTruth (l : Lambda) (age : Option Int) : Truth :=
  match l.bind ageSchema with
  | .ok test => test age
  | .error _ => .unknown

/-- Not known to be grown up, or grown up and not known to be retired. -/
def youngOrWorking : Combination :=
  .or (.not (.single (atLeast ⟨0⟩ 18)))
    (.and (.single (atLeast ⟨0⟩ 18)) (.not (.single (atLeast ⟨1⟩ 65))))

theorem combination_exact_ages :
    ∃ s t u, (atLeast ⟨0⟩ 18).bind ageSchema = .ok s ∧ (atLeast ⟨1⟩ 65).bind ageSchema = .ok t ∧
      s none = .unknown ∧
      ((atLeast ⟨0⟩ 18).not.or ((atLeast ⟨0⟩ 18).and (atLeast ⟨1⟩ 65).not)).bind ageSchema =
        .ok u ∧
      isMatch u none = true ∧ isMatch u (some 30) = true ∧ isMatch u (some 70) = false := by
  have left : (atLeast ⟨0⟩ 18).bind ageSchema = .ok (ageTruth (atLeast ⟨0⟩ 18)) := rfl
  have right : (atLeast ⟨1⟩ 65).bind ageSchema = .ok (ageTruth (atLeast ⟨1⟩ 65)) := rfl
  obtain ⟨-, -, -, nested⟩ := combination_exact left right
  obtain ⟨u, made, matching⟩ := nested youngOrWorking ageTruth
    (by simp [youngOrWorking, Combination.parts, left, right])
  refine ⟨_, _, u, left, right, rfl, made.bound, ?_, ?_, ?_⟩
  · exact (matching none).2.trans (by decide)
  · exact (matching (some 30)).2.trans (by decide)
  · exact (matching (some 70)).2.trans (by decide)

end RecordQuery
