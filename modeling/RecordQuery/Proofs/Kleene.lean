import Mathlib.Data.List.Basic
import RecordQuery.Binding

/-! Kleene's connectives on lists of truths, where neither order nor grouping is seen. -/
namespace RecordQuery.Truth

/-- A decision, unknown where there is none. -/
def ofOption : Option Bool → Truth
  | some b => ofBool b
  | none => unknown

/-- Kleene's negation: true and false exchanged. -/
def negated : Truth → Truth
  | no => yes
  | unknown => unknown
  | yes => no

@[simp] theorem negated_ofBool (b : Bool) : (ofBool b).negated = ofBool !b := by
  cases b <;> rfl

@[simp] theorem negated_unknown : unknown.negated = unknown := rfl

/-- Kleene's conjunction of a list. -/
def all (ts : List Truth) : Truth :=
  if no ∈ ts then no else if unknown ∈ ts then unknown else yes

/-- Kleene's disjunction of a list. -/
def any (ts : List Truth) : Truth :=
  if yes ∈ ts then yes else if unknown ∈ ts then unknown else no

theorem all_cons (t : Truth) (ts : List Truth) : all (t :: ts) = t.and (all ts) := by
  unfold all
  cases t <;> by_cases n : no ∈ ts <;> by_cases u : unknown ∈ ts <;> simp [n, u, and]

theorem any_cons (t : Truth) (ts : List Truth) : any (t :: ts) = t.or (any ts) := by
  unfold any
  cases t <;> by_cases y : yes ∈ ts <;> by_cases u : unknown ∈ ts <;> simp [y, u, or]

theorem and_assoc (a b c : Truth) : (a.and b).and c = a.and (b.and c) := by
  cases a <;> cases b <;> cases c <;> rfl

theorem or_assoc (a b c : Truth) : (a.or b).or c = a.or (b.or c) := by
  cases a <;> cases b <;> cases c <;> rfl

theorem foldl_and (t : Truth) (ts : List Truth) : ts.foldl Truth.and t = all (t :: ts) := by
  induction ts generalizing t with
  | nil => cases t <;> rfl
  | cons u us ih => rw [List.foldl_cons, ih, all_cons, all_cons, all_cons, and_assoc]

theorem foldl_or (t : Truth) (ts : List Truth) : ts.foldl Truth.or t = any (t :: ts) := by
  induction ts generalizing t with
  | nil => cases t <;> rfl
  | cons u us ih => rw [List.foldl_cons, ih, any_cons, any_cons, any_cons, or_assoc]

end RecordQuery.Truth

namespace RecordQuery

/-- Kleene's connective of that name on a list. -/
def Logic.combine : Logic → List Truth → Truth
  | and => Truth.all
  | or => Truth.any

theorem Logic.combine_cons (logic : Logic) (t : Truth) (ts : List Truth) :
    logic.combine (t :: ts) = logic.truth t (logic.combine ts) := by
  cases logic with
  | and => exact Truth.all_cons t ts
  | or => exact Truth.any_cons t ts

theorem Logic.truth_assoc (logic : Logic) (a b c : Truth) :
    logic.truth (logic.truth a b) c = logic.truth a (logic.truth b c) := by
  cases logic with
  | and => exact Truth.and_assoc a b c
  | or => exact Truth.or_assoc a b c

/-- A truth joined to a chain of others, which hang together from the left. -/
theorem Logic.truth_foldl (logic : Logic) (own t : Truth) (ts : List Truth) :
    logic.truth own (ts.foldl logic.truth t) = logic.combine (own :: t :: ts) := by
  cases logic with
  | and => exact (congrArg own.and (Truth.foldl_and t ts)).trans (Truth.all_cons own _).symm
  | or => exact (congrArg own.or (Truth.foldl_or t ts)).trans (Truth.any_cons own _).symm

end RecordQuery
