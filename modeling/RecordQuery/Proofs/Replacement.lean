import RecordQuery.Proofs.Capture
import RecordQuery.Proofs.Readability

/-! Replacing a placeholder of a formula by another one. Only the mentions of it change, all of them
and in their places. Where the other one was not mentioned before, the replacement can be undone, so
a lambda says the same about either of them. -/
namespace RecordQuery

namespace Formula

/-- What the leaves give, from left to right. -/
def collect (leaf : Formula → List β) : Formula → List β
  | compare l _ r | textTest _ _ l r | join _ l r => l.collect leaf ++ r.collect leaf
  | not inner => inner.collect leaf
  | f => leaf f

def paths : Formula → List String := collect fun
  | field _ path => [path]
  | _ => []

def literals : Formula → List Value := collect fun
  | literal v => [v]
  | _ => []

/-- The formula with one placeholder in the place of all. -/
def outline (f : Formula) : Formula := f.rename fun _ => default

section

variable (ρ : Placeholder → Placeholder) (f : Formula)

theorem placeholders_rename : (f.rename ρ).placeholders = f.placeholders.map ρ := by
  induction f with
  | const | literal | slot | field => rfl
  | compare _ _ _ ihl ihr | textTest _ _ _ _ ihl ihr | join _ _ _ ihl ihr =>
    simp [rename, placeholders, ihl, ihr]
  | not _ ih => exact ih

theorem slotIndices_rename : (f.rename ρ).slotIndices = f.slotIndices := by
  induction f with
  | const | literal | slot | field => rfl
  | compare _ _ _ ihl ihr | textTest _ _ _ _ ihl ihr | join _ _ _ ihl ihr =>
    simp [rename, slotIndices, ihl, ihr]
  | not _ ih => exact ih

theorem collect_rename {leaf : Formula → List β}
    (blind : ∀ p path, leaf (field (ρ p) path) = leaf (field p path)) :
    (f.rename ρ).collect leaf = f.collect leaf := by
  induction f with
  | const | literal | slot => rfl
  | field p path => exact blind p path
  | compare _ _ _ ihl ihr | textTest _ _ _ _ ihl ihr | join _ _ _ ihl ihr =>
    simp [rename, collect, ihl, ihr]
  | not _ ih => exact ih

end

theorem rename_congr {ρ σ : Placeholder → Placeholder} {f : Formula}
    (agree : ∀ p ∈ f.placeholders, ρ p = σ p) : f.rename ρ = f.rename σ := by
  induction f with
  | const | literal | slot => rfl
  | field p path => simp [rename, agree p List.mem_cons_self]
  | compare _ _ _ ihl ihr | textTest _ _ _ _ ihl ihr | join _ _ _ ihl ihr =>
    obtain ⟨left, right⟩ := List.forall_mem_append.mp agree
    simp [rename, ihl left, ihr right]
  | not _ ih => simp [rename, ih agree]

theorem outline_rename (ρ : Placeholder → Placeholder) (f : Formula) :
    (f.rename ρ).outline = f.outline := rename_rename ρ _ f

theorem length_of_outline {f g : Formula} (form : f.outline = g.outline) :
    f.placeholders.length = g.placeholders.length := by
  have mentions := congrArg placeholders form
  simp only [outline, placeholders_rename] at mentions
  simpa using congrArg List.length mentions

/-- An outline and the placeholders from left to right determine a formula. -/
theorem eq_of_outline {f g : Formula} (form : f.outline = g.outline)
    (mentions : f.placeholders = g.placeholders) : f = g := by
  induction f generalizing g with
  | const | literal | slot =>
    cases g <;> simp_all [outline, rename]
  | field p path =>
    cases g <;> simp_all [outline, rename, placeholders]
  | compare l c r ihl ihr =>
    cases g <;> simp only [outline, rename, reduceCtorEq, compare.injEq] at form
    obtain ⟨left, rfl, right⟩ := form
    -- outlines of one form have the same number of placeholders, so the lists are cut alike
    obtain ⟨first, second⟩ := List.append_inj mentions (length_of_outline left)
    rw [ihl left first, ihr right second]
  | textTest t n l r ihl ihr =>
    cases g <;> simp only [outline, rename, reduceCtorEq, textTest.injEq] at form
    obtain ⟨rfl, rfl, left, right⟩ := form
    obtain ⟨first, second⟩ := List.append_inj mentions (length_of_outline left)
    rw [ihl left first, ihr right second]
  | join logic l r ihl ihr =>
    cases g <;> simp only [outline, rename, reduceCtorEq, join.injEq] at form
    obtain ⟨rfl, left, right⟩ := form
    obtain ⟨first, second⟩ := List.append_inj mentions (length_of_outline left)
    rw [ihl left first, ihr right second]
  | not inner ih =>
    cases g <;> simp only [outline, rename, reduceCtorEq, not.injEq] at form
    rw [ih form mentions]

theorem replace_undo {f : Formula} (old : Placeholder) {new : Placeholder}
    (fresh : new ∉ f.placeholders) :
    (f.replace old new).replace new old = f := by
  rw [replace_eq_rename, replace_eq_rename, rename_rename]
  refine (rename_congr fun p mentioned => ?_).trans f.rename_id
  have other : p ≠ new := fun same => fresh (same ▸ mentioned)
  by_cases here : p = old <;> simp [here, other]

end Formula

/-- Replacing a placeholder rewrites the mentions of it and nothing else: it gives the one formula
with the outline that there was and the new placeholder at the places of the old one. If the new one
was not mentioned, replacing it gives the formula back, and a lambda about the old placeholder binds
to the tests that the rewritten one about the new placeholder binds to. -/
theorem replacement_exact (f : Formula) (old new : Placeholder) :
    (f.replace old new).placeholders = f.placeholders.map (fun p => if p = old then new else p) ∧
    (f.replace old new).outline = f.outline ∧
    (∀ g : Formula, g.outline = f.outline →
      g.placeholders = f.placeholders.map (fun p => if p = old then new else p) →
        g = f.replace old new) ∧
    (f.replace old new).toText = f.toText ∧
    (f.replace old new).slotIndices = f.slotIndices ∧
    (f.replace old new).paths = f.paths ∧
    (f.replace old new).literals = f.literals ∧
    (new ∉ f.placeholders →
      (f.replace old new).replace new old = f ∧
      ∀ (α : Type) (schema : Schema α) (test : α → Truth),
        (Lambda.mk new (f.replace old new)).bind schema = .ok test ↔
          (Lambda.mk old f).bind schema = .ok test) := by
  have renamed := f.replace_eq_rename old new
  have mentions : (f.replace old new).placeholders =
      f.placeholders.map fun p => if p = old then new else p := by
    rw [renamed, Formula.placeholders_rename]
  have form : (f.replace old new).outline = f.outline := by
    rw [renamed, Formula.outline_rename]
  refine ⟨mentions, form, ?_, f.toText_replace old new, ?_, ?_, ?_, ?_⟩
  · intro g alike rewritten
    exact Formula.eq_of_outline (alike.trans form.symm) (rewritten.trans mentions.symm)
  · rw [renamed, Formula.slotIndices_rename]
  · rw [renamed]
    exact f.collect_rename _ fun _ _ => rfl
  · rw [renamed]
    exact f.collect_rename _ fun _ _ => rfl
  · intro fresh
    have undone := Formula.replace_undo old fresh
    refine ⟨undone, fun α schema test => ⟨fun bound => ?_, Formula.bind_replace⟩⟩
    have back : ((f.replace old new).replace new old).bind schema old [] = .ok test :=
      Formula.bind_replace bound
    rwa [undone] at back

/-- Not under 18, and of a name without a b or of no age. -/
def grownFormula (record : Placeholder) : Formula :=
  .join .and (.not (.compare (.literal (.ofInt 18)) .gt (.field record "age")))
    (.join .or (.textTest .contains true (.field record "name") (.literal (.text "b")))
      (.compare (.field record "age") .eq (.literal .null)))

theorem replacement_exact_people :
    ⟨1⟩ ∉ (grownFormula ⟨0⟩).placeholders ∧
      (grownFormula ⟨0⟩).replace ⟨0⟩ ⟨1⟩ = grownFormula ⟨1⟩ ∧
      (grownFormula ⟨1⟩).replace ⟨1⟩ ⟨0⟩ = grownFormula ⟨0⟩ ∧
      ∃ test, (Lambda.mk ⟨0⟩ (grownFormula ⟨0⟩)).bind personSchema = .ok test ∧
        (Lambda.mk ⟨1⟩ (grownFormula ⟨1⟩)).bind personSchema = .ok test ∧
        test ("Ann", some 40) = .yes ∧ test ("Abe", none) = .yes ∧ test ("Abe", some 40) = .no := by
  have fresh : ⟨1⟩ ∉ (grownFormula ⟨0⟩).placeholders := by decide
  obtain ⟨-, -, only, -, -, -, -, alike⟩ := replacement_exact (grownFormula ⟨0⟩) ⟨0⟩ ⟨1⟩
  obtain ⟨undone, binds⟩ := alike fresh
  have rewritten := only (grownFormula ⟨1⟩) rfl rfl
  rw [← rewritten] at undone binds
  have bound : (Lambda.mk ⟨0⟩ (grownFormula ⟨0⟩)).bind personSchema = .ok _ := rfl
  exact ⟨fresh, rewritten.symm, undone, _, bound, (binds _ _ _).mpr bound, rfl, rfl, rfl⟩

/-- Of a placeholder that was mentioned before nobody can tell which mentions are new. -/
example : ((Formula.field ⟨1⟩ "age").replace ⟨0⟩ ⟨1⟩).replace ⟨1⟩ ⟨0⟩ ≠ .field ⟨1⟩ "age" := nofun

end RecordQuery
