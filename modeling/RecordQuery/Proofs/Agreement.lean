import Mathlib.Data.List.Forall2
import RecordQuery.Proofs.Verdict

/-! Two outcomes that agree: results that are related, or errors that are. What is done in steps
agrees where every step does. -/
namespace RecordQuery

variable {γ δ ε ζ σ τ : Type}

/-- Both fail, for related reasons, or both give results, which are related. -/
inductive Agree (blame : ε → ζ → Prop) (result : σ → τ → Prop) : Except ε σ → Except ζ τ → Prop where
  | ok {s : σ} {t : τ} : result s t → Agree blame result (.ok s) (.ok t)
  | error {e : ε} {e' : ζ} : blame e e' → Agree blame result (.error e) (.error e')

section

variable {blame : ε → ζ → Prop}

theorem Agree.imp {blame' : ε → ζ → Prop} {R S : σ → τ → Prop} {x : Except ε σ} {y : Except ζ τ}
    (agree : Agree blame R x y) (blamed : ∀ e e', blame e e' → blame' e e')
    (results : ∀ s t, R s t → S s t) : Agree blame' S x y := by
  cases agree with
  | ok related => exact .ok (results _ _ related)
  | error same => exact .error (blamed _ _ same)

theorem Agree.of_ok {R : σ → τ → Prop} {s : σ} {t : τ} (agree : Agree blame R (.ok s) (.ok t)) :
    R s t := by
  cases agree with
  | ok related => exact related

theorem Agree.bind {R : σ → τ → Prop} {S : γ → δ → Prop} {x : Except ε σ} {y : Except ζ τ}
    {next : σ → Except ε γ} {next' : τ → Except ζ δ} (first : Agree blame R x y)
    (rest : ∀ s t, R s t → Agree blame S (next s) (next' t)) :
    Agree blame S (x >>= next) (y >>= next') := by
  cases first with
  | ok related => exact rest _ _ related
  | error same => exact .error same

theorem agree_map {R : γ → δ → Prop} {f : σ → γ} {g : τ → δ} {x : Except ε σ} {y : Except ζ τ} :
    Agree blame R (x.map f) (y.map g) ↔ Agree blame (fun s t => R (f s) (g t)) x y := by
  constructor
  · intro agree
    cases x <;> cases y <;> cases agree <;> constructor <;> assumption
  · intro agree
    cases agree with
    | ok related => exact .ok related
    | error same => exact .error same

theorem verdict_agree {R : σ → τ → Prop} {fault : Option ε} {fault' : Option ζ} {s : σ} {t : τ}
    (faults : Option.Rel blame fault fault') (results : fault = none → fault' = none → R s t) :
    Agree blame R (verdict fault s) (verdict fault' t) := by
  cases faults with
  | none => exact .ok (results rfl rfl)
  | some same => exact .error same

variable {R : σ → τ → Prop}

theorem rel_imp {S : σ → τ → Prop} {x : Option σ} {y : Option τ} (related : Option.Rel R x y)
    (each : ∀ s t, R s t → S s t) : Option.Rel S x y := by
  cases related with
  | none => exact .none
  | some here => exact .some (each _ _ here)

theorem rel_or {x x' : Option σ} {y y' : Option τ} (first : Option.Rel R x y)
    (second : Option.Rel R x' y') : Option.Rel R (x.or x') (y.or y') := by
  cases first with
  | none => exact second
  | some related => exact .some related

theorem rel_filter {x : Option σ} {y : Option τ} {p : σ → Bool} {q : τ → Bool}
    (related : Option.Rel R x y) (same : ∀ s t, R s t → p s = q t) :
    Option.Rel R (x.filter p) (y.filter q) := by
  cases related with
  | none => exact .none
  | @some s t here =>
    simp only [Option.filter_some, same s t here]
    split
    · exact .some here
    · exact .none

theorem rel_bind {S : γ → δ → Prop} {x : Option σ} {y : Option τ} {f : σ → Option γ}
    {g : τ → Option δ} (related : Option.Rel R x y)
    (next : ∀ s t, R s t → Option.Rel S (f s) (g t)) : Option.Rel S (x.bind f) (y.bind g) := by
  cases related with
  | none => exact .none
  | some here => exact next _ _ here

theorem isEmpty_parallel {xs : List σ} {ys : List τ} (related : List.Forall₂ R xs ys) :
    xs.isEmpty = ys.isEmpty := by
  cases related <;> rfl

theorem rel_findSome? {S : γ → δ → Prop} {xs : List σ} {ys : List τ} {f : σ → Option γ}
    {g : τ → Option δ} (related : List.Forall₂ R xs ys)
    (each : ∀ s t, R s t → Option.Rel S (f s) (g t)) :
    Option.Rel S (xs.findSome? f) (ys.findSome? g) := by
  induction related with
  | nil => exact .none
  | cons head _ ih =>
    have first := each _ _ head
    simp only [List.findSome?_cons]
    generalize f _ = x at first
    generalize g _ = y at first
    cases first with
    | none => exact ih
    | some found => exact .some found

theorem mapM_agree {S : γ → δ → Prop} {f : σ → Except ε γ} {g : τ → Except ζ δ} {xs : List σ}
    {ys : List τ} (related : List.Forall₂ R xs ys)
    (each : ∀ s t, R s t → Agree blame S (f s) (g t)) :
    Agree blame (List.Forall₂ S) (xs.mapM f) (ys.mapM g) := by
  induction related with
  | nil => exact .ok .nil
  | cons head _ ih =>
    rw [List.mapM_cons, List.mapM_cons]
    refine (each _ _ head).bind fun s t first => ?_
    exact ih.bind fun ss ts others => .ok (.cons first others)

end

end RecordQuery
