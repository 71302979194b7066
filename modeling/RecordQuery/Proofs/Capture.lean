import RecordQuery.Proofs.Combination

/-! Which parts of a combination that binds also bind by themselves. Combining renames the
placeholder of one operand and leaves all others as they are, so the one thing that a part may be
rejected for by itself and not in the combination is a mention of another part's placeholder. -/
namespace RecordQuery

namespace Formula

def rename (ρ : Placeholder → Placeholder) : Formula → Formula
  | field p path => field (ρ p) path
  | compare l c r => compare (l.rename ρ) c (r.rename ρ)
  | textTest t n l r => textTest t n (l.rename ρ) (r.rename ρ)
  | join logic l r => join logic (l.rename ρ) (r.rename ρ)
  | not inner => not (inner.rename ρ)
  | f => f

theorem replace_eq_rename (old new : Placeholder) (f : Formula) :
    f.replace old new = f.rename fun p => if p = old then new else p := by
  induction f with
  | const | literal | slot | field => rfl
  | compare _ _ _ ihl ihr | textTest _ _ _ _ ihl ihr | join _ _ _ ihl ihr =>
    simp only [replace, rename, ihl, ihr]
  | not _ ih => simp only [replace, rename, ih]

theorem rename_rename (ρ σ : Placeholder → Placeholder) (f : Formula) :
    (f.rename ρ).rename σ = f.rename (σ ∘ ρ) := by
  induction f with
  | const | literal | slot | field => rfl
  | compare _ _ _ ihl ihr | textTest _ _ _ _ ihl ihr | join _ _ _ ihl ihr =>
    simp only [rename, ihl, ihr]
  | not _ ih => simp only [rename, ih]

theorem rename_id (f : Formula) : f.rename id = f := by
  induction f with
  | const | literal | slot | field => rfl
  | compare _ _ _ ihl ihr | textTest _ _ _ _ ihl ihr | join _ _ _ ihl ihr =>
    simp only [rename, ihl, ihr]
  | not _ ih => simp only [rename, ih]

end Formula

section

variable {ρ : Placeholder → Placeholder} {record own : Placeholder}

/-- The outcome is that result, unless a placeholder other than the own one is mentioned which the
renaming takes to `record`; then it is the error for such a placeholder. -/
def UnlessCaught (ρ : Placeholder → Placeholder) (record own : Placeholder)
    (mentioned : List Placeholder) (outcome : Except BindError β) (result : β) : Prop :=
  outcome = .ok result ∨
    ∃ p ∈ mentioned, p ≠ own ∧ ρ p = record ∧ outcome = .error (.unboundPlaceholder own p)

theorem UnlessCaught.of_ok {x : Except BindError β} {result : β} (made : x = .ok result) :
    UnlessCaught ρ record own [] x result := .inl made

theorem UnlessCaught.bind {mentioned more : List Placeholder} {x : Except BindError β} {a : β}
    {next : β → Except BindError γ} {result : γ}
    (first : UnlessCaught ρ record own mentioned x a)
    (second : UnlessCaught ρ record own more (next a) result) :
    UnlessCaught ρ record own (mentioned ++ more) (x >>= next) result := by
  rcases first with rfl | ⟨p, here, other, caught, rfl⟩
  · rcases second with made | ⟨p, here, other, caught, failed⟩
    · exact .inl made
    · exact .inr ⟨p, List.mem_append_right _ here, other, caught, failed⟩
  · exact .inr ⟨p, List.mem_append_left _ here, other, caught, rfl⟩

end

namespace Formula

variable {α : Type} {schema : Schema α} {slots : List (Option Value)}
  {ρ : Placeholder → Placeholder} {record own : Placeholder}

theorem operand_of_rename {f : Formula} {o : Operand α}
    (found : (f.rename ρ).operand schema record slots = .ok o) :
    UnlessCaught ρ record own f.placeholders (f.operand schema own slots) o := by
  cases f with
  | field p path =>
    obtain ⟨caught, g, known, rfl⟩ := operand_field_ok found
    by_cases same : p = own
    · left
      simp [operand, same, known]
    · right
      refine ⟨p, List.mem_singleton_self p, same, caught, ?_⟩
      simp [operand, same]
  | literal | slot => exact .of_ok found
  | const | compare | textTest | join | not => cases found

/-- What binds after a renaming binds before it too, unless the renaming has caught something. -/
theorem bind_of_rename {f : Formula} {t : α → Truth}
    (bound : (f.rename ρ).bind schema record slots = .ok t) :
    UnlessCaught ρ record own f.placeholders (f.bind schema own slots) t := by
  induction f generalizing t with
  | const => exact .of_ok bound
  | literal v => cases v <;> exact .of_ok bound
  | slot | field => cases bound
  | compare l c r _ _ | textTest t n l r _ _ =>
    obtain ⟨a, left, rest⟩ := bind_eq_ok.mp bound
    obtain ⟨b, right, made⟩ := bind_eq_ok.mp rest
    rw [placeholders, ← List.append_nil r.placeholders]
    apply (operand_of_rename left).bind
    apply (operand_of_rename right).bind
    exact .of_ok made
  | join logic l r ihl ihr =>
    obtain ⟨s, left, rest⟩ := bind_eq_ok.mp bound
    obtain ⟨u, right, made⟩ := bind_eq_ok.mp rest
    rw [placeholders, ← List.append_nil r.placeholders]
    apply (ihl left).bind
    apply (ihr right).bind
    exact .of_ok made
  | not inner ih =>
    obtain ⟨s, below, made⟩ := bind_eq_ok.mp bound
    rw [placeholders, ← List.append_nil inner.placeholders]
    apply (ih below).bind
    exact .of_ok made

end Formula

variable {α : Type} {schema : Schema α}

theorem operands_of_join {logic : Logic} {p q : Lambda} {u : α → Truth}
    (bound : (Lambda.join logic p q).bind schema = .ok u) :
    ∃ s t, p.bind schema = .ok s ∧
      (q.body.replace q.record p.record).bind schema p.record [] = .ok t := by
  obtain ⟨s, left, rest⟩ := bind_eq_ok.mp bound
  obtain ⟨t, right, -⟩ := bind_eq_ok.mp rest
  exact ⟨s, t, left, right⟩

/-- Of an operand that binds once its placeholder is replaced by `record`. -/
theorem bind_of_replace {q : Lambda} {record : Placeholder} {t : α → Truth}
    (bound : (q.body.replace q.record record).bind schema record [] = .ok t) :
    if record ≠ q.record ∧ record ∈ q.body.placeholders then
      q.bind schema = .error (.unboundPlaceholder q.record record)
    else ∃ t, q.bind schema = .ok t := by
  rw [Formula.replace_eq_rename] at bound
  have alone : UnlessCaught _ record q.record q.body.placeholders (q.bind schema) t :=
    Formula.bind_of_rename bound
  rcases alone with made | ⟨r, mentioned, other, caught, failed⟩
  · rw [if_neg]
    · exact ⟨t, made⟩
    · rintro ⟨other, mentioned⟩
      exact other (Formula.placeholders_of_bind made _ mentioned)
  · simp only [if_neg other] at caught
    subst caught
    rw [if_pos ⟨other, mentioned⟩]
    exact failed

namespace Combination

theorem first_mem (c : Combination) : c.first ∈ c.parts := by
  induction c with
  | single l => exact List.mem_singleton_self l
  | and l r ihl _ | or l r ihl _ => exact List.mem_append_left _ ihl
  | not inner ih => exact ih

theorem lambda_record (c : Combination) : c.lambda.record = c.first.record := by
  induction c with
  | single l => rfl
  | and l r ihl _ | or l r ihl _ => exact ihl
  | not inner ih => exact ih

/-- A part binds by itself, or is rejected for a placeholder other than its own, which is that of
a part of the combination or is taken to `record`. -/
def PartBinds (schema : Schema α) (ρ : Placeholder → Placeholder) (record : Placeholder)
    (parts : List Lambda) (l : Lambda) : Prop :=
  (∃ t, l.bind schema = .ok t) ∨
    ∃ p ∈ l.body.placeholders, p ≠ l.record ∧ (ρ p = record ∨ ∃ m ∈ parts, m.record = p) ∧
      l.bind schema = .error (.unboundPlaceholder l.record p)

section

variable {ρ : Placeholder → Placeholder} {record : Placeholder} {parts more : List Lambda}
  {l : Lambda}

theorem PartBinds.mono (some : parts ⊆ more) (binds : PartBinds schema ρ record parts l) :
    PartBinds schema ρ record more l := by
  rcases binds with bound | ⟨p, mentioned, other, origin, failed⟩
  · exact .inl bound
  · refine .inr ⟨p, mentioned, other, ?_, failed⟩
    rcases origin with caught | ⟨m, part, same⟩
    · exact .inl caught
    · exact .inr ⟨m, some part, same⟩

/-- What the replacement of a part's placeholder takes to `record` is that placeholder or was taken
to `record` anyway. -/
theorem PartBinds.of_replace {m : Lambda} {new : Placeholder} (part : m ∈ parts)
    (binds : PartBinds schema (ρ ∘ fun p => if p = m.record then new else p) record parts l) :
    PartBinds schema ρ record parts l := by
  rcases binds with bound | ⟨p, mentioned, other, origin, failed⟩
  · exact .inl bound
  · refine .inr ⟨p, mentioned, other, ?_, failed⟩
    rcases origin with caught | known
    · by_cases replaced : p = m.record
      · exact .inr ⟨m, part, replaced.symm⟩
      · rw [Function.comp_apply, if_neg replaced] at caught
        exact .inl caught
    · exact .inr known

end

theorem parts_bind {c : Combination} {ρ : Placeholder → Placeholder} {record : Placeholder}
    {u : α → Truth} (bound : (c.lambda.body.rename ρ).bind schema record [] = .ok u) :
    ∀ l ∈ c.parts, PartBinds schema ρ record c.parts l := by
  induction c generalizing ρ u with
  | single l =>
    intro m member
    obtain rfl := List.mem_singleton.mp member
    have alone : UnlessCaught ρ record m.record m.body.placeholders (m.bind schema) u :=
      Formula.bind_of_rename bound
    rcases alone with made | ⟨p, mentioned, other, caught, failed⟩
    · exact .inl ⟨u, made⟩
    · exact .inr ⟨p, mentioned, other, .inl caught, failed⟩
  | and l r ihl ihr | or l r ihl ihr =>
    obtain ⟨s, left, rest⟩ := bind_eq_ok.mp bound
    obtain ⟨t, right, -⟩ := bind_eq_ok.mp rest
    rw [Formula.replace_eq_rename, Formula.rename_rename, lambda_record r] at right
    intro m member
    rcases List.mem_append.mp member with inside | inside
    · exact (ihl left m inside).mono (List.subset_append_left _ _)
    · have last := (ihr right m inside).of_replace r.first_mem
      exact last.mono (List.subset_append_right _ _)
  | not inner ih =>
    obtain ⟨s, below, -⟩ := bind_eq_ok.mp bound
    exact ih below

end Combination

/-- If two lambdas joined by `and` or `or` bind, the first one binds by itself, and so does the
second one unless it mentions the first one's placeholder besides its own, which is then what it is
rejected for. However deep the combinations are nested, a part of one that binds is rejected by
itself for nothing but the placeholder of another part. -/
theorem combined_parts_bind {p q : Lambda} {u : α → Truth}
    (bound : (p.and q).bind schema = .ok u ∨ (p.or q).bind schema = .ok u) :
    (∃ s, p.bind schema = .ok s) ∧
    (if p.record ≠ q.record ∧ p.record ∈ q.body.placeholders then
        q.bind schema = .error (.unboundPlaceholder q.record p.record)
      else ∃ t, q.bind schema = .ok t) ∧
    ∀ (c : Combination) (v : α → Truth), c.lambda.bind schema = .ok v →
      ∀ l ∈ c.parts, (∃ t, l.bind schema = .ok t) ∨
        ∃ m ∈ c.parts, m.record ≠ l.record ∧ m.record ∈ l.body.placeholders ∧
          l.bind schema = .error (.unboundPlaceholder l.record m.record) := by
  have operands : ∃ s t, p.bind schema = .ok s ∧
      (q.body.replace q.record p.record).bind schema p.record [] = .ok t := by
    rcases bound with both | either
    · exact operands_of_join both
    · exact operands_of_join either
  obtain ⟨s, t, left, right⟩ := operands
  refine ⟨⟨s, left⟩, bind_of_replace right, ?_⟩
  intro c v whole l part
  have unrenamed : (c.lambda.body.rename id).bind schema c.lambda.record [] = .ok v := by
    rw [Formula.rename_id]
    exact whole
  rcases Combination.parts_bind unrenamed l part with made | ⟨r, mentioned, other, origin, failed⟩
  · exact .inl made
  · right
    rcases origin with first | ⟨m, inside, rfl⟩
    · obtain rfl : r = c.first.record := first.trans c.lambda_record
      exact ⟨c.first, c.first_mem, other, mentioned, failed⟩
    · exact ⟨m, inside, other, mentioned, failed⟩

/-- A lambda that tests the record of another lambda. -/
def strayAge : Lambda := ⟨⟨1⟩, FieldRef.compare ⟨⟨0⟩, "age"⟩ .lt (.ofInt 65)⟩

theorem combined_parts_bind_ages :
    ∃ u, ((atLeast ⟨0⟩ 18).and strayAge).bind ageSchema = .ok u ∧
      (∃ s, (atLeast ⟨0⟩ 18).bind ageSchema = .ok s) ∧
      strayAge.bind ageSchema = .error (.unboundPlaceholder ⟨1⟩ ⟨0⟩) := by
  have bound : ((atLeast ⟨0⟩ 18).and strayAge).bind ageSchema =
      .ok (ageTruth ((atLeast ⟨0⟩ 18).and strayAge)) := rfl
  obtain ⟨left, right, -⟩ := combined_parts_bind (.inl bound)
  exact ⟨_, bound, left, right⟩

/-- A combination may bind though its second operand does not. -/
theorem operand_rejected_alone :
    ¬ ∀ (β : Type) (schema : Schema β) (p q : Lambda) (u : β → Truth),
      (p.and q).bind schema = .ok u ∨ (p.or q).bind schema = .ok u →
        (∃ s, p.bind schema = .ok s) ∧ ∃ t, q.bind schema = .ok t := by
  intro claimed
  have bound : ((atLeast ⟨0⟩ 18).and strayAge).bind ageSchema =
      .ok (ageTruth ((atLeast ⟨0⟩ 18).and strayAge)) := rfl
  obtain ⟨-, t, made⟩ := claimed _ _ _ _ _ (.inl bound)
  cases made

end RecordQuery
