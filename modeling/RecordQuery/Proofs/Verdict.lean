import Mathlib.Data.List.Basic

/-! Checks that come one after the other: the first fault decides, and a result is given only where
there is none. -/
namespace RecordQuery

/-- The fault if there is one, else the result. -/
def verdict (fault : Option ε) (result : β) : Except ε β :=
  match fault with
  | some e => .error e
  | none => .ok result

@[simp] theorem verdict_none (result : β) : verdict (none : Option ε) result = .ok result := rfl

@[simp] theorem verdict_some (e : ε) (result : β) : verdict (some e) result = .error e := rfl

/-- Of two checks in a row the first one that finds a fault decides. -/
theorem verdict_bind {fault later : Option ε} {a : β} {next : β → Except ε γ} {result : γ}
    (continued : fault = none → next a = verdict later result) :
    (verdict fault a >>= next) = verdict (fault.or later) result := by
  cases fault with
  | none => exact continued rfl
  | some e => rfl

/-- The same for a check that is a condition under which an error is thrown. -/
theorem verdict_guard {p : Prop} [Decidable p] {e : ε} {later : Option ε} {result : β}
    {next : Unit → Except ε β} (continued : ¬ p → next () = verdict later result) :
    (if p then throw e >>= next else next ()) =
      verdict ((if p then some e else none).or later) result := by
  by_cases h : p
  · simp only [if_pos h]
    rfl
  · simp only [if_neg h, Option.none_or, continued h]

theorem verdict_bind_pure (fault : Option ε) (a : β) (f : β → γ) :
    (verdict fault a >>= fun x => pure (f x)) = verdict fault (f a) := by
  cases fault <;> rfl

theorem verdict_eq_ok {fault : Option ε} {result r : β} :
    verdict fault result = .ok r ↔ fault = none ∧ result = r := by
  cases fault <;> simp

theorem verdict_eq_error {fault : Option ε} {result : β} {e : ε} :
    verdict fault result = .error e ↔ fault = some e := by
  cases fault <;> simp

/-- Of two steps in a row both give a result where the second one does. -/
theorem bind_eq_ok {x : Except ε β} {next : β → Except ε γ} {result : γ} :
    (x >>= next) = .ok result ↔ ∃ a, x = .ok a ∧ next a = .ok result := by
  cases x with
  | error e => exact ⟨nofun, nofun⟩
  | ok a =>
    constructor
    · intro passed
      exact ⟨a, rfl, passed⟩
    · rintro ⟨_, ⟨⟩, passed⟩
      exact passed

theorem verdict_ok_iff {fault : Option ε} {result : β} :
    (∃ made, verdict fault result = .ok made) ↔ fault = none := by
  simp [verdict_eq_ok]

/-- Checks over a list: the results are those of the single elements. -/
theorem mapM_verdict (fault : α → Option ε) (result : α → β) (xs : List α) :
    xs.mapM (fun x => verdict (fault x) (result x)) =
      verdict (xs.findSome? fault) (xs.map result) := by
  induction xs with
  | nil => rfl
  | cons x xs ih =>
    rw [List.mapM_cons, ih]
    cases h : fault x with
    | some e => simp [h, bind, Except.bind]
    | none =>
      simp only [List.findSome?_cons, h, verdict_none, List.map_cons]
      cases xs.findSome? fault <;> rfl

/-- Where all checks over a list pass, every result is that of some element. -/
theorem mem_mapM_ok {f : α → Except ε β} {xs : List α} {ys : List β}
    (passed : xs.mapM f = .ok ys) : ∀ y ∈ ys, ∃ x ∈ xs, f x = .ok y := by
  induction xs generalizing ys with
  | nil =>
    cases passed
    exact fun _ member => nomatch member
  | cons x xs ih =>
    rw [List.mapM_cons] at passed
    cases head : f x with
    | error e =>
      rw [head] at passed
      cases passed
    | ok y =>
      cases tail : xs.mapM f with
      | error e =>
        rw [head, tail] at passed
        cases passed
      | ok ys' =>
        rw [head, tail] at passed
        cases passed
        intro z member
        rcases List.mem_cons.mp member with rfl | later
        · exact ⟨x, List.mem_cons_self, head⟩
        · obtain ⟨x', inside, made⟩ := ih tail z later
          exact ⟨x', List.mem_cons_of_mem _ inside, made⟩

theorem mapM_ok_mem {f : α → Except ε β} {xs : List α} {ys : List β}
    (passed : xs.mapM f = .ok ys) : ∀ x ∈ xs, ∃ y ∈ ys, f x = .ok y := by
  intro x member
  obtain ⟨before, after, rfl⟩ := List.append_of_mem member
  rw [List.mapM_append, List.mapM_cons] at passed
  obtain ⟨first, -, rest⟩ := bind_eq_ok.mp passed
  obtain ⟨others, here, made⟩ := bind_eq_ok.mp rest
  obtain ⟨y, found, rest⟩ := bind_eq_ok.mp here
  obtain ⟨last, -, joined⟩ := bind_eq_ok.mp rest
  cases joined
  cases made
  exact ⟨y, List.mem_append_right _ List.mem_cons_self, found⟩

end RecordQuery
