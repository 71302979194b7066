import RecordQuery.Formula.Text
import RecordQuery.Proofs.Kleene

/-! How the chains of a formula hang together. It makes no difference to what the formula says, to
how it fails to bind, or to its text; so all chains may be taken to hang together from the right. -/
namespace RecordQuery.Formula

def isChain (logic : Logic) : Formula → Bool
  | join inner _ _ => inner == logic
  | _ => false

/-- Two formulas joined; a chain of that logic is taken apart so that the result hangs together from
the right if both do. -/
def append (logic : Logic) : Formula → Formula → Formula
  | join inner l r, g =>
    if inner = logic then join logic l (append logic r g) else join logic (join inner l r) g
  | f, g => join logic f g

/-- The formula with all chains hanging together from the right. -/
def regrouped : Formula → Formula
  | join logic l r => append logic l.regrouped r.regrouped
  | f => f

theorem append_of_not_chain {logic : Logic} {f : Formula} (other : f.isChain logic = false)
    (g : Formula) : append logic f g = join logic f g := by
  cases f with
  | join inner l r =>
    rw [append, if_neg]
    exact ne_of_beq_false other
  | _ => rfl

section

variable {α : Type} {schema : Schema α} {record : Placeholder} {slots : List (Option Value)}

/-- Neither the first fault nor the truth depends on how a chain hangs together. -/
theorem bind_assoc (logic : Logic) (f g h : Formula) :
    (join logic (join logic f g) h).bind schema record slots =
      (join logic f (join logic g h)).bind schema record slots := by
  simp only [Formula.bind]
  cases f.bind schema record slots with
  | error e => rfl
  | ok s =>
    cases g.bind schema record slots with
    | error e => rfl
    | ok t =>
      cases h.bind schema record slots with
      | error e => rfl
      | ok u => exact congrArg Except.ok (funext fun x => logic.truth_assoc (s x) (t x) (u x))

theorem bind_join_congr (logic : Logic) {f f' g g' : Formula}
    (left : f.bind schema record slots = f'.bind schema record slots)
    (right : g.bind schema record slots = g'.bind schema record slots) :
    (join logic f g).bind schema record slots = (join logic f' g').bind schema record slots := by
  simp only [Formula.bind, left, right]

theorem bind_append (logic : Logic) (f g : Formula) :
    (append logic f g).bind schema record slots = (join logic f g).bind schema record slots := by
  induction f with
  | join inner l r _ ih =>
    by_cases same : inner = logic
    · subst same
      rw [append, if_pos rfl, bind_assoc]
      exact bind_join_congr inner rfl ih
    · rw [append, if_neg same]
  | _ => rfl

theorem bind_regrouped (f : Formula) :
    f.regrouped.bind schema record slots = f.bind schema record slots := by
  induction f with
  | join logic l r ihl ihr => exact (bind_append logic _ _).trans (bind_join_congr logic ihl ihr)
  | _ => rfl

end

theorem isOtherChain_join (logic outer : Logic) (l r : Formula) :
    (join logic l r).isOtherChain outer = (logic != outer) := rfl

theorem isOtherChain_append (logic outer : Logic) (f g : Formula) :
    (append logic f g).isOtherChain outer = (logic != outer) := by
  cases f with
  | join inner l r =>
    by_cases same : inner = logic
    · rw [append, if_pos same, isOtherChain]
    · rw [append, if_neg same, isOtherChain]
  | _ => rfl

theorem toText_append (logic : Logic) (f g : Formula) :
    (append logic f g).toText = (join logic f g).toText := by
  induction f with
  | join inner l r _ ih =>
    by_cases same : inner = logic
    · subst same
      rw [append, if_pos rfl]
      simp [toText, isOtherChain_append, isOtherChain_join, ih, parenthesized, String.append_assoc]
    · rw [append, if_neg same]
  | _ => rfl

theorem isOtherChain_regrouped (outer : Logic) (f : Formula) :
    f.regrouped.isOtherChain outer = f.isOtherChain outer := by
  cases f with
  | join logic l r => exact isOtherChain_append logic outer _ _
  | _ => rfl

theorem toText_regrouped (f : Formula) : f.regrouped.toText = f.toText := by
  induction f with
  | join logic l r ihl ihr =>
    rw [regrouped, toText_append, toText, toText, ihl, ihr, isOtherChain_regrouped,
      isOtherChain_regrouped]
  | _ => rfl

end RecordQuery.Formula
