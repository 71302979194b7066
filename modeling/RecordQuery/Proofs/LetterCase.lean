import Mathlib.Data.List.TakeWhile
import RecordQuery.Text.Blank
import RecordQuery.Text.Lowercase

/-! Texts in which ASCII letters stand in another case. They are blank together, and in lower case
they are the same, the final sigma of a word included. -/
namespace RecordQuery

def capitals : List Char := (List.range 26).map fun i => Char.ofNat (65 + i)

theorem toLower_eq_or_mem (c : Char) : c.toLower = c ∨ c ∈ capitals := by
  by_cases capital : c.val ≥ 'A'.val ∧ c.val ≤ 'Z'.val
  · have low : 65 ≤ c.toNat := capital.1
    have high : c.toNat ≤ 90 := capital.2
    refine .inr (List.mem_map.mpr ⟨c.toNat - 65, List.mem_range.mpr (by omega), ?_⟩)
    rw [Nat.add_sub_cancel' low, Char.ofNat_toNat]
  · exact .inl (dif_neg capital)

/-- What is the same for a capital letter and its small one is the same for all characters. -/
theorem apply_toLower {β : Type} [DecidableEq β] {f : Char → β}
    (capital : capitals.all (fun c => f c.toLower = f c) = true) (c : Char) :
    f c.toLower = f c := by
  rcases toLower_eq_or_mem c with same | other
  · exact congrArg f same
  · exact of_decide_eq_true (List.all_eq_true.mp capital c other)

@[simp] theorem isBlank_toLower (c : Char) : isBlank c.toLower = isBlank c :=
  apply_toLower (by decide +kernel) c

@[simp] theorem isCased_toLower (c : Char) : isCased c.toLower = isCased c :=
  apply_toLower (by decide +kernel) c

@[simp] theorem isCaseIgnorable_toLower (c : Char) :
    isCaseIgnorable c.toLower = isCaseIgnorable c :=
  apply_toLower (by decide +kernel) c

@[simp] theorem lowercaseChar_toLower (c : Char) : lowercaseChar c.toLower = lowercaseChar c :=
  apply_toLower (by decide +kernel) c

@[simp] theorem toLower_eq_sigma (c : Char) : c.toLower = 'Σ' ↔ c = 'Σ' :=
  decide_eq_decide.mp (apply_toLower (f := fun c => decide (c = 'Σ')) (by decide) c)

@[simp] theorem meetsCased_map_toLower (cs : List Char) :
    meetsCased (cs.map Char.toLower) = meetsCased cs := by
  have through : isCaseIgnorable ∘ Char.toLower = isCaseIgnorable :=
    funext isCaseIgnorable_toLower
  simp only [meetsCased, List.dropWhile_map, through, List.head?_map, Option.any_map,
    isCased_toLower]

theorem lowercaseAfter_map_toLower (before cs : List Char) :
    lowercaseAfter (before.map Char.toLower) (cs.map Char.toLower) = lowercaseAfter before cs := by
  induction cs generalizing before with
  | nil => rfl
  | cons c rest ih =>
    -- the final sigma looks back too, so what stands before is made small with the rest
    have others := ih (c :: before)
    simp_all [lowercaseAfter]

/-- The same text but for the case of ASCII letters. -/
def Respelled (s t : String) : Prop := s.toList.map Char.toLower = t.toList.map Char.toLower

instance (s t : String) : Decidable (Respelled s t) := decEq _ _

namespace Respelled

variable {s t : String}

theorem lowercase (respelled : Respelled s t) : lowercase s = lowercase t := by
  unfold RecordQuery.lowercase
  rw [← lowercaseAfter_map_toLower [] s.toList, respelled, lowercaseAfter_map_toLower]

theorem isBlankText (respelled : Respelled s t) : isBlankText s = isBlankText t := by
  have spelled (s : String) : RecordQuery.isBlankText s =
      (s.toList.map Char.toLower).all isBlank := by
    simp [RecordQuery.isBlankText, Function.comp_def]
  rw [spelled, spelled, respelled]

end Respelled

end RecordQuery
