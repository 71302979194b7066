import Mathlib.Algebra.Ring.Nat
import Mathlib.Data.List.Basic
import RecordQuery.Text.Digits

/-! Numerals: their digits, what they read as, and how they begin and end. -/
namespace RecordQuery

theorem isDecimalDigit_eq (c : Char) : isDecimalDigit c = c.isDigit := by
  simp [isDecimalDigit, Char.isDigit, Char.le_def]

theorem numeral_digits (n : Nat) : ∀ c ∈ numeral n, isDecimalDigit c = true := by
  intro c member
  rw [isDecimalDigit_eq]
  exact Nat.isDigit_of_mem_toDigits (by decide) (by decide) member

theorem numeral_value (n : Nat) : Nat.ofDigitChars 10 (numeral n) 0 = n :=
  Nat.ofDigitChars_ten_toDigits

theorem numeral_ne_nil (n : Nat) : numeral n ≠ [] := Nat.toDigits_ne_nil

theorem numeral_single {n : Nat} (small : n < 10) : numeral n = [n.digitChar] :=
  Nat.toDigits_of_lt_base small

theorem numeral_step {n last : Nat} (positive : 0 < n) (digit : last < 10) :
    numeral (10 * n + last) = numeral n ++ [last.digitChar] := by
  rw [← numeral_single digit]
  exact (Nat.toDigits_append_toDigits (by decide) positive digit).symm

theorem readNat?_digits {cs : List Char} (nonempty : cs ≠ [])
    (digits : ∀ c ∈ cs, isDecimalDigit c = true) :
    readNat? cs = some (Nat.ofDigitChars 10 cs 0) := by
  rw [readNat?, if_pos ⟨nonempty, List.all_eq_true.mpr digits⟩]

theorem readNat?_numeral (n : Nat) : readNat? (numeral n) = some n := by
  rw [readNat?_digits (numeral_ne_nil n) (numeral_digits n), numeral_value]

theorem readInt?_minus (n : Nat) : readInt? ('-' :: numeral n) = some (-(n : Int)) := by
  simp [readInt?, readNat?_numeral]

theorem readInt?_plus (n : Nat) : readInt? ('+' :: numeral n) = some (n : Int) := by
  simp [readInt?, readSignedNat?, readNat?_numeral]

/-- Only the numeral of zero begins with a zero. -/
theorem numeral_head {n : Nat} (nonzero : n ≠ 0) : (numeral n).head? ≠ some '0' := by
  induction n using Nat.base_induction 10 (by decide) with
  | single n small =>
    simpa [numeral_single small] using nonzero
  | digit n last digit positive ih =>
    rw [numeral_step positive digit, List.head?_append_of_ne_nil _ (numeral_ne_nil n)]
    exact ih (Nat.ne_of_gt positive)

/-- A number is a multiple of the power of ten that its numeral ends in. -/
theorem pow_trailing_dvd (n : Nat) :
    10 ^ ((numeral n).reverse.takeWhile (· = '0')).length ∣ n := by
  induction n using Nat.base_induction 10 (by decide) with
  | single n small =>
    by_cases zero : n = 0
    · simp [zero]
    · simp [numeral_single small, zero]
  | digit n last digit positive ih =>
    rw [numeral_step positive digit, List.reverse_append, List.reverse_singleton,
      List.singleton_append]
    by_cases zero : last = 0
    · rw [zero, List.takeWhile_cons_of_pos (by decide), List.length_cons, Nat.pow_succ,
        Nat.mul_comm]
      exact Nat.mul_dvd_mul_left 10 ih
    · simp [zero]

theorem ofDigitChars_lt {cs : List Char} (digits : ∀ c ∈ cs, isDecimalDigit c = true) :
    Nat.ofDigitChars 10 cs 0 < 10 ^ cs.length := by
  induction cs with
  | nil => exact Nat.one_pos
  | cons c cs ih =>
    obtain ⟨digit, others⟩ := List.forall_mem_cons.mp digits
    have less := ih others
    have small : c.toNat - '0'.toNat ≤ 9 := by
      rw [isDecimalDigit_eq, Char.isDigit_iff_toNat] at digit
      exact Nat.sub_le_of_le_add digit.2
    rw [Nat.ofDigitChars_cons, Nat.ofDigitChars_eq_ofDigitChars_zero, List.length_cons,
      Nat.pow_succ, Nat.mul_zero, Nat.zero_add]
    calc 10 ^ cs.length * (c.toNat - '0'.toNat) + Nat.ofDigitChars 10 cs 0
      _ < 10 ^ cs.length * (c.toNat - '0'.toNat) + 10 ^ cs.length := Nat.add_lt_add_left less _
      _ = 10 ^ cs.length * (c.toNat - '0'.toNat + 1) := rfl
      _ ≤ 10 ^ cs.length * 10 := Nat.mul_le_mul_left _ (Nat.succ_le_succ small)

theorem zeros_digits (n : Nat) : ∀ c ∈ zeros n, isDecimalDigit c = true := by
  intro c member
  obtain ⟨-, rfl⟩ := List.mem_replicate.mp member
  rfl

theorem takeWhile_digits {cs rest : List Char} (digits : ∀ c ∈ cs, isDecimalDigit c = true)
    (stop : ∀ c ∈ rest.head?, isDecimalDigit c = false) :
    (cs ++ rest).takeWhile isDecimalDigit = cs := by
  rw [List.takeWhile_append_of_pos digits]
  cases rest with
  | nil => simp
  | cons c rest => simp [stop c rfl]

theorem dropWhile_digits {cs rest : List Char} (digits : ∀ c ∈ cs, isDecimalDigit c = true)
    (stop : ∀ c ∈ rest.head?, isDecimalDigit c = false) :
    (cs ++ rest).dropWhile isDecimalDigit = rest := by
  rw [List.dropWhile_append_of_pos digits]
  cases rest with
  | nil => simp
  | cons c rest => simp [stop c rfl]

/-- Where all characters up to some place have a property and the next one has not, both parts can
be told. -/
theorem stretch_append_inj {has : Char → Bool} {xs ys rest rest' : List Char}
    (all : ∀ c ∈ xs, has c = true) (all' : ∀ c ∈ ys, has c = true)
    (stop : ∀ c ∈ rest.head?, has c = false) (stop' : ∀ c ∈ rest'.head?, has c = false)
    (same : xs ++ rest = ys ++ rest') : xs = ys ∧ rest = rest' := by
  induction xs generalizing ys with
  | nil =>
    cases ys with
    | nil => exact ⟨rfl, same⟩
    | cons y ys =>
      obtain rfl : rest = y :: (ys ++ rest') := same
      cases (all' y List.mem_cons_self).symm.trans (stop y rfl)
  | cons x xs ih =>
    cases ys with
    | nil =>
      obtain rfl : x :: (xs ++ rest) = rest' := same
      cases (all x List.mem_cons_self).symm.trans (stop' x rfl)
    | cons y ys =>
      obtain ⟨rfl, further⟩ := List.cons.inj same
      obtain ⟨rfl, behind⟩ := ih (fun c member => all c (List.mem_cons_of_mem _ member))
        (fun c member => all' c (List.mem_cons_of_mem _ member)) further
      exact ⟨rfl, behind⟩

theorem numeral_append_inj {m n : Nat} {rest rest' : List Char}
    (stop : ∀ c ∈ rest.head?, isDecimalDigit c = false)
    (stop' : ∀ c ∈ rest'.head?, isDecimalDigit c = false)
    (same : numeral m ++ rest = numeral n ++ rest') : m = n ∧ rest = rest' := by
  obtain ⟨digits, behind⟩ := stretch_append_inj (numeral_digits m) (numeral_digits n) stop stop' same
  refine ⟨?_, behind⟩
  rw [← numeral_value m, digits, numeral_value]

end RecordQuery
