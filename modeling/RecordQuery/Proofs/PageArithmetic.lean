import RecordQuery.Proofs.Paging

/-! Pages in whole numbers. What is told about a page is what the numbers say without a bound: words
neither wrap around on the way nor end at their largest value where that would change an answer. -/
namespace RecordQuery

namespace PageRequest

variable {r next : PageRequest} {n : UInt64}

/-- Requests without an offset. -/
theorem offset_fails (r : PageRequest) :
    (∃ e, r.offset = .error e) ↔ r.index.toNat < r.origin.toNat ∨ r.size.toNat = 0 ∨
      2 ^ 64 ≤ (r.index.toNat - r.origin.toNat) * r.size.toNat := by
  constructor
  · rintro ⟨e, failed⟩
    by_contra passes
    simp only [not_or, Nat.not_lt, Nat.not_le] at passes
    obtain ⟨reached, size, fits⟩ := passes
    have small := toNat_ofNat_of_le (Nat.le_of_lt_succ fits)
    have found := offset_eq_ok.mpr ⟨reached, size, small.symm⟩
    simp [failed] at found
  · intro fault
    cases found : r.offset with
    | error e => exact ⟨e, rfl⟩
    | ok n =>
      obtain ⟨reached, size, offset⟩ := offset_eq_ok.mp found
      have small := n.toNat_lt
      omega

theorem size_of_offset (found : r.offset = .ok n) : 1 ≤ r.size := by
  obtain ⟨-, size, -⟩ := offset_eq_ok.mp found
  apply UInt64.le_iff_toNat_le.mpr
  simp only [UInt64.toNat_one]
  omega

/-- The page after has an offset below some word exactly if the number of records before it, however
large, is below that word. -/
theorem next_offset (found : r.offset = .ok n) (index : next.index.toNat = r.index.toNat + 1)
    (size : next.size = r.size) (origin : next.origin = r.origin) (total : UInt64) :
    (∃ m, next.offset = .ok m ∧ m < total) ↔
      (r.index.toNat - r.origin.toNat + 1) * r.size.toNat < total.toNat := by
  obtain ⟨reached, positive, -⟩ := offset_eq_ok.mp found
  have further : next.index.toNat - next.origin.toNat = r.index.toNat - r.origin.toNat + 1 := by
    rw [index, origin]
    omega
  constructor
  · rintro ⟨m, made, below⟩
    obtain ⟨-, -, offset⟩ := offset_eq_ok.mp made
    rw [further, size] at offset
    exact offset ▸ UInt64.lt_iff_toNat_lt.mp below
  · intro below
    have small := toNat_ofNat_of_le (below.le.trans (toNat_le_max total))
    refine ⟨.ofNat ((r.index.toNat - r.origin.toNat + 1) * r.size.toNat), ?_, ?_⟩
    · apply offset_eq_ok.mpr
      rw [further, size, small, index, origin]
      exact ⟨by omega, positive, rfl⟩
    · apply UInt64.lt_iff_toNat_lt.mpr
      rwa [small]

end PageRequest

namespace Page

variable (r : PageRequest) (total : UInt64) (items : List α)

theorem hasPrevious_new :
    (new r total items).hasPrevious = true ↔ r.origin.toNat < r.index.toNat := by
  simp only [new, decide_eq_true_eq, UInt64.lt_iff_toNat_lt, saturatingSub_toNat,
    UInt64.toNat_zero]
  omega

variable {r} (positive : 1 ≤ r.size)

include positive

theorem totalPages_new : (new r total items).totalPages.toNat = total.toNat ⌈/⌉ r.size.toNat := by
  simp only [new, max_one positive]
  exact ceilDiv_toNat positive

/-- There are as many pages as it takes to show all records, and no more. -/
theorem totalPages_least :
    IsLeast {pages | total.toNat ≤ pages * r.size.toNat} (new r total items).totalPages.toNat := by
  have size := UInt64.le_iff_toNat_le.mp positive
  have enough (pages : Nat) :
      total.toNat ⌈/⌉ r.size.toNat ≤ pages ↔ total.toNat ≤ pages * r.size.toNat := by
    rw [ceilDiv_le_iff_le_mul size, Nat.mul_comm]
  rw [totalPages_new total items positive]
  constructor
  · exact (enough _).mp le_rfl
  · intro pages shown
    exact (enough pages).mpr shown

theorem hasNext_new : (new r total items).hasNext = true ↔
    (r.index.toNat - r.origin.toNat + 1) * r.size.toNat < total.toNat := by
  have after := saturatingAdd_toNat (saturatingSub r.index r.origin) 1
  have bounded := toNat_le_max (ceilDiv total r.size)
  rw [saturatingSub_toNat, UInt64.toNat_one] at after
  rw [ceilDiv_toNat positive] at bounded
  simp only [new, max_one positive, decide_eq_true_eq, UInt64.lt_iff_toNat_lt, after,
    ceilDiv_toNat positive]
  rw [Nat.mul_comm, ← lt_ceilDiv (UInt64.le_iff_toNat_le.mp positive)]
  -- where the sum ends at the largest word, no number of pages is above it
  omega

end Page

/-- The arithmetic of pages is that of the integers. An offset is missing exactly if the page is
before the first one, has no size, or has too many records before it, and is else their number. Of a
page with an offset, the number of all pages is the least that shows all records, there is a page
before it unless it is the first one, and there is one after it exactly if there are records after
it, that is if the page after it has an offset and this is not past the last record. -/
theorem page_arithmetic_exact (r : PageRequest) (total : UInt64) (items : List α) :
    ((∃ e, r.offset = .error e) ↔ r.index.toNat < r.origin.toNat ∨ r.size.toNat = 0 ∨
      2 ^ 64 ≤ (r.index.toNat - r.origin.toNat) * r.size.toNat) ∧
    ∀ n, r.offset = .ok n →
      let page := Page.new r total items
      n.toNat = (r.index.toNat - r.origin.toNat) * r.size.toNat ∧
      IsLeast {pages | total.toNat ≤ pages * r.size.toNat} page.totalPages.toNat ∧
      (page.hasPrevious = true ↔ r.origin.toNat < r.index.toNat) ∧
      (page.hasNext = true ↔
        (r.index.toNat - r.origin.toNat + 1) * r.size.toNat < total.toNat) ∧
      (page.hasNext = true ↔ (r.index.toNat + 1 - r.origin.toNat) * r.size.toNat < 2 ^ 64 ∧
        (r.index.toNat + 1 - r.origin.toNat) * r.size.toNat < total.toNat) ∧
      ∀ next : PageRequest, next.index.toNat = r.index.toNat + 1 → next.size = r.size →
        next.origin = r.origin →
          (page.hasNext = true ↔ ∃ m, next.offset = .ok m ∧ m < total) := by
  refine ⟨r.offset_fails, ?_⟩
  intro n found page
  obtain ⟨reached, -, offset⟩ := PageRequest.offset_eq_ok.mp found
  have positive := PageRequest.size_of_offset found
  have more := Page.hasNext_new total items positive
  have further : r.index.toNat + 1 - r.origin.toNat = r.index.toNat - r.origin.toNat + 1 := by
    omega
  refine ⟨offset.symm, Page.totalPages_least total items positive,
    Page.hasPrevious_new r total items, more, ?_, ?_⟩
  · have small := total.toNat_lt
    rw [more, further]
    omega
  · intro next index size origin
    rw [more, PageRequest.next_offset found index size origin]

/-- The last page but one that an index reaches, of a size that fills all words with two pages. -/
theorem page_arithmetic_exact_large :
    let r : PageRequest := ⟨18446744073709551614, 9223372036854775807, 18446744073709551613⟩
    let page : Page Nat := .new r 18446744073709551615 []
    r.offset = .ok 9223372036854775807 ∧ page.totalPages = 3 ∧ page.hasPrevious = true ∧
      page.hasNext = true ∧
      (∃ m, PageRequest.offset { r with index := 18446744073709551615 } = .ok m ∧
        m < page.totalCount) ∧
      ∃ e, PageRequest.offset { r with size := 18446744073709551615, index := 1, origin := 3 } =
        .error e := by
  intro r page
  have found : r.offset = .ok 9223372036854775807 := by decide
  obtain ⟨-, passed⟩ := page_arithmetic_exact r 18446744073709551615 ([] : List Nat)
  obtain ⟨-, -, previous, more, -, after⟩ := passed _ found
  have goesOn : page.hasNext = true := more.mpr (by decide)
  refine ⟨found, by decide, previous.mpr (by decide), goesOn, ?_, ?_⟩
  · exact (after { r with index := 18446744073709551615 } rfl rfl rfl).mp goesOn
  · exact (page_arithmetic_exact _ 0 ([] : List Nat)).1.mpr (.inl (by decide))

end RecordQuery
