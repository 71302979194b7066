import RecordQuery.Proofs.Word
import RecordQuery.Queryable

/-! The pages of a selection. A page depends on the rows alone, and a client that asks for the first
page, and then for the page after as long as there is one, sees the rows once and in order. -/
namespace RecordQuery

section

variable {α β γ : Type} {m : Type → Type} [Monad m] [LawfulMonad m]

theorem fromSource_pure (x : β) : (fromSource (pure x) : ExceptT FetchError m β) = pure x := by
  apply ExceptT.ext
  change Except.mapError FetchError.source <$> (pure (.ok x) : m _) = pure (.ok x)
  rw [map_pure]
  rfl

theorem fromSource_bind (action : ExceptT SourceError m β) (next : β → ExceptT SourceError m γ) :
    fromSource (action >>= next) = fromSource action >>= fun b => fromSource (next b) := by
  apply ExceptT.ext
  simp only [fromSource, ExceptT.run_adapt, ExceptT.run_bind, map_bind, bind_map_left]
  apply bind_congr
  rintro (e | b) <;> simp [Except.mapError]

theorem fromSource_lift (x : m β) :
    fromSource (liftM x : ExceptT SourceError m β) = (liftM x : ExceptT FetchError m β) := by
  apply ExceptT.ext
  simp [fromSource, Except.mapError]

namespace Selection

theorem rows_push (s : Selection α) (step : Step α) : (s.push step).rows = step.run s.rows := by
  simp only [rows, push, List.foldl_append, List.foldl_cons, List.foldl_nil]

/-- The page for a request, given how many rows come before it. -/
def page (s : Selection α) (request : PageRequest) (offset : UInt64) : Page α :=
  .new request s.count ((s.rows.drop offset.toNat).take request.size.toNat)

/-- Over a store that stays as it is, cutting a page is a function of the request. -/
theorem paginate_eq (s : Selection α) (request : PageRequest) :
    (paginate s request : ExceptT FetchError m (Page α)).run =
      pure (match request.offset with
        | .ok offset => .ok (s.page request offset)
        | .error e => .error (.argument e)) := by
  have window (offset : UInt64) : ((s.push (.skip offset)).push (.take request.size)).rows =
      (s.rows.drop offset.toNat).take request.size.toNat := by
    rw [rows_push, rows_push]
    rfl
  have counted (q : Selection α) : (fromSource (Queryable.count q) : ExceptT FetchError m UInt64) =
      pure q.count := fromSource_pure _
  have listed (q : Selection α) : (fromSource (Queryable.list q) : ExceptT FetchError m (List α)) =
      pure q.rows := fromSource_pure _
  unfold paginate pageOffset
  cases request.offset with
  | error e => simp
  | ok offset =>
    simp [counted, listed, Queryable.skip, Queryable.take, skip, take, window, page]

end Selection

end

/-- A page has an offset exactly if its index is not before the first one, its size is not zero, and
the number of records before it is a word; this number is the offset. -/
theorem PageRequest.offset_eq_ok {r : PageRequest} {n : UInt64} :
    r.offset = .ok n ↔ r.origin.toNat ≤ r.index.toNat ∧ r.size.toNat ≠ 0 ∧
      (r.index.toNat - r.origin.toNat) * r.size.toNat = n.toNat := by
  by_cases before : r.index < r.origin
  · have := UInt64.lt_iff_toNat_lt.mp before
    simp only [offset, if_pos before, reduceCtorEq, false_iff]
    omega
  have reached := UInt64.le_iff_toNat_le.mp (UInt64.not_lt.mp before)
  by_cases zero : r.size = 0
  · simp [offset, before, zero]
  have size : r.size.toNat ≠ 0 := fun none => zero (UInt64.toNat_inj.mp none)
  have back := UInt64.toNat_sub_of_le _ _ (UInt64.not_lt.mp before)
  rw [offset, if_neg before, if_neg zero, ← back]
  by_cases fits : (r.index - r.origin).toNat * r.size.toNat ≤ maxUInt64
  · rw [checkedMul_of_le fits]
    simp only [Except.ok.injEq, ← UInt64.toNat_inj, toNat_ofNat_of_le fits]
    exact ⟨fun same => ⟨reached, size, same⟩, fun exact => exact.2.2⟩
  · have small := toNat_le_max n
    rw [checkedMul, if_neg fits]
    simp only [reduceCtorEq, false_iff]
    omega

/-- What comes of a client that starts at an index and goes on to the next one as long as a page has
a next page: the pages it has seen, or the first error. -/
inductive Walk (fetch : UInt64 → Except FetchError (Page α)) :
    UInt64 → Except FetchError (List (Page α)) → Prop where
  | failed {index : UInt64} {e : FetchError} :
      fetch index = .error e → Walk fetch index (.error e)
  | last {index : UInt64} {page : Page α} :
      fetch index = .ok page → page.hasNext = false → Walk fetch index (.ok [page])
  | next {index : UInt64} {page : Page α} {outcome : Except FetchError (List (Page α))} :
      fetch index = .ok page → page.hasNext = true → Walk fetch (index + 1) outcome →
        Walk fetch index (outcome.map (page :: ·))

theorem Walk.unique {fetch : UInt64 → Except FetchError (Page α)} {index : UInt64}
    {a b : Except FetchError (List (Page α))} (first : Walk fetch index a)
    (second : Walk fetch index b) : a = b := by
  induction first generalizing b with
  | failed refused => cases second <;> simp_all
  | last fetched ends => cases second <;> simp_all
  | next fetched more rest ih =>
    cases second with
    | failed refused => simp_all
    | last fetched' ends => simp_all
    | next fetched' more' rest' =>
      obtain rfl : _ = _ := Except.ok.inj (fetched.symm.trans fetched')
      rw [ih rest']

theorem flatMap_windows (xs : List α) (size n : Nat) :
    (List.range n).flatMap (fun i => (xs.drop (size * i)).take size) = xs.take (size * n) := by
  induction n with
  | zero => rfl
  | succ n ih =>
    rw [List.range_succ, List.flatMap_append, ih, List.flatMap_singleton, Nat.mul_succ,
      List.take_add]

theorem lt_ceilDiv {n d i : Nat} (positive : 1 ≤ d) : i < n ⌈/⌉ d ↔ d * i < n :=
  lt_iff_lt_of_le_iff_le (ceilDiv_le_iff_le_mul positive)

namespace Selection

variable {α : Type} {s : Selection α} {size origin : UInt64}

def pageCount (s : Selection α) (size : UInt64) : Nat := s.rows.length ⌈/⌉ size.toNat

/-- The page that `i` other pages come before. -/
def nthPage (s : Selection α) (size origin : UInt64) (i : Nat) : Page α :=
  s.page ⟨origin + .ofNat i, size, origin⟩ (.ofNat (size.toNat * i))

/-- What a client gets for an index. -/
def fetch (s : Selection α) (size origin index : UInt64) : Except FetchError (Page α) :=
  (paginate (m := Id) s ⟨index, size, origin⟩).run.run

theorem count_toNat (counted : s.rows.length ≤ maxUInt64) : s.count.toNat = s.rows.length :=
  toNat_ofNat_of_le counted

theorem index_toNat {i : Nat} (inside : origin.toNat + i ≤ maxUInt64) :
    (origin + .ofNat i).toNat = origin.toNat + i := by
  rw [UInt64.toNat_add, toNat_ofNat_of_le (by omega)]
  exact Nat.mod_eq_of_lt (Nat.lt_succ_of_le inside)

theorem nthPage_items {i : Nat} (fits : size.toNat * i ≤ maxUInt64) :
    (s.nthPage size origin i).items = (s.rows.drop (size.toNat * i)).take size.toNat := by
  change ((s.rows.drop (UInt64.ofNat (size.toNat * i)).toNat).take size.toNat) = _
  rw [toNat_ofNat_of_le fits]

variable (positive : 1 ≤ size)

include positive

theorem fetch_nthPage {i : Nat} (inside : origin.toNat + i ≤ maxUInt64)
    (fits : size.toNat * i ≤ maxUInt64) :
    s.fetch size origin (origin + .ofNat i) = .ok (s.nthPage size origin i) := by
  have index := index_toNat inside
  have after : ¬ origin + .ofNat i < origin := by
    rw [UInt64.lt_iff_toNat_lt, index]
    omega
  have nonzero : size ≠ 0 := fun zero => absurd (zero ▸ positive) (by decide)
  have back : origin + .ofNat i - origin = .ofNat i := by
    rw [UInt64.add_comm, UInt64.add_sub_cancel]
  have small : (UInt64.ofNat i).toNat = i := toNat_ofNat_of_le (by omega)
  have offset : PageRequest.offset ⟨origin + .ofNat i, size, origin⟩ =
      .ok (.ofNat (size.toNat * i)) := by
    rw [PageRequest.offset, if_neg after, if_neg nonzero]
    simp only [back]
    rw [checkedMul_of_le (by rwa [small, Nat.mul_comm]), small, Nat.mul_comm]
  rw [fetch, paginate_eq, offset]
  rfl

/-- The pages up to the last one, or the only one, have an index and an offset. -/
theorem reached (room : origin.toNat + s.pageCount size ≤ maxUInt64) {i : Nat}
    (before : i < max 1 (s.pageCount size)) :
    origin.toNat + i ≤ maxUInt64 ∧ size.toNat * i ≤ s.rows.length := by
  rcases Nat.eq_zero_or_pos i with rfl | later
  · exact ⟨toNat_le_max origin, Nat.zero_le _⟩
  · have inner : i < s.pageCount size := by omega
    have rows := (lt_ceilDiv (UInt64.le_iff_toNat_le.mp positive)).mp inner
    exact ⟨by omega, rows.le⟩

variable (counted : s.rows.length ≤ maxUInt64)

include counted

theorem totalPages_toNat : (ceilDiv s.count size).toNat = s.pageCount size := by
  rw [ceilDiv_toNat positive, count_toNat counted, pageCount]

theorem nthPage_hasNext {i : Nat} (inside : origin.toNat + i ≤ maxUInt64) :
    (s.nthPage size origin i).hasNext = decide (i + 1 < s.pageCount size) := by
  have total := totalPages_toNat positive counted
  have bounded := toNat_le_max (ceilDiv s.count size)
  have position : (saturatingSub (origin + .ofNat i) origin).toNat = i := by
    rw [saturatingSub_toNat, index_toNat inside]
    omega
  have after := saturatingAdd_toNat (saturatingSub (origin + .ofNat i) origin) 1
  rw [position, UInt64.toNat_one] at after
  refine decide_eq_decide.mpr ?_
  simp only [max_one positive, UInt64.lt_iff_toNat_lt, after, total]
  omega

theorem nthPage_full {i : Nat} (inner : i + 1 < s.pageCount size) :
    (s.nthPage size origin i).items.length = size.toNat := by
  have rows := (lt_ceilDiv (UInt64.le_iff_toNat_le.mp positive)).mp inner
  rw [Nat.mul_succ] at rows
  rw [nthPage_items (by omega), List.length_take, List.length_drop]
  omega

variable (room : origin.toNat + s.pageCount size ≤ maxUInt64)

include room

theorem flatMap_nthPage {n : Nat} (all : max 1 (s.pageCount size) = n) :
    (List.range n).flatMap (fun i => (s.nthPage size origin i).items) = s.rows := by
  have shown : ∀ i ∈ List.range n, (s.nthPage size origin i).items =
      (s.rows.drop (size.toNat * i)).take size.toNat := fun i below =>
    nthPage_items ((reached positive room (all ▸ List.mem_range.mp below)).2.trans counted)
  have enough : s.rows.length ≤ size.toNat * n := by
    refine (ceilDiv_le_iff_le_mul (UInt64.le_iff_toNat_le.mp positive)).mp ?_
    exact (Nat.le_max_right 1 _).trans all.le
  rw [List.flatMap_congr shown, flatMap_windows, List.take_of_length_le enough]

/-- The walk through the last pages, from the one that `i` pages come before. -/
theorem walk_from {i left : Nat} (ends : i + left + 1 = max 1 (s.pageCount size)) :
    Walk (s.fetch size origin) (origin + .ofNat i)
      (.ok ((List.range' i (left + 1)).map (s.nthPage size origin))) := by
  induction left generalizing i with
  | zero =>
    obtain ⟨inside, rows⟩ := reached positive room (i := i) (by omega)
    refine .last (fetch_nthPage positive inside (rows.trans counted)) ?_
    rw [nthPage_hasNext positive counted inside]
    exact decide_eq_false (by omega)
  | succ left ih =>
    obtain ⟨inside, rows⟩ := reached positive room (i := i) (by omega)
    have rest := ih (i := i + 1) (by omega)
    rw [UInt64.ofNat_add, ← UInt64.add_assoc] at rest
    refine .next (fetch_nthPage positive inside (rows.trans counted)) ?_ rest
    rw [nthPage_hasNext positive counted inside]
    exact decide_eq_true (by omega)

end Selection

/-- A client that walks through the pages of a selection, whose rows a word can count, gets no
error. It sees one page if there are no rows and else as many as it takes to show them; they are
full but for the last one, all of them tell the number of rows, and the rows on them are those of
the selection in their order. -/
theorem walk_exact (s : Selection α) (size origin : UInt64) (positive : 1 ≤ size)
    (counted : s.rows.length ≤ maxUInt64)
    (room : origin.toNat + s.rows.length ⌈/⌉ size.toNat ≤ maxUInt64) :
    ∃ pages : List (Page α),
      (∀ outcome, Walk (fun index => (paginate (m := Id) s ⟨index, size, origin⟩).run) origin
        outcome ↔ outcome = .ok pages) ∧
      pages.length = max 1 (s.rows.length ⌈/⌉ size.toNat) ∧
      (∀ (i : Nat) (seen : i < pages.length), pages[i].index.toNat = origin.toNat + i) ∧
      (∀ page ∈ pages.dropLast, page.items.length = size.toNat) ∧
      (∀ page ∈ pages, page.totalCount.toNat = s.rows.length ∧
        page.totalPages.toNat = s.rows.length ⌈/⌉ size.toNat) ∧
      (Queryable.list (m := Id) s).run = .ok (pages.flatMap Page.items) := by
  -- page `n` is the last one
  obtain ⟨n, last⟩ : ∃ n, max 1 (s.pageCount size) = n + 1 :=
    ⟨max 1 (s.pageCount size) - 1, by omega⟩
  have walked : Walk (s.fetch size origin) (origin + 0)
      (.ok ((List.range' 0 (n + 1)).map (s.nthPage size origin))) :=
    Selection.walk_from positive counted room (by rw [Nat.zero_add, last])
  rw [UInt64.add_zero, ← List.range_eq_range'] at walked
  refine ⟨_, fun outcome => ⟨fun other => other.unique walked, fun same => same ▸ walked⟩,
    ?_, ?_, ?_, ?_, ?_⟩
  · rw [List.length_map, List.length_range, ← last]
    rfl
  · intro i seen
    rw [List.length_map, List.length_range, ← last] at seen
    rw [List.getElem_map, List.getElem_range]
    exact Selection.index_toNat (Selection.reached positive room seen).1
  · intro page seen
    rw [List.range_succ, List.map_append, List.map_singleton, List.dropLast_concat] at seen
    obtain ⟨i, below, rfl⟩ := List.mem_map.mp seen
    have := List.mem_range.mp below
    exact Selection.nthPage_full positive counted (by omega)
  · intro page seen
    obtain ⟨i, -, rfl⟩ := List.mem_map.mp seen
    refine ⟨Selection.count_toNat counted, ?_⟩
    simp only [Selection.nthPage, Selection.page, Page.new, max_one positive]
    exact Selection.totalPages_toNat positive counted
  · rw [List.flatMap_map, Selection.flatMap_nthPage positive counted room last]
    rfl

theorem walk_exact_two_pages :
    let bySize : BoundKey Nat := ⟨⟨fun n => some (.ofInt n), none⟩, .descending⟩
    let s : Selection Nat := ⟨⟨fun _ => none, [3, 1, 2, 5, 4]⟩,
      [.filter fun n => .ofBool (n != 2), .order [bySize]]⟩
    ∃ pages, Walk (fun index => (paginate (m := Id) s ⟨index, 2, 7⟩).run) 7 (.ok pages) ∧
      pages.length = 2 ∧ pages.flatMap Page.items = [5, 4, 3, 1] := by
  intro bySize s
  have rows : s.rows = [5, 4, 3, 1] := by decide
  obtain ⟨pages, walked, long, -, -, -, listed⟩ := walk_exact s 2 7 (by decide)
    (by rw [rows]; decide) (by rw [rows]; decide)
  rw [rows] at long
  refine ⟨pages, (walked _).mpr rfl, long.trans (by decide), ?_⟩
  rw [← rows]
  exact (Except.ok.inj listed).symm

end RecordQuery
