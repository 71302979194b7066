import RecordQuery.Binding
import RecordQuery.Proofs.Comparison
import RecordQuery.Proofs.InstantText
import RecordQuery.Value.Json

/-! A uuid or an instant beside its own text. The text of a uuid is read as the uuid again, so the
two can stand for each other in comparisons. So can an instant and its text in the years of four
digits; on the two days around them, where an offset can lead, the text is not read and compares
with nothing. -/
namespace RecordQuery

namespace Uuid

theorem hexDigit?_hexChar : ∀ d : Fin 16, hexDigit? (hexChar d) = some d := by decide

theorem hexChar_plain : ∀ d : Fin 16, hexChar d ≠ '-' ∧ hexChar d ≠ '\x7b' ∧ hexChar d ≠ 'u' := by
  decide

theorem ofDigits?_hexChars (u : Uuid) : ofDigits? (u.digits.map hexChar) = some u := by
  have digits (ds : List (Fin 16)) : (ds.map hexChar).mapM hexDigit? = some ds := by
    induction ds with
    | nil => rfl
    | cons d ds ih => simp [hexDigit?_hexChar, ih]
  simp [ofDigits?, digits, u.length_eq]

theorem map_length_cut {ns : List Nat} {xs : List α} (enough : ns.sum ≤ xs.length) :
    (cut ns xs).map List.length = ns := by
  induction ns generalizing xs with
  | nil => rfl
  | cons n ns ih =>
    rw [List.sum_cons] at enough
    rw [cut, List.map_cons, List.length_take, ih (by rw [List.length_drop]; omega),
      Nat.min_eq_left (by omega)]

theorem flatten_cut {ns : List Nat} {xs : List α} (whole : xs.length ≤ ns.sum) :
    (cut ns xs).flatten = xs := by
  induction ns generalizing xs with
  | nil =>
    obtain rfl := List.eq_nil_of_length_eq_zero (Nat.le_zero.mp whole)
    rfl
  | cons n ns ih =>
    rw [List.sum_cons] at whole
    rw [cut, List.flatten_cons, ih (by rw [List.length_drop]; omega), List.take_append_drop]

theorem cut_map (f : α → β) (ns : List Nat) (xs : List α) :
    (cut ns xs).map (·.map f) = cut ns (xs.map f) := by
  induction ns generalizing xs with
  | nil => rfl
  | cons n ns ih => rw [cut, cut, List.map_cons, ih, List.map_take, List.map_drop]

theorem mem_of_mem_cut {ns : List Nat} {xs part : List α} (member : part ∈ cut ns xs) :
    ∀ x ∈ part, x ∈ xs := by
  induction ns generalizing xs with
  | nil => cases member
  | cons n ns ih =>
    rcases List.mem_cons.mp member with rfl | later
    · exact fun x => List.mem_of_mem_take
    · exact fun x inside => List.mem_of_mem_drop (ih later x inside)

theorem ofHyphenated?_toChars (u : Uuid) : ofHyphenated? u.toChars = some u := by
  have length : (u.digits.map hexChar).length = groups.sum := by
    rw [List.length_map, u.length_eq]
    rfl
  have hyphenless : ∀ part ∈ cut groups (u.digits.map hexChar), '-' ∉ part := by
    intro part member hyphen
    obtain ⟨d, -, same⟩ := List.mem_map.mp (mem_of_mem_cut member '-' hyphen)
    exact (hexChar_plain d).1 same
  rw [ofHyphenated?, toChars, cut_map,
    List.splitOn_intercalate '-' hyphenless (List.cons_ne_nil _ _),
    map_length_cut (Nat.le_of_eq length.symm), flatten_cut (Nat.le_of_eq length), if_pos rfl,
    ofDigits?_hexChars]

theorem toChars_head (u : Uuid) : ∃ d, u.toChars.head? = some (hexChar d) := by
  obtain ⟨_ | ⟨d, ds⟩, length⟩ := u
  · cases length
  · exact ⟨d, rfl⟩

theorem toChars_length (u : Uuid) : u.toChars.length = 36 := by
  simp [toChars, groups, cut, u.length_eq, List.intercalate_cons_cons]

theorem ofText?_toText (u : Uuid) : ofText? u.toText = some u := by
  obtain ⟨d, head⟩ := u.toChars_head
  obtain ⟨-, brace, scheme⟩ := hexChar_plain d
  have bare : ¬"urn:uuid:".toList.isPrefixOf u.toChars = true := by
    intro start
    obtain ⟨rest, same⟩ := List.isPrefixOf_iff_prefix.mp start
    rw [← same] at head
    exact scheme (Option.some.inj head).symm
  have unbraced : ¬(u.toChars.head? = some '\x7b' ∧ u.toChars.getLast? = some '\x7d') := by
    rw [head]
    exact fun braced => brace (Option.some.inj braced.1)
  rw [ofText?, toText, String.toList_ofList, ofChars?, if_neg (by rw [toChars_length]; decide),
    if_neg unbraced, if_neg bare, ofHyphenated?_toChars]

end Uuid

namespace Value

/-- A uuid, or an instant that some text is read as. -/
inductive Readable : Value → Prop
  | uuid (u : Uuid) : Readable (uuid u)
  | instant {s : String} {t : Instant} (read : Instant.ofText? s = some t) : Readable (instant t)

/-- Years of four digits are the ones that the text of an instant can be read with. -/
def isSpellable : Value → Bool
  | instant t => 0 ≤ t.date.year && t.date.year ≤ 9999
  | _ => true

variable {a b : Value} {s : String}

theorem Readable.text (readable : a.Readable) : ∃ s, a.toText? = some s ∧ a.toJson = .string s := by
  cases readable with
  | uuid u => exact ⟨u.toText, rfl, rfl⟩
  | instant read => exact ⟨_, rfl, rfl⟩

/-- The text of a value compares as the value, if it is read at all. -/
theorem Readable.compare_text (readable : b.Readable) (same : SameType a b)
    (own : b.toText? = some s) :
    a.compare (.text s) = if b.isSpellable then a.compare b else none := by
  cases readable with
  | uuid u =>
    cases same with
    | uuid v =>
      obtain rfl := Option.some.inj own
      simp only [compare, Uuid.ofText?_toText]
      rfl
  | @instant _ t read =>
    cases same with
    | instant v =>
      obtain rfl := Option.some.inj own
      have valid := (Instant.ofText?_valid read).1
      by_cases four : 0 ≤ t.date.year ∧ t.date.year ≤ 9999
      · have spellable : (Value.instant t).isSpellable = true := by simpa [isSpellable] using four
        simp only [compare, Instant.ofText?_toText valid four.1 four.2]
        rw [if_pos spellable]
        rfl
      · have unspellable : ¬(Value.instant t).isSpellable = true := by
          simpa [isSpellable] using four
        simp only [compare, Instant.ofText?_toText_none four]
        rw [if_neg unspellable]
        rfl

theorem Readable.text_compare (readable : a.Readable) (same : SameType a b)
    (own : a.toText? = some s) :
    (Value.text s).compare b = if a.isSpellable then a.compare b else none := by
  rw [compare_swap, readable.compare_text same.symm own, compare_swap a]
  split <;> rfl

theorem Readable.compare_self (readable : a.Readable) : a.compare a = some .eq := by
  cases readable with
  | uuid u => exact congrArg some (Uuid.compare_eq_iff.mpr rfl)
  | instant read => exact congrArg some (Instant.compare_eq_iff.mpr rfl)

/-- Only the days next to the years of four digits are read and cannot be spelled. -/
theorem Readable.unspellable_iff (readable : a.Readable) : a.isSpellable = false ↔
    ∃ t, a = Value.instant t ∧ (t.date = ⟨-1, 12, 31⟩ ∨ t.date = ⟨10000, 1, 1⟩) := by
  constructor
  · intro unspellable
    cases readable with
    | uuid u => cases unspellable
    | @instant _ t read =>
      refine ⟨t, rfl, (Instant.ofText?_valid read).2.resolve_left fun four => ?_⟩
      simp [isSpellable, four] at unspellable
  · rintro ⟨t, rfl, date | date⟩ <;> simp [isSpellable, date]

end Value

variable {a b : Value}

/-- A value is written as its own text, and the text is read back as a text. In comparisons and so
in tests it stands for the value, unless the value is an instant of one of two days: the last one of
the year -1 and the first one of the year 10000. The texts of those are comparable with nothing. -/
theorem own_text_exact (left : a.Readable) (right : b.Readable) (same : a.SameType b) :
    ∃ s r, (a.toText? = some s ∧ Value.ofJson a.toJson = .ok (.text s)) ∧
      (b.toText? = some r ∧ Value.ofJson b.toJson = .ok (.text r)) ∧
      (a.compare (.text r) = if b.isSpellable then a.compare b else none) ∧
      ((Value.text s).compare b = if a.isSpellable then a.compare b else none) ∧
      (∀ comparison, compareTruth comparison (some a) (some (.text r)) =
        if b.isSpellable then compareTruth comparison (some a) (some b) else .unknown) ∧
      (a.compare (.text s) = some .eq ↔ a.isSpellable) ∧
      (a.isSpellable = false ↔
        ∃ t, a = .instant t ∧ (t.date = ⟨-1, 12, 31⟩ ∨ t.date = ⟨10000, 1, 1⟩)) := by
  obtain ⟨s, own, written⟩ := left.text
  obtain ⟨r, own', written'⟩ := right.text
  have first := right.compare_text same own'
  refine ⟨s, r, ⟨own, by rw [written]; rfl⟩, ⟨own', by rw [written']; rfl⟩, first,
    left.text_compare same own, fun comparison => ?_, ?_, left.unspellable_iff⟩
  · simp only [compareTruth, first]
    cases b.isSpellable <;> rfl
  · rw [left.compare_text (same.trans same.symm) own, left.compare_self]
    split <;> simp [*]

theorem own_text_exact_leap :
    ∃ t u, Instant.ofText? "2017-01-01T00:59:60.5+01:00" = some t ∧
      Instant.ofText? "2017-01-01t00:00:00Z" = some u ∧
      t.compare u = .lt ∧
      (Value.instant t).compare (.text "2017-01-01T00:00:00+00:00") = some .lt ∧
      (Value.instant t).compare (.text "2016-12-31T23:59:60.500+00:00") = some .eq := by
  have read : Instant.ofText? "2017-01-01T00:59:60.5+01:00" =
      some ⟨⟨2016, 12, 31⟩, 1439, 60, 500000000⟩ := rfl
  have read' : Instant.ofText? "2017-01-01t00:00:00Z" = some ⟨⟨2017, 1, 1⟩, 0, 0, 0⟩ := rfl
  obtain ⟨s, r, ⟨own, -⟩, ⟨own', -⟩, text, -, -, self, -⟩ :=
    own_text_exact (.instant read) (.instant read') (.instant _ _)
  have spelled : s = "2016-12-31T23:59:60.500+00:00" := Option.some.inj (own.symm.trans rfl)
  have spelled' : r = "2017-01-01T00:00:00+00:00" := Option.some.inj (own'.symm.trans rfl)
  rw [spelled] at self
  rw [spelled'] at text
  exact ⟨_, _, read, read', by decide, text, self.mpr rfl⟩

/-- A minute before the year 0 in UTC, read by way of an offset. -/
theorem early_text_unread :
    ∃ t, Instant.ofText? "0000-01-01T00:00:00+00:01" = some t ∧
      (Value.instant t).toText? = some "-0001-12-31T23:59:00+00:00" ∧
      (Value.instant t).compare (.text "-0001-12-31T23:59:00+00:00") = none ∧
      (Value.instant t).compare (.instant t) = some .eq :=
  ⟨_, rfl, rfl, rfl, rfl⟩

end RecordQuery
