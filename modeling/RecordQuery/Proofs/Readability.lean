import RecordQuery.Proofs.Digits
import RecordQuery.Proofs.Regrouping
import RecordQuery.Proofs.Slots

/-! The text of a compiled filter tells its tests, its logic and its groups, and only how a chain of
one logic hangs together it does not tell. Names of fields may hold anything but a closing
parenthesis. -/
namespace RecordQuery

namespace Formula

def isJoin : Formula → Bool
  | join _ _ _ => true
  | _ => false

/-- What stands between two parts of a chain. -/
def word (logic : Logic) : List Char := (" " ++ logic.keyword ++ " ").toList

/-- The text of a formula as a part of a chain of that logic, or by itself. -/
def shown (around : Option Logic) (f : Formula) : List Char :=
  (parenthesized (around.any fun logic => f.isOtherChain logic) f.toText).toList

/-- The text as a part of a chain that the formula does not continue. -/
def item (f : Formula) : List Char := (parenthesized f.isJoin f.toText).toList

theorem shown_none (f : Formula) : f.shown none = f.toText.toList := rfl

theorem shown_of_not_join {f : Formula} (single : f.isJoin = false) (around : Option Logic) :
    f.shown around = f.item := by
  cases f <;> cases around <;> first | rfl | cases single

theorem shown_of_not_chain {f : Formula} {logic : Logic} (other : f.isChain logic = false) :
    f.shown (some logic) = f.item := by
  cases f with
  | join inner l r =>
    have differ : (inner != logic) = true := by simpa [isChain] using other
    simp [shown, item, isOtherChain_join, isJoin, differ]
  | _ => rfl

theorem item_join (logic : Logic) (l r : Formula) (rest : List Char) :
    (join logic l r).item ++ rest = '(' :: ((join logic l r).shown none ++ ')' :: rest) := by
  simp [item, shown, isJoin, parenthesized]

end Formula

/-- What a numeral in front of it does not run into. -/
def Stops (rest : List Char) : Prop := ∀ c ∈ rest.head?, isDecimalDigit c = false

/-- What a chain in front of it does not run into. -/
def Closes (rest : List Char) : Prop := ∀ c ∈ rest.head?, c = ')'

theorem Closes.stops {rest : List Char} (closes : Closes rest) : Stops rest := by
  intro c first
  rw [closes c first]
  rfl

theorem stops_word (logic : Logic) (rest : List Char) : Stops (Formula.word logic ++ rest) := by
  cases logic <;> simp [Stops, Formula.word, Logic.keyword] <;> decide

theorem not_closes_word (logic : Logic) (rest : List Char) :
    ¬ Closes (Formula.word logic ++ rest) := by
  cases logic <;> simp [Closes, Formula.word, Logic.keyword]

theorem word_append_inj {logic logic' : Logic} {rest rest' : List Char}
    (same : Formula.word logic ++ rest = Formula.word logic' ++ rest') :
    logic = logic' ∧ rest = rest' := by
  cases logic <;> cases logic' <;> simp_all [Formula.word, Logic.keyword]

/-- A name ends at the first closing parenthesis. -/
theorem name_append_inj {path path' : String} {rest rest' : List Char}
    (plain : ')' ∉ path.toList) (plain' : ')' ∉ path'.toList)
    (same : path.toList ++ ')' :: rest = path'.toList ++ ')' :: rest') :
    path = path' ∧ rest = rest' := by
  have others {s : String} (absent : ')' ∉ s.toList) : ∀ c ∈ s.toList, (c != ')') = true := by
    intro c member
    exact bne_iff_ne.mpr fun closing => absent (closing ▸ member)
  have ends (s : List Char) : ∀ c ∈ (')' :: s).head?, (c != ')') = false := by simp
  obtain ⟨names, behind⟩ :=
    stretch_append_inj (others plain) (others plain') (ends rest) (ends rest') same
  exact ⟨String.toList_inj.mp names, (List.cons.inj behind).2⟩

namespace Operator

/-- What stands in front of the field. -/
def mark (op : Operator) : List Char :=
  match op.kind with
  | .textTest _ true => ['!']
  | _ => []

/-- What stands behind the field, up to the number of the slot. -/
def wording (op : Operator) : List Char :=
  match op.kind with
  | .compare comparison => (" " ++ comparison.symbol ++ " @").toList
  | .nullCheck negated => (if negated then " != null" else " == null").toList
  | .textTest test _ => ("." ++ test.name ++ "(@").toList

/-- What stands behind the number of the slot. -/
def ending (op : Operator) : List Char :=
  match op.kind with
  | .textTest _ _ => [')']
  | _ => []

/-- The number of the slot, if there is one, and all that is behind it. -/
def argument (op : Operator) (index : Nat) (rest : List Char) : List Char :=
  if op.takesValue then numeral index ++ (op.ending ++ rest) else rest

theorem mark_cases (op : Operator) : op.mark = [] ∨ op.mark = ['!'] := by
  cases op <;> decide

theorem mark_append_inj {op op' : Operator} {rest rest' : List Char}
    (same : op.mark ++ ("np(".toList ++ rest) = op'.mark ++ ("np(".toList ++ rest')) :
    op.mark = op'.mark ∧ rest = rest' := by
  rcases mark_cases op with bare | negated <;> rcases mark_cases op' with bare' | negated' <;>
    simp_all

theorem mark_append_ne (op : Operator) (rest rest' : List Char) :
    op.mark ++ ("np(".toList ++ rest) ≠ '(' :: rest' := by
  rcases mark_cases op with bare | negated <;> simp_all

theorem wording_apart {op op' : Operator} (marked : op.mark = op'.mark)
    (first : op.wording <+: op'.wording) : op = op' := by
  -- the wordings of two tests are the same only where one of the tests is negated
  revert marked first
  cases op <;> cases op' <;> decide

theorem wording_append_inj {op op' : Operator} {rest rest' : List Char}
    (marked : op.mark = op'.mark) (same : op.wording ++ rest = op'.wording ++ rest') :
    op = op' ∧ rest = rest' := by
  have one : op.wording <+: op'.wording ++ rest' := ⟨rest, same⟩
  have either : op = op' := by
    rcases List.prefix_or_prefix_of_prefix one (List.prefix_append _ _) with first | first
    · exact wording_apart marked first
    · exact (wording_apart marked.symm first).symm
  subst either
  exact ⟨rfl, List.append_cancel_left same⟩

theorem argument_append_inj {op : Operator} {m n : Nat} {rest rest' : List Char}
    (takes : op.takesValue = true) (stops : Stops rest) (stops' : Stops rest')
    (same : op.argument m rest = op.argument n rest') : m = n ∧ rest = rest' := by
  have behind {s : List Char} (ends : Stops s) : Stops (op.ending ++ s) := by
    cases op <;> first | exact ends | exact fun c first => by cases first; rfl
  rw [argument, argument, if_pos takes, if_pos takes] at same
  obtain ⟨numbers, ends⟩ := numeral_append_inj (behind stops) (behind stops') same
  exact ⟨numbers, List.append_cancel_left ends⟩

end Operator

namespace Formula

variable {record : Placeholder}

theorem isJoin_ofOperator (path : String) (op : Operator) (index : Nat) :
    (ofOperator record path op index).isJoin = false := by
  cases op <;> rfl

theorem isChain_ofOperator (logic : Logic) (path : String) (op : Operator) (index : Nat) :
    (ofOperator record path op index).isChain logic = false := by
  cases op <;> rfl

/-- A null check is the same at every position. -/
theorem ofOperator_index (path : String) {op : Operator} (takes : ¬ op.takesValue = true)
    (i j : Nat) : ofOperator record path op i = ofOperator record path op j := by
  cases op <;> first | rfl | exact absurd rfl takes

theorem item_ofOperator (path : String) (op : Operator) (index : Nat) (rest : List Char) :
    (ofOperator record path op index).item ++ rest =
      op.mark ++ ("np(".toList ++ (path.toList ++ ')' ::
        (op.wording ++ op.argument index rest))) := by
  unfold item
  rw [isJoin_ofOperator]
  cases op <;>
    simp [parenthesized, ofOperator, Operator.kind, toText, numeral, Operator.mark,
      Operator.wording, Operator.argument, Operator.takesValue, Operator.ending,
      Comparison.symbol, TextTest.name, Value.shown]

/-- Tests of one record in chains that hang together from the right. -/
inductive Grouped (record : Placeholder) : Formula → Prop where
  | single (path : String) (op : Operator) (index : Nat) (plain : ')' ∉ path.toList) :
      Grouped record (ofOperator record path op index)
  | chain (logic : Logic) {l r : Formula} (first : l.isChain logic = false) :
      Grouped record l → Grouped record r → Grouped record (join logic l r)

theorem Grouped.append {f g : Formula} (logic : Logic) (left : Grouped record f)
    (right : Grouped record g) : Grouped record (append logic f g) := by
  induction left with
  | single path op index plain =>
    have other : (ofOperator record path op index).isChain logic = false :=
      isChain_ofOperator logic path op index
    rw [append_of_not_chain other]
    exact .chain logic other (.single path op index plain) right
  | @chain inner l r first one others _ ih =>
    by_cases same : inner = logic
    · subst same
      rw [Formula.append, if_pos rfl]
      exact .chain inner first one ih
    · rw [Formula.append, if_neg same]
      exact .chain logic (beq_false_of_ne same) (.chain inner first one others) right

theorem grouped_regrouped {f : Formula} (tests : ∀ t ∈ f.tests, Grouped record t) :
    Grouped record f.regrouped := by
  induction f with
  | join logic l r ihl ihr =>
    obtain ⟨left, right⟩ := List.forall_mem_append.mp tests
    exact (ihl left).append logic (ihr right)
  | _ => exact tests _ List.mem_cons_self

/-- Where the formula is written as an item, with something behind it that a numeral does not run
into, the formula and its end can be told. -/
def Reads (record : Placeholder) (f : Formula) : Prop :=
  ∀ g, Grouped record g → ∀ rest rest', Stops rest → Stops rest' →
    f.item ++ rest = g.item ++ rest' → f = g ∧ rest = rest'

/-- The same where it is written as part of a chain or by itself. -/
def ReadsIn (record : Placeholder) (around : Option Logic) (f : Formula) : Prop :=
  ∀ g, Grouped record g → ∀ rest rest', Closes rest → Closes rest' →
    f.shown around ++ rest = g.shown around ++ rest' → f = g ∧ rest = rest'

theorem reads_single {path : String} (plain : ')' ∉ path.toList) (op : Operator) (index : Nat) :
    Reads record (ofOperator record path op index) := by
  intro g grouped rest rest' stops stops' same
  cases grouped with
  | single path' op' index' plain' =>
    rw [item_ofOperator, item_ofOperator] at same
    obtain ⟨marked, fields⟩ := Operator.mark_append_inj same
    obtain ⟨rfl, wordings⟩ := name_append_inj plain plain' fields
    obtain ⟨rfl, arguments⟩ := Operator.wording_append_inj marked wordings
    by_cases takes : op.takesValue = true
    · obtain ⟨rfl, behind⟩ := Operator.argument_append_inj takes stops stops' arguments
      exact ⟨rfl, behind⟩
    · rw [Operator.argument, Operator.argument, if_neg takes, if_neg takes] at arguments
      exact ⟨ofOperator_index path takes index index', arguments⟩
  | chain logic first _ _ =>
    rw [item_ofOperator, item_join] at same
    exact absurd same (Operator.mark_append_ne op _ _)

theorem shown_chain {logic : Logic} {l : Formula} (first : l.isChain logic = false) (r : Formula)
    (around : Option Logic) :
    (join logic l r).shown around =
      if around.all (logic == ·) then l.item ++ (word logic ++ r.shown (some logic))
      else (join logic l r).item := by
  by_cases own : around.all (logic == ·) = true
  · have bare : (around.any fun outer => (join logic l r).isOtherChain outer) = false := by
      cases around <;> simp_all [isOtherChain_join]
    rw [if_pos own, ← shown_of_not_chain first]
    simp [shown, word, bare, toText, parenthesized]
  · rw [if_neg own]
    cases around with
    | none => exact absurd rfl own
    | some outer => exact shown_of_not_chain (eq_false_of_ne_true own)

/-- Where an item stands at the beginning of a formula, it is the formula or the first part of its
chain. -/
theorem Reads.shown {f g : Formula} (reads : Reads record f) (grouped : Grouped record g)
    {around : Option Logic} {rest rest' : List Char} (stops : Stops rest) (closes : Closes rest')
    (same : f.item ++ rest = g.shown around ++ rest') :
    (f = g ∧ rest = rest') ∨ ∃ logic r, g = join logic f r ∧ Grouped record r ∧
      rest = word logic ++ (r.shown (some logic) ++ rest') := by
  have whole (alone : g.shown around = g.item) : f = g ∧ rest = rest' := by
    rw [alone] at same
    exact reads g grouped rest rest' stops closes.stops same
  cases grouped with
  | single path op index _ => exact .inl (whole (shown_of_not_join (isJoin_ofOperator _ _ _) _))
  | @chain logic l r first left right =>
    by_cases bare : around.all (logic == ·) = true
    · rw [shown_chain first, if_pos bare, List.append_assoc, List.append_assoc] at same
      obtain ⟨rfl, behind⟩ := reads l left rest _ stops (stops_word logic _) same
      exact .inr ⟨logic, r, rfl, right, behind⟩
    · exact .inl (whole (by rw [shown_chain first, if_neg bare]))

theorem readsIn_of_item {f : Formula} {around : Option Logic} (whole : f.shown around = f.item)
    (reads : Reads record f) : ReadsIn record around f := by
  intro g grouped rest rest' closes closes' same
  rw [whole] at same
  rcases reads.shown grouped closes.stops closes' same with equal | ⟨logic, r, -, -, rfl⟩
  · exact equal
  · exact absurd closes (not_closes_word logic _)

theorem readsIn_of_parts {logic : Logic} {l r : Formula} {around : Option Logic}
    (parts : (join logic l r).shown around = l.item ++ (word logic ++ r.shown (some logic)))
    (left : Reads record l) (right : ReadsIn record (some logic) r) :
    ReadsIn record around (join logic l r) := by
  intro g grouped rest rest' closes closes' same
  rw [parts, List.append_assoc, List.append_assoc] at same
  rcases left.shown grouped (stops_word logic _) closes' same with
    ⟨-, ended⟩ | ⟨logic', r', rfl, second, behind⟩
  · exact absurd (ended ▸ closes') (not_closes_word logic _)
  · obtain ⟨rfl, others⟩ := word_append_inj behind
    obtain ⟨rfl, ends⟩ := right r' second rest rest' closes closes' others
    exact ⟨rfl, ends⟩

theorem reads_of_inside {logic : Logic} {l r : Formula}
    (inside : ReadsIn record none (join logic l r)) : Reads record (join logic l r) := by
  intro g grouped rest rest' _ _ same
  have closes (s : List Char) : Closes (')' :: s) := by simp [Closes]
  cases grouped with
  | single path op index _ =>
    rw [item_ofOperator, item_join] at same
    exact absurd same.symm (Operator.mark_append_ne op _ _)
  | chain logic' first left right =>
    rw [item_join, item_join] at same
    obtain ⟨equal, behind⟩ := inside _ (.chain logic' first left right) _ _ (closes rest)
      (closes rest') (List.cons.inj same).2
    exact ⟨equal, (List.cons.inj behind).2⟩

/-- At every place the text tells the formula and where it ends. -/
theorem Grouped.reads {f : Formula} (grouped : Grouped record f) :
    Reads record f ∧ ∀ around, ReadsIn record around f := by
  induction grouped with
  | single path op index plain =>
    have alone : Reads record (ofOperator record path op index) := reads_single plain op index
    refine ⟨alone, fun around => readsIn_of_item ?_ alone⟩
    exact shown_of_not_join (isJoin_ofOperator path op index) around
  | @chain logic l r first _ _ ihl ihr =>
    have own {around : Option Logic} (bare : around.all (logic == ·) = true) :
        ReadsIn record around (join logic l r) :=
      readsIn_of_parts (by rw [shown_chain first, if_pos bare]) ihl.1 (ihr.2 (some logic))
    -- between its parentheses a chain is written as by itself
    have inside : ReadsIn record none (join logic l r) := own rfl
    have item := reads_of_inside inside
    refine ⟨item, fun around => ?_⟩
    by_cases bare : around.all (logic == ·) = true
    · exact own bare
    · exact readsIn_of_item (by rw [shown_chain first, if_neg bare]) item

/-- The text tells formulas of tests apart, except where they differ only in how their chains hang
together. -/
theorem toText_eq_iff {f g : Formula} (tests : ∀ t ∈ f.tests, Grouped record t)
    (tests' : ∀ t ∈ g.tests, Grouped record t) :
    f.toText = g.toText ↔ f.regrouped = g.regrouped := by
  constructor
  · intro same
    rw [← toText_regrouped f, ← toText_regrouped g] at same
    have reads := (grouped_regrouped tests).reads.2 none
    refine (reads _ (grouped_regrouped tests') [] [] nofun nofun ?_).1
    rw [shown_none, shown_none, same]
  · intro same
    rw [← toText_regrouped f, same, toText_regrouped]

theorem toText_replace (old new : Placeholder) (f : Formula) :
    (f.replace old new).toText = f.toText := by
  have chains (logic : Logic) (f : Formula) :
      (f.replace old new).isOtherChain logic = f.isOtherChain logic := by cases f <;> rfl
  have tight (f : Formula) : (f.replace old new).isTight = f.isTight := by
    cases f with
    | textTest _ negated _ _ => cases negated <;> rfl
    | _ => rfl
  induction f with
  | const | literal | slot | field => rfl
  | compare _ _ _ ihl ihr | textTest _ _ _ _ ihl ihr => simp only [replace, toText, ihl, ihr]
  | join _ _ _ ihl ihr => simp only [replace, toText, chains, ihl, ihr]
  | not _ ih => simp only [replace, toText, tight, ih]

end Formula

namespace Condition

theorem tests_grouped {root : Condition} (record : Placeholder)
    (formed : ∀ n ∈ root.nodes, n.WellFormed) (plain : ∀ n ∈ root.nodes, ')' ∉ n.field.toList) :
    ∀ t ∈ (root.formula record 0).tests, Formula.Grouped record t := by
  intro t member
  rw [tests_formula record 0 root formed] at member
  obtain ⟨⟨c, index⟩, numbered, rfl⟩ := List.mem_map.mp member
  exact .single c.field c.op index (plain c (List.fst_mem_of_mem_zipIdx numbered))

end Condition

/-- Filters compiled from trees whose names hold no closing parenthesis are unambiguous: two that
have the same text and the same values fail to bind with the same error or say the same of every
record, whatever schema they are bound to. -/
theorem same_text_same_meaning {limits limits' : Limits} {record record' : Placeholder}
    {root root' : Condition} {f g : Filter}
    (compiled : Filter.ofCondition limits record root = .ok f)
    (compiled' : Filter.ofCondition limits' record' root' = .ok g)
    (plain : ∀ c ∈ root.nodes, ')' ∉ c.field.toList)
    (plain' : ∀ c ∈ root'.nodes, ')' ∉ c.field.toList)
    (text : f.lambda.body.toText = g.lambda.body.toText) (slots : f.slots = g.slots)
    (α : Type) (schema : Schema α) : f.bind schema = g.bind schema := by
  rw [Filter.ofCondition_eq] at compiled compiled'
  obtain ⟨sound, rfl⟩ := verdict_eq_ok.mp compiled
  obtain ⟨sound', rfl⟩ := verdict_eq_ok.mp compiled'
  have formed := ((Condition.tree_fault_eq_none limits root).mp sound).2.2
  have formed' := ((Condition.tree_fault_eq_none limits' root').mp sound').2.2
  -- the second filter is as good about the first one's placeholder
  have moved : (root'.filter record').bind schema = (root'.filter record).bind schema := by
    rw [Filter.bind_eq formed', Filter.bind_eq formed']
  have same : (root.formula record 0).toText = (root'.formula record 0).toText := by
    rw [← Condition.formula_replace record' record 0 root', Formula.toText_replace]
    exact text
  have grouped := (Formula.toText_eq_iff (Condition.tests_grouped record formed plain)
    (Condition.tests_grouped record formed' plain')).mp same
  rw [moved, Filter.bind, Filter.bind, ← Formula.bind_regrouped]
  calc
    _ = (root.formula record 0).regrouped.bind schema record root.slots := rfl
    _ = (root'.formula record 0).regrouped.bind schema record root'.slots := by
      rw [grouped, show root.slots = root'.slots from slots]
    _ = (root'.formula record 0).bind schema record root'.slots := Formula.bind_regrouped _

/-- Two trees with the same nodes, of which the second one has the last node a level deeper. -/
def shallowTree : Condition :=
  .node "age" "gte" (some (.ofInt 18)) (some "and")
    [.node "name" "isNotNull" none (some "and")
      [.node "name" "startsWith" (some (.text "A")) none []],
      .node "name" "endsWith" (some (.text "n")) none []]

def deepTree : Condition :=
  .node "age" "gte" (some (.ofInt 18)) (some "and")
    [.node "name" "isNotNull" none none [],
      .node "name" "startsWith" (some (.text "A")) (some "and")
        [.node "name" "endsWith" (some (.text "n")) none []]]

theorem same_text_same_meaning_people :
    ∃ f g test, Filter.ofCondition .standard ⟨0⟩ shallowTree = .ok f ∧
      Filter.ofCondition .standard ⟨0⟩ deepTree = .ok g ∧ f.lambda.body ≠ g.lambda.body ∧
      f.bind personSchema = .ok test ∧ g.bind personSchema = .ok test := by
  have shallow : Filter.ofCondition .standard ⟨0⟩ shallowTree = .ok (shallowTree.filter ⟨0⟩) := rfl
  have deep : Filter.ofCondition .standard ⟨0⟩ deepTree = .ok (deepTree.filter ⟨0⟩) := rfl
  have alike := same_text_same_meaning shallow deep (by decide) (by decide) (by decide) rfl _
    personSchema
  obtain ⟨test, bound⟩ : ∃ test, (shallowTree.filter ⟨0⟩).bind personSchema = .ok test := ⟨_, rfl⟩
  exact ⟨_, _, test, shallow, deep, nofun, bound, alike ▸ bound⟩

end RecordQuery
