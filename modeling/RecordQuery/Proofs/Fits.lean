import Mathlib.Data.List.Basic
import RecordQuery.Json.Fields
import RecordQuery.Json.Reader

/-! JSON values whose integers take 64 bits. Reading a text gives no others, whatever parts of it
are read. -/
namespace RecordQuery

theorem mem_mapM_some {f : α → Option β} {xs : List α} {ys : List β}
    (passed : xs.mapM f = some ys) : ∀ y ∈ ys, ∃ x ∈ xs, f x = some y := by
  induction xs generalizing ys with
  | nil =>
    cases passed
    exact nofun
  | cons x xs ih =>
    rw [List.mapM_cons] at passed
    obtain ⟨y, head, rest⟩ := Option.bind_eq_some_iff.mp passed
    obtain ⟨others, tail, made⟩ := Option.bind_eq_some_iff.mp rest
    cases made
    refine List.forall_mem_cons.mpr ⟨⟨x, List.mem_cons_self, head⟩, ?_⟩
    intro z member
    obtain ⟨w, inside, found⟩ := ih tail z member
    exact ⟨w, List.mem_cons_of_mem _ inside, found⟩

theorem mem_of_single? {xs : List α} {x : α} (single : single? xs = some (some x)) : x ∈ xs := by
  match xs, single with
  | [y], found =>
    cases found
    exact List.mem_singleton_self _

namespace Json

def Number.Fits : Number → Prop
  | .int n => fitsWord n = true
  | .real _ => True

mutual

/-- Every number in the value fits. -/
def Fits : Json → Prop
  | .number n => n.Fits
  | .array items => FitAll items
  | .object members => FitMembers members
  | _ => True

def FitAll : List Json → Prop
  | [] => True
  | json :: rest => Fits json ∧ FitAll rest

def FitMembers : List (String × Json) → Prop
  | [] => True
  | (_, json) :: rest => Fits json ∧ FitMembers rest

end

theorem fitAll_iff (items : List Json) : FitAll items ↔ ∀ json ∈ items, json.Fits := by
  induction items with
  | nil => simp [FitAll]
  | cons json rest ih => simp [FitAll, ih]

theorem fitMembers_iff (members : List (String × Json)) :
    FitMembers members ↔ ∀ m ∈ members, m.2.Fits := by
  induction members with
  | nil => simp [FitMembers]
  | cons m rest ih => simp [FitMembers, ih]

theorem fields?_fit {json : Json} (fits : json.Fits) {names : List (List String)}
    {fields : List (Option Json)} (found : json.fields? names = some fields) :
    ∀ field ∈ fields, ∀ part ∈ field, part.Fits := by
  cases json with
  | null | bool | number | string => cases found
  | array items =>
    simp only [fields?] at found
    split at found
    · obtain rfl := Option.some.inj found
      intro field member part here
      rcases List.mem_append.mp member with given | missing
      · obtain ⟨item, inside, rfl⟩ := List.mem_map.mp given
        obtain rfl := Option.some.inj here
        exact (fitAll_iff items).mp fits _ inside
      · obtain ⟨-, rfl⟩ := List.mem_replicate.mp missing
        cases here
    · cases found
  | object members =>
    intro field member part here
    obtain ⟨known, -, single⟩ := mem_mapM_some found field member
    have among : part ∈ (members.filter fun m => known.contains m.1).map (·.2) := by
      rw [Option.mem_def.mp here] at single
      exact mem_of_single? single
    obtain ⟨m, inside, rfl⟩ := List.mem_map.mp among
    exact (fitMembers_iff members).mp fits m (List.mem_filter.mp inside).1

theorem Number.ofInt?_fits {negative : Bool} {n : Nat} {m : Number}
    (read : Number.ofInt? negative n = some m) : m.Fits := by
  simp only [Number.ofInt?] at read
  generalize (if negative then -(n : Int) else n) = value at read
  split at read
  · rename_i inside
    obtain rfl := Option.some.inj read
    exact (Bool.and_eq_true_iff.mp inside).1
  · obtain ⟨x, -, rfl⟩ := Option.map_eq_some_iff.mp read
    trivial

theorem Number.Literal.number?_fits {l : Number.Literal} {m : Number} (read : l.number? = some m) :
    m.Fits := by
  unfold Number.Literal.number? at read
  split at read
  · exact Number.ofInt?_fits read
  · obtain ⟨x, -, rfl⟩ := Option.map_eq_some_iff.mp read
    trivial

def Token.Fits : Token → Prop
  | .scalar (some json) => json.Fits
  | _ => True

theorem wordToken?_fits {word : String} {token : Token} (read : wordToken? word = some token) :
    token.Fits := by
  unfold wordToken? at read
  split at read <;> cases read <;> trivial

theorem finish?_fit {state : Lexing} {tokens : List Token} (read : finish? state = some tokens) :
    ∀ token ∈ tokens, token.Fits := by
  cases state with
  | between =>
    cases read
    exact nofun
  | word done =>
    obtain ⟨token, word, rest⟩ := Option.bind_eq_some_iff.mp read
    cases rest
    exact List.forall_mem_singleton.mpr (wordToken?_fits word)
  | number done =>
    obtain ⟨l, -, rfl⟩ := Option.map_eq_some_iff.mp read
    refine List.forall_mem_singleton.mpr ?_
    cases number : l.number? with
    | none => trivial
    | some n => exact Number.Literal.number?_fits number
  | string | escape | code | half | halfEscape | halfCode => cases read

/-- Tokens that are not scalars fit. -/
theorem begin?_fit {c : Char} {next : Lexing} {tokens : List Token}
    (read : begin? c = some (next, tokens)) : ∀ token ∈ tokens, token.Fits := by
  unfold begin? at read
  repeat' split at read
  all_goals cases read
  all_goals simp [Token.Fits]

theorem lexString?_fit {done : Partial} {c : Char} {next : Lexing} {tokens : List Token}
    (read : lexString? done c = some (next, tokens)) : ∀ token ∈ tokens, token.Fits := by
  unfold lexString? at read
  split at read
  · cases read
    simp [Token.Fits]
  split at read
  · cases read
    exact nofun
  split at read
  · cases read
  · cases read
    exact nofun

theorem lexEscape?_nil {done : Partial} {c : Char} {next : Lexing} {tokens : List Token}
    (read : lexEscape? done c = some (next, tokens)) : tokens = [] := by
  unfold lexEscape? at read
  split at read
  · cases read
    rfl
  · obtain ⟨letter, -, made⟩ := Option.map_eq_some_iff.mp read
    cases made
    rfl

/-- The character ends a word or a number and begins what comes next. -/
theorem begin_finished_fit {state next : Lexing} {c : Char} {tokens : List Token}
    (read : (do
      let tokens ← finish? state
      let (next, more) ← begin? c
      some (next, tokens ++ more)) = some (next, tokens)) : ∀ token ∈ tokens, token.Fits := by
  obtain ⟨ended, finished, rest⟩ := Option.bind_eq_some_iff.mp read
  obtain ⟨⟨_, more⟩, begun, made⟩ := Option.bind_eq_some_iff.mp rest
  cases made
  exact List.forall_mem_append.mpr ⟨finish?_fit finished, begin?_fit begun⟩

theorem lex?_fit {state next : Lexing} {c : Char} {tokens : List Token}
    (read : lex? state c = some (next, tokens)) : ∀ token ∈ tokens, token.Fits := by
  cases state with
  | between => exact begin?_fit read
  | word done | number done =>
    simp only [lex?] at read
    split at read
    · cases read
      exact nofun
    · exact begin_finished_fit read
  | string done => exact lexString?_fit read
  | escape done =>
    rw [lexEscape?_nil read]
    exact nofun
  | code done digits value =>
    obtain ⟨digit, -, made⟩ := Option.bind_eq_some_iff.mp read
    cases made
    exact nofun
  | half done high =>
    simp only [lex?] at read
    split at read
    · cases read
      exact nofun
    · exact lexString?_fit read
  | halfEscape done high =>
    simp only [lex?] at read
    split at read
    · cases read
      exact nofun
    · rw [lexEscape?_nil read]
      exact nofun
  | halfCode done high digits value =>
    obtain ⟨digit, -, made⟩ := Option.bind_eq_some_iff.mp read
    cases made
    exact nofun

theorem tokensOnto?_fit {state : Lexing} {cs : List Char} {done tokens : List Token}
    (before : ∀ token ∈ done, token.Fits) (read : tokensOnto? state done cs = some tokens) :
    ∀ token ∈ tokens, token.Fits := by
  induction cs generalizing state done with
  | nil =>
    obtain ⟨ended, finished, rfl⟩ := Option.map_eq_some_iff.mp read
    refine List.forall_mem_append.mpr ⟨?_, before⟩
    simpa only [List.mem_reverse] using finish?_fit finished
  | cons c cs ih =>
    simp only [tokensOnto?] at read
    split at read
    · cases read
    · rename_i next more lexed
      refine ih (List.forall_mem_append.mpr ⟨?_, before⟩) read
      simpa only [List.mem_reverse] using lex?_fit lexed

theorem tokens?_fit {cs : List Char} {tokens : List Token} (read : tokens? cs = some tokens) :
    ∀ token ∈ tokens, token.Fits := by
  obtain ⟨backwards, found, rfl⟩ := Option.map_eq_some_iff.mp read
  have none : ∀ token ∈ ([] : List Token), token.Fits := nofun
  simpa only [List.mem_reverse] using tokensOnto?_fit none found

variable {σ : Type}

def Frame.Fits : Frame σ → Prop
  | .array _ _ items => ∀ json ∈ items, json.Fits
  | .object _ members _ => ∀ m ∈ members, m.2.Fits

def Expecting.Fits : Expecting → Prop
  | .name members | .colon members _ => ∀ m ∈ members, m.2.Fits
  | .complete json => ∀ value ∈ json, value.Fits
  | _ => True

/-- What a reader that is part of the way has read so far. -/
def AllFit (frames : List (Frame σ)) (state : Expecting) : Prop :=
  (∀ frame ∈ frames, frame.Fits) ∧ state.Fits

namespace Outline

variable {frames frames' : List (Frame σ)} {state state' : Expecting} {token : Token}

theorem keep?_eq {part : Option σ} {value : Option β} {kept : Option β}
    (read : keep? part value = some kept) : ∀ x ∈ kept, value = some x := by
  cases part with
  | none =>
    cases read
    exact nofun
  | some p =>
    obtain ⟨x, made, rfl⟩ := Option.map_eq_some_iff.mp read
    intro y same
    cases same
    exact made

theorem open?_fit {limit : Option Nat} {part : Option σ} (containers : ∀ frame ∈ frames, frame.Fits)
    (fits : token.Fits) (opened : open? limit part frames token = some (frames', state')) :
    AllFit frames' state' := by
  cases token with
  | string s =>
    obtain ⟨kept, read, made⟩ := Option.map_eq_some_iff.mp opened
    cases made
    refine ⟨containers, fun value member => ?_⟩
    obtain ⟨text, -, rfl⟩ := Option.map_eq_some_iff.mp (keep?_eq read value member)
    trivial
  | scalar json =>
    obtain ⟨kept, read, made⟩ := Option.map_eq_some_iff.mp opened
    cases made
    refine ⟨containers, fun value member => ?_⟩
    obtain rfl := keep?_eq read value member
    exact fits
  | openArray | openObject =>
    simp only [open?] at opened
    split at opened
    · cases opened
      exact ⟨List.forall_mem_cons.mpr ⟨nofun, containers⟩, trivial⟩
    · cases opened
  | closeArray | closeObject | comma | colon => cases opened

theorem closed_fit (part : Option σ) {json : Json} (fits : json.Fits) :
    (Expecting.complete (part.map fun _ => json)).Fits := by
  intro value member
  obtain ⟨p, -, rfl⟩ := Option.map_eq_some_iff.mp member
  exact fits

theorem pushed_items {json : Option Json} {items : List Json} (here : ∀ value ∈ json, value.Fits)
    (before : ∀ item ∈ items, item.Fits) : ∀ item ∈ json.toList ++ items, item.Fits :=
  List.forall_mem_append.mpr ⟨fun value member => here value (Option.mem_toList.mp member), before⟩

theorem pushed_members {json : Option Json} {members : List (String × Json)}
    (here : ∀ value ∈ json, value.Fits) (before : ∀ m ∈ members, m.2.Fits) (name : String) :
    ∀ m ∈ (json.map (name, ·)).toList ++ members, m.2.Fits := by
  refine List.forall_mem_append.mpr ⟨fun m member => ?_, before⟩
  obtain ⟨value, inside, rfl⟩ := Option.map_eq_some_iff.mp (Option.mem_toList.mp member)
  exact here value inside

/-- One token further. -/
theorem build?_fit {o : Outline σ} {start : σ} {limit : Option Nat} (before : AllFit frames state)
    (fits : token.Fits) (built : o.build? start limit frames state token = some (frames', state')) :
    AllFit frames' state' := by
  obtain ⟨containers, here⟩ := before
  unfold build? at built
  split at built
  · -- an array without items
    cases built
    exact ⟨(List.forall_mem_cons.mp containers).2, closed_fit _ trivial⟩
  · exact open?_fit containers fits built
  · exact open?_fit containers fits built
  · -- an object without members
    cases built
    exact ⟨(List.forall_mem_cons.mp containers).2, closed_fit _ trivial⟩
  · obtain ⟨name, -, made⟩ := Option.map_eq_some_iff.mp built
    cases made
    exact ⟨containers, nofun⟩
  · obtain ⟨name, -, made⟩ := Option.map_eq_some_iff.mp built
    cases made
    exact ⟨containers, here⟩
  · -- the members so far go back to their container while the next one is read
    cases built
    exact ⟨List.forall_mem_cons.mpr ⟨here, (List.forall_mem_cons.mp containers).2⟩, trivial⟩
  · cases built
    obtain ⟨first, others⟩ := List.forall_mem_cons.mp containers
    exact ⟨List.forall_mem_cons.mpr ⟨pushed_items here first, others⟩, trivial⟩
  · cases built
    obtain ⟨first, others⟩ := List.forall_mem_cons.mp containers
    refine ⟨others, closed_fit _ ((fitAll_iff _).mpr ?_)⟩
    simpa only [List.mem_reverse] using pushed_items here first
  · cases built
    exact ⟨containers, pushed_members here (List.forall_mem_cons.mp containers).1 _⟩
  · cases built
    obtain ⟨first, others⟩ := List.forall_mem_cons.mp containers
    refine ⟨others, closed_fit _ ((fitMembers_iff _).mpr ?_)⟩
    simpa only [List.mem_reverse] using pushed_members here first _
  · cases built

theorem buildAll?_fits {o : Outline σ} {start : σ} {limit : Option Nat} {tokens : List Token}
    {json : Json} (before : AllFit frames state) (fit : ∀ token ∈ tokens, token.Fits)
    (built : o.buildAll? start limit frames state tokens = some json) : json.Fits := by
  induction tokens generalizing frames state with
  | nil =>
    simp only [buildAll?] at built
    split at built
    · exact before.2 json built
    · cases built
  | cons token rest ih =>
    obtain ⟨first, others⟩ := List.forall_mem_cons.mp fit
    simp only [buildAll?] at built
    split at built
    · cases built
    · rename_i further
      exact ih (build?_fit before first further) others built

theorem ofText?_fits {o : Outline σ} {start : σ} {s : String} {json : Json}
    (read : o.ofText? start s = some json) : json.Fits := by
  obtain ⟨tokens, lexed, built⟩ := Option.bind_eq_some_iff.mp read
  have nothing : AllFit ([] : List (Frame σ)) .item := ⟨nofun, trivial⟩
  exact buildAll?_fits nothing (tokens?_fit lexed) built

end Outline

end Json
end RecordQuery
