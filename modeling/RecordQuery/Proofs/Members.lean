import Mathlib.Data.String.Basic
import RecordQuery.Json.Path

/-! Objects whose members have distinct names, at every depth. A record in canonical form, as the
command reads it, has no others. -/
namespace RecordQuery.Json

mutual

/-- No object in the value has two members of one name. -/
def Distinct : Json → Prop
  | .array items => DistinctAll items
  | .object members => (members.map (·.1)).Nodup ∧ DistinctMembers members
  | _ => True

def DistinctAll : List Json → Prop
  | [] => True
  | json :: rest => json.Distinct ∧ DistinctAll rest

def DistinctMembers : List (String × Json) → Prop
  | [] => True
  | (_, json) :: rest => json.Distinct ∧ DistinctMembers rest

end

theorem distinctAll_iff {items : List Json} :
    DistinctAll items ↔ ∀ json ∈ items, json.Distinct := by
  induction items with
  | nil => simp [DistinctAll]
  | cons json rest ih => simp [DistinctAll, ih]

theorem distinctMembers_iff {members : List (String × Json)} :
    DistinctMembers members ↔ ∀ m ∈ members, m.2.Distinct := by
  induction members with
  | nil => simp [DistinctMembers]
  | cons m rest ih => simp [DistinctMembers, ih]

theorem distinct_of_step? {json below : Json} (distinct : json.Distinct) {segment : String}
    (found : step? segment json = some below) : below.Distinct := by
  cases json with
  | object members =>
    obtain ⟨m, first, rfl⟩ := Option.map_eq_some_iff.mp found
    exact distinctMembers_iff.mp distinct.2 m (List.mem_of_find?_eq_some first)
  | array items =>
    obtain ⟨i, -, at_i⟩ := Option.bind_eq_some_iff.mp found
    exact distinctAll_iff.mp distinct below (List.mem_of_getElem? at_i)
  | _ => cases found

theorem names_insertMember (m : String × Json) (members : List (String × Json)) {name : String}
    (member : name ∈ (insertMember m members).map (·.1)) :
    name = m.1 ∨ name ∈ members.map (·.1) := by
  induction members with
  | nil => simpa [insertMember] using member
  | cons other rest ih =>
    rw [insertMember] at member
    split at member
    · simpa using member
    split at member
    · exact .inr member
    · rw [List.map_cons, List.mem_cons] at member
      obtain rfl | later := member
      · simp
      · obtain new | old := ih later
        · exact .inl new
        · simp [old]

theorem ascending_insertMember {m : String × Json} {members : List (String × Json)}
    (sorted : (members.map (·.1)).Pairwise (· < ·)) :
    ((insertMember m members).map (·.1)).Pairwise (· < ·) := by
  induction members with
  | nil => simp [insertMember]
  | cons other rest ih =>
    obtain ⟨first, others⟩ := List.pairwise_cons.mp sorted
    rw [insertMember]
    split
    next before =>
      refine List.pairwise_cons.mpr ⟨?_, sorted⟩
      intro name member
      obtain rfl | later := List.mem_cons.mp member
      · exact before
      · exact String.lt_trans before (first name later)
    split
    · exact sorted
    next notBefore apart =>
      refine List.pairwise_cons.mpr ⟨?_, ih others⟩
      intro name member
      obtain rfl | later := names_insertMember m rest member
      · exact lt_of_le_of_ne (not_lt.mp notBefore) (Ne.symm apart)
      · exact first name later

theorem distinct_insertMember {m : String × Json} {members : List (String × Json)}
    (distinct : m.2.Distinct) (others : DistinctMembers members) :
    DistinctMembers (insertMember m members) := by
  induction members with
  | nil => exact ⟨distinct, others⟩
  | cons other rest ih =>
    rw [insertMember]
    split
    · exact ⟨distinct, others⟩
    split
    · exact others
    · exact ⟨others.1, ih others.2⟩

mutual

theorem distinct_canonical (json : Json) : json.canonical.Distinct := by
  cases json with
  | array items => exact distinct_canonicalItems items
  | object members =>
    obtain ⟨sorted, distinct⟩ := distinct_canonicalMembers members
    exact ⟨sorted.imp ne_of_lt, distinct⟩
  | _ => exact trivial

theorem distinct_canonicalItems (items : List Json) : DistinctAll (canonicalItems items) := by
  cases items with
  | nil => exact trivial
  | cons json rest => exact ⟨distinct_canonical json, distinct_canonicalItems rest⟩

theorem distinct_canonicalMembers (members : List (String × Json)) :
    ((canonicalMembers members).map (·.1)).Pairwise (· < ·) ∧
      DistinctMembers (canonicalMembers members) := by
  cases members with
  | nil => exact ⟨.nil, trivial⟩
  | cons m rest =>
    obtain ⟨sorted, distinct⟩ := distinct_canonicalMembers rest
    exact ⟨ascending_insertMember sorted,
      distinct_insertMember (distinct_canonical m.2) distinct⟩

end

end RecordQuery.Json
