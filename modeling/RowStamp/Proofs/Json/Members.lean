import Mathlib.Data.List.Induction
import Mathlib.Data.String.Basic
import RowStamp.Json

/-!
The members of an object: they stand in the order of their names, and the last value that is given
for a name is the one that is found.
-/

set_option autoImplicit false
set_option relaxedAutoImplicit false

namespace RowStamp.Json

/-- The names stand in order, one member for each. -/
def Sorted (members : List (String × Json)) : Prop :=
  members.Pairwise fun one other => one.1 < other.1

/-! ### Entries by name -/

section Lookup

variable {α : Type}

theorem lookup_cons (wanted : String) (entry : String × α) (rest : List (String × α)) :
    (entry :: rest).lookup wanted =
      if wanted = entry.1 then some entry.2 else rest.lookup wanted := by
  rw [List.lookup_cons]
  by_cases here : wanted = entry.1
  · simp [here]
  · rw [if_neg here, beq_false_of_ne here]

theorem lookup_eq_some_iff {entries : List (String × α)} (distinct : (entries.map Prod.fst).Nodup)
    {wanted : String} {found : α} :
    entries.lookup wanted = some found ↔ (wanted, found) ∈ entries := by
  induction entries with
  | nil => simp
  | cons entry entries ih =>
    obtain ⟨name, given⟩ := entry
    obtain ⟨absent, rest⟩ := List.nodup_cons.mp distinct
    rw [lookup_cons, List.mem_cons]
    by_cases here : wanted = name
    · have later : (wanted, found) ∉ entries := by
        intro member
        exact absent (List.mem_map.mpr ⟨_, member, here⟩)
      simp [here, here ▸ later, eq_comm]
    · simp [here, ih rest]

end Lookup

variable {name : String} {value : Json} {members : List (String × Json)}

/-! ### One more member -/

private theorem mem_insertMember {member : String × Json}
    (found : member ∈ insertMember name value members) :
    member = (name, value) ∨ member ∈ members := by
  induction members with
  | nil => simpa [insertMember] using found
  | cons first rest ih =>
    rw [insertMember] at found
    split at found
    · rcases List.mem_cons.mp found with same | later
      · exact .inl same
      · exact .inr (List.mem_cons_of_mem first later)
    · split at found
      · exact List.mem_cons.mp found
      · rcases List.mem_cons.mp found with rfl | later
        · exact .inr (List.mem_cons_self ..)
        · rcases ih later with same | given
          · exact .inl same
          · exact .inr (List.mem_cons_of_mem first given)

private theorem sorted_insertMember (sorted : Sorted members) :
    Sorted (insertMember name value members) := by
  induction members with
  | nil => simp [insertMember, Sorted]
  | cons first rest ih =>
    obtain ⟨before, others⟩ := List.pairwise_cons.mp sorted
    rw [insertMember]
    split
    · rename_i same
      subst same
      exact List.pairwise_cons.mpr ⟨before, others⟩
    · rename_i apart
      split
      · rename_i front
        refine List.pairwise_cons.mpr ⟨?_, sorted⟩
        intro member found
        rcases List.mem_cons.mp found with rfl | later
        · exact front
        · exact front.trans (before member later)
      · rename_i behind
        have after : first.1 < name := lt_of_le_of_ne (not_lt.mp behind) (Ne.symm apart)
        refine List.pairwise_cons.mpr ⟨?_, ih others⟩
        intro member found
        rcases mem_insertMember found with rfl | later
        · exact after
        · exact before member later

private theorem lookup_insertMember (wanted : String) :
    (insertMember name value members).lookup wanted =
      if wanted = name then some value else members.lookup wanted := by
  induction members with
  | nil => rw [insertMember, lookup_cons]
  | cons first rest ih =>
    rw [insertMember]
    split
    · rename_i same
      subst same
      rw [lookup_cons, lookup_cons]
      by_cases here : wanted = first.1 <;> simp [here]
    · rename_i apart
      split
      · rw [lookup_cons]
      · rw [lookup_cons, lookup_cons, ih]
        by_cases here : wanted = first.1
        · subst here
          simp [Ne.symm apart]
        · simp [here]

private theorem insertMember_of_last (last : ∀ member ∈ members, member.1 < name) :
    insertMember name value members = members ++ [(name, value)] := by
  induction members with
  | nil => rfl
  | cons first rest ih =>
    have before : first.1 < name := last first (List.mem_cons_self ..)
    rw [insertMember, if_neg before.ne', if_neg (lt_asymm before), List.cons_append, ih]
    intro member later
    exact last member (List.mem_cons_of_mem first later)

/-! ### Objects -/

/-- The members of an object that is made of members: no other ones, in order, the last of each
name. -/
theorem ofMembers_eq (members : List (String × Json)) :
    ∃ sorted, ofMembers members = .object sorted ∧ Sorted sorted ∧
      (∀ member ∈ sorted, member ∈ members) ∧
      ∀ name, sorted.lookup name = members.reverse.lookup name := by
  refine ⟨_, rfl, ?_⟩
  induction members using List.reverseRecOn with
  | nil => simp [Sorted]
  | append_singleton members member ih =>
    obtain ⟨sorted, given, found⟩ := ih
    rw [List.foldl_append, List.foldl_cons, List.foldl_nil]
    refine ⟨sorted_insertMember sorted, ?_, ?_⟩
    · intro other listed
      rcases mem_insertMember listed with rfl | earlier
      · simp
      · exact List.mem_append_left _ (given other earlier)
    · intro name
      rw [lookup_insertMember, found, List.reverse_append, List.reverse_singleton,
        List.singleton_append, lookup_cons]

theorem member?_ofMembers (members : List (String × Json)) (name : String) :
    (ofMembers members).member? name = members.reverse.lookup name := by
  obtain ⟨sorted, same, -, -, found⟩ := ofMembers_eq members
  rw [same]
  exact found name

theorem ofMembers_of_sorted (sorted : Sorted members) : ofMembers members = .object members := by
  rw [ofMembers]
  induction members using List.reverseRecOn with
  | nil => rfl
  | append_singleton members member ih =>
    obtain ⟨before, -, last⟩ := List.pairwise_append.mp sorted
    have earlier := Json.object.inj (ih before)
    rw [List.foldl_append, List.foldl_cons, List.foldl_nil, earlier, insertMember_of_last]
    intro other listed
    exact last other listed member (List.mem_singleton_self member)

end RowStamp.Json
