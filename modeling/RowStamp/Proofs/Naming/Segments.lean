import Mathlib.Data.List.Basic
import RowStamp.Naming

/-!
Property names by segments.  Main statement: the property of an identifier is made of the longest
parts of the identifier without an underscore, the first one as it is and each later one with its
first character in upper case, so that how many underscores stand at one place does not matter.
-/

set_option autoImplicit false
set_option relaxedAutoImplicit false

namespace RowStamp

/-! ### Upper case -/

namespace Text

variable {c : Char}

private theorem eq_underscore_of_ofNat {n : Nat} (same : Char.ofNat n = '_') : n = 95 := by
  by_cases valid : n.isValidChar
  · have code : Char.ofNat n = Char.ofNatAux n valid := dif_pos valid
    exact congrArg Char.toNat (code.symm.trans same)
  · have code : Char.ofNat n = Char.ofNat 0 := dif_neg valid
    rw [code] at same
    exact absurd same (by decide)

private theorem toUpper_ne_underscore : ∀ n < 128, n ≠ 95 → (Char.ofNat n).toUpper ≠ '_' := by
  decide

private theorem notMem_upperExpansions : ∀ entry ∈ upperExpansions, 95 ∉ entry.2 := by
  decide

private theorem shifted_upperRuns : ∀ run ∈ upperRuns,
    (run.2.1 : Int) + run.2.2.2 < 95 ∨ 95 < (run.1 : Int) + run.2.2.2 := by
  decide +kernel

private theorem mem_of_runShift? {runs : List (Nat × Nat × Nat × Int)} {n : Nat} {shift : Int}
    (found : runShift? runs n = some shift) :
    ∃ run ∈ runs, run.1 ≤ n ∧ n ≤ run.2.1 ∧ run.2.2.2 = shift := by
  obtain ⟨run, chosen, same⟩ := Option.map_eq_some_iff.mp found
  have within := List.find?_some chosen
  simp only [Bool.and_eq_true, decide_eq_true_eq] at within
  exact ⟨run, List.mem_of_find?_eq_some chosen, within.1.1, within.1.2, same⟩

private theorem underscore_notMem_upperCase (other : c ≠ '_') : '_' ∉ upperCase c := by
  intro member
  by_cases narrow : c.toNat < 128
  · rw [upperCase_of_lt narrow, List.mem_singleton] at member
    have apart : c.toNat ≠ 95 := fun same => other (Char.toNat_inj.mp same)
    have kept := toUpper_ne_underscore c.toNat narrow apart
    rw [Char.ofNat_toNat] at kept
    exact kept member.symm
  · rcases upperCase_of_le (Nat.not_lt.mp narrow) with ⟨points, found, same⟩ |
      ⟨shift, found, same⟩ | same
    · rw [same] at member
      obtain ⟨point, listed, written⟩ := List.mem_map.mp member
      obtain ⟨before, after, entries, -⟩ := List.lookup_eq_some_iff.mp found
      have entry : (c.toNat, points) ∈ upperExpansions := by simp [entries]
      exact notMem_upperExpansions _ entry (eq_underscore_of_ofNat written ▸ listed)
    · rw [same, List.mem_singleton] at member
      have shifted := eq_underscore_of_ofNat member.symm
      obtain ⟨run, listed, first, last, rfl⟩ := mem_of_runShift? found
      have outside := shifted_upperRuns run listed
      omega
    · rw [same, List.mem_singleton] at member
      exact other member.symm

end Text

namespace Naming

/-! ### Segments -/

/-- The longest parts of a text without an underscore, in order; empty ones are left out. -/
def segments (cs : List Char) : List (List Char) :=
  (cs.splitOn '_').filter (· ≠ [])

def raised : List Char → List Char
  | [] => []
  | c :: rest => Text.upperCase c ++ rest

/-- Segments in a row, each but the first one raised. -/
def camel : List (List Char) → List Char
  | [] => []
  | first :: later => first ++ later.flatMap raised

def underscores (n : Nat) : String := String.ofList (List.replicate n '_')

variable {c : Char} {cs : List Char}

private theorem splitOn_underscore (cs : List Char) :
    ('_' :: cs).splitOn '_' = [] :: cs.splitOn '_' := by
  simp [List.splitOn_cons_eq_if_modifyHead]

private theorem splitOn_other (other : c ≠ '_') (cs : List Char) :
    (c :: cs).splitOn '_' = (cs.splitOn '_').modifyHead (c :: ·) := by
  simp [List.splitOn_cons_eq_if_modifyHead, other]

private theorem segments_nil : segments [] = [] := by simp [segments]

private theorem segments_append_underscore (cs ds : List Char) :
    segments (cs ++ '_' :: ds) = segments cs ++ segments ds := by
  simp only [segments, List.splitOn_eq_splitOnP]
  rw [List.splitOnP_append_cons cs ds (by simp), List.filter_append]

private theorem segments_underscore (cs : List Char) : segments ('_' :: cs) = segments cs := by
  have split := segments_append_underscore [] cs
  rwa [segments_nil, List.nil_append, List.nil_append] at split

private theorem segments_replicate_append (n : Nat) (cs : List Char) :
    segments (List.replicate n '_' ++ cs) = segments cs := by
  induction n with
  | zero => rfl
  | succ n ih => rw [List.replicate_succ, List.cons_append, segments_underscore, ih]

/-! ### Camel case -/

private theorem flatMap_raised_filter (parts : List (List Char)) :
    (parts.filter (· ≠ [])).flatMap raised = parts.flatMap raised := by
  induction parts with
  | nil => rfl
  | cons part parts ih =>
    cases part with
    | nil => simpa [raised] using ih
    | cons c part => simpa using ih

private theorem camelFrom_written {first : List Char} {later : List (List Char)}
    (parts : cs.splitOn '_' = first :: later) (raise : Bool) :
    camelFrom true raise cs = (if raise then raised first else first) ++ later.flatMap raised := by
  induction cs generalizing first later raise with
  | nil =>
    obtain ⟨rfl, rfl⟩ : [] = first ∧ [] = later := by simpa using parts
    cases raise <;> rfl
  | cons c cs ih =>
    obtain ⟨next, rest, tail⟩ := List.exists_cons_of_ne_nil (List.splitOn_ne_nil '_' cs)
    by_cases underscore : c = '_'
    · subst underscore
      rw [splitOn_underscore, tail] at parts
      obtain ⟨rfl, rfl⟩ := List.cons.inj parts
      rw [camelFrom_underscore, ih tail true]
      cases raise <;> simp [raised]
    · rw [splitOn_other underscore, tail, List.modifyHead_cons] at parts
      obtain ⟨rfl, rfl⟩ := List.cons.inj parts
      rw [camelFrom, if_neg underscore, ih tail false]
      cases raise <;> simp [raised]

private theorem camelFrom_eq (cs : List Char) : camelFrom false false cs = camel (segments cs) := by
  induction cs with
  | nil => simp [segments_nil, camel]
  | cons c cs ih =>
    by_cases underscore : c = '_'
    · subst underscore
      rw [camelFrom_underscore, segments_underscore, ih]
    · obtain ⟨first, later, tail⟩ := List.exists_cons_of_ne_nil (List.splitOn_ne_nil '_' cs)
      have parts : segments (c :: cs) = (c :: first) :: later.filter (· ≠ []) := by
        rw [segments, splitOn_other underscore, tail, List.modifyHead_cons,
          List.filter_cons_of_pos (by simp)]
      rw [camelFrom, if_neg underscore, camelFrom_written tail, parts, camel,
        flatMap_raised_filter]
      rfl

private theorem toList_camelCase (identifier : String) :
    (camelCase identifier).toList = camel (segments identifier.toList) := by
  rw [camelCase, String.toList_ofList, camelFrom_eq]

private theorem camelCase_congr {one other : String}
    (same : segments one.toList = segments other.toList) : camelCase one = camelCase other := by
  rw [← String.toList_inj, toList_camelCase, toList_camelCase, same]

/-! ### Underscores -/

private theorem underscore_notMem_camelFrom (written raise : Bool) (cs : List Char) :
    '_' ∉ camelFrom written raise cs := by
  induction cs generalizing written raise with
  | nil => exact List.not_mem_nil
  | cons c cs ih =>
    by_cases underscore : c = '_'
    · subst underscore
      rw [camelFrom_underscore]
      exact ih written written
    · rw [camelFrom, if_neg underscore, List.mem_append, not_or]
      refine ⟨?_, ih true false⟩
      cases raise with
      | false => simpa using Ne.symm underscore
      | true => exact Text.underscore_notMem_upperCase underscore

private theorem camelFrom_of_notMem (written : Bool) (free : '_' ∉ cs) :
    camelFrom written false cs = cs := by
  induction cs generalizing written with
  | nil => rfl
  | cons c cs ih =>
    obtain ⟨other, rest⟩ := not_or.mp (mt List.mem_cons.mpr free)
    rw [camelFrom, if_neg (Ne.symm other), ih true rest]
    rfl

private theorem toList_underscores_append (n : Nat) (s : String) :
    (underscores n ++ s).toList = List.replicate n '_' ++ s.toList := by
  simp [underscores]

private theorem segments_append_underscores (n : Nat) (s t : String) :
    segments (s ++ "_" ++ underscores n ++ t).toList = segments (s ++ "_" ++ t).toList := by
  have more : (s ++ "_" ++ underscores n ++ t).toList =
      s.toList ++ '_' :: (List.replicate n '_' ++ t.toList) := by
    simp [underscores]
  have one : (s ++ "_" ++ t).toList = s.toList ++ '_' :: t.toList := by simp
  rw [more, one, segments_append_underscore, segments_append_underscore,
    segments_replicate_append]

private theorem segments_append_only (n : Nat) (s : String) :
    segments (s ++ underscores n).toList = segments s.toList := by
  have whole : (s ++ underscores n).toList = s.toList ++ List.replicate n '_' := by
    simp [underscores]
  have none' : segments (List.replicate n '_') = [] := by
    rw [← List.append_nil (List.replicate n '_'), segments_replicate_append, segments_nil]
  rw [whole]
  cases n with
  | zero => rw [List.replicate_zero, List.append_nil]
  | succ n =>
    rw [List.replicate_succ, segments_underscore] at none'
    rw [List.replicate_succ, segments_append_underscore, none', List.append_nil]

/-- The property of an identifier is made of its segments, of which each but the first one has its
first character in upper case.  So it holds no underscore and is its own property, and underscores
in front, behind, or after another one do not change it. -/
theorem camelCase_joins_segments :
    (∀ identifier, (camelCase identifier).toList = camel (segments identifier.toList)) ∧
    (∀ identifier, '_' ∉ (camelCase identifier).toList) ∧
    (∀ identifier, camelCase (camelCase identifier) = camelCase identifier) ∧
    (∀ n identifier, camelCase (underscores n ++ identifier) = camelCase identifier) ∧
    (∀ n identifier, camelCase (identifier ++ underscores n) = camelCase identifier) ∧
    ∀ n left right, camelCase (left ++ "_" ++ underscores n ++ right) =
      camelCase (left ++ "_" ++ right) := by
  have free (identifier : String) : '_' ∉ (camelCase identifier).toList := by
    rw [camelCase, String.toList_ofList]
    exact underscore_notMem_camelFrom false false identifier.toList
  refine ⟨toList_camelCase, free, fun identifier => ?_, fun n identifier => ?_,
    fun n identifier => ?_, fun n left right => ?_⟩
  · rw [camelCase, camelFrom_of_notMem false (free identifier), String.ofList_toList]
  · apply camelCase_congr
    rw [toList_underscores_append, segments_replicate_append]
  · exact camelCase_congr (segments_append_only n identifier)
  · exact camelCase_congr (segments_append_underscores n left right)

example : camelCase "__maß_ßig__ab_" = "maßSSigAb" := by decide +kernel

end Naming

end RowStamp
