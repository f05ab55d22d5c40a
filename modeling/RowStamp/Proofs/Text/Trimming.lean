import Mathlib.Data.List.DropRight
import RowStamp.Text.Blank

/-!
Texts without their outer blanks.  Trimming leaves nothing of a blank text, and of any other text
one that starts and ends with characters that are no blanks; such a text is not changed again.
-/

set_option autoImplicit false
set_option relaxedAutoImplicit false

namespace RowStamp.Text

/-- A text that is neither blank nor padded: it starts and ends with characters that are no
blanks. -/
structure Trimmed (s : String) : Prop where
  first : ∃ c ∈ s.toList.head?, isBlank c = false
  last : ∃ c ∈ s.toList.getLast?, isBlank c = false

def Blank (s : String) : Prop := ∀ c ∈ s.toList, isBlank c = true

/-- A text with blanks around it, if any. -/
def Padded (s padded : String) : Prop :=
  ∃ front back, Blank front ∧ Blank back ∧ padded = front ++ s ++ back

variable {s padded : String} {cs : List Char}

private theorem trimChars_eq (cs : List Char) :
    trimChars cs = (cs.dropWhile isBlank).rdropWhile isBlank := rfl

theorem trimChars_subset (cs : List Char) : trimChars cs ⊆ cs := by
  have front : cs.dropWhile isBlank ⊆ cs := List.dropWhile_subset isBlank
  have back : trimChars cs <+: cs.dropWhile isBlank := List.rdropWhile_prefix isBlank _
  exact List.Subset.trans back.subset front

private theorem head?_trimChars {c : Char} (head : c ∈ (trimChars cs).head?) :
    isBlank c = false := by
  rw [trimChars_eq] at head
  have start : (cs.dropWhile isBlank).head? = some c := by
    obtain ⟨rest, same⟩ := List.rdropWhile_prefix isBlank (cs.dropWhile isBlank)
    rw [← same, List.head?_append, Option.mem_def.mp head, Option.some_or]
  have known := List.head?_dropWhile_not isBlank cs
  rw [start] at known
  simpa using known

private theorem getLast?_trimChars {c : Char} (last : c ∈ (trimChars cs).getLast?) :
    isBlank c = false := by
  rw [trimChars_eq] at last
  have some' : (cs.dropWhile isBlank).rdropWhile isBlank ≠ [] := by
    intro none'
    rw [none'] at last
    simp at last
  have known := List.rdropWhile_last_not isBlank (cs.dropWhile isBlank) some'
  rw [List.getLast?_eq_some_getLast some', Option.mem_some_iff] at last
  rw [last] at known
  simpa using known

private theorem trimChars_of_ends (first : ∀ c ∈ cs.head?, isBlank c = false)
    (last : ∀ c ∈ cs.getLast?, isBlank c = false) : trimChars cs = cs := by
  have front : cs.dropWhile isBlank = cs := by
    cases cs with
    | nil => rfl
    | cons c cs =>
      have kept : isBlank c = false := first c rfl
      exact List.dropWhile_cons_of_neg (by simp [kept])
  rw [trimChars_eq, front]
  apply List.rdropWhile_eq_self_iff.mpr
  intro some'
  have kept := last (cs.getLast some') (List.getLast?_eq_some_getLast some')
  simp [kept]

theorem toList_trim (s : String) : (trim s).toList = trimChars s.toList := String.toList_ofList

theorem trimmed_trim (notBlank : trim s ≠ "") : Trimmed (trim s) := by
  have some' : trimChars s.toList ≠ [] := by
    intro none'
    apply notBlank
    rw [trim, none', String.ofList_nil]
  have first := List.head?_eq_some_head some'
  have last := List.getLast?_eq_some_getLast some'
  constructor
  · rw [toList_trim]
    exact ⟨_, first, head?_trimChars first⟩
  · rw [toList_trim]
    exact ⟨_, last, getLast?_trimChars last⟩

theorem Trimmed.ne_empty (trimmed : Trimmed s) : s ≠ "" := by
  rintro rfl
  obtain ⟨c, member, -⟩ := trimmed.first
  simp at member

theorem Trimmed.trim_eq (trimmed : Trimmed s) : trim s = s := by
  obtain ⟨⟨a, front, first⟩, ⟨b, back, last⟩⟩ := trimmed
  have same : trimChars s.toList = s.toList := by
    apply trimChars_of_ends
    · intro c member
      rw [Option.mem_unique member front]
      exact first
    · intro c member
      rw [Option.mem_unique member back]
      exact last
  rw [trim, same, String.ofList_toList]

/-! ### Blanks around a text -/

private theorem trimChars_blank_append {front : List Char} (blank : ∀ c ∈ front, isBlank c = true)
    (cs : List Char) : trimChars (front ++ cs) = trimChars cs := by
  rw [trimChars_eq, trimChars_eq, List.dropWhile_append_of_pos blank]

private theorem trimChars_append_blank {back : List Char} (blank : ∀ c ∈ back, isBlank c = true)
    (cs : List Char) : trimChars (cs ++ back) = trimChars cs := by
  have dropped (ds : List Char) : (ds ++ back).rdropWhile isBlank = ds.rdropWhile isBlank := by
    rw [List.rdropWhile, List.reverse_append, List.dropWhile_append_of_pos]
    · rfl
    · intro c member
      exact blank c (List.mem_reverse.mp member)
  rw [trimChars_eq, trimChars_eq, List.dropWhile_append]
  split
  · rename_i none'
    have gone : back.dropWhile isBlank = [] := List.dropWhile_eq_nil_iff.mpr blank
    rw [gone, List.isEmpty_iff.mp none']
  · exact dropped _

theorem trimChars_eq_nil_iff : trimChars cs = [] ↔ ∀ c ∈ cs, isBlank c = true := by
  rw [trimChars_eq, List.rdropWhile_eq_nil_iff, ← List.dropWhile_eq_nil_iff,
    List.dropWhile_idempotent, List.dropWhile_eq_nil_iff]

theorem trim_eq_empty_iff : trim s = "" ↔ Blank s := by
  rw [← String.toList_inj, toList_trim]
  exact trimChars_eq_nil_iff

theorem Trimmed.trim_of_padded (trimmed : Trimmed s) (around : Padded s padded) :
    trim padded = s := by
  obtain ⟨front, back, left, right, rfl⟩ := around
  have whole : (front ++ s ++ back).toList = front.toList ++ (s.toList ++ back.toList) := by simp
  have same : trim (front ++ s ++ back) = trim s := by
    rw [trim, whole, trimChars_blank_append left, trimChars_append_blank right, trim]
  rw [same, trimmed.trim_eq]

theorem padded_trim (s : String) : Padded (trim s) s := by
  have front : s.toList = s.toList.takeWhile isBlank ++ s.toList.dropWhile isBlank :=
    List.takeWhile_append_dropWhile.symm
  have back : (s.toList.dropWhile isBlank).rdropWhile isBlank ++
      (s.toList.dropWhile isBlank).rtakeWhile isBlank = s.toList.dropWhile isBlank :=
    List.rdropWhile_append_rtakeWhile
  refine ⟨.ofList (s.toList.takeWhile isBlank),
    .ofList ((s.toList.dropWhile isBlank).rtakeWhile isBlank), ?_, ?_, ?_⟩
  · intro c member
    rw [String.toList_ofList] at member
    exact List.mem_takeWhile_imp member
  · intro c member
    rw [String.toList_ofList] at member
    exact List.mem_rtakeWhile_imp member
  · rw [← String.toList_inj, String.toList_append, String.toList_append, String.toList_ofList,
      String.toList_ofList, toList_trim, trimChars_eq, List.append_assoc, back, ← front]

end RowStamp.Text
