import Mathlib.Data.List.Forall2
import RowStamp.Proofs.Cli.Outcome
import RowStamp.Proofs.Text.Trimming

/-!
Bindings as they are written on the command line.  Main statement: entries are read as exactly the
mappings that they write, one for each and in order, whatever blanks stand around a property and
its type; and they are refused exactly where some property is blank.
-/

set_option autoImplicit false
set_option relaxedAutoImplicit false

namespace RowStamp.Cli

/-- A property that can be written: it is not blank, has no blanks around it and no colon. -/
structure PropertyName (property : String) : Prop where
  trimmed : Text.Trimmed property
  free : ':' ∉ property.toList

/-- An entry writes a mapping: a property, perhaps with a type behind a colon, and blanks around
both.  A type may hold colons; a blank one is none. -/
inductive Writes : String → ParameterMapping → Prop
  | bare {property entry : String} (name : PropertyName property)
      (around : Text.Padded property entry) : Writes entry ⟨property, none⟩
  | typed {property left type right : String} (name : PropertyName property)
      (around : Text.Padded property left) (trimmed : Text.Trimmed type)
      (beside : Text.Padded type right) : Writes (left ++ ":" ++ right) ⟨property, some type⟩
  | untyped {property left right : String} (name : PropertyName property)
      (around : Text.Padded property left) (blank : Text.Blank right) :
      Writes (left ++ ":" ++ right) ⟨property, none⟩

/-- Nothing but blanks stands in front of the first colon of an entry, or in all of it where it has
no colon. -/
def LacksProperty (entry : String) : Prop :=
  ∀ c ∈ entry.toList.takeWhile (· ≠ ':'), Text.isBlank c = true

variable {entry left right property : String} {mapping : ParameterMapping}
  {entries : List String} {mappings : List ParameterMapping}

/-! ### The parts of an entry -/

private theorem bindingParts_of_free (free : ':' ∉ entry.toList) :
    bindingParts entry = (entry.toList, none) := by
  have none' : entry.toList.dropWhile (· ≠ ':') = [] := by
    apply List.dropWhile_eq_nil_iff.mpr
    intro c member
    have other : c ≠ ':' := fun same => free (same ▸ member)
    simpa using other
  rw [bindingParts, none']

private theorem bindingParts_append (free : ':' ∉ left.toList) (right : String) :
    bindingParts (left ++ ":" ++ right) = (left.toList, some right.toList) := by
  have whole : (left ++ ":" ++ right).toList = left.toList ++ ':' :: right.toList := by simp
  have apart : ∀ c ∈ left.toList, decide (c ≠ ':') = true := by
    intro c member
    have other : c ≠ ':' := fun same => free (same ▸ member)
    simpa using other
  have after : (left.toList ++ ':' :: right.toList).dropWhile (· ≠ ':') = ':' :: right.toList := by
    rw [List.dropWhile_append_of_pos apart]
    exact List.dropWhile_cons_of_neg (by simp)
  have before : (left.toList ++ ':' :: right.toList).takeWhile (· ≠ ':') = left.toList := by
    rw [List.takeWhile_append_of_pos apart, List.takeWhile_cons_of_neg (by simp), List.append_nil]
  rw [bindingParts, whole, after, before]

private theorem free_or_append (entry : String) :
    ':' ∉ entry.toList ∨ ∃ left right, ':' ∉ left.toList ∧ entry = left ++ ":" ++ right := by
  have parts : entry.toList.takeWhile (· ≠ ':') ++ entry.toList.dropWhile (· ≠ ':') =
      entry.toList := List.takeWhile_append_dropWhile
  have before : ':' ∉ entry.toList.takeWhile (· ≠ ':') := by
    intro member
    have other := List.mem_takeWhile_imp member
    simp at other
  cases after : entry.toList.dropWhile (· ≠ ':') with
  | nil =>
    rw [after, List.append_nil] at parts
    exact .inl (parts ▸ before)
  | cons c rest =>
    have colon := List.head?_dropWhile_not (fun c => decide (c ≠ ':')) entry.toList
    rw [after] at colon
    obtain rfl : c = ':' := by simpa using colon
    have whole : entry.toList = entry.toList.takeWhile (· ≠ ':') ++ ':' :: rest := by
      rw [← after]
      exact parts.symm
    refine .inr ⟨.ofList (entry.toList.takeWhile (· ≠ ':')), .ofList rest, ?_, ?_⟩
    · rwa [String.toList_ofList]
    · rw [← String.toList_inj, String.toList_append, String.toList_append, String.toList_ofList,
        String.toList_ofList, String.toList_ofList, List.append_assoc, List.singleton_append]
      exact whole

private theorem fst_bindingParts (entry : String) :
    (bindingParts entry).1 = entry.toList.takeWhile (· ≠ ':') := by
  have parts : entry.toList.takeWhile (· ≠ ':') ++ entry.toList.dropWhile (· ≠ ':') =
      entry.toList := List.takeWhile_append_dropWhile
  unfold bindingParts
  dsimp only
  split
  · rename_i none'
    rw [none', List.append_nil] at parts
    exact parts.symm
  · rfl

private theorem blankProperty_iff : BlankProperty entry ↔ LacksProperty entry := by
  rw [BlankProperty, fst_bindingParts, Text.trimChars_eq_nil_iff, LacksProperty]

/-! ### One entry -/

private theorem bindingType?_some (s : String) :
    bindingType? (some s.toList) = if Text.trim s = "" then none else some (Text.trim s) := by
  rw [bindingType?, Option.map_some, ← Text.toList_trim]
  cases trimmed : (Text.trim s).toList with
  | nil => rw [if_pos (String.toList_eq_nil_iff.mp trimmed)]
  | cons c cs =>
    have some' : Text.trim s ≠ "" := by
      intro none'
      rw [none'] at trimmed
      cases trimmed
    rw [if_neg some']
    show some (String.ofList (c :: cs)) = some (Text.trim s)
    rw [← trimmed, String.ofList_toList]

private theorem binding?_of_free (free : ':' ∉ entry.toList) :
    binding? entry = if Text.trim entry = "" then none else some ⟨Text.trim entry, none⟩ := by
  rw [binding?, bindingParts_of_free free]
  simp only [← Text.toList_trim, List.isEmpty_iff, String.toList_eq_nil_iff, String.ofList_toList]
  rfl

private theorem binding?_append (free : ':' ∉ left.toList) (right : String) :
    binding? (left ++ ":" ++ right) =
      if Text.trim left = "" then none
      else some ⟨Text.trim left,
        if Text.trim right = "" then none else some (Text.trim right)⟩ := by
  rw [binding?, bindingParts_append free]
  simp only [← Text.toList_trim, List.isEmpty_iff, String.toList_eq_nil_iff, String.ofList_toList,
    bindingType?_some]

private theorem PropertyName.free_of_padded (name : PropertyName property)
    (around : Text.Padded property entry) : ':' ∉ entry.toList := by
  obtain ⟨front, back, before, after, rfl⟩ := around
  have blank (s : String) (only : Text.Blank s) : ':' ∉ s.toList := by
    intro member
    exact absurd (only ':' member) (by decide)
  simp only [String.toList_append, List.mem_append, not_or]
  exact ⟨⟨blank front before, name.free⟩, blank back after⟩

private theorem propertyName_trim (free : ':' ∉ entry.toList) (notBlank : Text.trim entry ≠ "") :
    PropertyName (Text.trim entry) := by
  refine ⟨Text.trimmed_trim notBlank, ?_⟩
  rw [Text.toList_trim]
  exact fun member => free (Text.trimChars_subset entry.toList member)

private theorem Writes.binding? (writes : Writes entry mapping) :
    binding? entry = some mapping := by
  cases writes with
  | bare name around =>
    rw [binding?_of_free (name.free_of_padded around), name.trimmed.trim_of_padded around,
      if_neg name.trimmed.ne_empty]
  | typed name around trimmed beside =>
    rw [binding?_append (name.free_of_padded around), name.trimmed.trim_of_padded around,
      if_neg name.trimmed.ne_empty, trimmed.trim_of_padded beside, if_neg trimmed.ne_empty]
  | untyped name around blank =>
    rw [binding?_append (name.free_of_padded around), name.trimmed.trim_of_padded around,
      if_neg name.trimmed.ne_empty, if_pos (Text.trim_eq_empty_iff.mpr blank)]

private theorem writes_of_binding? (read : Cli.binding? entry = some mapping) :
    Writes entry mapping := by
  rcases free_or_append entry with free | ⟨left, right, free, rfl⟩
  · rw [binding?_of_free free, Option.ite_none_left_eq_some] at read
    obtain ⟨notBlank, same⟩ := read
    obtain rfl := Option.some.inj same
    exact .bare (propertyName_trim free notBlank) (Text.padded_trim entry)
  · rw [binding?_append free, Option.ite_none_left_eq_some] at read
    obtain ⟨notBlank, same⟩ := read
    obtain rfl := Option.some.inj same
    have name := propertyName_trim free notBlank
    by_cases blank : Text.trim right = ""
    · rw [if_pos blank]
      exact .untyped name (Text.padded_trim left) (Text.trim_eq_empty_iff.mp blank)
    · rw [if_neg blank]
      exact .typed name (Text.padded_trim left) (Text.trimmed_trim blank) (Text.padded_trim right)

private theorem binding?_eq_some_iff : Cli.binding? entry = some mapping ↔ Writes entry mapping :=
  ⟨writes_of_binding?, Writes.binding?⟩

/-! ### All entries -/

private theorem bindings?_eq_some_iff :
    bindings? entries = some mappings ↔ List.Forall₂ Writes entries mappings := by
  unfold bindings?
  induction entries generalizing mappings with
  | nil => simp [eq_comm]
  | cons entry entries ih =>
    simp only [List.mapM_cons, Option.bind_eq_bind, Option.bind_eq_some_iff, Option.pure_def,
      Option.some.injEq, binding?_eq_some_iff, ih, List.forall₂_cons_left_iff]
    constructor
    · rintro ⟨mapping, written, rest, others, rfl⟩
      exact ⟨mapping, rest, written, others, rfl⟩
    · rintro ⟨mapping, rest, written, others, rfl⟩
      exact ⟨mapping, written, rest, others, rfl⟩

private theorem bindings?_eq_none_iff_lacks :
    bindings? entries = none ↔ ∃ entry ∈ entries, LacksProperty entry := by
  simp only [bindings?_eq_none_iff, blankProperty_iff]

/-- Entries are read as mappings exactly where each of them writes the mapping at its place: its
property, and behind a colon its type, with any blanks around either.  They are refused as a whole,
and a command with them, exactly where some entry has only blanks before its first colon. -/
theorem entries_read_as_written :
    (∀ entries mappings, bindings? entries = some mappings ↔
      List.Forall₂ Writes entries mappings) ∧
    (∀ entries, bindings? entries = none ↔ ∃ entry ∈ entries, LacksProperty entry) ∧
    ∀ (command : Command) (fault : CommandFault), command.mappings = .error fault ↔
      fault = .emptyProperty ∧ ∃ entry ∈ command.entries, LacksProperty entry := by
  refine ⟨fun entries mappings => bindings?_eq_some_iff,
    fun entries => bindings?_eq_none_iff_lacks, fun command fault => ?_⟩
  rw [← bindings?_eq_none_iff_lacks, Command.mappings]
  cases bindings? command.entries with
  | none => simp [eq_comm]
  | some mappings => simp

example : bindings? ["name", " gmtCreate : TIMESTAMP(3) : x ", "id:"] =
    some [⟨"name", none⟩, ⟨"gmtCreate", some "TIMESTAMP(3) : x"⟩, ⟨"id", none⟩] := by
  decide +kernel

end RowStamp.Cli
