import Mathlib.Data.List.Forall2
import RowStamp.Proofs.Ignore.WholeName
import RowStamp.Proofs.Text.Trimming

/-!
Lists of patterns as they are written and as they are searched.  The entries that are not blank
are compiled one by one, and the first that does not compile is the fault; a table is matched where
some entry matches it, and the first such entry is the one that is reported.
-/

set_option autoImplicit false
set_option relaxedAutoImplicit false

namespace RowStamp.IgnoreList

/-- The entries that count: the texts without their outer blanks, blank ones left out. -/
def entries (texts : List String) : List String := (texts.map Text.trim).filter (· ≠ "")

def split (text : String) : List String := (text.toList.splitOn ',').map String.ofList

def First (p : String → Prop) (sources : List String) (source : String) : Prop :=
  ∃ before after, sources = before ++ source :: after ∧ (∀ other ∈ before, ¬p other) ∧ p source

def Valid (source : String) : Prop := ∃ pattern, IgnorePattern.compile source = .ok pattern

/-- A fault is that of the first entry that does not compile. -/
def FirstFault (sources : List String) (fault : IgnoreFault) : Prop :=
  First (¬Valid ·) sources fault.source ∧ IgnorePattern.compile fault.source = .error fault.fault

/-- An entry compiles to an expression that matches a table name. -/
def Hits (table source : String) : Prop :=
  ∃ pattern, IgnorePattern.compile source = .ok pattern ∧ pattern.matchesName table = true

/-- Entries and the patterns that they compile to, one for each. -/
def Compiles (sources : List String) (patterns : List IgnorePattern) : Prop :=
  List.Forall₂ (fun source pattern => IgnorePattern.compile source = .ok pattern) sources patterns

variable {texts sources : List String} {patterns : List IgnorePattern} {list : IgnoreList}
  {fault : IgnoreFault} {text source table : String} {p : String → Prop}

/-! ### Entries -/

private theorem entries_cons_of_blank (blank : Text.trim text = "") (texts : List String) :
    entries (text :: texts) = entries texts := by
  simp [entries, blank]

private theorem entries_cons (notBlank : Text.trim text ≠ "") (texts : List String) :
    entries (text :: texts) = Text.trim text :: entries texts := by
  simp [entries, notBlank]

private theorem mem_entries :
    source ∈ entries texts ↔ source ≠ "" ∧ ∃ text ∈ texts, Text.trim text = source := by
  simp [entries, and_comm]

theorem trimmed_of_mem_entries (member : source ∈ entries texts) : Text.Trimmed source := by
  obtain ⟨notBlank, text, -, rfl⟩ := mem_entries.mp member
  exact Text.trimmed_trim notBlank

theorem entries_of_trimmed (trimmed : ∀ source ∈ sources, Text.Trimmed source) :
    entries sources = sources := by
  have kept : sources.map Text.trim = sources := by
    have same : sources.map Text.trim = sources.map id :=
      List.map_congr_left fun source member => (trimmed source member).trim_eq
    rw [same, List.map_id]
  rw [entries, kept, List.filter_eq_self]
  intro source member
  simpa using (trimmed source member).ne_empty

private theorem notMem_of_mem_splitOn {c : Char} {cs piece : List Char}
    (member : piece ∈ cs.splitOn c) :
    c ∉ piece := by
  induction cs generalizing piece with
  | nil =>
    obtain rfl : piece = [] := by simpa using member
    exact List.not_mem_nil
  | cons d cs ih =>
    obtain ⟨first, rest, pieces⟩ := List.exists_cons_of_ne_nil (List.splitOn_ne_nil c cs)
    rw [List.splitOn_cons_eq_if_modifyHead] at member
    split at member
    · rcases List.mem_cons.mp member with rfl | later
      · exact List.not_mem_nil
      · exact ih later
    · rename_i apart
      rw [pieces, List.modifyHead_cons] at member
      rcases List.mem_cons.mp member with rfl | later
      · have inside : c ∉ first := ih (pieces ▸ List.mem_cons_self ..)
        have other : c ≠ d := by
          rintro rfl
          simp at apart
        simp [other, inside]
      · exact ih (pieces ▸ List.mem_cons_of_mem _ later)

theorem comma_notMem_of_mem_entries (member : source ∈ entries (split text)) :
    ',' ∉ source.toList := by
  obtain ⟨-, piece, between, rfl⟩ := mem_entries.mp member
  obtain ⟨cs, inside, rfl⟩ := List.mem_map.mp between
  intro comma
  rw [Text.toList_trim, String.toList_ofList] at comma
  exact notMem_of_mem_splitOn inside (Text.trimChars_subset cs comma)

private theorem split_intercalate (free : ∀ text ∈ texts, ',' ∉ text.toList) (some' : texts ≠ []) :
    split (",".intercalate texts) = texts := by
  have pieces : ([','].intercalate (texts.map String.toList)).splitOn ',' =
      texts.map String.toList := by
    apply List.splitOn_intercalate
    · intro cs member
      obtain ⟨text, inside, rfl⟩ := List.mem_map.mp member
      exact free text inside
    · simpa using some'
  have comma : ",".toList = [','] := rfl
  rw [split, String.toList_intercalate, comma, pieces, List.map_map]
  have back : String.ofList ∘ String.toList = id := funext fun text => String.ofList_toList
  rw [back, List.map_id]

theorem parse_intercalate (free : ∀ text ∈ texts, ',' ∉ text.toList) :
    parse (",".intercalate texts) = ofPatterns texts := by
  by_cases none' : texts = []
  · subst none'
    rfl
  · change ofPatterns (split (",".intercalate texts)) = ofPatterns texts
    rw [split_intercalate free none']

/-! ### The first entry -/

private theorem not_first_nil : ¬First p [] source := by
  rintro ⟨before, after, same, -⟩
  simp at same

private theorem first_cons {head : String} :
    First p (head :: sources) source ↔
      p head ∧ source = head ∨ ¬p head ∧ First p sources source := by
  constructor
  · rintro ⟨before, after, same, without, holds⟩
    cases before with
    | nil =>
      obtain ⟨rfl, -⟩ := List.cons.inj same
      exact .inl ⟨holds, rfl⟩
    | cons first before =>
      obtain ⟨rfl, rest⟩ := List.cons.inj same
      obtain ⟨other, later⟩ := List.forall_mem_cons.mp without
      exact .inr ⟨other, before, after, rest, later, holds⟩
  · rintro (⟨holds, rfl⟩ | ⟨other, before, after, rfl, without, holds⟩)
    · exact ⟨[], sources, rfl, by simp, holds⟩
    · exact ⟨head :: before, after, rfl, List.forall_mem_cons.mpr ⟨other, without⟩, holds⟩

/-! ### Compiling -/

theorem ofPatterns_eq_ok_iff :
    ofPatterns texts = .ok list ↔ Compiles (entries texts) list.patterns := by
  induction texts generalizing list with
  | nil =>
    obtain ⟨patterns⟩ := list
    have none' : ofPatterns [] = .ok ⟨[]⟩ := rfl
    simp [none', entries, Compiles, eq_comm]
  | cons text texts ih =>
    by_cases blank : Text.trim text = ""
    · rw [ofPatterns_cons_of_blank blank, entries_cons_of_blank blank]
      exact ih
    · obtain ⟨patterns⟩ := list
      rw [ofPatterns_cons_iff blank, entries_cons blank, Compiles, List.forall₂_cons_left_iff]
      constructor
      · rintro ⟨pattern, others, compiled, rest, same⟩
        exact ⟨pattern, others.patterns, compiled, ih.mp rest, congrArg IgnoreList.patterns same⟩
      · rintro ⟨pattern, others, compiled, rest, same⟩
        exact ⟨pattern, ⟨others⟩, compiled, ih.mpr rest, congrArg IgnoreList.mk same⟩

private theorem ofPatterns_cons_error_iff (notBlank : Text.trim text ≠ "") :
    ofPatterns (text :: texts) = .error fault ↔
      IgnorePattern.compile (Text.trim text) = .error fault.fault ∧ fault.source = Text.trim text ∨
      Valid (Text.trim text) ∧ ofPatterns texts = .error fault := by
  obtain ⟨source, cause⟩ := fault
  rw [ofPatterns_cons, if_neg (mt String.isEmpty_iff.mp notBlank), Valid]
  cases IgnorePattern.compile (Text.trim text) with
  | error found => simp [throw, throwThe, MonadExceptOf.throw, and_comm, eq_comm]
  | ok pattern =>
    cases ofPatterns texts with
    | error found => simp [bind, Except.bind]
    | ok others => simp [bind, Except.bind, pure, Except.pure]

theorem ofPatterns_eq_error_iff :
    ofPatterns texts = .error fault ↔ FirstFault (entries texts) fault := by
  induction texts with
  | nil =>
    have none' : ofPatterns [] = .ok ⟨[]⟩ := rfl
    simp [none', entries, FirstFault, not_first_nil]
  | cons text texts ih =>
    by_cases blank : Text.trim text = ""
    · rw [ofPatterns_cons_of_blank blank, entries_cons_of_blank blank]
      exact ih
    · rw [ofPatterns_cons_error_iff blank, entries_cons blank, FirstFault, first_cons, ih]
      constructor
      · rintro (⟨failed, same⟩ | ⟨valid, later, found⟩)
        · have invalid : ¬Valid (Text.trim text) := by
            rintro ⟨pattern, compiled⟩
            rw [failed] at compiled
            cases compiled
          exact ⟨.inl ⟨invalid, same⟩, same ▸ failed⟩
        · exact ⟨.inr ⟨not_not_intro valid, later⟩, found⟩
      · rintro ⟨⟨-, same⟩ | ⟨valid, later⟩, found⟩
        · exact .inl ⟨same ▸ found, same⟩
        · exact .inr ⟨not_not.mp valid, later, found⟩

private theorem exists_compiles_iff :
    (∃ patterns, Compiles sources patterns) ↔ ∀ source ∈ sources, Valid source := by
  induction sources with
  | nil => simp [Compiles]
  | cons source sources ih =>
    simp only [Compiles] at ih ⊢
    simp only [List.forall_mem_cons, ← ih, List.forall₂_cons_left_iff]
    constructor
    · rintro ⟨-, pattern, others, compiled, rest, -⟩
      exact ⟨⟨pattern, compiled⟩, others, rest⟩
    · rintro ⟨⟨pattern, compiled⟩, others, rest⟩
      exact ⟨pattern :: others, pattern, others, compiled, rest, rfl⟩

private theorem exists_ofPatterns_iff :
    (∃ list, ofPatterns texts = .ok list) ↔ ∀ source ∈ entries texts, Valid source := by
  simp only [ofPatterns_eq_ok_iff, ← exists_compiles_iff]
  constructor
  · rintro ⟨list, compiles⟩
    exact ⟨list.patterns, compiles⟩
  · rintro ⟨patterns, compiles⟩
    exact ⟨⟨patterns⟩, compiles⟩

/-! ### Searching -/

theorem Compiles.sources_eq (compiles : Compiles sources patterns) :
    patterns.map IgnorePattern.source = sources := by
  induction compiles with
  | nil => rfl
  | cons compiled _ ih =>
    rw [List.map_cons, ih, (IgnorePattern.compile_eq_ok_iff.mp compiled).1]

private theorem hits_iff {pattern : IgnorePattern}
    (compiled : IgnorePattern.compile source = .ok pattern) :
    Hits table source ↔ pattern.matchesName table = true := by
  simp [Hits, compiled]

private theorem Compiles.any_iff (compiles : Compiles sources patterns) :
    patterns.any (·.matchesName table) = true ↔ ∃ source ∈ sources, Hits table source := by
  induction compiles with
  | nil => simp
  | cons compiled _ ih => simp [hits_iff compiled, ih]

private theorem Compiles.find?_iff (compiles : Compiles sources patterns) :
    (patterns.find? (·.matchesName table)).map IgnorePattern.source = some source ↔
      First (Hits table) sources source := by
  induction compiles with
  | nil => simp [not_first_nil]
  | @cons head pattern rest others compiled _ ih =>
    have named : pattern.source = head := (IgnorePattern.compile_eq_ok_iff.mp compiled).1
    rw [first_cons, hits_iff compiled, ← ih, List.find?_cons]
    cases matched : pattern.matchesName table with
    | true => simp [named, eq_comm]
    | false => simp

/-- A list is searched like its entries in order.  It matches where some entry does, and the first
such entry is the one that is reported; texts with the same entries, in any order and however
often, with or without blank ones, are accepted alike and match alike.  Where no text holds a comma,
reading them joined by commas is the same, and the fault is that of the first entry that does not
compile. -/
theorem searched_in_order (texts : List String) :
    (∀ list, ofPatterns texts = .ok list →
      list.sources = entries texts ∧
      (∀ table,
        (list.matchesName table = true ↔ ∃ source ∈ entries texts, Hits table source) ∧
        (∀ source, list.firstMatch? table = some source ↔
          First (Hits table) (entries texts) source) ∧
        (list.firstMatch? table = none ↔ list.matchesName table = false)) ∧
      ∀ others, (∀ source, source ∈ entries others ↔ source ∈ entries texts) →
        ∃ other, ofPatterns others = .ok other ∧
          ∀ table, other.matchesName table = list.matchesName table) ∧
    ((∀ text ∈ texts, ',' ∉ text.toList) → parse (",".intercalate texts) = ofPatterns texts) ∧
    ∀ fault, ofPatterns texts = .error fault ↔ FirstFault (entries texts) fault := by
  refine ⟨fun list built => ?_, parse_intercalate, fun fault => ofPatterns_eq_error_iff⟩
  have compiles := ofPatterns_eq_ok_iff.mp built
  refine ⟨compiles.sources_eq,
    fun table => ⟨compiles.any_iff, fun source => compiles.find?_iff, ?_⟩, fun others same => ?_⟩
  · rw [firstMatch?_eq_none_iff]
  · have valid : ∀ source ∈ entries others, Valid source := by
      intro source member
      exact exists_ofPatterns_iff.mp ⟨list, built⟩ source ((same source).mp member)
    obtain ⟨other, accepted⟩ := exists_ofPatterns_iff.mpr valid
    refine ⟨other, accepted, fun table => ?_⟩
    rw [Bool.eq_iff_iff]
    have found : other.patterns.any (·.matchesName table) = true ↔
        ∃ source ∈ entries others, Hits table source :=
      (ofPatterns_eq_ok_iff.mp accepted).any_iff
    rw [matchesName, matchesName, found, compiles.any_iff]
    simp only [same]

theorem searched_in_order_systems :
    ∃ list other,
      ofPatterns ["^sys_.*", " tmp_\\d+ ", "", "^sys_config"] = .ok list ∧
      ofPatterns ["^sys_config", "tmp_\\d+", "  ", "^sys_.*", "^sys_config"] = .ok other ∧
      list.sources = ["^sys_.*", "tmp_\\d+", "^sys_config"] ∧
      list.firstMatch? "sys_config" = some "^sys_.*" ∧
      First (Hits "sys_config") ["^sys_.*", "tmp_\\d+", "^sys_config"] "^sys_.*" ∧
      (∀ table, other.matchesName table = list.matchesName table) ∧
      parse "^sys_.*, tmp_\\d+ ,,^sys_config" = .ok list := by
  have known : entries ["^sys_.*", " tmp_\\d+ ", "", "^sys_config"] =
      ["^sys_.*", "tmp_\\d+", "^sys_config"] := by decide
  have shuffled : entries ["^sys_config", "tmp_\\d+", "  ", "^sys_.*", "^sys_config"] =
      ["^sys_config", "tmp_\\d+", "^sys_.*", "^sys_config"] := by decide
  have alike (source : String) :
      source ∈ entries ["^sys_config", "tmp_\\d+", "  ", "^sys_.*", "^sys_config"] ↔
        source ∈ entries ["^sys_.*", " tmp_\\d+ ", "", "^sys_config"] := by
    rw [known, shuffled]
    simp only [List.mem_cons, List.not_mem_nil, or_false]
    grind
  have found : (ofPatterns ["^sys_.*", " tmp_\\d+ ", "", "^sys_config"]).toOption.bind
      (·.firstMatch? "sys_config") = some "^sys_.*" := by decide +kernel
  obtain ⟨list, accepted, first⟩ := Option.bind_eq_some_iff.mp found
  have built := Regex.toOption_eq_some_iff.mp accepted
  obtain ⟨searched, joined, -⟩ := searched_in_order ["^sys_.*", " tmp_\\d+ ", "", "^sys_config"]
  obtain ⟨sources, search, matching⟩ := searched list built
  obtain ⟨other, also, same⟩ := matching _ alike
  rw [known] at sources search
  have text : ",".intercalate ["^sys_.*", " tmp_\\d+ ", "", "^sys_config"] =
      "^sys_.*, tmp_\\d+ ,,^sys_config" := by decide
  have read := joined (by decide)
  rw [text, built] at read
  have earliest := ((search "sys_config").2.1 "^sys_.*").mp first
  exact ⟨list, other, built, also, sources, first, earliest, same, read⟩

end RowStamp.IgnoreList
