import RowStamp.Proofs.Config.Routes

/-!
Settings that are read from their own values.  Names of columns and patterns are neither blank nor
padded when they are settings, and patterns hold no comma, so that nothing is trimmed, split, left
out or replaced by a standard value when they are read once more.
-/

set_option autoImplicit false
set_option relaxedAutoImplicit false

namespace RowStamp

open Text (Trimmed)

variable {properties : List (String × String)} {raw : RawConfig} {config : AuditConfig}

/-- Properties restate settings: the last value of each name is the one that is set, the patterns
are joined by commas, and the dialect is called by any of its names. -/
structure AuditConfig.RestatedBy (config : AuditConfig) (properties : List (String × String)) :
    Prop where
  create : lastValue? properties "createDateColumnName" = some config.columns.create
  update : lastValue? properties "updateDateColumnName" = some config.columns.update
  ignored : lastValue? properties "ignoreTables" = some (",".intercalate config.ignored.sources)
  dialect : ∃ name, lastValue? properties "sqlDialect" = some name ∧
    Dialect.parse? name = some config.dialect

namespace RawConfig

/-! ### Names of columns -/

private theorem trimmed_columnOr {standard : String} (trimmed : Trimmed standard)
    (value : Option String) :
    Trimmed (columnOr standard value) := by
  unfold columnOr
  split
  · exact trimmed
  · split
    · exact trimmed
    · rename_i notBlank
      exact Text.trimmed_trim (mt String.isEmpty_iff.mpr notBlank)

private theorem columnOr_of_trimmed {name : String} (trimmed : Trimmed name) (standard : String) :
    columnOr standard (some name) = name := by
  have notBlank : ¬(Text.trim name).isEmpty = true := by
    rw [trimmed.trim_eq, String.isEmpty_iff]
    exact trimmed.ne_empty
  rw [columnOr, if_neg notBlank, trimmed.trim_eq]

private theorem trimmed_standard :
    Trimmed AuditColumns.standard.create ∧ Trimmed AuditColumns.standard.update := by
  refine ⟨⟨?_, ?_⟩, ⟨?_, ?_⟩⟩
  all_goals exact ⟨_, rfl, by decide⟩

/-! ### Patterns -/

private theorem exists_text_of_ignored {list : IgnoreList} (read : raw.ignored = .ok list) :
    ∃ text, IgnoreList.Compiles (IgnoreList.entries (IgnoreList.split text)) list.patterns := by
  rw [ignored] at read
  cases given : raw.ignoreTables with
  | none =>
    rw [given] at read
    obtain rfl := Except.ok.inj read
    have none' : IgnoreList.ofPatterns (IgnoreList.split "") = .ok .empty := rfl
    exact ⟨"", IgnoreList.ofPatterns_eq_ok_iff.mp none'⟩
  | some text =>
    rw [given] at read
    refine ⟨text, IgnoreList.ofPatterns_eq_ok_iff.mp ?_⟩
    change (IgnoreList.ofPatterns (IgnoreList.split text)).mapError Failure.ignorePattern =
      .ok list at read
    cases found : IgnoreList.ofPatterns (IgnoreList.split text) with
    | error fault =>
      rw [found] at read
      cases read
    | ok other =>
      rw [found] at read
      rw [Except.ok.inj read]

private theorem plain_of_ignored {list : IgnoreList} (read : raw.ignored = .ok list) :
    ∀ source ∈ list.sources, Trimmed source ∧ ',' ∉ source.toList := by
  obtain ⟨text, compiles⟩ := exists_text_of_ignored read
  have same : list.sources = IgnoreList.entries (IgnoreList.split text) := compiles.sources_eq
  rw [same]
  intro source member
  exact ⟨IgnoreList.trimmed_of_mem_entries member, IgnoreList.comma_notMem_of_mem_entries member⟩

private theorem parse_sources {list : IgnoreList} (read : raw.ignored = .ok list) :
    IgnoreList.parse (",".intercalate list.sources) = .ok list := by
  have plain := plain_of_ignored read
  obtain ⟨text, compiles⟩ := exists_text_of_ignored read
  have same : list.sources = IgnoreList.entries (IgnoreList.split text) := compiles.sources_eq
  have kept : IgnoreList.entries list.sources = list.sources :=
    IgnoreList.entries_of_trimmed fun source member => (plain source member).1
  rw [IgnoreList.parse_intercalate fun source member => (plain source member).2,
    IgnoreList.ofPatterns_eq_ok_iff, kept, same]
  exact compiles

/-! ### Dialects -/

private theorem trim_ne_empty_of_parse? {name : String} {dialect : Dialect}
    (known : Dialect.parse? name = some dialect) : Text.trim name ≠ "" := by
  intro blank
  have none' : Text.trimChars name.toList = [] := by
    rw [← Text.toList_trim, blank, String.toList_empty]
  have lower : Dialect.lowerName name = "" := by
    rw [Dialect.lowerName, none', List.map_nil, String.ofList_nil]
  rw [Dialect.parse?, lower] at known
  cases known

private theorem dialect_of_parse? {name : String} {dialect : Dialect}
    (known : Dialect.parse? name = some dialect) (named : raw.sqlDialect = some name) :
    raw.dialect = .ok dialect := by
  have notBlank : ¬(Text.trim name).isEmpty = true :=
    mt String.isEmpty_iff.mp (trim_ne_empty_of_parse? known)
  simp only [RawConfig.dialect, named, if_neg notBlank, dialectOf, known]

end RawConfig

namespace AuditConfig

/-- Settings that are restated are read as they were: the same columns, the same patterns in the
same order, and the same dialect.  No column is blank or padded, and no pattern is blank, padded or
holds a comma. -/
theorem restated_settings_same (read : ofProperties properties = .ok config) :
    (∀ again, config.RestatedBy again → ofProperties again = .ok config) ∧
    Trimmed config.columns.create ∧ Trimmed config.columns.update ∧
    ∀ source ∈ config.ignored.sources, Trimmed source ∧ ',' ∉ source.toList := by
  obtain ⟨columns, ignored, -⟩ := RawConfig.resolve_eq_ok_iff.mp read
  have create : Trimmed config.columns.create := by
    rw [← columns]
    exact RawConfig.trimmed_columnOr RawConfig.trimmed_standard.1 _
  have update : Trimmed config.columns.update := by
    rw [← columns]
    exact RawConfig.trimmed_columnOr RawConfig.trimmed_standard.2 _
  refine ⟨fun again restated => ?_, create, update, RawConfig.plain_of_ignored ignored⟩
  obtain ⟨name, named, known⟩ := restated.dialect
  rw [ofProperties, RawConfig.ofProperties_eq, RawConfig.resolve_eq_ok_iff]
  refine ⟨?_, ?_, RawConfig.dialect_of_parse? known named⟩
  · simp only [RawConfig.columns, RawConfig.ofValues, restated.create, restated.update,
      RawConfig.columnOr_of_trimmed create, RawConfig.columnOr_of_trimmed update]
  · simp only [RawConfig.ignored, RawConfig.ofValues, restated.ignored,
      RawConfig.parse_sources ignored]
    rfl

/-- A blank column is replaced by the standard one, blanks and empty entries are dropped, and the
dialect is called by another of its names. -/
theorem restated_settings_same_blank :
    ∃ config,
      ofProperties [("createDateColumnName", "  "), ("updateDateColumnName", "\u3000changed_at\t"),
        ("ignoreTables", " ^sys_.* ,, tmp_\\d+"), ("sqlDialect", " MariaDB ")] = .ok config ∧
      config.columns = ⟨"gmt_create", "changed_at"⟩ ∧
      config.ignored.sources = ["^sys_.*", "tmp_\\d+"] ∧ config.dialect = .mySql ∧
      ofProperties [("createDateColumnName", "gmt_create"), ("updateDateColumnName", "changed_at"),
        ("ignoreTables", "^sys_.*,tmp_\\d+"), ("sqlDialect", "mysql")] = .ok config := by
  have found : (ofProperties [("createDateColumnName", "  "),
      ("updateDateColumnName", "\u3000changed_at\t"), ("ignoreTables", " ^sys_.* ,, tmp_\\d+"),
      ("sqlDialect", " MariaDB ")]).toOption.any (fun config =>
        config.columns = ⟨"gmt_create", "changed_at"⟩ ∧
        config.ignored.sources = ["^sys_.*", "tmp_\\d+"] ∧ config.dialect = .mySql) = true := by
    decide +kernel
  obtain ⟨config, accepted, known⟩ := Option.any_eq_true .. |>.mp found
  obtain ⟨columns, sources, dialect⟩ := of_decide_eq_true known
  have read := Regex.toOption_eq_some_iff.mp accepted
  obtain ⟨again, -⟩ := restated_settings_same read
  refine ⟨config, read, columns, sources, dialect, again _ ⟨?_, ?_, ?_, "mysql", rfl, ?_⟩⟩
  · rw [columns]
    rfl
  · rw [columns]
    rfl
  · rw [sources]
    decide
  · rw [dialect]
    decide

end AuditConfig

end RowStamp
