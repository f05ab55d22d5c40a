import RowStamp.Binding

/-!
Settings: the audit columns, the tables left alone, and the dialect; and how they are read from
named properties.
-/

set_option autoImplicit false
set_option relaxedAutoImplicit false

namespace RowStamp

structure AuditConfig where
  columns : AuditColumns
  ignored : IgnoreList
  dialect : Dialect

/-- The settings as texts, each of which may be absent. -/
structure RawConfig where
  createColumn : Option String
  updateColumn : Option String
  ignoreTables : Option String
  sqlDialect : Option String
  deriving DecidableEq, Repr

namespace RawConfig

def empty : RawConfig := ⟨none, none, none, none⟩

def keys : List String :=
  ["createDateColumnName", "updateDateColumnName", "ignoreTables", "sqlDialect"]

/-- The settings with one of them set; other names change nothing. -/
def set (raw : RawConfig) (key : String) (value : Option String) : RawConfig :=
  match key with
  | "createDateColumnName" => { raw with createColumn := value }
  | "updateDateColumnName" => { raw with updateColumn := value }
  | "ignoreTables" => { raw with ignoreTables := value }
  | "sqlDialect" => { raw with sqlDialect := value }
  | _ => raw

def ofProperties (properties : List (String × String)) : RawConfig :=
  properties.foldl (fun raw property => raw.set property.1 (some property.2)) empty

/-- A column's name without its outer blanks, unless it is absent or blank. -/
def columnOr (standard : String) (value : Option String) : String :=
  match value with
  | none => standard
  | some name => if (Text.trim name).isEmpty then standard else Text.trim name

def dialectOf (name : String) : Except Failure Dialect :=
  match Dialect.parse? name with
  | some dialect => .ok dialect
  | none => .error (.unknownDialect (Dialect.lowerName name))

/-- The dialect, the generic one where the name is absent or blank. -/
def dialect (raw : RawConfig) : Except Failure Dialect :=
  match raw.sqlDialect with
  | none => .ok .generic
  | some name => if (Text.trim name).isEmpty then .ok .generic else dialectOf name

def ignored (raw : RawConfig) : Except Failure IgnoreList :=
  match raw.ignoreTables with
  | none => .ok .empty
  | some text => (IgnoreList.parse text).mapError .ignorePattern

def columns (raw : RawConfig) : AuditColumns :=
  ⟨columnOr AuditColumns.standard.create raw.createColumn,
    columnOr AuditColumns.standard.update raw.updateColumn⟩

def resolve (raw : RawConfig) : Except Failure AuditConfig := do
  let ignored ← raw.ignored
  let dialect ← raw.dialect
  return ⟨raw.columns, ignored, dialect⟩

end RawConfig

namespace AuditConfig

def standard : AuditConfig := ⟨.standard, .empty, .generic⟩

def ofProperties (properties : List (String × String)) : Except Failure AuditConfig :=
  (RawConfig.ofProperties properties).resolve

def isExempt (config : AuditConfig) (table : String) : Bool := config.ignored.matchesName table

end AuditConfig

end RowStamp
