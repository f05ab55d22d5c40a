import RowStamp.Config
import RowStamp.Text.Escaped

/-!
Settings as they are shown in records: every field with its name, texts between quotes.
-/

set_option autoImplicit false
set_option relaxedAutoImplicit false

namespace RowStamp

def shownRecord (name : String) (fields : List (String × String)) : String :=
  name ++ " \x7b " ++ ", ".intercalate (fields.map fun field => field.1 ++ ": " ++ field.2) ++ " \x7d"

def shownList (values : List String) : String := "[" ++ ", ".intercalate values ++ "]"

def AuditColumns.shown (columns : AuditColumns) : String :=
  shownRecord "AuditColumns" [
    ("create", Text.Escaped.wrap columns.create),
    ("update", Text.Escaped.wrap columns.update)]

def IgnorePattern.shown (pattern : IgnorePattern) : String :=
  shownRecord "IgnorePattern" [
    ("source", Text.Escaped.wrap pattern.source),
    ("compiled", "Regex(" ++ Text.Escaped.wrap (IgnorePattern.anchored pattern.source) ++ ")")]

def IgnoreList.shown (list : IgnoreList) : String :=
  shownRecord "IgnoreTables" [("patterns", shownList (list.patterns.map IgnorePattern.shown))]

namespace AuditConfig

def shown (config : AuditConfig) : String :=
  shownRecord "AuditConfig" [
    ("columns", config.columns.shown),
    ("ignore_tables", config.ignored.shown),
    ("dialect", config.dialect.label)]

def shownInterceptor (config : AuditConfig) : String :=
  "AuditInterceptor \x7b config: " ++ config.shown ++ ", .. \x7d"

end AuditConfig

end RowStamp
