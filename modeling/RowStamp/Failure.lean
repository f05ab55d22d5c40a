import RowStamp.Ignore
import RowStamp.Sql.Grammar.Fault

/-!
Why an operation fails: each cause with its code, its title and its description.
-/

set_option autoImplicit false
set_option relaxedAutoImplicit false

namespace RowStamp

/-- The codes of failures. -/
inductive FailureCode where
  | parseFailure
  | unsupportedInsertShape
  | internalInvariant
  | invalidConfiguration
  deriving DecidableEq, Repr

namespace FailureCode

def all : List FailureCode :=
  [parseFailure, unsupportedInsertShape, internalInvariant, invalidConfiguration]

def text : FailureCode → String
  | parseFailure => "AUDIT_STAMP_PARSE_FAILURE"
  | unsupportedInsertShape => "AUDIT_STAMP_UNSUPPORTED_INSERT_SHAPE"
  | internalInvariant => "AUDIT_STAMP_INTERNAL_INVARIANT"
  | invalidConfiguration => "AUDIT_STAMP_INVALID_CONFIGURATION"

def title : FailureCode → String
  | parseFailure => "SQL could not be parsed"
  | unsupportedInsertShape => "Unsupported INSERT shape"
  | internalInvariant => "Internal invariant violated"
  | invalidConfiguration => "Invalid configuration"

end FailureCode

/-- Why an operation fails.  `reported` is a failure of the host, in the host's own words. -/
inductive Failure where
  | parse (sql : String) (fault : Sql.ParseFault)
  | insertShape (table : String)
  | noColumnList (table : String)
  | rowLength (table : String) (row values columns : Nat)
  | tupleValue (column : String) (arity : Nat) (value : String)
  | kindMismatch (expected found : String)
  | notStatementHandler
  | notParameterHandler
  | missingProperty (path : String)
  | ignorePattern (fault : IgnoreFault)
  | unknownDialect (name : String)
  | reported (code title description : String)
  deriving DecidableEq, Repr

namespace Failure

def code? : Failure → Option FailureCode
  | parse _ _ => some .parseFailure
  | insertShape _ => some .unsupportedInsertShape
  | ignorePattern _ => some .invalidConfiguration
  | unknownDialect _ => some .invalidConfiguration
  | reported _ _ _ => none
  | _ => some .internalInvariant

def code (failure : Failure) : String :=
  match failure with
  | reported code _ _ => code
  | other => (other.code?.map FailureCode.text).getD ""

def title (failure : Failure) : String :=
  match failure with
  | reported _ title _ => title
  | other => (other.code?.map FailureCode.title).getD ""

def quoted (name : String) : String := "\x60" ++ name ++ "\x60"

def description : Failure → String
  | parse sql fault => fault.message ++ " (sql: " ++ sql ++ ")"
  | insertShape table =>
    "INSERT into " ++ quoted table ++ " must use a VALUES list; " ++
      "INSERT ... SELECT and DEFAULT VALUES are not supported"
  | noColumnList table =>
    "INSERT into " ++ quoted table ++ " has no column list; audit columns cannot be positioned"
  | rowLength table row values columns =>
    "INSERT into " ++ quoted table ++ " row " ++ toString row ++ " has " ++ toString values ++
      " values for " ++ toString columns ++ " columns"
  | tupleValue column arity value =>
    quoted column ++ " is assigned through a " ++ toString arity ++ "-column tuple whose value " ++
      quoted value ++ " is not a matching tuple"
  | kindMismatch expected found =>
    "host reported a " ++ expected ++ " statement but the SQL parsed as " ++ found
  | notStatementHandler => "prepare invocation target is not a statement handler"
  | notParameterHandler => "setParameters invocation target is not a parameter handler"
  | missingProperty path =>
    "host handler has no readable property " ++ quoted path ++ " of the expected type"
  | ignorePattern fault =>
    quoted "ignoreTables" ++ ": pattern '" ++ fault.source ++
      "' is not a valid regular expression: " ++ fault.fault.message
  | unknownDialect name =>
    quoted "sqlDialect" ++ ": unknown dialect '" ++ name ++
      "'; expected one of generic, mysql, postgres, sqlite, mssql"
  | reported _ _ description => description

def message (failure : Failure) : String := failure.title ++ ": " ++ failure.description

def hasCode (failure : Failure) (code : FailureCode) : Bool := failure.code == code.text

end Failure

end RowStamp
