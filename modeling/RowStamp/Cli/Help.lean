import RowStamp.Cli.Arguments

/-!
The pages of the help.
-/

set_option autoImplicit false
set_option relaxedAutoImplicit false

namespace RowStamp.Cli

namespace HelpPage

def rootLines : List String := [
  "Stamp audit timestamp columns into INSERT and UPDATE statements",
  "",
  "Usage: audit-stamp [OPTIONS] <COMMAND>",
  "",
  "Commands:",
  "  rewrite  Run the prepare and bind phases over one statement and print the result",
  "  help     Print this message or the help of the given subcommand(s)",
  "",
  "Options:",
  "      --create-column <CREATE_COLUMN>  Creation timestamp column " ++
    "(\x60createDateColumnName\x60) [default: gmt_create]",
  "      --update-column <UPDATE_COLUMN>  Modification timestamp column " ++
    "(\x60updateDateColumnName\x60) [default: gmt_modified]",
  "      --ignore-tables <IGNORE_TABLES>  Comma-separated regular expressions of exempt " ++
    "tables (\x60ignoreTables\x60) [default: \"\"]",
  "      --dialect <DIALECT>              SQL dialect used to parse statements " ++
    "(\x60sqlDialect\x60) [default: generic]",
  "  -v, --verbose                        Log the original and stamped SQL to stderr",
  "  -h, --help                           Print help"]

def stampingLines : List String := [
  "Run the prepare and bind phases over one statement and print the result",
  "",
  "Usage: audit-stamp rewrite [OPTIONS] <SQL>",
  "",
  "Arguments:",
  "  <SQL>  SQL statement text. Use '-' to read from stdin",
  "",
  "Options:",
  "      --create-column <CREATE_COLUMN>",
  "          Creation timestamp column (\x60createDateColumnName\x60) [default: gmt_create]",
  "      --kind <KIND>",
  "          Statement kind as the mapper declares it [default: insert] [possible " ++
    "values: insert, update, other]",
  "      --bind <PROPERTY>",
  "          Bound parameter property, in placeholder order. Repeatable; use " ++
    "\x60property:JDBC_TYPE\x60 to attach a type hint",
  "      --update-column <UPDATE_COLUMN>",
  "          Modification timestamp column (\x60updateDateColumnName\x60) [default: " ++
    "gmt_modified]",
  "      --ignore-tables <IGNORE_TABLES>",
  "          Comma-separated regular expressions of exempt tables (\x60ignoreTables\x60) " ++
    "[default: \"\"]",
  "      --timestamp <yyyy-MM-dd HH:mm:ss.SSS>",
  "          Pin the injected timestamp instead of reading the clock",
  "      --dialect <DIALECT>",
  "          SQL dialect used to parse statements (\x60sqlDialect\x60) [default: generic]",
  "      --format <FORMAT>",
  "          Output format for the stamped statement [default: table] [possible values: " ++
    "table, json]",
  "  -v, --verbose",
  "          Log the original and stamped SQL to stderr",
  "  -h, --help",
  "          Print help"]

def helpLines : List String := [
  "Print this message or the help of the given subcommand(s)",
  "",
  "Usage: audit-stamp help [COMMAND]...",
  "",
  "Arguments:",
  "  [COMMAND]...  Print help for the subcommand(s)"]

def lines : HelpPage → List String
  | root => rootLines
  | stamping => stampingLines
  | help => helpLines

def text (page : HelpPage) : String := String.join (page.lines.map (· ++ "\n"))

end HelpPage

end RowStamp.Cli
