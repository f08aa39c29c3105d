-- The steps that every line goes through: tables get a prefix, column types their new names, and what
-- the new database does not know is taken out.
import SqlDump.Rule.Step

namespace SqlDump

/-- A pattern whose text is known to have a meaning. -/
def knownPattern (source : String)
    (h : (Regex.Pattern.compile? source.toList).isSome = true := by decide) : Regex.Pattern :=
  (Regex.Pattern.compile? source.toList).get h

/-- A substitution of all matches of a known pattern. -/
def knownSubstitution (name source : String) (replacement : List Char)
    (h : (Regex.Pattern.compile? source.toList).isSome = true := by decide) : Substitution :=
  ⟨name, knownPattern source h, replacement, true⟩

/-- Column types. Widths are dropped except for `varchar`. -/
def typeMappings : List Substitution := [
  knownSubstitution "int" "\\bint\\(\\d+\\)" "INTEGER".toList,
  knownSubstitution "tinyint" "\\btinyint\\(\\d+\\)" "SMALLINT".toList,
  knownSubstitution "smallint" "\\bsmallint\\(\\d+\\)" "SMALLINT".toList,
  knownSubstitution "mediumint" "\\bmediumint\\(\\d+\\)" "INTEGER".toList,
  knownSubstitution "bigint" "\\bbigint\\(\\d+\\)" "BIGINT".toList,
  knownSubstitution "float" "\\bfloat\\(\\d+,\\d+\\)" "REAL".toList,
  knownSubstitution "double" "\\bdouble\\(\\d+,\\d+\\)" "DOUBLE PRECISION".toList,
  knownSubstitution "decimal" "\\bdecimal\\(\\d+,\\d+\\)" "DECIMAL".toList,
  knownSubstitution "varchar" "\\bvarchar\\((\\d+)\\)" "VARCHAR($\x7b1\x7d)".toList,
  knownSubstitution "text" "\\btext\\b" "TEXT".toList,
  knownSubstitution "longtext" "\\blongtext\\b" "TEXT".toList,
  knownSubstitution "mediumtext" "\\bmediumtext\\b" "TEXT".toList,
  knownSubstitution "tinytext" "\\btinytext\\b" "TEXT".toList,
  knownSubstitution "datetime" "\\bdatetime\\b" "TIMESTAMP".toList,
  knownSubstitution "timestamp" "\\btimestamp\\b" "TIMESTAMP".toList]

/-- A text written so that it stands for itself in a template. -/
def escapeTemplate (text : List Char) : List Char :=
  text.flatMap fun c => if c = '$' then ['$', '$'] else [c]

/-- A template with the table prefix before the first group. -/
def prefixed (before : String) (tablePrefix : List Char) (after : String) : List Char :=
  before.toList ++ escapeTemplate tablePrefix ++ "$\x7b1\x7d".toList ++ after.toList

def dropTable (tablePrefix : List Char) : Substitution :=
  knownSubstitution "drop-table" "DROP TABLE IF EXISTS `([^`]+)`;"
    (prefixed "DROP TABLE IF EXISTS " tablePrefix " CASCADE;")

def createTable (tablePrefix : List Char) : Substitution :=
  knownSubstitution "create-table" "CREATE TABLE `([^`]+)`"
    (prefixed "CREATE TEMPORARY TABLE " tablePrefix "")

def tableOptions : Substitution :=
  knownSubstitution "table-options" "\\) ENGINE=\\w+ DEFAULT CHARSET=\\w+;" ");".toList

def autoIncrement : Substitution :=
  knownSubstitution "auto-increment" "\\bAUTO_INCREMENT\\b" []

def unsigned : Substitution :=
  knownSubstitution "unsigned" "\\bUNSIGNED\\b" []

def backquotes : Substitution :=
  knownSubstitution "backticks" "`([^`]+)`" "$\x7b1\x7d".toList

def insertTable (tablePrefix : List Char) : Substitution :=
  knownSubstitution "insert-table" "INSERT INTO ([a-zA-Z_]+)"
    (prefixed "INSERT INTO " tablePrefix "")

/-- The steps in order. The table's name is changed by three of them: where a table is dropped and
created before the types are mapped, where rows are inserted after the quotes are gone. -/
def builtinSteps (tablePrefix : List Char) : List EditStep :=
  [{ substitutions := [dropTable tablePrefix] },
    { guard := some (.contains "CREATE TABLE".toList),
      substitutions := [createTable tablePrefix, tableOptions] }] ++
  typeMappings.map (fun s => { substitutions := [s] }) ++
  [{ substitutions := [autoIncrement] },
    { substitutions := [unsigned] },
    { substitutions := [backquotes] },
    { guard := some (.startsWith "INSERT INTO ".toList),
      substitutions := [insertTable tablePrefix] }]

end SqlDump
