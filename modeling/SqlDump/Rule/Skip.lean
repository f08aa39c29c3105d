-- Skip rules: lines that mean nothing to the new database are dropped, by the first rule that holds.
import SqlDump.Rule.Matcher

namespace SqlDump

/-- A rule that drops the lines its condition holds of. -/
structure SkipRule where
  name : String
  matcher : LineMatcher

/-- The first rule that holds of a line. -/
def findSkipRule (rules : List SkipRule) (line : List Char) : Option SkipRule :=
  rules.find? fun r => r.matcher.holds line

/-- Settings of a session that only the old database knows. -/
def sessionSettings : List (String × String) := [
  ("user-variable", "SET @"),
  ("connection-names", "SET NAMES"),
  ("client-charset", "SET character_set_client"),
  ("foreign-key-checks", "SET FOREIGN_KEY_CHECKS"),
  ("unique-checks", "SET UNIQUE_CHECKS"),
  ("sql-mode", "SET SQL_MODE"),
  ("time-zone", "SET TIME_ZONE"),
  ("sql-notes", "SET SQL_NOTES")]

/-- The rules that always apply, in order. The rule for locks also catches their release. -/
def builtinSkipRules : List SkipRule :=
  [⟨"versioned-comment", .startsWith "/*!".toList⟩,
    ⟨"line-comment", .startsWith "--".toList⟩] ++
  sessionSettings.map (fun (name, text) => ⟨name, .contains text.toList⟩) ++
  [⟨"create-database",
      .all [.contains "CREATE DATABASE".toList, .contains "IF NOT EXISTS".toList]⟩,
    ⟨"use-database", .startsWith "USE ".toList⟩,
    ⟨"lock-tables", .contains "LOCK TABLES".toList⟩,
    ⟨"set-client-charset",
      .all [.startsWith "SET ".toList, .contains "character_set_client".toList]⟩]

end SqlDump
