-- The settings of a run.
import SqlDump.Rule.User

namespace SqlDump

def defaultTablePrefix : List Char := "temp_".toList

def defaultProgressInterval : Nat := 10000

/-- The prefix of new tables, the number of lines between two progress reports, and the rules of the
user. Without a file of settings the built-in rules run alone. -/
structure Settings where
  tablePrefix : List Char := defaultTablePrefix
  progressInterval : Nat := defaultProgressInterval
  rules : List SourcedRule := []
deriving DecidableEq, Repr

end SqlDump
