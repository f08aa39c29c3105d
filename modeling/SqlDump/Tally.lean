-- The counts of a conversion.

namespace SqlDump

/-- How many lines were read, how many of them were written with another text, and how many were
dropped. -/
structure Tally where
  read : Nat := 0
  changed : Nat := 0
  elided : Nat := 0
deriving DecidableEq, Repr

end SqlDump
