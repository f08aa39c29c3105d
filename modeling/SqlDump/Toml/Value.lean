-- TOML values.

namespace SqlDump.Toml

abbrev Key := List Char

/-- A value. Numbers and points in time are kept as they are written, an integer without its
underscores and without the mark of its base. -/
inductive Value
  | string (text : List Char)
  | integer (base : Nat) (text : List Char)
  | boolean (b : Bool)
  | float (text : List Char)
  | moment (text : List Char)
  | array (members : List Value)
  | table (rows : List (Key × Value))

/-- Blanks within a line. -/
def isBlank (c : Char) : Bool := c == ' ' || c == '\t'

end SqlDump.Toml
