-- Conditions on the text of one line.
import SqlDump.Regex.Pattern

namespace SqlDump

/-- Whether `needle` stands anywhere in a text. -/
def containsText (needle : List Char) : List Char → Bool
  | [] => needle.isEmpty
  | c :: rest => needle.isPrefixOf (c :: rest) || containsText needle rest

/-- A condition on a line: how it begins, what it contains, whether it matches a pattern, or several
conditions at once. -/
inductive LineMatcher
  | startsWith (text : List Char)
  | contains (text : List Char)
  | all (inner : List LineMatcher)
  | pattern (p : Regex.Pattern)

mutual

/-- Whether the condition holds of a line. -/
def LineMatcher.holds (line : List Char) : LineMatcher → Bool
  | .startsWith text => text.isPrefixOf line
  | .contains text => containsText text line
  | .all inner => LineMatcher.allHold line inner
  | .pattern p => p.isMatch line

def LineMatcher.allHold (line : List Char) : List LineMatcher → Bool
  | [] => true
  | m :: rest => m.holds line && LineMatcher.allHold line rest

end

end SqlDump
