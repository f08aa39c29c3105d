-- Assertions: conditions on the two characters beside a place in a text. They take no characters.
import SqlDump.Unicode.Word

namespace SqlDump.Regex

/-- What a word assertion asks of the two sides of a place. -/
inductive WordEdge
  | boundary
  | notBoundary
  | start
  | stop
  | startHalf
  | stopHalf
deriving DecidableEq, Repr

/-- A condition on a place. A word assertion counts characters below 128 only when it is ASCII. -/
inductive Look
  | textStart
  | textEnd
  | lineStart
  | lineEnd
  | crlfLineStart
  | crlfLineEnd
  | word (edge : WordEdge) (asciiOnly : Bool)
deriving DecidableEq, Repr

/-- Whether there is a character at a side, and it is a word character. -/
def isWordSide (asciiOnly : Bool) : Option Char → Bool
  | none => false
  | some c => if asciiOnly then c.isAlphanum || c == '_' else Unicode.isWord c

def WordEdge.holds : WordEdge → Bool → Bool → Bool
  | boundary, before, after => before != after
  | notBoundary, before, after => before == after
  | start, before, after => !before && after
  | stop, before, after => before && !after
  | startHalf, before, _ => !before
  | stopHalf, _, after => !after

/-- Whether the condition holds between the two characters; `none` is an end of the text. -/
def Look.holds (l : Look) (before after : Option Char) : Bool :=
  match l with
  | textStart => before.isNone
  | textEnd => after.isNone
  | lineStart => before.isNone || before == some '\n'
  | lineEnd => after.isNone || after == some '\n'
  | crlfLineStart =>
    before.isNone || before == some '\n' || (before == some '\r' && after != some '\n')
  | crlfLineEnd =>
    after.isNone || after == some '\r' || (after == some '\n' && before != some '\r')
  | word edge asciiOnly => edge.holds (isWordSide asciiOnly before) (isWordSide asciiOnly after)

end SqlDump.Regex
