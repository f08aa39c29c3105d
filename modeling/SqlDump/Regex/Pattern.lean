-- Compiled patterns. A pattern cuts a text into pieces; everything else, whether it matches and what a
-- replacement gives, is read off the pieces.
import SqlDump.Regex.Parser
import SqlDump.Regex.Sequence
import SqlDump.Regex.Size
import SqlDump.Regex.Template

namespace SqlDump.Regex

/-- How the matches of a pattern are found. -/
inductive Matcher
  | sequence (items : List Item)
  | program (p : Program)

/-- A compiled pattern: the text it was read from, the number and the names of its groups, and how it
is matched. -/
structure Pattern where
  source : List Char
  groups : Nat
  names : List (List Char × Nat)
  matcher : Matcher

namespace Pattern

/-- Compiles a pattern that was read. -/
def ofParsed (source : List Char) (p : Parsed) : Pattern :=
  let matcher := match Sequence.ofExpr? p.expr p.groups with
    | some items => .sequence items
    | none => .program (Program.ofExpr p.expr p.groups)
  ⟨source, p.groups, p.names, matcher⟩

/-- Reads and compiles a pattern. It is refused where it is malformed or takes too much room. -/
def compile? (source : List Char) : Option Pattern :=
  ((parse? source).filter (·.expr.fits)).map (ofParsed source)

/-- The pieces of a text. -/
def pieces (p : Pattern) (text : List Char) : List Piece :=
  match p.matcher with
  | .sequence items => Sequence.pieces items text
  | .program code => cutAt p.groups 0 text (code.matchesIn text)

/-- Whether the pattern matches anywhere in a text. -/
def isMatch (p : Pattern) (text : List Char) : Bool := (p.pieces text).any Piece.isHit

/-- The pieces put together with each match replaced. -/
def assemble (p : Pattern) (t : Template) (ps : List Piece) : List Char :=
  ps.flatMap fun piece => match piece with
    | .kept c => [c]
    | .hit h => t.expand p.names h

end Pattern

end SqlDump.Regex
