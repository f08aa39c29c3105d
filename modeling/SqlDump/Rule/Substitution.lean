-- Substitutions: a pattern, what replaces its matches, and whether all of them are replaced. Users
-- write them as an s, a delimiter, and parts between delimiters.
import SqlDump.Fault
import SqlDump.Regex.Pattern

namespace SqlDump

/-- The text after a change, and whether anything matched. -/
structure Applied where
  matched : Bool
  text : List Char
deriving DecidableEq, Repr

structure Substitution where
  name : String
  pattern : Regex.Pattern
  replacement : List Char
  everywhere : Bool

namespace Substitution

/-- Replaces all matches, or the first one only. -/
def apply (s : Substitution) (text : List Char) : Applied :=
  let cut := s.pattern.pieces text
  let ps := if s.everywhere then cut else Regex.firstHitOnly cut
  ⟨ps.any Regex.Piece.isHit, s.pattern.assemble (Regex.Template.read s.replacement) ps⟩

/-! ## Written substitutions -/

/-- Adds a character to the front of the first part. -/
def consPart (c : Char) : List (List Char) → List (List Char)
  | [] => [[c]]
  | part :: parts => (c :: part) :: parts

/-- The parts of a text between delimiters. A backslash directly before a delimiter is dropped and the
delimiter belongs to the part. -/
def splitParts (delimiter : Char) : List Char → List (List Char)
  | [] => [[]]
  | [c] => if c ≠ '\\' ∧ c = delimiter then [[], []] else [[c]]
  | c :: e :: more =>
    if c = '\\' then
      if e = delimiter then consPart e (splitParts delimiter more)
      else consPart '\\' (splitParts delimiter (e :: more))
    else if c = delimiter then [] :: splitParts delimiter (e :: more)
    else consPart c (splitParts delimiter (e :: more))

/-- Compiles a pattern, with the fault that names it where it has no meaning. -/
def compilePattern (source : List Char) : Except Fault Regex.Pattern :=
  match Regex.Pattern.compile? source with
  | some p => .ok p
  | none => .error (.invalidPattern source)

/-- Reads a written substitution: pattern, replacement and flags. The flag g asks for all matches;
other flags and further parts have no effect. -/
def read (expr : List Char) : Except Fault Substitution :=
  match expr with
  | 's' :: delimiter :: rest =>
    match splitParts delimiter rest with
    | pattern :: replacement :: more => do
      let p ← compilePattern pattern
      .ok ⟨String.ofList expr, p, replacement, (more.headD []).contains 'g'⟩
    | _ => .error (.invalidSubstitution expr .noReplacement)
  | ['s'] => .error (.invalidSubstitution expr .noDelimiter)
  | _ => .error (.invalidSubstitution expr .noMark)

end Substitution

end SqlDump
