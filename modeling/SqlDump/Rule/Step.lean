-- Steps: substitutions that share a condition, which is looked at once, before the first of them.
import SqlDump.Rule.Matcher
import SqlDump.Rule.Substitution

namespace SqlDump

structure EditStep where
  guard : Option LineMatcher := none
  substitutions : List Substitution

namespace EditStep

/-- Whether the step is to run on a text. -/
def appliesTo (s : EditStep) (text : List Char) : Bool :=
  match s.guard with
  | none => true
  | some m => m.holds text

/-- Runs substitutions one after another, each on what the one before it left. -/
def applyAll (subs : List Substitution) (start : Applied) : Applied :=
  subs.foldl
    (fun state s =>
      let next := s.apply state.text
      ⟨state.matched || next.matched, next.text⟩)
    start

/-- Runs the step. It has matched when one of its substitutions has. -/
def apply (s : EditStep) (text : List Char) : Applied :=
  if s.appliesTo text then applyAll s.substitutions ⟨false, text⟩ else ⟨false, text⟩

end EditStep

end SqlDump
