-- The whole pipeline for one line: skip rules on the line as read, the steps one after another, then
-- the rules of the user on what the steps left.
import SqlDump.Event
import SqlDump.Rule.Builtin
import SqlDump.Settings

namespace SqlDump

/-- What becomes of a line. -/
inductive Outcome
  | elided (cause : Elision)
  | emitted (text : List Char)
deriving DecidableEq, Repr

structure RuleSet where
  skipRules : List SkipRule
  steps : List EditStep
  userRules : List UserRule

namespace RuleSet

/-- The built-in rules alone. -/
def builtin (tablePrefix : List Char) : RuleSet :=
  ⟨builtinSkipRules, builtinSteps tablePrefix, []⟩

/-- The built-in rules and those of the settings. -/
def ofSettings (s : Settings) : Except Fault RuleSet := do
  let userRules ← compileRules s.rules
  .ok { builtin s.tablePrefix with userRules }

/-- The text that the steps leave, each working on what the one before it left. -/
def runSteps (steps : List EditStep) (line : List Char) : List Char :=
  steps.foldl (fun text s => (s.apply text).text) line

/-- Runs the rules of the user. A skip rule looks at the text as changed so far. -/
def runUserRules : List UserRule → List Char → Outcome
  | [], text => .emitted text
  | .skip r :: rest, text =>
    if r.matcher.holds text then .elided (.user r.name) else runUserRules rest text
  | .substitute s :: rest, text => runUserRules rest (s.apply text).text

/-- What becomes of a line, given without its terminator. -/
def convertLine (rules : RuleSet) (line : List Char) : Outcome :=
  match findSkipRule rules.skipRules line with
  | some r => .elided (.builtin r.name)
  | none => runUserRules rules.userRules (runSteps rules.steps line)

end RuleSet

/-- What is logged about a line: nothing unless it was dropped. -/
def Outcome.events (line : List Char) : Outcome → List Event
  | elided cause => [.elided cause line]
  | emitted _ => []

end SqlDump
