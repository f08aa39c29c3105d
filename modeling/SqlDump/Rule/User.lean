-- Rules that users add. Each does one thing: it drops the lines that match a pattern, or it changes
-- lines by a substitution.
import SqlDump.Rule.Skip
import SqlDump.Rule.Substitution

namespace SqlDump

/-- A rule as it is written. -/
structure Rule where
  skipPattern : Option (List Char) := none
  substitution : Option (List Char) := none
deriving DecidableEq, Repr

/-- Exactly one of the two actions must be given. -/
def Rule.check (r : Rule) : Except Fault Unit :=
  match r.skipPattern, r.substitution with
  | some _, some _ => .error .twoActions
  | none, none => .error .noAction
  | _, _ => .ok ()

theorem Rule.check_eq_ok {r : Rule} :
    r.check = .ok () ↔ r.skipPattern.isSome = !r.substitution.isSome := by
  rcases r with ⟨_ | pattern, _ | expr⟩ <;> simp [Rule.check]

/-- A rule and the file it was read from. -/
structure SourcedRule where
  rule : Rule
  source : String
deriving DecidableEq, Repr

/-- A rule ready to run. -/
inductive UserRule
  | skip (r : SkipRule)
  | substitute (s : Substitution)

/-- Compiles a rule. A skip rule is named by its pattern and its file. -/
def SourcedRule.compile (r : SourcedRule) : Except Fault UserRule :=
  match r.rule.skipPattern, r.rule.substitution with
  | some _, some _ => .error .twoActions
  | none, none => .error .noAction
  | some pattern, none => do
    let p ← Substitution.compilePattern pattern
    .ok (.skip ⟨String.ofList pattern ++ " (" ++ r.source ++ ")", .pattern p⟩)
  | none, some expr => do
    let s ← Substitution.read expr
    .ok (.substitute s)

/-- Compiles rules in order; the first that has no meaning is the fault. -/
def compileRules : List SourcedRule → Except Fault (List UserRule)
  | [] => .ok []
  | r :: rest => do
    let first ← r.compile
    let others ← compileRules rest
    .ok (first :: others)

end SqlDump
