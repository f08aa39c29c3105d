-- Programs for the matching machine. An expression becomes a list of instructions that falls through
-- from its first to behind its last one; where there is a choice the first branch is preferred.
import SqlDump.Regex.Expr

namespace SqlDump.Regex

inductive Instr
  | char (s : CharSet)
  | look (l : Look)
  | save (slot : Nat)
  | split (first second : Nat)
  | jump (target : Nat)
  | accept
deriving Inhabited

/-- A choice between going on and leaving, in the order that greed asks for. -/
def Instr.choose (greedy : Bool) (again leave : Nat) : Instr :=
  if greedy then split again leave else split leave again

namespace Expr

/-- How many instructions the expression takes. -/
def codeLength : Expr → Nat
  | empty => 0
  | char _ => 1
  | look _ => 1
  | group _ a => a.codeLength + 2
  | cat a b => a.codeLength + b.codeLength
  | alt a b => a.codeLength + b.codeLength + 2
  | loop least most _ a =>
    match most with
    | none =>
      if least = 0 then a.codeLength + 2 else least * a.codeLength + 1
    | some most => least * a.codeLength + (most - least) * (a.codeLength + 1)

/-- The instructions of `count` copies in a row, from place `base` on. -/
def copies (size : Nat) (code : Nat → List Instr) : Nat → Nat → List Instr
  | 0, _ => []
  | count + 1, base => code base ++ copies size code count (base + size)

/-- The instructions of the expression from place `base` on.

A loop without end whose body takes characters goes back to the choice before the body. Where the
body may take none, the choice before the first round and the one behind each round are different
places, so that a round that takes nothing still counts as the first. -/
def code : Expr → Nat → List Instr
  | empty, _ => []
  | char s, _ => [.char s]
  | look l, _ => [.look l]
  | group i a, base => .save (2 * i) :: a.code (base + 1) ++ [.save (2 * i + 1)]
  | cat a b, base => a.code base ++ b.code (base + a.codeLength)
  | alt a b, base =>
    let second := base + 1 + a.codeLength + 1
    .split (base + 1) second :: a.code (base + 1) ++
      [.jump (second + b.codeLength)] ++ b.code second
  | loop least most greedy a, base =>
    let size := a.codeLength
    match most with
    | none =>
      if least = 0 then
        let leave := base + size + 2
        let back := if a.nullable then Instr.choose greedy (base + 1) leave else .jump base
        Instr.choose greedy (base + 1) leave :: a.code (base + 1) ++ [back]
      else
        let last := base + (least - 1) * size
        copies size a.code least base ++ [Instr.choose greedy last (last + size + 1)]
    | some most =>
      let leave := base + least * size + (most - least) * (size + 1)
      copies size a.code least base ++
        copies (size + 1) (fun b => Instr.choose greedy (b + 1) leave :: a.code (b + 1))
          (most - least) (base + least * size)

end Expr

/-- The instructions of a whole pattern and the number of slots for the ends of its groups. Group 0
is the whole match. -/
structure Program where
  code : Array Instr
  slots : Nat

def Program.ofExpr (e : Expr) (groups : Nat) : Program :=
  ⟨((Expr.group 0 e).code 0 ++ [Instr.accept]).toArray, 2 * (groups + 1)⟩

end SqlDump.Regex
