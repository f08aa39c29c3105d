-- Regular expressions: what a pattern means once its flags are resolved.
import SqlDump.Regex.CharSet
import SqlDump.Regex.Look

namespace SqlDump.Regex

/-- An expression. `loop` repeats its body from `least` to `most` times, without end where `most`
is absent, and prefers more rounds when it is greedy. -/
inductive Expr
  | empty
  | char (s : CharSet)
  | look (l : Look)
  | group (index : Nat) (body : Expr)
  | cat (a b : Expr)
  | alt (a b : Expr)
  | loop (least : Nat) (most : Option Nat) (greedy : Bool) (body : Expr)
deriving Inhabited

namespace Expr

/-- Whether the expression can match without taking a character, assertions aside. -/
def nullable : Expr → Bool
  | empty => true
  | char _ => false
  | look _ => true
  | group _ a => a.nullable
  | cat a b => a.nullable && b.nullable
  | alt a b => a.nullable || b.nullable
  | loop least _ _ a => least == 0 || a.nullable

/-- Whether the expression can match nothing but the empty text. -/
def onlyEmpty : Expr → Bool
  | empty => true
  | char _ => false
  | look _ => true
  | group _ a => a.onlyEmpty
  | cat a b => a.onlyEmpty && b.onlyEmpty
  | alt a b => a.onlyEmpty && b.onlyEmpty
  | loop _ most _ a => most == some 0 || a.onlyEmpty

/-- The concatenation of a list. -/
def ofList : List Expr → Expr
  | [] => empty
  | [a] => a
  | a :: rest => cat a (ofList rest)

/-- The expression as one branch of a choice. A branch that is a choice itself is kept apart from the
branches around it. -/
def asBranch : Expr → Expr
  | alt a b => cat (alt a b) empty
  | e => e

/-- The choice from a list, earlier ones first. -/
def choice : List Expr → Expr
  | [] => empty
  | [a] => a
  | a :: rest => alt a (choice rest)

/-- A repetition in its plainest form: a body that takes no characters runs at most once, no round
at all is the empty expression, and exactly one round is the body. -/
def repeated (least : Nat) (most : Option Nat) (greedy : Bool) (body : Expr) : Expr :=
  let (least, most) :=
    if body.onlyEmpty then (min least 1, some (match most with | some n => min n 1 | none => 1))
    else (least, most)
  if most = some 0 then empty
  else if least = 1 ∧ most = some 1 then body
  else loop least most greedy body

end Expr

end SqlDump.Regex
