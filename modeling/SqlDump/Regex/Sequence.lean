-- Patterns without choices: single characters, assertions, and runs as long as can be. Such a pattern
-- matches at a place in at most one way, so it is matched by walking along the text.
import SqlDump.Regex.Piece

namespace SqlDump.Regex

/-- A member of such a pattern. A run takes all characters of its set that follow, at least one. -/
inductive Item
  | char (s : CharSet)
  | run (s : CharSet) (captured : Bool)
  | look (l : Look)

namespace Item

/-- Whether the item takes characters. -/
def takes : Item → Bool
  | look _ => false
  | _ => true

def captures : Item → Bool
  | run _ captured => captured
  | _ => false

end Item

/-- The items of an expression, where it is made of items only. -/
def Expr.items? : Expr → Option (List Item)
  | .empty => some []
  | .char s => some [.char s]
  | .look l => some [.look l]
  | .group _ (.loop 1 none true (.char s)) => some [.run s true]
  | .loop 1 none true (.char s) => some [.run s false]
  | .cat a b => do
    let xs ← a.items?
    let ys ← b.items?
    some (xs ++ ys)
  | _ => none

namespace Sequence

/-- Whether every run is the last item or stands before a character that cannot belong to it. Giving
back a part of a run then never helps. -/
def settled : List Item → Bool
  | [] => true
  | [_] => true
  | .run s _ :: .char (.single c) :: rest => !s.mem c && settled (.char (.single c) :: rest)
  | .run _ _ :: _ => false
  | _ :: rest => settled rest

/-- The items of a pattern with `groups` groups, where walking along the text finds its matches. -/
def ofExpr? (e : Expr) (groups : Nat) : Option (List Item) :=
  match e.items? with
  | some items =>
    if settled items && items.any Item.takes && (items.filter Item.captures).length == groups then
      some items
    else none
  | none => none

/-- The text that the items take at the front, and the captured runs. `before` is the character to
the left. -/
def matchAt : List Item → Option Char → List Char → Option (List Char × List (List Char))
  | [], _, _ => some ([], [])
  | .char _ :: _, _, [] => none
  | .char s :: items, _, c :: rest =>
    if s.mem c then (matchAt items (some c) rest).map fun (taken, runs) => (c :: taken, runs)
    else none
  | .look l :: items, before, text =>
    if l.holds before text.head? then matchAt items before text else none
  | .run s captured :: items, _, text =>
    let run := text.takeWhile s.mem
    if run.isEmpty then none
    else
      (matchAt items run.getLast? (text.drop run.length)).map fun (taken, runs) =>
        (run ++ taken, if captured then run :: runs else runs)

/-- The pieces of a text, the last one first. `inside` counts the characters that the match last
found still covers. -/
def scan (items : List Item) : Nat → Option Char → List Char → List Piece → List Piece
  | _, _, [], done => done
  | inside + 1, _, c :: rest, done => scan items inside (some c) rest done
  | 0, before, c :: rest, done =>
    match matchAt items before (c :: rest) with
    | some (taken, runs) =>
      scan items (taken.length - 1) (some c) rest (.hit ⟨taken, runs.map some⟩ :: done)
    | none => scan items 0 (some c) rest (.kept c :: done)

/-- The pieces of a text. -/
def pieces (items : List Item) (text : List Char) : List Piece :=
  (scan items 0 none text []).reverse

end Sequence

end SqlDump.Regex
