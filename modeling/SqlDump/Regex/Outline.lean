-- The outline of an expression: the same language with the fewest parts. It is what the size of a pattern
-- is told by. Characters in a row are one text, a choice of characters is one set, and what all branches
-- of a choice begin with stands before it.
import SqlDump.Regex.ByteRun
import SqlDump.Regex.Expr

namespace SqlDump.Regex

open SqlDump.Unicode (RangeTable)

/-- An outline. Concatenations and choices lean to the right: their first part is none itself. A set
holds more than one character, or none. -/
inductive Outline
  | empty
  | text (chars : List Char)
  | set (t : RangeTable)
  | look (l : Look)
  | group (index : Nat) (body : Outline)
  | cat (a b : Outline)
  | alt (a b : Outline)
  | loop (least : Nat) (most : Option Nat) (greedy : Bool) (body : Outline)
deriving DecidableEq, Inhabited

namespace Outline

/-- How many parts there are, counted with all parts of parts. -/
def size : Outline → Nat
  | group _ a => a.size + 1
  | cat a b => a.size + b.size + 1
  | alt a b => a.size + b.size + 1
  | loop _ _ _ a => a.size + 1
  | _ => 1

/-! ## Sets -/

/-- The outline of a set; one character is a text. -/
def ofTable (t : RangeTable) : Outline :=
  let t := RangeTable.combine (fun a s => a && !s) t RangeTable.surrogates
  match t.changes.toList with
  | [low, next] => if low + 1 = next then text [Char.ofNat low] else set t
  | _ => set t

/-- The characters of an outline that is a set or a single character. -/
def table? : Outline → Option RangeTable
  | text [c] => some (RangeTable.range c.toNat c.toNat)
  | set t => some t
  | _ => none

/-! ## Concatenations -/

/-- The parts of a concatenation. -/
def parts : Outline → List Outline
  | cat a b => a :: parts b
  | a => [a]

/-- A part before the others. Two texts in a row are one. -/
def before (a : Outline) : Outline → Outline
  | empty => a
  | text t =>
    match a with
    | text s => text (s ++ t)
    | _ => cat a (text t)
  | cat (text t) rest =>
    match a with
    | text s => cat (text (s ++ t)) rest
    | _ => cat a (cat (text t) rest)
  | rest => cat a rest

/-- The concatenation of two outlines. -/
def append : Outline → Outline → Outline
  | empty, rest => rest
  | cat a b, rest => a.before (b.append rest)
  | a, rest => a.before rest

def ofParts (parts : List Outline) : Outline := parts.foldr append empty

/-! ## Choices -/

/-- The branches of a choice. -/
def branches : Outline → List Outline
  | alt a b => a :: branches b
  | a => [a]

/-- The choice of branches as they are. -/
def ofBranches : List Outline → Outline
  | [] => set ⟨#[]⟩
  | [a] => a
  | a :: rest => alt a (ofBranches rest)

/-- What two lists have in common at the front. -/
def commonFront : List Outline → List Outline → List Outline
  | a :: as, b :: bs => if a = b then a :: commonFront as bs else []
  | _, _ => []

/-- What all branches begin with, if each is a concatenation. -/
def frontOf : List Outline → List Outline
  | [] => []
  | [a] => if a.parts.length < 2 then [] else a.parts
  | a :: rest => if a.parts.length < 2 then [] else commonFront a.parts (frontOf rest)

/-- The choice of branches; a branch that is a choice itself gives its own branches. -/
def choiceWithin : Nat → List Outline → Outline
  | 0, given => ofBranches given
  | fuel + 1, given =>
    match given.flatMap branches with
    | [] => ofBranches []
    | [a] => a
    | all =>
      match all.mapM table? with
      | some tables => ofTable (tables.foldl RangeTable.union ⟨#[]⟩)
      | none =>
        let front := frontOf all
        if front.isEmpty then ofBranches all
        else
          let behind := all.map fun a => ofParts (a.parts.drop front.length)
          ofParts (front ++ [choiceWithin fuel behind])

def choice (given : List Outline) : Outline :=
  match given with
  | [a] => a
  | _ => choiceWithin (given.foldl (fun n a => n + a.size) 1) given

end Outline

/-- The outlines of the branches of a choice. -/
def Expr.branchOutlines : Expr → List Outline
  | .empty => [.empty]
  | .char s => [.ofTable s.toTable]
  | .look l => [.look l]
  | .group i a => [.group i (Outline.choice a.branchOutlines)]
  | .cat a b => [(Outline.choice a.branchOutlines).append (Outline.choice b.branchOutlines)]
  | .alt a b => Outline.choice a.branchOutlines :: b.branchOutlines
  | .loop least most greedy a => [.loop least most greedy (Outline.choice a.branchOutlines)]

/-- The outline of an expression. -/
def Expr.outline (e : Expr) : Outline := Outline.choice e.branchOutlines

namespace Outline

/-! ## Lengths and ends -/

/-- The fewest bytes that a match takes, where there can be a match. -/
def leastBytes : Outline → Option Nat
  | empty => some 0
  | text chars => some (chars.foldl (fun n c => n + byteLength c.toNat) 0)
  | set t => t.changes[0]?.map byteLength
  | look _ => some 0
  | group _ a => a.leastBytes
  | cat a b =>
    match a.leastBytes, b.leastBytes with
    | some m, some n => some (m + n)
    | _, _ => none
  | alt a b =>
    match a.leastBytes, b.leastBytes with
    | some m, some n => some (min m n)
    | _, _ => none
  | loop least _ _ a => a.leastBytes.map (least * ·)

/-- Whether no match takes a byte. -/
def onlyEmpty : Outline → Bool
  | empty => true
  | look _ => true
  | group _ a => a.onlyEmpty
  | cat a b => a.onlyEmpty && b.onlyEmpty
  | alt a b => a.onlyEmpty && b.onlyEmpty
  | loop _ most _ a => most == some 0 || a.onlyEmpty
  | _ => false

/-- Whether every match begins at the start of the text. -/
def beginsAtStart : Outline → Bool
  | look l => l == .textStart
  | group _ a => a.beginsAtStart
  | cat a b => a.beginsAtStart || (a.onlyEmpty && b.beginsAtStart)
  | alt a b => a.beginsAtStart && b.beginsAtStart
  | loop least _ _ a => 0 < least && a.beginsAtStart
  | _ => false

/-- Whether every match ends at the end of the text. -/
def endsAtEnd : Outline → Bool
  | look l => l == .textEnd
  | group _ a => a.endsAtEnd
  | cat a b => b.endsAtEnd || (b.onlyEmpty && a.endsAtEnd)
  | alt a b => a.endsAtEnd && b.endsAtEnd
  | loop least _ _ a => 0 < least && a.endsAtEnd
  | _ => false

/-- The bytes of the branches of a choice between texts. -/
def texts? : Outline → Option (List (List Char))
  | alt (text s) b => (texts? b).map (s :: ·)
  | text s => some [s]
  | _ => none

end Outline

end SqlDump.Regex
