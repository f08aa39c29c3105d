-- Sets of characters given by a table. A table lists the places where membership changes, and a
-- character is in the set when an odd number of changes lie at or below it.

namespace SqlDump.Unicode

/-- The code points where membership changes, in rising order. -/
structure RangeTable where
  changes : Array Nat
deriving DecidableEq, Inhabited

namespace RangeTable

/-- How many of the changes lie at or below `x`, looked for between `lo` and `hi`. -/
def countUpTo (changes : Array Nat) (x : Nat) : Nat → Nat → Nat → Nat
  | 0, lo, _ => lo
  | fuel + 1, lo, hi =>
    if lo < hi then
      let mid := (lo + hi) / 2
      if changes.getD mid 0 ≤ x then countUpTo changes x fuel (mid + 1) hi
      else countUpTo changes x fuel lo mid
    else lo

/-- Whether the table holds `c`. -/
def contains (t : RangeTable) (c : Char) : Bool :=
  countUpTo t.changes c.toNat t.changes.size 0 t.changes.size % 2 == 1

/-! ## Tables from tables -/

/-- The characters from `lo` to `hi`, both included. -/
def range (lo hi : Nat) : RangeTable :=
  if lo ≤ hi then ⟨#[lo, hi + 1]⟩ else ⟨#[]⟩

/-- The given characters, in rising order. -/
def ofChars (ns : Array Nat) : RangeTable :=
  ⟨ns.foldl (fun out n => (if out.back? == some n then out.pop else out.push n).push (n + 1)) #[]⟩

/-- Walks two lists of changes side by side and keeps the places where `f` of the two
memberships changes. `inX` and `inY` are the memberships before the place. -/
def combineChanges (f : Bool → Bool → Bool) :
    Nat → List Nat → Bool → List Nat → Bool → Array Nat → Array Nat
  | 0, _, _, _, _, out => out
  | fuel + 1, xs, inX, ys, inY, out =>
    let place := match xs, ys with
      | [], [] => none
      | x :: _, [] => some x
      | [], y :: _ => some y
      | x :: _, y :: _ => some (min x y)
    match place with
    | none => out
    | some p =>
      let inX' := if xs.head? == some p then !inX else inX
      let inY' := if ys.head? == some p then !inY else inY
      let xs' := if xs.head? == some p then xs.tail else xs
      let ys' := if ys.head? == some p then ys.tail else ys
      let out := if f inX inY == f inX' inY' then out else out.push p
      combineChanges f fuel xs' inX' ys' inY' out

/-- The characters whose memberships in the two tables satisfy `f`, for an `f` that does not hold
of two absences. -/
def combine (f : Bool → Bool → Bool) (a b : RangeTable) : RangeTable :=
  ⟨combineChanges f (a.changes.size + b.changes.size + 1)
    a.changes.toList false b.changes.toList false #[]⟩

def union (a b : RangeTable) : RangeTable := combine (· || ·) a b

/-- The surrogate code points, which are no characters. -/
def surrogates : RangeTable := range 0xD800 0xDFFF

/-- All characters. -/
def everything : RangeTable := combine (fun a s => a && !s) (range 0 0x10FFFF) surrogates

/-- The characters outside the table. -/
def compl (t : RangeTable) : RangeTable := combine (fun a b => a && !b) everything t

/-! ## Tables written as text -/

/-- The value of a digit in base 16, for digits in lower case. -/
def digitValue? (c : Char) : Option Nat :=
  if '0' ≤ c ∧ c ≤ '9' then some (c.toNat - '0'.toNat)
  else if 'a' ≤ c ∧ c ≤ 'f' then some (c.toNat - 'a'.toNat + 10)
  else none

/-- The numbers of a text, in base 16; anything that is no digit divides them. -/
def numbers (s : String) : Array Nat :=
  let step := fun (state : Array Nat × Option Nat) (c : Char) =>
    match digitValue? c, state.2 with
    | some d, some n => (state.1, some (16 * n + d))
    | some d, none => (state.1, some d)
    | none, some n => (state.1.push n, none)
    | none, none => state
  let (found, last) := s.toList.foldl step (#[], none)
  match last with
  | some n => found.push n
  | none => found

/-- The table whose runs, outside and inside by turns, have the given lengths. -/
def ofRuns (s : String) : RangeTable :=
  let step := fun (state : Array Nat × Nat) (n : Nat) =>
    (state.1.push (state.2 + n), state.2 + n)
  ⟨((numbers s).foldl step (#[], 0)).1⟩

end RangeTable

end SqlDump.Unicode
