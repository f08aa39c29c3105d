-- Sets of characters as sequences of bytes. A run of code points falls into parts whose characters take
-- the same number of bytes, each byte from one run of its own whatever the others are.
import SqlDump.Regex.CharSet

namespace SqlDump.Regex

open SqlDump.Unicode (RangeTable)

/-- Code points from the first to the second, both included. -/
abbrev Run := Nat × Nat

/-- The runs of a list of changes. -/
def runsOf : List Nat → List Run
  | low :: next :: rest => (low, next - 1) :: runsOf rest
  | _ => []

/-- The part of a run that lies in another one. -/
def within (bounds r : Run) : Option Run :=
  let (low, high) := (max r.1 bounds.1, min r.2 bounds.2)
  if low ≤ high then some (low, high) else none

/-- The bytes from the first to the last. -/
structure ByteRun where
  first : Nat
  last : Nat
deriving DecidableEq, Repr

/-! ## One byte and the rest -/

/-- Bytes in a row, counted from the lowest, and the code points that the bytes behind any of them may
choose from. -/
structure Branch where
  first : Nat
  last : Nat
  rest : Run

/-- The branches of a run where each byte leads to `size` code points. Bytes with all of theirs in
the run go together. -/
def branchesOfRun (size : Nat) (r : Run) : List Branch :=
  let (first, last) := (r.1 / size, r.2 / size)
  let (low, high) := (r.1 % size, r.2 % size)
  if first = last then [⟨first, last, (low, high)⟩]
  else
    let opened := if low = 0 then [] else [⟨first, first, (low, size - 1)⟩]
    let closed := if high + 1 = size then [] else [⟨last, last, (0, high)⟩]
    let begins := if low = 0 then first else first + 1
    let upTo := if high + 1 = size then last + 1 else last
    let full := if begins < upTo then [⟨begins, upTo - 1, (0, size - 1)⟩] else []
    opened ++ full ++ closed

/-- How many code points so many bytes behind the first tell apart. -/
def codePoints : Nat → Nat
  | 0 => 1
  | count + 1 => 64 * codePoints count

/-- The sequences of a run of characters that take one byte and `count` bytes behind it. `mark` is
what the first byte is counted from. -/
def sequencesFrom (mark : Nat) : Nat → Run → List (List ByteRun)
  | 0, r => [[⟨mark + r.1, mark + r.2⟩]]
  | count + 1, r =>
    (branchesOfRun (codePoints (count + 1)) r).flatMap fun b =>
      (sequencesFrom 0x80 count b.rest).map (⟨mark + b.first, mark + b.last⟩ :: ·)

/-- The characters of one to four bytes: how many bytes stand behind the first, what the first is
counted from, and the characters. -/
def encodedForms : List (Nat × Nat × Run) :=
  [(0, 0, (0, 0x7F)), (1, 0xC0, (0x80, 0x7FF)), (2, 0xE0, (0x800, 0xFFFF)),
    (3, 0xF0, (0x10000, 0x10FFFF))]

/-- The sequences of a run of characters, in rising order. -/
def sequencesOfRun (r : Run) : List (List ByteRun) :=
  encodedForms.flatMap fun (count, mark, bounds) =>
    match within bounds r with
    | some part => sequencesFrom mark count part
    | none => []

/-- The bytes that a character takes. -/
def byteLength (n : Nat) : Nat :=
  if n < 0x80 then 1 else if n < 0x800 then 2 else if n < 0x10000 then 3 else 4

end SqlDump.Regex
