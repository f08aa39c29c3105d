-- Sets of characters as expressions. Membership is read off the expression, so a set such as "not a
-- backquote" needs no table.
import SqlDump.Unicode.CaseFold
import SqlDump.Unicode.Word

namespace SqlDump.Regex

open SqlDump.Unicode (RangeTable)

/-- A set of characters. -/
inductive CharSet
  | none
  | single (c : Char)
  | range (lo hi : Char)
  | digit
  | space
  | word
  | table (t : RangeTable)
  | union (a b : CharSet)
  | inter (a b : CharSet)
  | compl (a : CharSet)
  | caseClosed (a : CharSet)
deriving Inhabited

namespace CharSet

/-- Whether the set holds `c`. A set closed under case holds `c` when the set it was made from holds
`c` or a character that differs from `c` in case only. -/
def mem : CharSet → Char → Bool
  | none, _ => false
  | single d, c => c == d
  | range lo hi, c => decide (lo ≤ c) && decide (c ≤ hi)
  | digit, c => Unicode.isDigit c
  | space, c => Unicode.isSpace c
  | word, c => Unicode.isWord c
  | table t, c => t.contains c
  | union a b, c => a.mem c || b.mem c
  | inter a b, c => a.mem c && b.mem c
  | compl a, c => !a.mem c
  | caseClosed a, c => a.mem c || (Unicode.caseVariants c).any a.mem

/-- All characters. -/
def all : CharSet := compl none

def diff (a b : CharSet) : CharSet := inter a (compl b)

def symmDiff (a b : CharSet) : CharSet := union (diff a b) (diff b a)

/-- The set of any of the given sets. -/
def ofList : List CharSet → CharSet
  | [] => none
  | [a] => a
  | a :: rest => union a (ofList rest)

/-- The characters below 128. -/
def ascii : CharSet := range '\x00' '\x7f'

def asciiDigit : CharSet := range '0' '9'

def asciiWord : CharSet := ofList [range '0' '9', range 'A' 'Z', single '_', range 'a' 'z']

def asciiSpace : CharSet := ofList [range '\t' '\r', single ' ']

/-- The set as a table: the characters of the table are those of the set. -/
def toTable : CharSet → RangeTable
  | none => ⟨#[]⟩
  | single c => RangeTable.range c.toNat c.toNat
  | range lo hi => RangeTable.range lo.toNat hi.toNat
  | digit => Unicode.decimalDigits
  | space => Unicode.whiteSpace
  | word => Unicode.wordCharacters
  | table t => t
  | union a b => RangeTable.union a.toTable b.toTable
  | inter a b => RangeTable.combine (· && ·) a.toTable b.toTable
  | compl a => a.toTable.compl
  | caseClosed a =>
    let t := a.toTable
    let variants := Unicode.caseVariantTable.filter fun row => row.2.any t.contains
    RangeTable.union t (RangeTable.ofChars (variants.map (·.1)))

/-! ## Small laws of membership -/

@[simp] theorem mem_single (c d : Char) : (single d).mem c = (c == d) := rfl

@[simp] theorem mem_compl (a : CharSet) (c : Char) : (compl a).mem c = !a.mem c := rfl

end CharSet

end SqlDump.Regex
