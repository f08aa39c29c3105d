-- Digits, blanks and word characters. Below 128 the sets are given by hand, above by the tables of
-- the character database; a digit is always a word character.
import SqlDump.Unicode.Category
import SqlDump.Unicode.Property
import SqlDump.Unicode.Recent

namespace SqlDump.Unicode

/-- The runs listed under a name. -/
def runsNamed (rows : List (List String × String)) (name : String) : Option String :=
  (rows.find? fun row => row.1.contains name).map (·.2)

/-- The table listed under a name, empty when there is none. -/
def tableNamed (rows : List (List String × String)) (name : String) : RangeTable :=
  RangeTable.ofRuns ((runsNamed rows name).getD "")

def alphabetic : RangeTable := RangeTable.ofRuns alphabeticRuns

def decimalDigits : RangeTable := tableNamed categoryRuns "nd"

def whiteSpace : RangeTable := tableNamed propertyRuns "whitespace"

/-- The numbers that are no decimal digits: Roman numerals, fractions, circled numbers. -/
def otherNumbers : RangeTable :=
  RangeTable.union (tableNamed categoryRuns "nl") (tableNamed categoryRuns "no")

/-- Letters, marks, digits, connectors and joiners. -/
def wordCharacters : RangeTable :=
  [tableNamed categoryRuns "mn", tableNamed categoryRuns "mc", tableNamed categoryRuns "me",
    decimalDigits, tableNamed categoryRuns "pc", tableNamed propertyRuns "joincontrol"].foldl
    RangeTable.union alphabetic

/-- A decimal digit of any script. -/
def isDigit (c : Char) : Bool :=
  if c.toNat < 128 then c.isDigit else decimalDigits.contains c

/-- A letter, mark, digit, connector or joiner. -/
def isWord (c : Char) : Bool :=
  if c.toNat < 128 then c.isAlphanum || c == '_' else isDigit c || wordCharacters.contains c

/-- A blank: a space, tab or line break of any kind. -/
def isSpace (c : Char) : Bool :=
  if c.toNat < 128 then c == ' ' || ('\t' ≤ c && c ≤ '\r') else whiteSpace.contains c

/-- A letter, or another character that the database counts as alphabetic. -/
def isAlphabetic (c : Char) : Bool :=
  if c.toNat < 128 then c.isAlpha else alphabetic.contains c || recentAlphabetic.contains c

/-- A letter or a number of any kind. -/
def isAlphanumeric (c : Char) : Bool :=
  isAlphabetic c || isDigit c || otherNumbers.contains c || recentNumbers.contains c

theorem isWord_of_isDigit {c : Char} (h : isDigit c = true) : isWord c = true := by
  unfold isWord
  split
  · rename_i hc
    simp only [isDigit, hc, if_true] at h
    simp [Char.isAlphanum, h]
  · simp [h]

end SqlDump.Unicode
