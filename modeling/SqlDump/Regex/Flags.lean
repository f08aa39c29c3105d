-- The flags of a pattern and the small readers that every part of the pattern language shares. A
-- reader takes what it needs from the front of a text and gives back the rest, or refuses.
import SqlDump.Regex.Expr

namespace SqlDump.Regex

/-- Reads a value from the front of a text and leaves the rest. -/
abbrev Reader (α : Type) : Type := List Char → Option (α × List Char)

/-- What the flags switch: `i`, `m`, `s`, `U`, `u`, `R` and `x`. -/
structure Flags where
  ignoreCase : Bool := false
  multiLine : Bool := false
  dotAll : Bool := false
  swapGreed : Bool := false
  unicode : Bool := true
  crlf : Bool := false
  spaced : Bool := false
deriving DecidableEq, Repr

/-- Switches one flag, given by its letter. -/
def Flags.set (f : Flags) (letter : Char) (on : Bool) : Option Flags :=
  match letter with
  | 'i' => some { f with ignoreCase := on }
  | 'm' => some { f with multiLine := on }
  | 's' => some { f with dotAll := on }
  | 'U' => some { f with swapGreed := on }
  | 'u' => some { f with unicode := on }
  | 'R' => some { f with crlf := on }
  | 'x' => some { f with spaced := on }
  | _ => none

/-- Drops blanks and comments. A comment runs from a number sign to the end of its line; `inComment`
says that one has begun. -/
def dropBlanks (inComment : Bool) : List Char → List Char
  | [] => []
  | c :: rest =>
    if inComment then dropBlanks (c != '\n') rest
    else if Unicode.isSpace c then dropBlanks false rest
    else if c == '#' then dropBlanks true rest
    else c :: rest

namespace Flags

/-- The text from the next character that counts: in a spaced pattern blanks and comments do not. -/
def skip (f : Flags) (text : List Char) : List Char :=
  if f.spaced then dropBlanks false text else text

/-- The next character that counts after the front one, looked at without reading. Behind a number
sign only blanks are passed over, not the comment. -/
def peekAfter (f : Flags) (rest : List Char) : Option Char :=
  if f.spaced then
    match rest.dropWhile Unicode.isSpace with
    | '#' :: more =>
      match more.dropWhile Unicode.isSpace with
      | [] => rest.head?
      | c :: _ => some c
    | [] => rest.head?
    | c :: _ => some c
  else rest.head?

end Flags

/-- The rest of a text behind a given beginning. -/
def strip? : List Char → List Char → Option (List Char)
  | [], text => some text
  | _ :: _, [] => none
  | p :: ps, c :: rest => if p == c then strip? ps rest else none

/-! ## Decimal numbers -/

/-- The digits at the front, as one number; in a spaced pattern blanks may stand between them. -/
def readDigits (f : Flags) : Nat → Option Nat → Reader (Option Nat)
  | 0, seen, text => some (seen, text)
  | _ + 1, seen, [] => some (seen, [])
  | fuel + 1, seen, c :: rest =>
    if '0' ≤ c ∧ c ≤ '9' then
      readDigits f fuel (some (10 * seen.getD 0 + (c.toNat - '0'.toNat))) (f.skip rest)
    else some (seen, c :: rest)

/-- Drops blanks, and in a spaced pattern the comments among them. -/
def dropSpaces (f : Flags) : Nat → List Char → List Char
  | 0, text => text
  | _ + 1, [] => []
  | fuel + 1, c :: rest =>
    if Unicode.isSpace c then dropSpaces f fuel (f.skip rest) else c :: rest

/-- A repetition count with blanks around it: absent where there is no digit, refused when it does
not fit in 32 bits. -/
def readCount (f : Flags) : Reader (Option Nat) := fun text => do
  let text := text.dropWhile Unicode.isSpace
  let (count, rest) ← readDigits f text.length none text
  if count.any (fun n => 0x100000000 ≤ n) then none
  else some (count, dropSpaces f rest.length rest)

end SqlDump.Regex
