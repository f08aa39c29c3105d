-- Escapes: what a backslash and the characters behind it stand for.
import SqlDump.Regex.Flags
import SqlDump.Unicode.Query

namespace SqlDump.Regex

/-- A character of a pattern. One written as a backslash, an x and two digits stands for a byte where
the Unicode flag is off. -/
structure Literal where
  char : Char
  asByte : Bool := false
deriving Inhabited

/-- What one escape, or one plain character, stands for. -/
inductive Atom
  | literal (l : Literal)
  | set (s : CharSet)
  | look (l : Look)

/-! ## Characters by number -/

/-- The value of a digit in base 16, in either case. -/
def hexValue? (c : Char) : Option Nat :=
  if '0' ≤ c ∧ c ≤ '9' then some (c.toNat - '0'.toNat)
  else if 'a' ≤ c ∧ c ≤ 'f' then some (c.toNat - 'a'.toNat + 10)
  else if 'A' ≤ c ∧ c ≤ 'F' then some (c.toNat - 'A'.toNat + 10)
  else none

/-- The character with a code point, unless that is a surrogate or too large. -/
def charOf? (n : Nat) : Option Char :=
  if n.isValidChar then some (Char.ofNat n) else none

/-- Exactly `count` digits in base 16. -/
def readHexDigits (f : Flags) : Nat → Nat → Reader Nat
  | 0, value, text => some (value, text)
  | _ + 1, _, [] => none
  | count + 1, value, c :: rest => do
    let d ← hexValue? c
    readHexDigits f count (16 * value + d) (f.skip rest)

/-- The digits up to a closing brace, of which there is at least one. -/
def readHexBraced (f : Flags) : Option Nat → List Char → Nat → Option (Nat × List Char)
  | _, _, 0 => none
  | _, [], _ => none
  | seen, c :: rest, fuel + 1 =>
    if c == '\x7d' then seen.map fun n => (n, f.skip rest)
    else do
      let d ← hexValue? c
      readHexBraced f (some (16 * seen.getD 0 + d)) (f.skip rest) fuel

/-- The character behind a backslash and one of the letters x, u, U: two, four or eight digits, or
any number of digits in braces. -/
def readHex (f : Flags) (digits : Nat) : Reader Literal := fun text =>
  match f.skip text with
  | '\x7b' :: rest => do
    let (n, rest) ← readHexBraced f none (f.skip rest) (rest.length + 1)
    let c ← charOf? n
    some (⟨c, false⟩, rest)
  | text => do
    let (n, rest) ← readHexDigits f digits 0 text
    let c ← charOf? n
    some (⟨c, digits == 2⟩, rest)

/-! ## Named sets -/

/-- The text up to a closing brace and the rest behind it; in a spaced pattern blanks are left
out. -/
def readBraced (f : Flags) : Nat → List Char → Reader (List Char)
  | 0, _, _ => none
  | _ + 1, _, [] => none
  | fuel + 1, seen, c :: rest =>
    if c == '\x7d' then some (seen.reverse, rest)
    else readBraced f fuel (c :: seen) (f.skip rest)

/-- The text before and behind the first place where `mark` stands. -/
def splitAt? (mark : List Char) : List Char → List Char → Option (List Char × List Char)
  | _, [] => none
  | seen, c :: rest =>
    match strip? mark (c :: rest) with
    | some behind => some (seen.reverse, behind)
    | none => splitAt? mark (c :: seen) rest

/-- The set that a name stands for, and whether it is turned round: a bare name, or a property with a
value behind a colon or an equals sign. An exclamation mark before the equals sign turns it round. -/
def namedSet? (name : List Char) : Option (CharSet × Bool) :=
  let valued := fun (parts : List Char × List Char) =>
    (Unicode.valued? parts.1 parts.2).map CharSet.table
  match splitAt? ['!', '='] [] name with
  | some parts => (valued parts).map (·, true)
  | none =>
    match (splitAt? [':'] [] name).or (splitAt? ['='] [] name) with
    | some parts => (valued parts).map (·, false)
    | none => (Unicode.named? name).map fun t => (.table t, false)

/-- The set behind a backslash and a p, negated for a capital P. Only patterns with the Unicode flag
have it. -/
def readNamedSet (f : Flags) (negated : Bool) : Reader CharSet := fun text => do
  let (name, rest) ← match f.skip text with
    | [] => none
    | '\\' :: _ => none
    | '\x7b' :: rest => readBraced f (rest.length + 1) [] (f.skip rest)
    | c :: rest => some ([c], f.skip rest)
  guard f.unicode
  let (set, turned) ← namedSet? name
  let set := if f.ignoreCase then .caseClosed set else set
  some (if negated != turned then .compl set else set, rest)

/-- The set of digits, blanks or word characters. Without the Unicode flag it is ASCII, and its
complement would hold bytes that are no character, so there is none. -/
def shorthand (f : Flags) (negated : Bool) (unicode ascii : CharSet) : Option CharSet :=
  if f.unicode then some (if negated then .compl unicode else unicode)
  else if negated then none
  else some ascii

/-! ## Word edges -/

/-- Whether a character can stand in the name of a word edge. -/
def isEdgeNameChar (c : Char) : Bool := c.isAlpha || c == '-'

/-- The letters and hyphens at the front; in a spaced pattern blanks are left out. -/
def readEdgeName (f : Flags) : Nat → List Char → List Char → List Char × List Char
  | 0, seen, text => (seen.reverse, text)
  | _ + 1, seen, [] => (seen.reverse, [])
  | fuel + 1, seen, c :: rest =>
    if isEdgeNameChar c then readEdgeName f fuel (c :: seen) (f.skip rest)
    else (seen.reverse, c :: rest)

def edgeNamed? (name : List Char) : Option WordEdge :=
  if name = "start".toList then some .start
  else if name = "end".toList then some .stop
  else if name = "start-half".toList then some .startHalf
  else if name = "end-half".toList then some .stopHalf
  else none

/-- The word edge that a brace behind a backslash and a b names. A brace that opens with neither a
letter nor a hyphen belongs to a repetition. -/
def readEdge (f : Flags) : Reader WordEdge
  | '\x7b' :: rest =>
    match f.skip rest with
    | [] => none
    | c :: _ =>
      if isEdgeNameChar c then
        let (name, behind) := readEdgeName f (rest.length + 1) [] (f.skip rest)
        match behind with
        | '\x7d' :: behind => (edgeNamed? name).map fun edge => (edge, behind)
        | _ => none
      else some (.boundary, '\x7b' :: rest)
  | text => some (.boundary, text)

/-! ## All escapes -/

/-- Whether a backslash before the character only takes away its meaning: any ASCII character but
letters, digits and the angle brackets. -/
def isEscapable (c : Char) : Bool :=
  c.toNat < 128 && !c.isAlphanum && c != '<' && c != '>'

/-- What stands behind a backslash. -/
def readEscape (f : Flags) : Reader Atom
  | [] => none
  | c :: rest =>
    let literal := fun (d : Char) => some (Atom.literal ⟨d, false⟩, rest)
    let set := fun (s : Option CharSet) => s.map fun s => (Atom.set s, rest)
    let look := fun (l : Look) => some (Atom.look l, rest)
    let word := fun (edge : WordEdge) => look (.word edge (!f.unicode))
    match c with
    | 'x' => (readHex f 2 rest).map fun (l, rest) => (.literal l, rest)
    | 'u' => (readHex f 4 rest).map fun (l, rest) => (.literal l, rest)
    | 'U' => (readHex f 8 rest).map fun (l, rest) => (.literal l, rest)
    | 'p' => (readNamedSet f false rest).map fun (s, rest) => (.set s, rest)
    | 'P' => (readNamedSet f true rest).map fun (s, rest) => (.set s, rest)
    | 'd' => set (shorthand f false .digit .asciiDigit)
    | 'D' => set (shorthand f true .digit .asciiDigit)
    | 's' => set (shorthand f false .space .asciiSpace)
    | 'S' => set (shorthand f true .space .asciiSpace)
    | 'w' => set (shorthand f false .word .asciiWord)
    | 'W' => set (shorthand f true .word .asciiWord)
    | 'a' => literal '\x07'
    | 'f' => literal '\x0c'
    | 't' => literal '\t'
    | 'n' => literal '\n'
    | 'r' => literal '\r'
    | 'v' => literal '\x0b'
    | 'A' => look .textStart
    | 'z' => look .textEnd
    | 'b' => (readEdge f rest).map fun (edge, rest) => (.look (.word edge (!f.unicode)), rest)
    | 'B' => word .notBoundary
    | '<' => word .start
    | '>' => word .stop
    | _ => if isEscapable c then literal c else none

end SqlDump.Regex
