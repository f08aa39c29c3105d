-- Quoted strings: on one line or on several, with escapes or without.
import SqlDump.Toml.Value

namespace SqlDump.Toml

/-- Whether a character may stand in a comment or a string as it is: a tab, or no control
character. -/
def isPlain (c : Char) : Bool := c == '\t' || (' ' ≤ c && c != '\x7f')

/-- The value of a digit in base 16. -/
def hexDigit? (c : Char) : Option Nat :=
  if '0' ≤ c ∧ c ≤ '9' then some (c.toNat - '0'.toNat)
  else if 'a' ≤ c ∧ c ≤ 'f' then some (c.toNat - 'a'.toNat + 10)
  else if 'A' ≤ c ∧ c ≤ 'F' then some (c.toNat - 'A'.toNat + 10)
  else none

/-- The character whose number stands in the next `count` digits, and the rest. -/
def readCodePoint : Nat → Nat → List Char → Option (Char × List Char)
  | 0, n, text => if n.isValidChar then some (Char.ofNat n, text) else none
  | _ + 1, _, [] => none
  | count + 1, n, c :: rest =>
    match hexDigit? c with
    | some d => readCodePoint count (16 * n + d) rest
    | none => none

/-- The character behind a backslash, and the rest. -/
def readEscape : List Char → Option (Char × List Char)
  | [] => none
  | c :: rest =>
    match c with
    | 'b' => some ('\x08', rest)
    | 't' => some ('\t', rest)
    | 'n' => some ('\n', rest)
    | 'f' => some ('\x0c', rest)
    | 'r' => some ('\r', rest)
    | 'e' => some ('\x1b', rest)
    | '"' => some ('"', rest)
    | '\\' => some ('\\', rest)
    | 'x' => readCodePoint 2 0 rest
    | 'u' => readCodePoint 4 0 rest
    | 'U' => readCodePoint 8 0 rest
    | _ => none

/-- The rest of a string with escapes on one line, up to its closing quote. -/
def readBasic : Nat → List Char → Option (List Char × List Char)
  | 0, _ => none
  | _ + 1, [] => none
  | fuel + 1, c :: rest =>
    if c == '"' then some ([], rest)
    else if c == '\\' then
      match readEscape rest with
      | some (d, rest) => (readBasic fuel rest).map fun (s, rest) => (d :: s, rest)
      | none => none
    else if isPlain c then (readBasic fuel rest).map fun (s, rest) => (c :: s, rest)
    else none

/-- The rest of a string without escapes on one line. -/
def readLiteral : List Char → Option (List Char × List Char)
  | [] => none
  | c :: rest =>
    if c == '\'' then some ([], rest)
    else if isPlain c then (readLiteral rest).map fun (s, rest) => (c :: s, rest)
    else none

/-! ## Strings on several lines -/

/-- The text behind a line break at the front. -/
def lineBreak? : List Char → Option (List Char)
  | '\n' :: rest => some rest
  | '\r' :: '\n' :: rest => some rest
  | _ => none

/-- A line break directly behind the opening quotes does not belong to the string. -/
def dropFirstBreak (text : List Char) : List Char := (lineBreak? text).getD text

/-- Drops blanks and line breaks. -/
def dropBlankLines : Nat → List Char → List Char
  | 0, text => text
  | fuel + 1, text =>
    match lineBreak? text with
    | some rest => dropBlankLines fuel rest
    | none =>
      match text with
      | c :: rest => if isBlank c then dropBlankLines fuel rest else text
      | [] => []

/-- The rest behind a backslash at the end of a line: blanks, a line break, and all blanks and line
breaks after it. -/
def joinedLine? (text : List Char) : Option (List Char) :=
  (lineBreak? (text.dropWhile isBlank)).map fun rest => dropBlankLines (rest.length + 1) rest

/-- Three quotes close a string on several lines; one or two more before them belong to it. -/
def closing? (quote : Char) (text : List Char) : Option (List Char × List Char) :=
  let marks := (text.takeWhile (· == quote)).length
  if 3 ≤ marks ∧ marks ≤ 5 then some (List.replicate (marks - 3) quote, text.drop marks)
  else if 5 < marks then some ([quote, quote], text.drop 5)
  else none

/-- The rest of a string on several lines; one without escapes takes backslashes as they are. -/
def readMultiline (quote : Char) (escapes : Bool) : Nat → List Char → Option (List Char × List Char)
  | 0, _ => none
  | _ + 1, [] => none
  | fuel + 1, c :: rest =>
    let go := readMultiline quote escapes fuel
    if c == quote then
      match closing? quote (c :: rest) with
      | some found => some found
      | none => (go rest).map fun (s, rest) => (c :: s, rest)
    else if escapes && c == '\\' then
      match joinedLine? rest with
      | some rest => go rest
      | none =>
        match readEscape rest with
        | some (d, rest) => (go rest).map fun (s, rest) => (d :: s, rest)
        | none => none
    else
      match c, rest with
      | '\r', '\n' :: rest => (go rest).map fun (s, rest) => ('\r' :: '\n' :: s, rest)
      | _, _ =>
        if c == '\n' || isPlain c then (go rest).map fun (s, rest) => (c :: s, rest) else none

/-- The string at the front, if there is one. -/
def readString (text : List Char) : Option (List Char × List Char) :=
  match text with
  | '"' :: '"' :: '"' :: rest => readMultiline '"' true (rest.length + 1) (dropFirstBreak rest)
  | '\'' :: '\'' :: '\'' :: rest =>
    readMultiline '\'' false (rest.length + 1) (dropFirstBreak rest)
  | '"' :: rest => readBasic (rest.length + 1) rest
  | '\'' :: rest => readLiteral rest
  | _ => none

/-- The string on one line at the front, as it may stand for a key. -/
def readSimpleString (text : List Char) : Option (List Char × List Char) :=
  match text with
  | '"' :: rest => readBasic (rest.length + 1) rest
  | '\'' :: rest => readLiteral rest
  | _ => none

end SqlDump.Toml
