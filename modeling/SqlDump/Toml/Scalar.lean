-- Values written without quotes: truth values, numbers, dates and times. The form of a number tells
-- what kind it is; whether an integer has a value is asked later, where one is needed.
import SqlDump.Toml.Value

namespace SqlDump.Toml

/-! ## Digits -/

/-- The value of a digit in a base of at most 16. -/
def digit? (base : Nat) (c : Char) : Option Nat :=
  let value :=
    if '0' ≤ c ∧ c ≤ '9' then some (c.toNat - '0'.toNat)
    else if 'a' ≤ c ∧ c ≤ 'f' then some (c.toNat - 'a'.toNat + 10)
    else if 'A' ≤ c ∧ c ≤ 'F' then some (c.toNat - 'A'.toNat + 10)
    else none
  value.filter (· < base)

/-- The number that digits stand for, with at least one of them. -/
def natural? (base : Nat) (text : List Char) : Option Nat :=
  if text.isEmpty then none
  else text.foldlM (fun n c => (digit? base c).map (base * n + ·)) 0

/-- A text without its sign, and whether the sign is a minus. -/
def signed (text : List Char) : Bool × List Char :=
  match text with
  | '-' :: rest => (true, rest)
  | '+' :: rest => (false, rest)
  | _ => (false, text)

/-- The value of an integer as it is kept. -/
def integerValue? (base : Nat) (text : List Char) : Option Int :=
  let (negative, digits) := signed text
  (natural? base digits).map fun n => if negative then -(Int.ofNat n) else Int.ofNat n

/-- Whether every underscore stands between two digits of a base. `afterDigit` says that the last
character was one. -/
def underscoresFit (base : Nat) : Bool → List Char → Bool
  | _, [] => true
  | _, ['_'] => false
  | afterDigit, '_' :: c :: rest =>
    afterDigit && (digit? base c).isSome && underscoresFit base true rest
  | _, c :: rest => underscoresFit base (digit? base c).isSome rest

/-- A run of digits of a base with underscores between them. -/
def isDigits (base : Nat) (text : List Char) : Bool :=
  underscoresFit base false text && (natural? base (text.filter (· != '_'))).isSome

/-- A whole number in base 10: no zero stands before other digits. -/
def isWhole (text : List Char) : Bool :=
  match text with
  | '0' :: _ :: _ => false
  | _ => isDigits 10 text

/-! ## Numbers with a fraction or an exponent -/

/-- A text cut at the first character that satisfies `p`, which is dropped. -/
def cutAt? (p : Char → Bool) (text : List Char) : Option (List Char × List Char) :=
  match text.dropWhile (fun c => !p c) with
  | [] => none
  | _ :: behind => some (text.takeWhile (fun c => !p c), behind)

def isExponent (text : List Char) : Bool := isDigits 10 (signed text).2

/-- Whether a text without its sign is a number with a fraction, an exponent, or both. -/
def isFloat (text : List Char) : Bool :=
  let (mantissa, exponent) := match cutAt? (fun c => c == 'e' || c == 'E') text with
    | some (mantissa, exponent) => (mantissa, some exponent)
    | none => (text, none)
  let exponentFine := exponent.all isExponent
  match cutAt? (· == '.') mantissa with
  | some (before, behind) => isWhole before && isDigits 10 behind && exponentFine
  | none => exponent.isSome && isWhole mantissa && exponentFine

/-! ## Dates and times -/

/-- The number written by exactly `count` digits at the front, and the rest. -/
def field (count : Nat) (text : List Char) : Option (Nat × List Char) :=
  let front := text.take count
  if front.length = count ∧ front.all Char.isDigit then
    some (front.foldl (fun n c => 10 * n + (c.toNat - '0'.toNat)) 0, text.drop count)
  else none

def expect (c : Char) (text : List Char) : Option (List Char) :=
  match text with
  | d :: rest => if d == c then some rest else none
  | [] => none

def isLeapYear (year : Nat) : Bool := year % 4 == 0 && (year % 100 != 0 || year % 400 == 0)

def daysIn (year month : Nat) : Nat :=
  if month = 2 then (if isLeapYear year then 29 else 28)
  else if month = 4 ∨ month = 6 ∨ month = 9 ∨ month = 11 then 30
  else 31

/-- The rest behind a date. -/
def date? (text : List Char) : Option (List Char) := do
  let (year, text) ← field 4 text
  let text ← expect '-' text
  let (month, text) ← field 2 text
  let text ← expect '-' text
  let (day, text) ← field 2 text
  if 1 ≤ month ∧ month ≤ 12 ∧ 1 ≤ day ∧ day ≤ daysIn year month then some text else none

/-- The rest behind a time; seconds and parts of a second may be left out. -/
def time? (text : List Char) : Option (List Char) := do
  let (hour, text) ← field 2 text
  let text ← expect ':' text
  let (minute, text) ← field 2 text
  if 23 < hour ∨ 59 < minute then none
  else
    match text with
    | ':' :: text => do
      let (second, text) ← field 2 text
      if 60 < second then none
      else
        match text with
        | '.' :: c :: text => if c.isDigit then some (text.dropWhile Char.isDigit) else none
        | _ => some text
    | _ => some text

/-- Whether a text is an offset from universal time. -/
def isOffset (text : List Char) : Bool :=
  match text with
  | ['Z'] => true
  | ['z'] => true
  | sign :: text =>
    if sign == '+' || sign == '-' then
      match field 2 text with
      | some (hour, ':' :: text) =>
        match field 2 text with
        | some (minute, []) => hour ≤ 23 && minute ≤ 59
        | _ => false
      | _ => false
    else false
  | [] => false

def isMoment (text : List Char) : Bool :=
  match date? text with
  | some [] => true
  | some (c :: rest) =>
    if c == 'T' || c == 't' || c == ' ' then
      match time? rest with
      | some rest => rest.isEmpty || isOffset rest
      | none => false
    else false
  | none => time? text == some []

/-! ## All of them -/

/-- An integer with the mark of its base in front, which has no sign. A mark alone is one too. -/
def basedInteger? (base : Nat) (text : List Char) : Option Value :=
  if text.all (fun c => c == '_' || (digit? base c).isSome) && underscoresFit 16 false text then
    some (.integer base (text.filter (· != '_')))
  else none

/-- A value that begins with a digit once the sign is off. What follows the first digits decides: a
hyphen or a colon makes it a point in time, a full stop or the letter of an exponent anywhere a number
with a fraction. Else it is an integer if it ends there or goes on with an underscore, whatever
comes behind. -/
def numeric? (text : List Char) : Option Value :=
  let unsigned := (signed text).2
  match unsigned.dropWhile Char.isDigit with
  | [] => if isWhole unsigned then some (.integer 10 text) else none
  | '-' :: _ => if isMoment text then some (.moment text) else none
  | ':' :: _ => if isMoment text then some (.moment text) else none
  | c :: rest =>
    if rest.contains ' ' then none
    else if (c :: rest).any (fun d => d == '.' || d == 'e' || d == 'E') then
      if isFloat unsigned then some (.float text) else none
    else if c == '_' && unsigned.head? != some '0' && underscoresFit 16 false unsigned then
      some (.integer 10 (text.filter (· != '_')))
    else none

/-- The value that an unquoted text stands for. -/
def scalar? (text : List Char) : Option Value :=
  if text = "true".toList then some (.boolean true)
  else if text = "false".toList then some (.boolean false)
  else
    match text with
    | '0' :: 'x' :: rest => basedInteger? 16 rest
    | '0' :: 'o' :: rest => basedInteger? 8 rest
    | '0' :: 'b' :: rest => basedInteger? 2 rest
    | _ =>
      let unsigned := (signed text).2
      if unsigned = "inf".toList ∨ unsigned = "nan".toList then some (.float text)
      else if unsigned.head?.any Char.isDigit then numeric? text
      else none

/-- Whether a character belongs to an unquoted value. -/
def isScalarChar (c : Char) : Bool :=
  !(c == '=' || c == ',' || c == '[' || c == ']' || c == '\x7b' || c == '\x7d' || c == '#' ||
    c == ' ' || c == '\t' || c == '\r' || c == '\n')

/-- Whether a character can begin an unquoted value behind blanks. -/
def beginsScalar (c : Char) : Bool := isScalarChar c && c != '.' && c != '"' && c != '\''

/-- The text of the unquoted value at the front and the rest. Blanks belong to it where more follows
that is neither quoted nor begins with a full stop. -/
def scalarText : Nat → List Char → List Char × List Char
  | 0, text => ([], text)
  | fuel + 1, text =>
    let word := text.takeWhile isScalarChar
    let rest := text.dropWhile isScalarChar
    let blanks := rest.takeWhile isBlank
    let behind := rest.dropWhile isBlank
    if !blanks.isEmpty && behind.head?.any beginsScalar then
      let (more, rest) := scalarText fuel behind
      (word ++ blanks ++ more, rest)
    else (word, rest)

/-- The unquoted value at the front. -/
def readScalar (text : List Char) : Option (Value × List Char) :=
  let (word, rest) := scalarText (text.length + 1) text
  (scalar? word).map fun v => (v, rest)

end SqlDump.Toml
