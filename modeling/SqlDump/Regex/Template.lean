-- Replacement templates: text in which a dollar sign may begin a reference to a group.
import SqlDump.Regex.Piece

namespace SqlDump.Regex

inductive TemplatePart
  | literal (c : Char)
  | group (n : Nat)
  | named (name : List Char)
deriving DecidableEq, Repr

/-- A template: characters and references to groups. -/
abbrev Template := List TemplatePart

namespace Template

/-- Whether a character can stand in a reference without braces. -/
def isReferenceChar (c : Char) : Bool := c.isAlphanum || c == '_'

/-- A group's number, written in digits with an optional plus sign before them; one that does not fit
in 64 bits is a name. -/
def number? (text : List Char) : Option Nat :=
  let digits := match text with
    | '+' :: rest => rest
    | _ => text
  if digits.isEmpty || !digits.all Char.isDigit then none
  else
    let n := digits.foldl (fun n c => 10 * n + (c.toNat - '0'.toNat)) 0
    if n < 0x10000000000000000 then some n else none

def reference (text : List Char) : TemplatePart :=
  match number? text with
  | some n => .group n
  | none => .named text

/-- Reads the reference behind a dollar sign: any text in braces, or letters, digits and underscores
as far as they go. Gives the reference and how many characters it takes. -/
def readReference (text : List Char) : Option (TemplatePart × Nat) :=
  match text with
  | '\x7b' :: rest =>
    let name := rest.takeWhile (· != '\x7d')
    if name.length < rest.length then some (reference name, name.length + 2) else none
  | _ =>
    let name := text.takeWhile isReferenceChar
    if name.isEmpty then none else some (reference name, name.length)

/-- Reads a template, passing over the first `skip` characters. Two dollar signs are one, and one that
begins no reference stands for itself. -/
def readFrom : Nat → List Char → Template
  | _, [] => []
  | skip + 1, _ :: rest => readFrom skip rest
  | 0, c :: rest =>
    if c == '$' then
      if rest.head? = some '$' then .literal '$' :: readFrom 1 rest
      else
        match readReference rest with
        | some (part, taken) => part :: readFrom taken rest
        | none => .literal '$' :: readFrom 0 rest
    else .literal c :: readFrom 0 rest

def read (text : List Char) : Template := readFrom 0 text

/-- The text of a part for a match. A group that took no part, or that the pattern does not have,
gives nothing. -/
def partText (names : List (List Char × Nat)) (h : Hit) : TemplatePart → List Char
  | .literal c => [c]
  | .group n => (h.group n).getD []
  | .named name =>
    match names.lookup name with
    | some n => (h.group n).getD []
    | none => []

/-- The text that replaces a match. -/
def expand (t : Template) (names : List (List Char × Nat)) (h : Hit) : List Char :=
  t.flatMap (partText names h)

end Template

end SqlDump.Regex
