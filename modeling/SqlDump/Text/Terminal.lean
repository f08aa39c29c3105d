-- Texts without what is meant for a terminal: its control sequences and all control characters go,
-- blanks and line breaks stay. A log that is read as a text is cleaned like this.
import SqlDump.Text.Utf8

namespace SqlDump.Terminal

/-- How far a control sequence has come: there is none, an escape character has begun one, it goes on
with intermediate characters, with parameters, as a string for a device up to where its text begins,
as a string that is passed over, or as a title. -/
inductive Sequence
  | none
  | escape
  | intermediate
  | parameters
  | device (hasParameters : Bool)
  | deviceIntermediate
  | string
  | title
deriving DecidableEq, Repr

/-- Whether a character goes from `lo` to `hi`. -/
def between (lo hi : Char) (c : Char) : Bool := lo ≤ c && c ≤ hi

/-- A string ends at the byte 9C, wherever it stands in a character. -/
def endsString (c : Char) : Bool := (Utf8.encodeChar c).contains 0x9C

/-- The sequence behind a character that is not shown. An escape character begins one anew, and two
control characters break it off. -/
def Sequence.next (s : Sequence) (c : Char) : Sequence :=
  if c == '\x1b' then escape
  else if c == '\x18' || c == '\x1a' then none
  else
    match s with
    | none => none
    | escape =>
      if between ' ' '/' c then intermediate
      else if c == '[' then parameters
      else if c == ']' then title
      else if c == 'P' then device false
      else if c == 'X' || c == '^' || c == '_' then string
      else if between '0' '~' c then none
      else escape
    | intermediate => if between '0' '~' c then none else intermediate
    | parameters => if between '@' '~' c then none else parameters
    | device hasParameters =>
      if between ' ' '/' c then deviceIntermediate
      else if between '<' '?' c then (if hasParameters then string else device true)
      else if between '0' ';' c then device true
      else if between '@' '~' c then string
      else device hasParameters
    | deviceIntermediate => if between '0' '~' c then string else deviceIntermediate
    | string => if endsString c then none else string
    | title => if c == '\x07' then none else title

/-- Whether a control character is a blank or a line break. -/
def isBreak (c : Char) : Bool := c == '\t' || c == '\n' || c == '\x0c' || c == '\r'

/-- Whether a character is shown. Within a sequence only breaks are, and none within a string or a
title. -/
def Sequence.shows (s : Sequence) (c : Char) : Bool :=
  match s with
  | none => isBreak c || (' ' ≤ c && c != '\x7f')
  | escape => isBreak c
  | intermediate => isBreak c
  | parameters => isBreak c
  | _ => false

/-- The characters of a text that are shown, behind a sequence that has begun. A sequence rests while
characters are shown one after another, goes on with the next control character, and is over where one of
those shown is not ASCII. -/
def shownFrom (s : Sequence) (resting : Bool) : List Char → List Char
  | [] => []
  | c :: rest =>
    if (if resting then .none else s).shows c then
      c :: shownFrom (if c.toNat < 0x80 then s else .none) true rest
    else shownFrom (s.next c) false rest

/-- The characters of a text that are shown. -/
def shown (text : List Char) : List Char := shownFrom .none false text

end SqlDump.Terminal
