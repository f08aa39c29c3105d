-- Sets written in brackets: characters, ranges, named sets, sets in sets, and the operations that
-- keep common characters, take characters away or keep those of one side only.
import SqlDump.Regex.Escape

namespace SqlDump.Regex

/-- Patterns nested deeper than this are refused. -/
def nestLimit : Nat := 250

/-- A set together with how deep its notation is nested. -/
structure Nested where
  set : CharSet
  depth : Nat

inductive SetOp
  | common
  | without
  | either
deriving DecidableEq

/-- The operation on two sets, each closed under case first where case is ignored. -/
def SetOp.apply (f : Flags) (op : SetOp) (a b : CharSet) : CharSet :=
  let a := if f.ignoreCase then CharSet.caseClosed a else a
  let b := if f.ignoreCase then CharSet.caseClosed b else b
  match op with
  | common => .inter a b
  | without => .diff a b
  | either => .symmDiff a b

/-! ## Named ASCII sets -/

/-- The ASCII sets written as a name between colons. -/
def posixSet? (name : List Char) : Option CharSet :=
  let rows : List (String × CharSet) := [
    ("alnum", .ofList [.range '0' '9', .range 'A' 'Z', .range 'a' 'z']),
    ("alpha", .ofList [.range 'A' 'Z', .range 'a' 'z']),
    ("ascii", .ascii),
    ("blank", .ofList [.single '\t', .single ' ']),
    ("cntrl", .ofList [.range '\x00' '\x1f', .single '\x7f']),
    ("digit", .asciiDigit),
    ("graph", .range '!' '~'),
    ("lower", .range 'a' 'z'),
    ("print", .range ' ' '~'),
    ("punct", .ofList [.range '!' '/', .range ':' '@', .range '[' '\x60', .range '\x7b' '~']),
    ("space", .asciiSpace),
    ("upper", .range 'A' 'Z'),
    ("word", .asciiWord),
    ("xdigit", .ofList [.range '0' '9', .range 'A' 'F', .range 'a' 'f'])]
  (rows.find? fun row => row.1.toList = name).map (·.2)

/-- The name between colons behind an opening bracket, whether a circumflex stands before it, and
the rest behind the closing bracket. Where this is no such name the bracket opens a set. -/
def readPosix (rest : List Char) : Option ((Bool × CharSet) × List Char) := do
  let rest ← strip? [':'] rest
  let (negated, rest) := match rest with
    | '^' :: more => (true, more)
    | _ => (false, rest)
  let name := rest.takeWhile (· != ':')
  let behind ← strip? [':', ']'] (rest.dropWhile (· != ':'))
  let set ← posixSet? name
  some ((negated, set), behind)

/-! ## Case and complement -/

/-- The set under the flags: closed under case where case is ignored, then turned round where it is
negated. Without the Unicode flag a set holds ASCII characters only and cannot be turned round. -/
def finished (f : Flags) (negated : Bool) (s : CharSet) : Option CharSet :=
  let s := if f.ignoreCase then CharSet.caseClosed s else s
  if f.unicode then some (if negated then .compl s else s)
  else if negated then none
  else some (if f.ignoreCase then .inter s .ascii else s)

/-- The character a literal adds to a set. -/
def setChar (f : Flags) (l : Literal) : Option Char :=
  if f.unicode || l.char.toNat < 128 then some l.char else none

/-! ## Members -/

/-- One plain character or escape of a set. -/
def readMember (f : Flags) : Reader Atom
  | [] => none
  | '\\' :: rest => readEscape f rest
  | c :: rest => some (.literal ⟨c, false⟩, rest)

def memberSet (f : Flags) : Atom → Option CharSet
  | .literal l => (setChar f l).map .single
  | .set s => some s
  | .look _ => none

/-- A member, or a range between two literals that do not fall. A hyphen makes a range unless a
closing bracket or another hyphen follows it. -/
def readRange (f : Flags) : Reader CharSet := fun text => do
  let (first, rest) ← readMember f text
  let rest := f.skip rest
  match rest with
  | [] => none
  | '-' :: more =>
    let next := f.peekAfter more
    if next = some ']' ∨ next = some '-' then
      let s ← memberSet f first
      some (s, rest)
    else
      let (last, rest) ← readMember f (f.skip more)
      match first, last with
      | .literal a, .literal b =>
        guard (a.char ≤ b.char)
        let lo ← setChar f a
        let hi ← setChar f b
        some (.range lo hi, rest)
      | _, _ => none
  | _ =>
    let s ← memberSet f first
    some (s, rest)

/-! ## The whole set -/

/-- The union of the members read so far, the last one first. -/
def unionOf (members : List Nested) : Nested :=
  match members with
  | [] => ⟨.none, 0⟩
  | [m] => m
  | members =>
    ⟨CharSet.ofList (members.map (·.set)).reverse, (members.map (·.depth)).foldl max 0 + 1⟩

/-- The set behind an operation that waits for its right side. -/
def settle (f : Flags) (waiting : Option (SetOp × Nested)) (right : Nested) : Nested :=
  match waiting with
  | none => right
  | some (op, left) => ⟨op.apply f left.set right.set, max left.depth right.depth + 1⟩

/-- What follows an opening bracket before the members: a circumflex, any hyphens, and a closing
bracket that would leave the set empty. The hyphens and that bracket are members. -/
def readOpening (f : Flags) (text : List Char) : Bool × List Nested × List Char :=
  let text := f.skip text
  let (negated, text) := match text with
    | '^' :: rest => (true, f.skip rest)
    | _ => (false, text)
  let rec hyphens : Nat → List Nested → List Char → List Nested × List Char
    | 0, members, text => (members, text)
    | _ + 1, members, [] => (members, [])
    | fuel + 1, members, c :: rest =>
      if c == '-' then hyphens fuel (⟨.single '-', 0⟩ :: members) (f.skip rest)
      else (members, c :: rest)
  let (members, text) := hyphens (text.length + 1) [] text
  match members, text with
  | [], ']' :: rest => (negated, [⟨.single ']', 0⟩], f.skip rest)
  | members, text => (negated, members, text)

/-- The members up to the closing bracket. `level` counts the brackets open around this one. -/
def readMembers (f : Flags) : Nat → Nat → Bool → Option (SetOp × Nested) → List Nested →
    Reader Nested
  | 0, _, _, _, _, _ => none
  | fuel + 1, level, negated, waiting, members, text =>
    match f.skip text with
    | [] => none
    | ']' :: rest => do
      let inner := settle f waiting (unionOf members)
      let set ← finished f negated inner.set
      some (⟨set, inner.depth + 1⟩, rest)
    | '[' :: rest =>
      match readPosix rest with
      | some ((turned, set), behind) => do
        let set ← finished f turned set
        readMembers f fuel level negated waiting (⟨set, 0⟩ :: members) behind
      | none =>
        if nestLimit < level then none
        else do
          let (turned, first, behind) := readOpening f rest
          let (inner, behind) ← readMembers f fuel (level + 1) turned none first behind
          readMembers f fuel level negated waiting (inner :: members) behind
    | '&' :: '&' :: rest =>
      readMembers f fuel level negated (some (.common, settle f waiting (unionOf members))) [] rest
    | '-' :: '-' :: rest =>
      readMembers f fuel level negated (some (.without, settle f waiting (unionOf members))) [] rest
    | '~' :: '~' :: rest =>
      readMembers f fuel level negated (some (.either, settle f waiting (unionOf members))) [] rest
    | text => do
      let (set, rest) ← readRange f text
      readMembers f fuel level negated waiting (⟨set, 0⟩ :: members) rest

/-- The set behind an opening bracket. -/
def readBracket (f : Flags) : Reader Nested := fun text =>
  let (negated, first, rest) := readOpening f text
  readMembers f (text.length + 1) 1 negated none first rest

end SqlDump.Regex
