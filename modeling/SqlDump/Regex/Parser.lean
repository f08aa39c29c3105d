-- Reading a pattern. The text is read once from left to right; flags hold from where they are set to
-- the end of their group, and a pattern is refused as a whole or read as a whole.
import SqlDump.Regex.Bracket

namespace SqlDump.Regex

/-- A part of a concatenation: an expression, or a change of flags, which cannot be repeated. -/
structure Part where
  expr : Option Expr
  depth : Nat

/-- What is known while a pattern is read. -/
structure Progress where
  flags : Flags := {}
  groups : Nat := 0
  names : List (List Char × Nat) := []

/-! ## Single characters -/

/-- The expression of a literal. Without the Unicode flag a byte above 127 is no character, and case
is ignored for ASCII letters only. -/
def literalExpr (f : Flags) (l : Literal) : Option Expr :=
  if f.unicode then
    if f.ignoreCase && !(Unicode.caseVariants l.char).isEmpty then
      some (.char (.caseClosed (.single l.char)))
    else some (.char (.single l.char))
  else if l.asByte && 128 ≤ l.char.toNat then none
  else if f.ignoreCase && l.char.isAlpha then
    some (.char (.union (.single l.char.toUpper) (.single l.char.toLower)))
  else some (.char (.single l.char))

/-- What a full stop matches: any character, by default all but line breaks. -/
def dotSet (f : Flags) : Option CharSet :=
  if !f.unicode then none
  else if f.dotAll then some .all
  else if f.crlf then some (.compl (.union (.single '\r') (.single '\n')))
  else some (.compl (.single '\n'))

def lineStartLook (f : Flags) : Look :=
  if !f.multiLine then .textStart else if f.crlf then .crlfLineStart else .lineStart

def lineEndLook (f : Flags) : Look :=
  if !f.multiLine then .textEnd else if f.crlf then .crlfLineEnd else .lineEnd

def atomExpr (f : Flags) : Atom → Option Expr
  | .literal l => literalExpr f l
  | .set s => some (.char s)
  | .look l => some (.look l)

/-! ## Groups -/

/-- Whether a character can stand in a group's name, or begin it. -/
def isNameChar (first : Bool) (c : Char) : Bool :=
  if first then c == '_' || Unicode.isAlphabetic c
  else c == '_' || c == '.' || c == '[' || c == ']' || Unicode.isAlphanumeric c

/-- A group's name and the rest behind the angle bracket that closes it. -/
def readName (text : List Char) : Option (List Char × List Char) :=
  let name := text.takeWhile (· != '>')
  match name, text.dropWhile (· != '>') with
  | c :: more, _ :: rest =>
    if isNameChar true c && more.all (isNameChar false) then some (name, rest) else none
  | _, _ => none

/-- The flags up to a colon or a closing bracket: that character, the letters with the way they are
switched, and the rest. A letter or the hyphen may stand once, and the hyphen not last. -/
def readFlags : List (Char × Bool) → Option Char → Bool →
    List Char → Option (Char × List (Char × Bool) × List Char)
  | _, _, _, [] => none
  | seen, last, on, c :: rest =>
    if c == ':' || c == ')' then
      if last == some '-' then none else some (c, seen.reverse, rest)
    else if c == '-' then
      if on then readFlags seen (some '-') false rest else none
    else if ((({} : Flags).set c true).isNone) || seen.any (·.1 == c) then none
    else readFlags ((c, on) :: seen) (some c) on rest

def applyFlags (f : Flags) (changes : List (Char × Bool)) : Flags :=
  changes.foldl (fun f change => (f.set change.1 change.2).getD f) f

/-- What an opening bracket begins. -/
inductive Opening
  | capture (name : Option (List Char))
  | plain (flags : Flags)
  | setting (flags : Flags)

/-- What stands behind an opening bracket. Looking ahead and behind is not part of the language. -/
def readGroupOpening (f : Flags) (text : List Char) : Option (Opening × List Char) :=
  match f.skip text with
  | '?' :: rest =>
    match rest with
    | '=' :: _ => none
    | '!' :: _ => none
    | '<' :: '=' :: _ => none
    | '<' :: '!' :: _ => none
    | 'P' :: '<' :: rest => (readName rest).map fun (name, rest) => (.capture (some name), rest)
    | '<' :: rest => (readName rest).map fun (name, rest) => (.capture (some name), rest)
    | rest =>
      match readFlags [] none true rest with
      | some (')', [], _) => none
      | some (')', changes, rest) => some (.setting (applyFlags f changes), rest)
      | some (_, changes, rest) => some (.plain (applyFlags f changes), rest)
      | none => none
  | text => some (.capture none, text)

/-! ## Repetitions -/

/-- The bounds behind an opening brace, and the rest behind the closing one: a count, a count and a
comma, or two counts that do not fall. -/
def readBounds (f : Flags) (text : List Char) : Option ((Nat × Option Nat) × List Char) := do
  let (first, rest) ← readCount f (f.skip text)
  match rest with
  | ',' :: rest =>
    match f.skip rest with
    | '\x7d' :: rest => first.map fun n => ((n, none), rest)
    | text => do
      let n ← first
      let (last, rest) ← readCount f text
      let m ← last
      let rest ← strip? ['\x7d'] rest
      guard (n ≤ m)
      some ((n, some m), rest)
  | '\x7d' :: rest => first.map fun n => ((n, some n), rest)
  | _ => none

/-- Repeats the last part; a question mark at the front of the rest turns greed round. A part that is
nested too deep already is refused. -/
def repeatLast (f : Flags) (least : Nat) (most : Option Nat) (parts : List Part)
    (rest : List Char) : Option (List Part × List Char) :=
  match parts with
  | ⟨some e, depth⟩ :: before =>
    let (greedy, rest) := match rest with
      | '?' :: more => (false, more)
      | _ => (true, rest)
    if nestLimit ≤ depth then none
    else
      some (⟨some (Expr.repeated least most (greedy != f.swapGreed) e), depth + 1⟩ :: before, rest)
  | _ => none

/-! ## The whole pattern -/

/-- The concatenation of parts, the last one first. -/
def partsExpr (parts : List Part) : Expr × Nat :=
  match parts with
  | [] => (.empty, 0)
  | [p] => (p.expr.getD .empty, p.depth)
  | parts =>
    (Expr.ofList (parts.reverse.filterMap (·.expr)), (parts.map (·.depth)).foldl max 0 + 1)

/-- The choice from the branches, the last one first. -/
def branchesExpr (branches : List (Expr × Nat)) : Expr × Nat :=
  match branches with
  | [b] => b
  | branches =>
    (Expr.choice (branches.map (·.1.asBranch)).reverse, (branches.map (·.2)).foldl max 0 + 1)

/-- Reads branches up to the bracket that closes the group, or to the end of the pattern outside of
all groups. `level` counts the groups open around this place. -/
def readBranches : Nat → Nat → Progress → List (Expr × Nat) → List Part → List Char →
    Option ((Expr × Nat) × Progress × List Char)
  | 0, _, _, _, _, _ => none
  | fuel + 1, level, p, branches, parts, text =>
    let f := p.flags
    match f.skip text with
    | [] =>
      if level == 0 then some (branchesExpr (partsExpr parts :: branches), p, []) else none
    | ')' :: rest =>
      if level == 0 then none else some (branchesExpr (partsExpr parts :: branches), p, rest)
    | '|' :: rest => readBranches fuel level p (partsExpr parts :: branches) [] rest
    | '(' :: rest =>
      if nestLimit < level then none
      else
        match readGroupOpening f rest with
        | none => none
        | some (.setting flags, rest) =>
          readBranches fuel level { p with flags } branches (⟨none, 0⟩ :: parts) rest
        | some (.plain flags, rest) => do
          let ((e, depth), p, rest) ← readBranches fuel (level + 1) { p with flags } [] [] rest
          readBranches fuel level { p with flags := f } branches (⟨some e, depth + 1⟩ :: parts) rest
        | some (.capture name, rest) => do
          let index := p.groups + 1
          let names ← match name with
            | none => some p.names
            | some n => if p.names.any (·.1 = n) then none else some ((n, index) :: p.names)
          let ((e, depth), p, rest) ←
            readBranches fuel (level + 1) { p with groups := index, names } [] [] rest
          readBranches fuel level { p with flags := f } branches
            (⟨some (.group index e), depth + 1⟩ :: parts) rest
    | '[' :: rest => do
      let (s, rest) ← readBracket f rest
      readBranches fuel level p branches (⟨some (.char s.set), s.depth⟩ :: parts) rest
    | '?' :: rest => do
      let (parts, rest) ← repeatLast f 0 (some 1) parts rest
      readBranches fuel level p branches parts rest
    | '*' :: rest => do
      let (parts, rest) ← repeatLast f 0 none parts rest
      readBranches fuel level p branches parts rest
    | '+' :: rest => do
      let (parts, rest) ← repeatLast f 1 none parts rest
      readBranches fuel level p branches parts rest
    | '\x7b' :: rest => do
      let ((least, most), rest) ← readBounds f rest
      let (parts, rest) ← repeatLast f least most parts (f.skip rest)
      readBranches fuel level p branches parts rest
    | '.' :: rest => do
      let s ← dotSet f
      readBranches fuel level p branches (⟨some (.char s), 0⟩ :: parts) rest
    | '^' :: rest =>
      readBranches fuel level p branches (⟨some (.look (lineStartLook f)), 0⟩ :: parts) rest
    | '$' :: rest =>
      readBranches fuel level p branches (⟨some (.look (lineEndLook f)), 0⟩ :: parts) rest
    | '\\' :: rest => do
      let (atom, rest) ← readEscape f rest
      let e ← atomExpr f atom
      readBranches fuel level p branches (⟨some e, 0⟩ :: parts) rest
    | c :: rest => do
      let e ← literalExpr f ⟨c, false⟩
      readBranches fuel level p branches (⟨some e, 0⟩ :: parts) rest

/-- What a pattern stands for: its expression, how many groups it has, and their names. -/
structure Parsed where
  expr : Expr
  groups : Nat
  names : List (List Char × Nat)

/-- Reads a pattern. -/
def parse? (text : List Char) : Option Parsed :=
  match readBranches (text.length + 1) 0 {} [] [] text with
  | some ((e, depth), p, _) => if depth ≤ nestLimit then some ⟨e, p.groups, p.names⟩ else none
  | none => none

end SqlDump.Regex
