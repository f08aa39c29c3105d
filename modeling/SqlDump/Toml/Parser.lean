-- Reading TOML documents. A document is a list of statements, one a line: it assigns a value, or it
-- opens a table or a new member of a list of tables.
import SqlDump.Toml.Quoted
import SqlDump.Toml.Scalar

namespace SqlDump.Toml

/-- Arrays and tables nested deeper than this inside one value are refused, and keys of more parts. -/
def maxNesting : Nat := 80

/-! ## Blanks and comments -/

def dropBlanks (text : List Char) : List Char := text.dropWhile isBlank

/-- The text behind a comment, which has no control characters; without a comment, the text. -/
def dropComment (text : List Char) : Option (List Char) :=
  match text with
  | '#' :: rest =>
    let body := rest.takeWhile (fun c => c != '\n' && c != '\r')
    if body.all isPlain then some (rest.drop body.length) else none
  | _ => some text

/-- The text behind blanks, comments and line breaks. -/
def dropLines : Nat → List Char → Option (List Char)
  | 0, text => some text
  | fuel + 1, text => do
    let text ← dropComment (dropBlanks text)
    match lineBreak? text with
    | some rest => dropLines fuel rest
    | none => some text

/-! ## Keys -/

def isBareKeyChar (c : Char) : Bool := c.isAlphanum || c == '_' || c == '-'

/-- One part of a key: a bare word or a string on one line. -/
def readKeyPart (text : List Char) : Option (Key × List Char) :=
  match readSimpleString text with
  | some found => some found
  | none =>
    let word := text.takeWhile isBareKeyChar
    if word.isEmpty then none else some (word, text.drop word.length)

/-- The parts of a key with dots between them. -/
def readKeyParts : Nat → List Char → Option (List Key × List Char)
  | 0, _ => none
  | fuel + 1, text => do
    let (part, rest) ← readKeyPart (dropBlanks text)
    match dropBlanks rest with
    | '.' :: rest =>
      let (parts, rest) ← readKeyParts fuel rest
      some (part :: parts, rest)
    | rest => some ([part], rest)

/-- A key. One with too many parts is refused. -/
def readKey (text : List Char) : Option (List Key × List Char) :=
  (readKeyParts (text.length + 1) text).filter fun found => found.1.length ≤ maxNesting

/-! ## Tables under construction -/

/-- How a table came to be: by a header of its own, as the parent of another one, or by a dotted
key. -/
inductive Origin
  | header
  | parent
  | dotted
deriving DecidableEq

/-- A place in a document under construction. -/
inductive Node
  | value (v : Value)
  | table (origin : Origin) (rows : List (Key × Node))
  | tables (members : List (List (Key × Node)))

abbrev Rows := List (Key × Node)

/-- The rows with the value of a key changed. -/
def replaceRow (rows : Rows) (key : Key) (node : Node) : Rows :=
  rows.map fun row => if row.1 = key then (key, node) else row

/-- Assigns a value to a key of a table. A dotted key opens tables on its way and may go on with those
that a dotted key opened, never with a table that has a header or with a value. -/
def assign (v : Value) : Bool → List Key → Rows → Option Rows
  | _, [], _ => none
  | _, [key], rows => if (rows.lookup key).isSome then none else some (rows ++ [(key, .value v)])
  | _, key :: path, rows =>
    match rows.lookup key with
    | none => do
      let inner ← assign v true path []
      some (rows ++ [(key, .table .dotted inner)])
    | some (.table origin inner) =>
      if origin = .dotted ∨ (origin = .parent ∧ 1 < path.length) then do
        let inner ← assign v true path inner
        some (replaceRow rows key (.table origin inner))
      else none
    | some _ => none

/-- Changes the table at the end of a path of headers; a list of tables stands for its last
member. -/
def descend (change : Rows → Option Rows) : List Key → Rows → Option Rows
  | [], rows => change rows
  | key :: path, rows =>
    match rows.lookup key with
    | none => do
      let inner ← descend change path []
      some (rows ++ [(key, .table .parent inner)])
    | some (.table origin inner) => do
      let inner ← descend change path inner
      some (replaceRow rows key (.table origin inner))
    | some (.tables members) =>
      match members.getLast? with
      | some last => do
        let last ← descend change path last
        some (replaceRow rows key (.tables (members.dropLast ++ [last])))
      | none => none
    | some (.value _) => none

mutual

/-- The value that a finished place stands for. -/
def Node.finish : Node → Value
  | .value v => v
  | .table _ rows => .table (finishRows rows)
  | .tables members => .array (finishMembers members)

def finishRows : List (Key × Node) → List (Key × Value)
  | [] => []
  | (key, node) :: rest => (key, node.finish) :: finishRows rest

def finishMembers : List (List (Key × Node)) → List Value
  | [] => []
  | rows :: rest => .table (finishRows rows) :: finishMembers rest

end

/-! ## Values -/

mutual

/-- A value, nested inside `level` arrays and tables. -/
def readValue : Nat → Nat → List Char → Option (Value × List Char)
  | 0, _, _ => none
  | fuel + 1, level, text =>
    match text with
    | '[' :: rest =>
      if maxNesting ≤ level then none
      else (readMembers fuel (level + 1) [] rest).map fun (vs, rest) => (.array vs, rest)
    | '\x7b' :: rest =>
      if maxNesting ≤ level then none
      else (readRows fuel (level + 1) [] rest).map fun (rows, rest) =>
        (.table (finishRows rows), rest)
    | '"' :: _ => (readString text).map fun (s, rest) => (.string s, rest)
    | '\'' :: _ => (readString text).map fun (s, rest) => (.string s, rest)
    | _ => readScalar text

/-- The members of an array up to its closing bracket, the last one first so far. -/
def readMembers : Nat → Nat → List Value → List Char → Option (List Value × List Char)
  | 0, _, _, _ => none
  | fuel + 1, level, seen, text => do
    let text ← dropLines (text.length + 1) text
    match text with
    | ']' :: rest => some (seen.reverse, rest)
    | _ =>
      let (v, rest) ← readValue fuel level text
      let rest ← dropLines (rest.length + 1) rest
      match rest with
      | ',' :: rest => readMembers fuel level (v :: seen) rest
      | ']' :: rest => some ((v :: seen).reverse, rest)
      | _ => none

/-- The assignments of a table in braces up to the closing one. -/
def readRows : Nat → Nat → Rows → List Char → Option (Rows × List Char)
  | 0, _, _, _ => none
  | fuel + 1, level, seen, text => do
    let text ← dropLines (text.length + 1) text
    match text with
    | '\x7d' :: rest => some (seen, rest)
    | _ =>
      let (path, rest) ← readKey text
      let rest ← dropLines (rest.length + 1) rest
      match rest with
      | '=' :: rest =>
        let rest ← dropLines (rest.length + 1) rest
        let (v, rest) ← readValue fuel level rest
        let seen ← assign v false path seen
        let rest ← dropLines (rest.length + 1) rest
        match rest with
        | ',' :: rest => readRows fuel level seen rest
        | '\x7d' :: rest => some (seen, rest)
        | _ => none
      | _ => none

end

/-! ## Statements -/

inductive Statement
  | assign (path : List Key) (v : Value)
  | table (path : List Key)
  | member (path : List Key)

/-- The statement at the front. -/
def readStatement (text : List Char) : Option (Statement × List Char) :=
  match text with
  | '[' :: '[' :: rest => do
    let (path, rest) ← readKey rest
    match rest with
    | ']' :: ']' :: rest => some (.member path, rest)
    | _ => none
  | '[' :: rest => do
    let (path, rest) ← readKey rest
    match rest with
    | ']' :: rest => some (.table path, rest)
    | _ => none
  | _ => do
    let (path, rest) ← readKey text
    match rest with
    | '=' :: rest =>
      let rest := dropBlanks rest
      let (v, rest) ← readValue (rest.length + 1) 0 rest
      some (.assign path v, rest)
    | _ => none

/-- The statements of a document. Nothing but a comment may follow a statement on its line. -/
def readStatements : Nat → List Char → Option (List Statement)
  | 0, _ => none
  | fuel + 1, text => do
    let text ← dropLines (text.length + 1) text
    match text with
    | [] => some []
    | _ =>
      let (s, rest) ← readStatement text
      let rest ← dropComment (dropBlanks rest)
      match rest with
      | [] => some [s]
      | _ =>
        let rest ← lineBreak? rest
        let more ← readStatements fuel rest
        some (s :: more)

/-! ## Documents -/

/-- A document so far: the root table without the table that is open, that table, and where it
belongs; `none` for the root itself. -/
structure Document where
  root : Rows := []
  current : Rows := []
  place : Option (Bool × List Key) := none

namespace Document

/-- Puts the open table where it belongs. -/
def close (d : Document) : Option Rows :=
  match d.place with
  | none => some d.current
  | some (isMember, path) =>
    match path.getLast? with
    | none => none
    | some key =>
      let put := fun (rows : Rows) =>
        if isMember then
          match rows.lookup key with
          | none => some (rows ++ [(key, Node.tables [d.current])])
          | some (.tables members) =>
            some (replaceRow rows key (.tables (members ++ [d.current])))
          | some _ => none
        else some (rows ++ [(key, Node.table .header d.current)])
      descend put path.dropLast d.root

/-- Takes out the table that a header opens. A table may be opened once; what was known of it so far
as a parent of others is kept. -/
def reopen (path : List Key) (root : Rows) : Option (Rows × Rows) :=
  match path.getLast? with
  | none => none
  | some key =>
    let found := fun (rows : Rows) => rows.lookup key
    let rec look : List Key → Rows → Option Node
      | [], rows => found rows
      | k :: rest, rows =>
        match rows.lookup k with
        | some (.table _ inner) => look rest inner
        | some (.tables members) => look rest (members.getLast?.getD [])
        | _ => none
    match look path.dropLast root with
    | none => some ([], root)
    | some (.table .parent inner) =>
      (descend (fun rows => some (rows.filter (fun row => row.1 ≠ key))) path.dropLast root).map
        fun root => (inner, root)
    | some _ => none

def step (d : Document) : Statement → Option Document
  | .assign path v => (assign v false path d.current).map fun current => { d with current }
  | .member path => do
    let root ← d.close
    some { root, current := [], place := some (true, path) }
  | .table path => do
    let root ← d.close
    let (current, root) ← reopen path root
    some { root, current, place := some (false, path) }

end Document

/-- Reads a document: its root table. A byte order mark at the front is passed over. -/
def parse? (text : List Char) : Option (List (Key × Value)) := do
  let text := match text with
    | '\ufeff' :: rest => rest
    | _ => text
  let statements ← readStatements (text.length + 1) text
  let d ← statements.foldlM Document.step {}
  let root ← d.close
  some (finishRows root)

end SqlDump.Toml
