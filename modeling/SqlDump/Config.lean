-- The file of settings: what it may hold, how it is checked, and the settings it leads to.
import SqlDump.Settings
import SqlDump.Toml.Parser

namespace SqlDump

/-- What a file of settings says. -/
structure Config where
  tablePrefix : Option (List Char) := none
  progressInterval : Option Nat := none
  rules : List Rule := []
deriving DecidableEq, Repr

/-! ## Checks -/

/-- Whether a character may stand in a table prefix, which becomes part of a name. -/
def isPrefixChar (c : Char) : Bool := c.isAlphanum || c == '_'

def checkTablePrefix (tablePrefix : List Char) : Except Fault Unit :=
  if tablePrefix.all isPrefixChar then .ok () else .error (.badTablePrefix tablePrefix)

/-- Checks rules in order; the first that is not sound is the fault. -/
def checkRules : List Rule → Except Fault Unit
  | [] => .ok ()
  | r :: rest =>
    match r.check with
    | .ok () => checkRules rest
    | .error fault => .error fault

/-- Checks the table prefix, then the interval, then the rules. -/
def Config.check (c : Config) : Except Fault Unit := do
  match c.tablePrefix with
  | some p => checkTablePrefix p
  | none => .ok ()
  if c.progressInterval = some 0 then .error .zeroProgressInterval
  else checkRules c.rules

theorem checkTablePrefix_eq_ok {tablePrefix : List Char} :
    checkTablePrefix tablePrefix = .ok () ↔ tablePrefix.all isPrefixChar = true := by
  unfold checkTablePrefix
  split
  · simp_all
  · simp_all

theorem checkRules_eq_ok {rules : List Rule} :
    checkRules rules = .ok () ↔ ∀ r ∈ rules, r.check = .ok () := by
  induction rules with
  | nil => simp [checkRules]
  | cons r rules ih =>
    rw [checkRules, List.forall_mem_cons, ← ih]
    cases r.check with
    | error fault => simp
    | ok _ => simp

/-- A file of settings passes exactly where its prefix, its interval and each of its rules do. -/
theorem Config.check_eq_ok {c : Config} :
    c.check = .ok () ↔
      (∀ p ∈ c.tablePrefix, checkTablePrefix p = .ok ()) ∧ c.progressInterval ≠ some 0 ∧
        ∀ r ∈ c.rules, r.check = .ok () := by
  have hrest : (if c.progressInterval = some 0 then Except.error .zeroProgressInterval
      else checkRules c.rules) = .ok () ↔
      c.progressInterval ≠ some 0 ∧ ∀ r ∈ c.rules, r.check = .ok () := by
    rw [← checkRules_eq_ok]
    split
    · simp_all
    · simp_all
  unfold Config.check
  cases hp : c.tablePrefix with
  | none => simpa [bind, Except.bind] using hrest
  | some p =>
    cases hk : checkTablePrefix p with
    | error fault => simp [hk, bind, Except.bind]
    | ok _ => simpa [hk, bind, Except.bind] using hrest

/-! ## From TOML -/

/-- A rule: a table of the two actions, or an array whose first two members are both of them. -/
def Rule.ofToml? : Toml.Value → Option Rule
  | .table rows =>
    rows.foldlM
      (fun (r : Rule) (key, v) =>
        match v with
        | .string text =>
          if key = "skip_pattern".toList then some { r with skipPattern := some text }
          else if key = "rewrite".toList then some { r with substitution := some text }
          else none
        | _ => none)
      {}
  | .array (.string skip :: .string expr :: _) => some ⟨some skip, some expr⟩
  | _ => none

/-- Whole numbers of 64 bits. -/
def natural64? (n : Int) : Option Nat := if 0 ≤ n ∧ n < 0x10000000000000000 then some n.toNat else none

/-- The settings of a document; keys that are not known are refused. -/
def Config.ofToml? (rows : List (Toml.Key × Toml.Value)) : Option Config :=
  rows.foldlM
    (fun (c : Config) (key, v) =>
      if key = "table-prefix".toList then
        match v with
        | .string text => some { c with tablePrefix := some text }
        | _ => none
      else if key = "progress-interval".toList then
        match v with
        | .integer base text =>
          ((Toml.integerValue? base text).bind natural64?).map fun n =>
            { c with progressInterval := some n }
        | _ => none
      else if key = "rules".toList then
        match v with
        | .array members => (members.mapM Rule.ofToml?).map fun rules => { c with rules }
        | _ => none
      else none)
    {}

/-- Reads and checks the text of a file of settings; the path is told in the fault. -/
def Config.parse (text : List Char) (path : String) : Except Fault Config :=
  match (Toml.parse? text).bind Config.ofToml? with
  | none => .error (.configMalformed path)
  | some c => do
    c.check
    .ok c

/-! ## Settings -/

/-- The settings: what the file says, and the defaults where it says nothing. Every rule keeps the
path of the file. -/
def Settings.ofConfig (c : Config) (path : String) : Settings :=
  { tablePrefix := c.tablePrefix.getD defaultTablePrefix
    progressInterval := c.progressInterval.getD defaultProgressInterval
    rules := c.rules.map fun rule => ⟨rule, path⟩ }

end SqlDump
