-- A file of settings that is written out is read back: no rule is lost or changes its place, and only what the
-- file does not say is filled in.
import SqlDump.Config
import SqlDump.Proofs.WrittenToml

namespace SqlDump

open Toml (Key Rows Entry Document)

/-! ## Writing -/

def prefixKey : Key := "table-prefix".toList

def intervalKey : Key := "progress-interval".toList

def rulesKey : Key := "rules".toList

def skipKey : Key := "skip_pattern".toList

def rewriteKey : Key := "rewrite".toList

/-- The lines of a rule: it begins a member of the list of rules and says what the rule does. -/
def Rule.lines (r : Rule) : List Entry :=
  .member rulesKey ::
    ((r.skipPattern.map (Entry.string skipKey)).toList ++
      (r.substitution.map (Entry.string rewriteKey)).toList)

namespace Config

/-- The lines before the rules. -/
def headLines (c : Config) : List Entry :=
  (c.tablePrefix.map (Entry.string prefixKey)).toList ++
    (c.progressInterval.map (Entry.number intervalKey)).toList

def lines (c : Config) : List Entry := c.headLines ++ c.rules.flatMap Rule.lines

/-- The text of a file that says what the settings are. -/
def write (spelled : Char → Bool) (c : Config) : List Char := c.lines.flatMap (Entry.write spelled)

/-- What a file of settings may say. -/
structure Legal (c : Config) : Prop where
  tablePrefix : ∀ p ∈ c.tablePrefix, checkTablePrefix p = .ok ()
  interval : ∀ n ∈ c.progressInterval, 1 ≤ n ∧ n < 2 ^ 64
  rules : ∀ r ∈ c.rules, r.skipPattern.isSome = !r.substitution.isSome

end Config

/-! ## The table that is read -/

/-- The rows of a rule. -/
def Rule.rows (r : Rule) : Rows :=
  (r.skipPattern.map fun p => (skipKey, Toml.Node.value (.string p))).toList ++
    (r.substitution.map fun e => (rewriteKey, Toml.Node.value (.string e))).toList

/-- The rows before the rules. -/
def Config.headRows (c : Config) : Rows :=
  (c.tablePrefix.map fun p => (prefixKey, Toml.Node.value (.string p))).toList ++
    (c.progressInterval.map fun n => (intervalKey, Toml.Node.value (.integer 10 (Nat.toDigits 10 n)))).toList

/-- The root table with the rules read so far. -/
def gathered (head : Rows) : List Rule → Rows
  | [] => head
  | r :: rules => head ++ [(rulesKey, .tables ((r :: rules).map Rule.rows))]

theorem bare_of_mem_lines {c : Config} {l : Entry} (h : l ∈ c.lines) : Toml.Bare l.key := by
  have hhead : ∀ l ∈ c.headLines, l.key = prefixKey ∨ l.key = intervalKey := by
    rcases c with ⟨p, n, rules⟩
    cases p <;> cases n <;> simp [Config.headLines, Entry.key]
  have hrule : ∀ r : Rule, ∀ l ∈ r.lines, l.key = rulesKey ∨ l.key = skipKey ∨ l.key = rewriteKey := by
    rintro ⟨skip, rewrite⟩
    cases skip <;> cases rewrite <;> simp [Rule.lines, Entry.key]
  have hkey : l.key ∈ [prefixKey, intervalKey, rulesKey, skipKey, rewriteKey] := by
    rcases List.mem_append.mp h with h | h
    · rcases hhead l h with he | he <;> simp [he]
    · obtain ⟨r, -, hr⟩ := List.mem_flatMap.mp h
      rcases hrule r l hr with he | he | he <;> simp [he]
  have hbare : ∀ key ∈ [prefixKey, intervalKey, rulesKey, skipKey, rewriteKey],
      key ≠ [] ∧ key.all Toml.isBareKeyChar = true := by decide
  exact ⟨(hbare _ hkey).1, (hbare _ hkey).2⟩

theorem foldlM_headLines (c : Config) :
    (c.headLines.map Entry.statement).foldlM Document.step {} = some { current := c.headRows } := by
  rcases c with ⟨p, n, rules⟩
  cases p <;> cases n <;> rfl

/-- The lines of a rule put what was read before it into the root table and open a table of its own. -/
theorem foldlM_ruleLines {d : Document} {root : Rows} (h : d.close = some root) (r : Rule) :
    (r.lines.map Entry.statement).foldlM Document.step d =
      some { root, current := r.rows, place := some (true, [rulesKey]) } := by
  have hmember : d.step (.member [rulesKey]) = some { root, place := some (true, [rulesKey]) } := by
    rw [Document.step, h]
    rfl
  rcases r with ⟨skip, rewrite⟩
  rw [Rule.lines, List.map_cons, List.foldlM_cons, Entry.statement, hmember]
  cases skip <;> cases rewrite <;> rfl

/-- Replacing the value of a key leaves a table without it as it is. -/
theorem map_eq_self_of_lookup {rows : Rows} {key : Key} (h : rows.lookup key = none) (node : Toml.Node) :
    rows.map (fun row => if row.1 = key then (key, node) else row) = rows := by
  rw [List.lookup_eq_none_iff] at h
  have hsame : ∀ row ∈ rows, (if row.1 = key then (key, node) else row) = id row := by
    intro row hrow
    have hne := h row hrow
    rw [bne_iff_ne] at hne
    exact if_neg (Ne.symm hne)
  rw [List.map_congr_left hsame, List.map_id]

/-- The table of a rule comes behind those of the rules before it. -/
theorem close_gathered (head : Rows) (hhead : head.lookup rulesKey = none) (done : List Rule) (r : Rule) :
    Document.close { root := gathered head done, current := r.rows, place := some (true, [rulesKey]) } =
      some (gathered head (done ++ [r])) := by
  cases done with
  | nil => simp [Document.close, Toml.descend, gathered, hhead]
  | cons first done =>
    have hlookup : (gathered head (first :: done)).lookup rulesKey =
        some (.tables ((first :: done).map Rule.rows)) := by
      rw [gathered, List.lookup_append, hhead, List.lookup_cons_self]
      rfl
    have hreplace : ∀ node, Toml.replaceRow (gathered head (first :: done)) rulesKey node =
        head ++ [(rulesKey, node)] := by
      intro node
      rw [gathered, Toml.replaceRow, List.map_append, map_eq_self_of_lookup hhead]
      rfl
    simp only [Document.close, List.getLast?_singleton, List.dropLast_singleton, Toml.descend, if_true,
      hlookup, hreplace]
    have hmembers : (first :: done).map Rule.rows ++ [r.rows] = (first :: (done ++ [r])).map Rule.rows := by
      simp
    rw [hmembers]
    rfl

/-- Lines of rules, whatever was read before them. -/
theorem foldlM_rulesLines (head : Rows) (hhead : head.lookup rulesKey = none) (rules done : List Rule)
    {d : Document} (h : d.close = some (gathered head done)) :
    ∃ d', ((rules.flatMap Rule.lines).map Entry.statement).foldlM Document.step d = some d' ∧
      d'.close = some (gathered head (done ++ rules)) := by
  induction rules generalizing done d with
  | nil => exact ⟨d, rfl, by rwa [List.append_nil]⟩
  | cons r rules ih =>
    obtain ⟨d', hrun, hclose⟩ := ih (done ++ [r]) (close_gathered head hhead done r)
    refine ⟨d', ?_, ?_⟩
    · rw [List.flatMap_cons, List.map_append, List.foldlM_append, foldlM_ruleLines h r]
      exact hrun
    · rwa [List.append_assoc] at hclose

theorem lookup_headRows (c : Config) : c.headRows.lookup rulesKey = none := by
  rcases c with ⟨p, n, rules⟩
  cases p <;> cases n <;> rfl

/-- The table that a written file stands for. -/
theorem parse?_written (spelled : Char → Bool) (c : Config) :
    Toml.parse? (c.write spelled) = some (Toml.finishRows (gathered c.headRows c.rules)) := by
  obtain ⟨d, hrun, hclose⟩ := foldlM_rulesLines c.headRows (lookup_headRows c) c.rules []
    (d := { current := c.headRows }) rfl
  unfold Config.write
  rw [Toml.parse?_write spelled c.lines fun l hl => bare_of_mem_lines hl, Config.lines, List.map_append,
    List.foldlM_append, foldlM_headLines]
  simp only [Option.bind_eq_bind, Option.bind_some, hrun, hclose]
  rfl

/-! ## The settings that are read -/

theorem finishRows_append (xs ys : Rows) :
    Toml.finishRows (xs ++ ys) = Toml.finishRows xs ++ Toml.finishRows ys := by
  induction xs with
  | nil => rfl
  | cons row xs ih =>
    rcases row with ⟨key, node⟩
    rw [List.cons_append, Toml.finishRows, Toml.finishRows, ih]
    rfl

theorem Rule.ofToml?_rows (r : Rule) : Rule.ofToml? (.table (Toml.finishRows r.rows)) = some r := by
  rcases r with ⟨skip, rewrite⟩
  cases skip <;> cases rewrite <;> rfl

theorem mapM_finishMembers (rules : List Rule) :
    (Toml.finishMembers (rules.map Rule.rows)).mapM Rule.ofToml? = some rules := by
  induction rules with
  | nil => rfl
  | cons r rules ih =>
    rw [List.map_cons, Toml.finishMembers, List.mapM_cons, Rule.ofToml?_rows, ih]
    rfl

/-- A number of 64 bits is read back. -/
theorem natural64?_toDigits {n : Nat} (h : n < 2 ^ 64) :
    (Toml.integerValue? 10 (Nat.toDigits 10 n)).bind natural64? = some n := by
  rw [Toml.integerValue?_toDigits, Option.bind_some, natural64?, if_pos (by omega), Int.toNat_natCast]

/-- What becomes of the settings at a row, for each of the keys. -/
structure ReadsRows (step : Config → Key × Toml.Value → Option Config) : Prop where
  tablePrefix : ∀ c text, step c (prefixKey, .string text) = some { c with tablePrefix := some text }
  interval : ∀ c base text n, (Toml.integerValue? base text).bind natural64? = some n →
    step c (intervalKey, .integer base text) = some { c with progressInterval := some n }
  rules : ∀ c members rules, members.mapM Rule.ofToml? = some rules →
    step c (rulesKey, .array members) = some { c with rules }

/-- The rows of a document are read one after another. -/
theorem Config.exists_readsRows :
    ∃ step, ReadsRows step ∧ ∀ rows, Config.ofToml? rows = rows.foldlM step {} := by
  have hinterval : intervalKey ≠ "table-prefix".toList := by decide
  have hrules : rulesKey ≠ "table-prefix".toList ∧ rulesKey ≠ "progress-interval".toList := by decide
  refine ⟨_, { tablePrefix := ?_, interval := ?_, rules := ?_ }, fun rows => rfl⟩
  · intro c text
    exact if_pos rfl
  · intro c base text n hn
    refine (if_neg hinterval).trans ((if_pos rfl).trans ?_)
    simp only [hn]
    rfl
  · intro c members rules hmembers
    refine (if_neg hrules.1).trans ((if_neg hrules.2).trans ((if_pos rfl).trans ?_))
    simp only [hmembers]
    rfl

/-- The table of a written file is read as the settings it was written for. -/
theorem Config.ofToml?_gathered {c : Config} (h : ∀ n ∈ c.progressInterval, n < 2 ^ 64) :
    Config.ofToml? (Toml.finishRows (gathered c.headRows c.rules)) = some c := by
  obtain ⟨step, hstep, hread⟩ := Config.exists_readsRows
  rcases c with ⟨p, n, rules⟩
  have hprefix : (Toml.finishRows (p.map fun p => (prefixKey, Toml.Node.value (.string p))).toList).foldlM
      step {} = some ⟨p, none, []⟩ := by
    cases p with
    | none => rfl
    | some p => exact (List.foldlM_cons ..).trans (by rw [Toml.Node.finish, hstep.tablePrefix]; rfl)
  have hinterval : (Toml.finishRows (n.map fun n =>
      (intervalKey, Toml.Node.value (.integer 10 (Nat.toDigits 10 n)))).toList).foldlM
      step ⟨p, none, []⟩ = some ⟨p, n, []⟩ := by
    cases n with
    | none => rfl
    | some n =>
      have hn := natural64?_toDigits (h n rfl)
      exact (List.foldlM_cons ..).trans (by rw [Toml.Node.finish, hstep.interval _ _ _ _ hn]; rfl)
  have hhead : (Toml.finishRows (Config.headRows ⟨p, n, rules⟩)).foldlM step {} = some ⟨p, n, []⟩ := by
    rw [Config.headRows, finishRows_append, List.foldlM_append, hprefix]
    exact hinterval
  rw [hread]
  cases rules with
  | nil => exact hhead
  | cons r rules =>
    have hmembers := mapM_finishMembers (r :: rules)
    rw [gathered, finishRows_append, List.foldlM_append, hhead]
    simp only [Option.bind_eq_bind, Option.bind_some, Toml.finishRows, Toml.Node.finish,
      List.foldlM_cons, List.foldlM_nil, hstep.rules _ _ _ hmembers]
    rfl

/-! ## The law -/

theorem Config.Legal.check {c : Config} (h : c.Legal) : c.check = .ok () := by
  have hzero : c.progressInterval ≠ some 0 := by
    intro he
    have hpos := (h.interval 0 he).1
    omega
  exact Config.check_eq_ok.mpr ⟨h.tablePrefix, hzero, fun r hr => Rule.check_eq_ok.mpr (h.rules r hr)⟩

/-- Settings that are written out, with any further characters of their strings told by number, are read back as
they were. What they lead to keeps every rule in its place under the path of the file, and takes a default only
for what the file does not say. -/
theorem written_settings_are_read_back (c : Config) (h : c.Legal) (spelled : Char → Bool) (path : String) :
    Config.parse (c.write spelled) path = .ok c ∧
      (Settings.ofConfig c path).rules.map (·.rule) = c.rules ∧
      (∀ r ∈ (Settings.ofConfig c path).rules, r.source = path) ∧
      (∀ p, c.tablePrefix = some p → (Settings.ofConfig c path).tablePrefix = p) ∧
      (c.tablePrefix = none → (Settings.ofConfig c path).tablePrefix = defaultTablePrefix) ∧
      (∀ n, c.progressInterval = some n → (Settings.ofConfig c path).progressInterval = n) ∧
      (c.progressInterval = none → (Settings.ofConfig c path).progressInterval = defaultProgressInterval) := by
  have hbound : ∀ n ∈ c.progressInterval, n < 2 ^ 64 := fun n hn => (h.interval n hn).2
  have hread : (Toml.parse? (c.write spelled)).bind Config.ofToml? = some c := by
    rw [parse?_written, Option.bind_some, Config.ofToml?_gathered hbound]
  refine ⟨?_, ?_, ?_, ?_, ?_, ?_, ?_⟩
  · rw [Config.parse, hread]
    simp only [h.check]
    rfl
  · rw [Settings.ofConfig, List.map_map]
    exact List.map_id c.rules
  · intro r hr
    obtain ⟨rule, -, rfl⟩ := List.mem_map.mp hr
    rfl
  · intro p hp
    simp [Settings.ofConfig, hp]
  · intro hp
    simp [Settings.ofConfig, hp]
  · intro n hn
    simp [Settings.ofConfig, hn]
  · intro hn
    simp [Settings.ofConfig, hn]

/-- A file with the largest interval and with rules that hold quotes, a backslash and a control character. -/
theorem a_file_with_escaped_rules_is_read_back :
    let c : Config := {
      progressInterval := some 18446744073709551615
      rules := [{ skipPattern := some "^\"\\d\u0000é".toList },
        { substitution := some "s/\t/\"\"/g".toList }] }
    c.Legal ∧
      c.write (· == 'é') = ("progress-interval = 18446744073709551615\n[[rules]]\n" ++
        "skip_pattern = \"^\\\"\\\\d\\u0000\\u00e9\"\n[[rules]]\nrewrite = \"s/\\t/\\\"\\\"/g\"\n").toList ∧
      Config.parse (c.write (· == 'é')) "dump.toml" = .ok c := by
  intro c
  have h : c.Legal := {
    tablePrefix := fun p hp => by cases hp
    interval := fun n hn => by
      cases hn
      decide
    rules := by decide }
  exact ⟨h, by decide +kernel, (written_settings_are_read_back c h _ _).1⟩

end SqlDump
