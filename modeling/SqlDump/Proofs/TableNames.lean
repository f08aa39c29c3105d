-- The name of a table on its way through the pipeline: where it is dropped, where it is created and where
-- rows are inserted. Exactly which names come out as the prefix and the name, statement by statement.
import SqlDump.Proofs.Renames

namespace SqlDump

open Regex Regex.Sequence Marked

/-! ## Names between backquotes -/

/-- A name between backquotes is captured whole. -/
theorem matchAt_quoted (a b rest : List Char) (before : Option Char) {name : List Char}
    (hne : name ≠ []) (hname : '\x60' ∉ name) :
    matchAt (literal a ++ (quotedName :: literal ('\x60' :: b))) before
        (a ++ (name ++ ('\x60' :: b ++ rest))) =
      some (a ++ (name ++ '\x60' :: b), [name]) :=
  matchAt_quoted_iff.mpr ⟨name, rest, by simp, rfl, rfl, hne, hname⟩

theorem not_quote_of_all {name : List Char} (h : name.all isPrefixChar = true) : '\x60' ∉ name := by
  intro hmem
  have hno := List.all_eq_true.mp h _ hmem
  revert hno
  decide

/-- A statement with a quoted name: the name gets what the template puts around it, and what is left
behind the quotes stays. -/
theorem text_apply_quoted {s : Substitution} (front : String) (b : List Char) {before after : String}
    {p : List Char} (hwalks : s.Walks (literal front.toList ++ (quotedName :: literal ('\x60' :: b))))
    (hreplace : s.replacement = prefixed before p after)
    (hbefore : '$' ∉ before.toList) (hafter : '$' ∉ after.toList) {name : List Char}
    (hne : name ≠ []) (hn : name.all isPrefixChar = true) (rest : List Char) {quoted plain : String}
    (hquoted : quoted.toList = '\x60' :: b ++ rest) (hplain : plain.toList = after.toList ++ rest)
    (hrest : ∀ c, piecesFrom (literal front.toList ++ (quotedName :: literal ('\x60' :: b))) c rest =
      rest.map .kept) :
    (s.apply (around front name quoted)).text = around before (p ++ name) plain := by
  have hmatch := matchAt_quoted front.toList b rest none hne (not_quote_of_all hn)
  have hcut : around front name quoted = (front.toList ++ (name ++ '\x60' :: b)) ++ rest := by
    unfold around
    rw [hquoted]
    simp
  have hsame : front.toList ++ (name ++ ('\x60' :: b ++ rest)) =
      (front.toList ++ (name ++ '\x60' :: b)) ++ rest := by
    simp
  rw [hsame] at hmatch
  rw [Substitution.text_apply hwalks, hcut, piecesFrom_hit hwalks.takes hmatch, hrest,
    replaced_cons_hit, replaced_kept]
  unfold Substitution.replace around
  rw [hreplace, Template.expand_read_prefixed _ _ _ _ _ hbefore hafter, hplain]
  have hgroup : (Hit.group ⟨front.toList ++ (name ++ '\x60' :: b), [name].map some⟩ 1).getD [] =
      name := rfl
  rw [hgroup]
  simp

/-! ## The three statements -/

theorem createStep_unchanged {p text : List Char} (h : ¬ "CREATE TABLE".toList <:+: text) :
    ((createStep p).apply text).text = text := by
  rw [text_createStep, if_neg]
  rwa [containsText_iff]

theorem insertStep_unchanged {p text : List Char} (h : ¬ "INSERT INTO ".toList <:+: text) :
    ((insertStep p).apply text).text = text := by
  rw [text_insertStep, if_neg]
  rw [List.isPrefixOf_iff_prefix]
  exact fun hfront => h hfront.isInfix

theorem text_apply_backquotes {text : List Char} (h : ¬ ['\x60'] <:+: text) :
    (backquotes.apply text).text = text := by
  have hwalks : backquotes.Walks ([] ++ (literal ['\x60'] ++ (quotedName :: literal ['\x60']))) :=
    walks_backquotes
  exact Substitution.text_apply_of_not_infix hwalks h

theorem text_apply_dropTable {p text : List Char} (h : ¬ "DROP TABLE IF EXISTS \x60".toList <:+: text) :
    ((dropTable p).apply text).text = text := by
  have hwalks : (dropTable p).Walks ([] ++ dropItems) := walks_dropTable p
  exact Substitution.text_apply_of_not_infix hwalks h

theorem text_apply_tableOptions {text : List Char} (h : ¬ ") ENGINE=".toList <:+: text) :
    (tableOptions.apply text).text = text := by
  have hwalks : tableOptions.Walks ([] ++ optionItems) := walks_tableOptions
  exact Substitution.text_apply_of_not_infix hwalks h

/-- Between the tables' new names, the name is renamed and loses its quotes. -/
theorem runSteps_prefixFree {before after : String} (hapart : Apart renames before after)
    (hwidth : ∀ start ∈ widthStarts, mayContain (frame before after) start.toList = false)
    {name : List Char} (hn : name.all isPrefixChar = true) :
    RuleSet.runSteps (prefixFree.map .always) (around before name after) =
      (backquotes.apply (around before (renamed renames name) after)).text := by
  have hsplit : prefixFree = widthMappings ++ (wordMappings ++ [backquotes]) := by
    unfold prefixFree widthMappings wordMappings
    rw [List.append_assoc, ← List.append_assoc, List.take_append_drop]
    rfl
  rw [hsplit, List.map_append, List.map_append, RuleSet.runSteps_append, RuleSet.runSteps_append,
    runSteps_widthMappings hn hwidth,
    runSteps_renamed renames_wordMappings (fun _ => plainPair_of_mem) hapart hn, List.map_cons,
    List.map_nil, RuleSet.runSteps_cons, EditStep.text_always, RuleSet.runSteps_nil]

/-- Where nothing is quoted and no rows are inserted, the name is renamed and that is all. -/
theorem runSteps_later (p : List Char) {before after : String} (hapart : Apart renames before after)
    (hwidth : ∀ start ∈ widthStarts, mayContain (frame before after) start.toList = false)
    (hquote : mayContain (frame before after) ['\x60'] = false)
    (hinsert : mayContain (frame before after) "INSERT INTO ".toList = false) {name : List Char}
    (hn : name.all isPrefixChar = true) :
    RuleSet.runSteps (prefixFree.map .always ++ [insertStep p]) (around before name after) =
      around before (renamed renames name) after := by
  have hrn := all_isPrefixChar_renamed (fun _ => plainPair_of_mem) hn
  rw [RuleSet.runSteps_append, runSteps_prefixFree hapart hwidth hn,
    text_apply_backquotes (not_infix_around hrn hquote), RuleSet.runSteps_cons,
    insertStep_unchanged (not_infix_around hrn hinsert), RuleSet.runSteps_nil]

/-- The lines of the three statements, as they are read. -/
def dropLine (name : List Char) : List Char := around "DROP TABLE IF EXISTS \x60" name "\x60;"

def createLine (name : List Char) : List Char := around "CREATE TABLE \x60" name "\x60 ("

def insertLine (name : List Char) : List Char := around "INSERT INTO \x60" name "\x60 VALUES (1);"

/-- A line that no built-in rule drops is what the steps leave of it. -/
theorem convertLine_around {before after : String} {name : List Char} (p : List Char)
    (hn : name.all isPrefixChar = true)
    (hskip : ∀ r ∈ builtinSkipRules, r.matcher.mayHold (frame before after) = false) :
    (RuleSet.builtin p).convertLine (around before name after) =
      .emitted (RuleSet.runSteps (builtinSteps p) (around before name after)) := by
  rw [← fill_frame]
  exact convertLine_of_fits p (fits_fill hn _) hskip

theorem convertLine_dropLine {p name : List Char} (hp : p.all isPrefixChar = true) (hne : name ≠ [])
    (hn : name.all isPrefixChar = true) :
    (RuleSet.builtin p).convertLine (dropLine name) =
      .emitted (around "DROP TABLE IF EXISTS " (renamed renames (p ++ name)) " CASCADE;") := by
  have hpn : (p ++ name).all isPrefixChar = true := by rw [List.all_append, hp, hn]; rfl
  have hdrop : ((dropTable p).apply (dropLine name)).text =
      around "DROP TABLE IF EXISTS " (p ++ name) " CASCADE;" :=
    text_apply_quoted "DROP TABLE IF EXISTS \x60" [';'] (walks_dropTable p) rfl (by decide)
      (by decide) hne hn [] rfl rfl (fun _ => rfl)
  have hnotCreate : ¬ "CREATE TABLE".toList <:+:
      around "DROP TABLE IF EXISTS " (p ++ name) " CASCADE;" := not_infix_around hpn (by decide)
  unfold dropLine at hdrop ⊢
  rw [convertLine_around p hn (by decide), builtinSteps_eq, RuleSet.runSteps_cons,
    EditStep.text_always, hdrop, RuleSet.runSteps_cons, createStep_unchanged hnotCreate,
    runSteps_later p ⟨by decide, by decide, by decide⟩ (by decide) (by decide) (by decide) hpn]

theorem convertLine_createLine {p name : List Char} (hp : p.all isPrefixChar = true) (hne : name ≠ [])
    (hn : name.all isPrefixChar = true) :
    (RuleSet.builtin p).convertLine (createLine name) =
      .emitted (around "CREATE TEMPORARY TABLE " (renamed renames (p ++ name)) " (") := by
  have hpn : (p ++ name).all isPrefixChar = true := by rw [List.all_append, hp, hn]; rfl
  have hdrop : ((dropTable p).apply (around "CREATE TABLE \x60" name "\x60 (")).text =
      around "CREATE TABLE \x60" name "\x60 (" :=
    text_apply_dropTable (not_infix_around hn (by decide))
  have hcreate : ((createTable p).apply (around "CREATE TABLE \x60" name "\x60 (")).text =
      around "CREATE TEMPORARY TABLE " (p ++ name) " (" :=
    text_apply_quoted "CREATE TABLE \x60" [] (walks_createTable p) rfl (by decide) (by decide) hne hn
      " (".toList rfl rfl (fun _ => rfl)
  have hoptions : (tableOptions.apply (around "CREATE TEMPORARY TABLE " (p ++ name) " (")).text =
      around "CREATE TEMPORARY TABLE " (p ++ name) " (" :=
    text_apply_tableOptions (not_infix_around hpn (by decide))
  have hcontains : containsText "CREATE TABLE".toList (around "CREATE TABLE \x60" name "\x60 (") = true :=
    containsText_iff.mpr
      (List.prefix_append "CREATE TABLE".toList (' ' :: '\x60' :: (name ++ "\x60 (".toList))).isInfix
  unfold createLine
  rw [convertLine_around p hn (by decide), builtinSteps_eq, RuleSet.runSteps_cons,
    EditStep.text_always, hdrop, RuleSet.runSteps_cons, text_createStep, if_pos hcontains, hcreate,
    hoptions,
    runSteps_later p ⟨by decide, by decide, by decide⟩ (by decide) (by decide) (by decide) hpn]

/-! ## Where rows are inserted -/

/-- The letters that a name begins with. -/
def leadOf (name : List Char) : List Char := name.takeWhile insertName.mem

/-- Behind the keyword as many letters are taken as the name begins with, but at least one. -/
theorem matchAt_insertItems (name : List Char) {after : String}
    (hstop : after.toList.takeWhile insertName.mem = []) :
    matchAt insertItems none (around "INSERT INTO " name after) =
      if leadOf name = [] then none
      else some ("INSERT INTO ".toList ++ leadOf name, [leadOf name]) := by
  have hrun : (name ++ after.toList).takeWhile insertName.mem = leadOf name := by
    rw [List.takeWhile_append]
    split
    · rename_i hwhole
      rw [hstop, List.append_nil]
      exact ((List.takeWhile_prefix _).eq_of_length hwhole).symm
    · rfl
  have hmatch : matchAt insertItems none (around "INSERT INTO " name after) =
      (matchAt [.run insertName true] (some ' ') (name ++ after.toList)).map
        fun found => ("INSERT INTO ".toList ++ found.1, found.2) :=
    matchAt_literal_append "INSERT INTO ".toList [.run insertName true] none (name ++ after.toList)
  rw [hmatch]
  by_cases hlead : leadOf name = []
  · simp [matchAt, hrun, hlead]
  · simp [matchAt, hrun, hlead]

theorem text_apply_insertTable_of_lead {p name : List Char} {after : String}
    (hn : name.all isPrefixChar = true) (hstop : after.toList.takeWhile insertName.mem = [])
    (hbehind : mayContain (frame "" after) "INSERT INTO ".toList = false) (hlead : leadOf name ≠ []) :
    ((insertTable p).apply (around "INSERT INTO " name after)).text =
      around "INSERT INTO " (p ++ name) after := by
  obtain ⟨tail, htail⟩ : leadOf name <+: name := List.takeWhile_prefix _
  have hall : tail.all isPrefixChar = true := by
    rw [← htail, List.all_append, Bool.and_eq_true] at hn
    exact hn.2
  have hempty : "".toList = [] := rfl
  have hparts : around "INSERT INTO " name after =
      ("INSERT INTO ".toList ++ leadOf name) ++ around "" tail after := by
    unfold around
    rw [hempty, List.nil_append, List.append_assoc, ← List.append_assoc (leadOf name), htail]
  have hmatch := matchAt_insertItems name hstop
  rw [if_neg hlead, hparts] at hmatch
  have hrest : ∀ before, piecesFrom insertItems before (around "" tail after) =
      (around "" tail after).map .kept := fun before =>
    piecesFrom_of_not_infix [] [.run insertName true] before (not_infix_around hall hbehind)
  have hreplace : (insertTable p).replace
      ⟨"INSERT INTO ".toList ++ leadOf name, [leadOf name].map some⟩ =
      "INSERT INTO ".toList ++ p ++ leadOf name := by
    have hexpand := Template.expand_read_prefixed "INSERT INTO " "" p (insertTable p).pattern.names
      ⟨"INSERT INTO ".toList ++ leadOf name, [leadOf name].map some⟩ (by decide) (by decide)
    rw [hempty, List.append_nil] at hexpand
    exact hexpand
  rw [Substitution.text_apply (walks_insertTable p), hparts,
    piecesFrom_hit (walks_insertTable p).takes hmatch, hrest, replaced_cons_hit, replaced_kept,
    hreplace]
  unfold around
  rw [hempty, List.nil_append, List.append_assoc, List.append_assoc, List.append_assoc,
    ← List.append_assoc (leadOf name), htail]

theorem text_apply_insertTable_of_no_lead {p name : List Char} {after : String}
    (hn : name.all isPrefixChar = true) (hstop : after.toList.takeWhile insertName.mem = [])
    (hwithin : mayContain (frame "NSERT INTO " after) "INSERT INTO ".toList = false)
    (hlead : leadOf name = []) :
    ((insertTable p).apply (around "INSERT INTO " name after)).text =
      around "INSERT INTO " name after := by
  have hcons : around "INSERT INTO " name after = 'I' :: around "NSERT INTO " name after := rfl
  have hmatch := matchAt_insertItems name hstop
  rw [if_pos hlead, hcons] at hmatch
  have hrest : piecesFrom insertItems (some 'I') (around "NSERT INTO " name after) =
      (around "NSERT INTO " name after).map .kept :=
    piecesFrom_of_not_infix [] [.run insertName true] (some 'I') (not_infix_around hn hwithin)
  rw [Substitution.text_apply (walks_insertTable p), hcons, piecesFrom_kept hmatch, hrest,
    replaced_cons_kept, replaced_kept]

/-- The prefix is set before a name that begins with a letter. -/
theorem insertStep_around {p name : List Char} {after : String} (hn : name.all isPrefixChar = true)
    (hstop : after.toList.takeWhile insertName.mem = [])
    (hbehind : mayContain (frame "" after) "INSERT INTO ".toList = false)
    (hwithin : mayContain (frame "NSERT INTO " after) "INSERT INTO ".toList = false) :
    ((insertStep p).apply (around "INSERT INTO " name after)).text =
      around "INSERT INTO " (if leadOf name = [] then name else p ++ name) after := by
  have hbegins : "INSERT INTO ".toList.isPrefixOf (around "INSERT INTO " name after) = true :=
    List.isPrefixOf_iff_prefix.mpr (List.prefix_append _ _)
  rw [text_insertStep, if_pos hbegins]
  split
  · rename_i hlead
    exact text_apply_insertTable_of_no_lead hn hstop hwithin hlead
  · rename_i hlead
    exact text_apply_insertTable_of_lead hn hstop hbehind hlead

theorem backquotes_replace (name : List Char) :
    backquotes.replace ⟨'\x60' :: (name ++ ['\x60']), [some name]⟩ = name := by
  have hplain : backquotes.replacement = prefixed "" [] "" := rfl
  unfold Substitution.replace
  rw [hplain, Template.expand_read_prefixed _ _ _ _ _ (by decide) (by decide)]
  exact List.append_nil name

theorem piecesFrom_quoteItems_append {a : List Char} (ha : '\x60' ∉ a) (rest : List Char) :
    piecesFrom quoteItems none (a ++ rest) = a.map .kept ++ piecesFrom quoteItems (a.getLast?.or none) rest := by
  refine piecesFrom_append_kept _ _ _ _ fun u c v hx => matchAt_single_ne _ _ _ ?_
  rintro rfl
  exact ha (hx ▸ List.mem_append_right u List.mem_cons_self)

theorem piecesFrom_quoteItems_of_not_mem {b : List Char} (hb : '\x60' ∉ b) (before : Option Char) :
    piecesFrom quoteItems before b = b.map .kept := by
  have hinfix : ¬ ['\x60'] <:+: b := fun hin => hb (hin.subset List.mem_cons_self)
  exact piecesFrom_of_not_infix [] (quotedName :: literal ['\x60']) before hinfix

/-- A name that is all there is between quotes loses them. -/
theorem text_apply_backquotes_name {a b name : List Char} (ha : '\x60' ∉ a) (hb : '\x60' ∉ b)
    (hne : name ≠ []) (hname : '\x60' ∉ name) :
    (backquotes.apply (a ++ '\x60' :: (name ++ '\x60' :: b))).text = a ++ (name ++ b) := by
  have hparts : '\x60' :: (name ++ '\x60' :: b) = ('\x60' :: (name ++ ['\x60'])) ++ b := by simp
  have hmatch : ∀ before, matchAt quoteItems before (('\x60' :: (name ++ ['\x60'])) ++ b) =
      some ('\x60' :: (name ++ ['\x60']), [name]) := by
    intro before
    have h := matchAt_quoted ['\x60'] [] b before hne hname
    rw [List.cons_append, List.append_assoc]
    exact h
  rw [Substitution.text_apply walks_backquotes, piecesFrom_quoteItems_append ha, hparts,
    piecesFrom_hit walks_backquotes.takes (hmatch _), piecesFrom_quoteItems_of_not_mem hb,
    replaced_append, replaced_kept, replaced_cons_hit, replaced_kept, List.map_singleton,
    backquotes_replace]

/-- Quotes with nothing between them stay. -/
theorem text_apply_backquotes_nothing {a b : List Char} (ha : '\x60' ∉ a) (hb : '\x60' ∉ b) :
    (backquotes.apply (a ++ '\x60' :: '\x60' :: b)).text = a ++ '\x60' :: '\x60' :: b := by
  have hfirst : ∀ before, matchAt quoteItems before ('\x60' :: '\x60' :: b) = none := fun _ => rfl
  have hsecond : ∀ before, matchAt quoteItems before ('\x60' :: b) = none := by
    intro before
    by_contra hsome
    have hopen : (matchAt ([.char (.single '\x60'), quotedName] ++ (literal ['\x60'] ++ [])) before
        ('\x60' :: b)).isSome = true := Option.isSome_iff_ne_none.mpr hsome
    rw [List.cons_append, matchAt_single_self, Option.isSome_map] at hopen
    have hclosed : (matchAt ([quotedName] ++ (literal ['\x60'] ++ [])) (some '\x60') b).isSome = true :=
      hopen
    exact hb ((infix_of_matchAt hclosed).subset List.mem_cons_self)
  rw [Substitution.text_apply walks_backquotes, piecesFrom_quoteItems_append ha,
    piecesFrom_kept (hfirst _), piecesFrom_kept (hsecond _), piecesFrom_quoteItems_of_not_mem hb,
    replaced_append, replaced_kept, replaced_cons_kept, replaced_cons_kept, replaced_kept]

/-- What the quotes leave of the line that inserts rows; a name that is gone cannot lose its quotes. -/
theorem text_apply_backquotes_insertLine {name : List Char} (hn : name.all isPrefixChar = true) :
    (backquotes.apply (insertLine name)).text =
      if name = [] then around "INSERT INTO " [] "\x60\x60 VALUES (1);"
      else around "INSERT INTO " name " VALUES (1);" := by
  split
  · rename_i hempty
    rw [hempty]
    rfl
  · rename_i hne
    exact text_apply_backquotes_name (a := "INSERT INTO ".toList) (b := " VALUES (1);".toList)
      (by decide) (by decide) hne (not_quote_of_all hn)

/-- The name under which rows are inserted. -/
def insertedName (p name : List Char) : List Char :=
  if name = [] then ['\x60', '\x60']
  else if leadOf name = [] then name
  else p ++ name

theorem convertLine_insertLine {p name : List Char} (hn : name.all isPrefixChar = true) :
    (RuleSet.builtin p).convertLine (insertLine name) =
      .emitted (around "INSERT INTO " (insertedName p (renamed renames name)) " VALUES (1);") := by
  have hrn := all_isPrefixChar_renamed (fun _ => plainPair_of_mem) hn
  have hdrop : ((dropTable p).apply (around "INSERT INTO \x60" name "\x60 VALUES (1);")).text =
      around "INSERT INTO \x60" name "\x60 VALUES (1);" :=
    text_apply_dropTable (not_infix_around hn (by decide))
  have hnotCreate : ¬ "CREATE TABLE".toList <:+:
      around "INSERT INTO \x60" name "\x60 VALUES (1);" := not_infix_around hn (by decide)
  have hquote := text_apply_backquotes_insertLine hrn
  have hinsert : ((insertStep p).apply (backquotes.apply (insertLine (renamed renames name))).text).text =
      around "INSERT INTO " (insertedName p (renamed renames name)) " VALUES (1);" := by
    rw [hquote]
    unfold insertedName
    split
    · exact insertStep_around rfl (by decide) (by decide) (by decide)
    · exact insertStep_around hrn (by decide) (by decide) (by decide)
  unfold insertLine at hinsert ⊢
  rw [convertLine_around p hn (by decide), builtinSteps_eq, RuleSet.runSteps_cons,
    EditStep.text_always, hdrop, RuleSet.runSteps_cons, createStep_unchanged hnotCreate,
    RuleSet.runSteps_append, runSteps_prefixFree ⟨by decide, by decide, by decide⟩ (by decide) hn,
    RuleSet.runSteps_cons, hinsert, RuleSet.runSteps_nil]

/-- A name that begins with a digit goes without the prefix. -/
example : (RuleSet.builtin "temp_".toList).convertLine (insertLine "2020_log".toList) =
    .emitted "INSERT INTO 2020_log VALUES (1);".toList := by
  rw [convertLine_insertLine (by decide)]
  rfl

/-! ## One name for one table -/

theorem insertName_mem {c : Char} (h : isPrefixChar c = true) : insertName.mem c = !c.isDigit := by
  have hmem : insertName.mem c = true ↔
      (97 ≤ c.toNat ∧ c.toNat ≤ 122) ∨ (65 ≤ c.toNat ∧ c.toNat ≤ 90) ∨ c = '_' := by
    simp only [insertName, CharSet.mem, Bool.or_eq_true, Bool.and_eq_true, decide_eq_true_eq,
      beq_iff_eq, Char.le_def, UInt32.le_iff_toNat_le]
    rfl
  have hdigit : c.isDigit = true ↔ 48 ≤ c.toNat ∧ c.toNat ≤ 57 := Char.isDigit_iff_toNat
  rw [Bool.eq_iff_iff, Bool.not_eq_true', ← Bool.not_eq_true, hdigit, hmem]
  rcases isPrefixChar_iff.mp h with h | h | h | rfl
  · omega
  · omega
  · have hne : c ≠ '_' := by
      rintro rfl
      revert h
      decide
    simp only [hne, or_false]
    omega
  · decide

theorem renamed_of_underscore {w : List Char} (h : '_' ∈ w) :
    renamed renames w = w ↔ w ≠ "AUTO_INCREMENT".toList := by
  rw [renamed_eq_self]
  have hother : ∀ pair ∈ renames, '_' ∈ pair.1.toList → pair.1.toList = "AUTO_INCREMENT".toList := by
    decide
  have hmem : ("AUTO_INCREMENT", "") ∈ renames := by decide
  constructor
  · intro hall
    exact hall _ hmem
  · rintro hne pair hpair rfl
    exact hne (hother pair hpair h)

/-- A word that is replaced is inserted into under another name. -/
theorem insertedName_of_word {p : List Char} (hp : p.all isPrefixChar = true) (hpne : p ≠ [])
    {pair : String × String} (hpair : pair ∈ renames) :
    insertedName p (renamed renames pair.1.toList) ≠ p ++ pair.1.toList := by
  have hall : ∀ q ∈ renames, renamed renames q.1.toList = [] ∨
      (leadOf (renamed renames q.1.toList) ≠ [] ∧ renamed renames q.1.toList ≠ q.1.toList) := by
    decide
  unfold insertedName
  rcases hall pair hpair with hgone | ⟨hletter, hother⟩
  · rw [if_pos hgone]
    intro he
    obtain ⟨c, p, rfl⟩ := List.exists_cons_of_ne_nil hpne
    rw [List.cons_append, List.cons.injEq] at he
    rw [List.all_cons, ← he.1] at hp
    revert hp
    simp [isPrefixChar]
  · have hfull : renamed renames pair.1.toList ≠ [] := by
      intro he
      rw [he] at hletter
      exact hletter rfl
    rw [if_neg hfull, if_neg hletter]
    exact fun he => hother (List.append_cancel_left he)

/-- Any other name gets the prefix unless a digit stands in front. -/
theorem insertedName_of_name {p name : List Char} (hpne : p ≠ []) (hne : name ≠ [])
    (hn : name.all isPrefixChar = true) :
    insertedName p name = p ++ name ↔ ∀ c ∈ name.head?, c.isDigit = false := by
  obtain ⟨c, rest, rfl⟩ := List.exists_cons_of_ne_nil hne
  rw [List.all_cons, Bool.and_eq_true] at hn
  have hmem := insertName_mem hn.1
  unfold insertedName leadOf
  rw [if_neg hne]
  cases hd : c.isDigit with
  | true =>
    rw [hd] at hmem
    have hlead : (c :: rest).takeWhile insertName.mem = [] :=
      List.takeWhile_cons_of_neg (by simp [hmem])
    rw [if_pos hlead]
    constructor
    · intro he
      have hlength := congrArg List.length he
      have hpos := List.length_pos_of_ne_nil hpne
      rw [List.length_append] at hlength
      omega
    · intro h
      have hno := h c rfl
      rw [hd] at hno
      cases hno
  | false =>
    rw [hd] at hmem
    have hlead : (c :: rest).takeWhile insertName.mem ≠ [] := by simp [hmem]
    rw [if_neg hlead]
    refine ⟨fun _ => ?_, fun _ => rfl⟩
    rintro d ⟨⟩
    exact hd

/-- The rows go to the name with the prefix exactly when the name has no digit in front and is no word
that is replaced. -/
theorem insertedName_eq {p name : List Char} (hp : p.all isPrefixChar = true) (hpne : p ≠ [])
    (hne : name ≠ []) (hn : name.all isPrefixChar = true) :
    insertedName p (renamed renames name) = p ++ name ↔
      (∀ c ∈ name.head?, c.isDigit = false) ∧ ∀ pair ∈ renames, name ≠ pair.1.toList := by
  by_cases hfree : ∀ pair ∈ renames, name ≠ pair.1.toList
  · rw [renamed_of_ne hfree, insertedName_of_name hpne hne hn]
    exact ⟨fun h => ⟨h, hfree⟩, fun h => h.1⟩
  · refine ⟨fun he => ?_, fun h => absurd h.2 hfree⟩
    refine absurd (fun pair hpair hword => ?_) hfree
    rw [hword] at he
    exact insertedName_of_word hp hpne hpair he

/-- Under a prefix with an underscore, a table is dropped and created under the prefix and its name
unless the two together are the word that is taken out. Rows are inserted under that name exactly when
the name has no digit in front and is no word of its own that is replaced. -/
theorem a_table_keeps_one_name_exactly {p name : List Char} (hp : checkTablePrefix p = .ok ())
    (hunder : '_' ∈ p) (hne : name ≠ []) (hn : name.all isPrefixChar = true) :
    ((RuleSet.builtin p).convertLine (dropLine name) =
        .emitted (around "DROP TABLE IF EXISTS " (p ++ name) " CASCADE;") ↔
      p ++ name ≠ "AUTO_INCREMENT".toList) ∧
    ((RuleSet.builtin p).convertLine (createLine name) =
        .emitted (around "CREATE TEMPORARY TABLE " (p ++ name) " (") ↔
      p ++ name ≠ "AUTO_INCREMENT".toList) ∧
    ((RuleSet.builtin p).convertLine (insertLine name) =
        .emitted (around "INSERT INTO " (p ++ name) " VALUES (1);") ↔
      (∀ c ∈ name.head?, c.isDigit = false) ∧ ∀ pair ∈ renames, name ≠ pair.1.toList) := by
  have hall := checkTablePrefix_eq_ok.mp hp
  have hboth : '_' ∈ p ++ name := List.mem_append_left name hunder
  refine ⟨?_, ?_, ?_⟩
  · rw [convertLine_dropLine hall hne hn, Outcome.emitted.injEq, around_inj]
    exact renamed_of_underscore hboth
  · rw [convertLine_createLine hall hne hn, Outcome.emitted.injEq, around_inj]
    exact renamed_of_underscore hboth
  · rw [convertLine_insertLine hn, Outcome.emitted.injEq, around_inj]
    exact insertedName_eq hall (List.ne_nil_of_mem hunder) hne hn

theorem one_name_for_the_table_of_users :
    checkTablePrefix "temp_".toList = .ok () ∧ '_' ∈ "temp_".toList ∧ "users".toList ≠ [] ∧
    "users".toList.all isPrefixChar = true ∧
    (RuleSet.builtin "temp_".toList).convertLine (dropLine "users".toList) =
      .emitted (around "DROP TABLE IF EXISTS " "temp_users".toList " CASCADE;") ∧
    (RuleSet.builtin "temp_".toList).convertLine (createLine "users".toList) =
      .emitted (around "CREATE TEMPORARY TABLE " "temp_users".toList " (") ∧
    (RuleSet.builtin "temp_".toList).convertLine (insertLine "users".toList) =
      .emitted (around "INSERT INTO " "temp_users".toList " VALUES (1);") := by
  have hp : checkTablePrefix "temp_".toList = .ok () := rfl
  have hunder : '_' ∈ "temp_".toList := by decide
  have hne : "users".toList ≠ [] := by decide
  have hn : "users".toList.all isPrefixChar = true := by decide
  have hletter : ∀ c ∈ "users".toList.head?, c.isDigit = false := by
    intro c hc
    obtain rfl : 'u' = c := Option.some.inj hc
    rfl
  obtain ⟨hdrop, hcreate, hinsert⟩ := a_table_keeps_one_name_exactly hp hunder hne hn
  exact ⟨hp, hunder, hne, hn, hdrop.mpr (by decide), hcreate.mpr (by decide),
    hinsert.mpr ⟨hletter, by decide⟩⟩

end SqlDump
