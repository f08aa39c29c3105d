-- The name of a column on its way through the pipeline, next to its type. The types and the words that are
-- taken out are words wherever they stand, so exactly a column named by one of them loses its name.
import SqlDump.Proofs.TableNames
import SqlDump.Proofs.TypePass

namespace SqlDump

open Regex Regex.Sequence Marked
open Unicode (isWord)

/-! ## Words put together -/

namespace Spaced

variable {ws : List (List Char)}

theorem cons_other {c : Char} (hc : isWord c = false) (hne : c ≠ ')') (h : Spaced ws) :
    Spaced ([c] :: ws) := by
  refine ⟨.other hc, ?_, h⟩
  rintro (hends | he)
  · have hword : isWord c = true := hends
    rw [hc] at hword
    cases hword
  · exact absurd (List.head_eq_of_cons_eq he) hne

theorem cons_word {w : List Char} (hne : w ≠ []) (hall : w.all isWord = true)
    (hnext : beginsWord ws.flatten = false) (h : Spaced ws) : Spaced (w :: ws) :=
  ⟨.word hne hall, fun _ => hnext, h⟩

end Spaced

/-! ## Columns -/

/-- A type as it is written: its name, and the words behind it. -/
def ColumnType.written (t : ColumnType) (f : List (List Char)) : List Char := t.name.toList ++ f.flatten

/-- The line that defines a column, its name in backquotes. -/
def columnLine (name type : List Char) : List Char :=
  "  \x60".toList ++ (name ++ ("\x60 ".toList ++ (type ++ " NOT NULL,".toList)))

/-- The line without the backquotes. -/
def plainColumn (name type : List Char) : List Char :=
  "  ".toList ++ (name ++ (" ".toList ++ (type ++ " NOT NULL,".toList)))

/-- The words of a line before the column's name. -/
def beforeName : List (List Char) := [[' '], [' '], ['\x60']]

/-- The words between the name and the type. -/
def beforeType : List (List Char) := [['\x60'], [' ']]

/-- The words behind the type. -/
def behindType : List (List Char) := [[' '], "NOT".toList, [' '], "NULL".toList, [',']]

theorem columnLine_eq_flatten (name : List Char) (type : List (List Char)) :
    columnLine name type.flatten =
      (beforeName ++ name :: (beforeType ++ (type ++ behindType))).flatten := by
  simp [columnLine, beforeName, beforeType, behindType]

/-! ## What a column's line can contain -/

/-- What is known of a word of the kind. -/
def WordKind.place : WordKind → Option Char
  | mark c => some c
  | number => none

/-- What is known of the line of a column with a given type. -/
def columnFrame (t : ColumnType) : Marked :=
  plain "  \x60".toList ++ none :: (plain "\x60 ".toList ++
    ((plain t.name.toList ++ t.extent.kinds.map WordKind.place) ++ plain " NOT NULL,".toList))

/-- The words are of characters below 128. -/
def AsciiWords (f : List (List Char)) : Prop := ∀ w ∈ f, ∀ c ∈ w, c.toNat < 128

theorem isPrefixChar_of_isDigit {c : Char} (hascii : c.toNat < 128) (h : Unicode.isDigit c = true) :
    isPrefixChar c = true := by
  unfold Unicode.isDigit at h
  rw [if_pos hascii] at h
  have hdigit : 48 ≤ c.toNat ∧ c.toNat ≤ 57 := Char.isDigit_iff_toNat.mp h
  rw [isPrefixChar_iff]
  simp [hdigit]

theorem fits_words {ks : List WordKind} {f : List (List Char)} (hf : WordKind.AllFit ks f)
    (hascii : AsciiWords f) : Fits (ks.map WordKind.place) f.flatten := by
  induction hf with
  | nil => rfl
  | @cons k w ks f hw _ ih =>
    have hrest := ih fun v hv => hascii v (List.mem_cons_of_mem w hv)
    rw [List.map_cons, List.flatten_cons]
    cases k with
    | mark c =>
      obtain rfl := eq_of_beq hw
      exact ⟨f.flatten, rfl, hrest⟩
    | number =>
      refine ⟨w, f.flatten, rfl, List.all_eq_true.mpr fun c hc => ?_, hrest⟩
      have hdigits : w.all Unicode.isDigit = true := (Bool.and_eq_true_iff.mp hw).2
      exact isPrefixChar_of_isDigit (hascii w List.mem_cons_self c hc)
        (List.all_eq_true.mp hdigits c hc)

variable {t : ColumnType} {f : List (List Char)} {name : List Char}

theorem fits_columnLine (hf : WordKind.AllFit t.extent.kinds f) (hascii : AsciiWords f)
    (hn : name.all isPrefixChar = true) : Fits (columnFrame t) (columnLine name (t.written f)) := by
  have htype := (fits_plain t.name.toList).append (fits_words hf hascii)
  have hrest := (fits_plain "\x60 ".toList).append (htype.append (fits_plain " NOT NULL,".toList))
  exact (fits_plain "  \x60".toList).append ⟨name, _, rfl, hn, hrest⟩

/-- No built-in rule drops the line of a column. -/
theorem not_skipped_columnLine (p : List Char) (ht : t ∈ columnTypes)
    (hf : WordKind.AllFit t.extent.kinds f) (hascii : AsciiWords f) (hn : name.all isPrefixChar = true) :
    (RuleSet.builtin p).convertLine (columnLine name (t.written f)) =
      .emitted (RuleSet.runSteps (builtinSteps p) (columnLine name (t.written f))) := by
  have hskip : ∀ t ∈ columnTypes, ∀ r ∈ builtinSkipRules, r.matcher.mayHold (columnFrame t) = false := by
    decide
  exact convertLine_of_fits p (fits_columnLine hf hascii hn) (hskip t ht)

/-- Neither of the first two steps changes it. -/
theorem firstSteps_columnLine (p : List Char) (ht : t ∈ columnTypes)
    (hf : WordKind.AllFit t.extent.kinds f) (hascii : AsciiWords f) (hn : name.all isPrefixChar = true) :
    ((dropTable p).apply (columnLine name (t.written f))).text = columnLine name (t.written f) ∧
      ((createStep p).apply (columnLine name (t.written f))).text = columnLine name (t.written f) := by
  have hdrop : ∀ t ∈ columnTypes,
      mayContain (columnFrame t) "DROP TABLE IF EXISTS \x60".toList = false := by decide
  have hcreate : ∀ t ∈ columnTypes, mayContain (columnFrame t) "CREATE TABLE".toList = false := by decide
  have hfits := fits_columnLine hf hascii hn
  exact ⟨text_apply_dropTable (not_infix_of_fits hfits (hdrop t ht)),
    createStep_unchanged (not_infix_of_fits hfits (hcreate t ht))⟩

/-! ## The types -/

open ColumnType WordKind

/-- What stands behind the name of a type are words of its text. -/
theorem spaced_written (ht : t ∈ columnTypes) (hf : AllFit t.extent.kinds f) :
    Spaced (t.name.toList :: f) := by
  have hname := (sound_of_mem ht).name
  have hmark : ∀ {c : Char} {w : List Char}, (mark c).fits w = true → w = [c] := fun h => eq_of_beq h
  have hclose : Spaced [[')']] := ⟨.other (by decide), fun _ => rfl, trivial⟩
  have hnumber : ∀ {n : List Char} {ws : List (List Char)}, isNumber n = true → Spaced ws →
      beginsWord ws.flatten = false → Spaced (n :: ws) := by
    intro n ws hn hws hnext
    rw [isNumber, Bool.and_eq_true, Bool.not_eq_true', List.isEmpty_eq_false_iff] at hn
    refine .cons_word hn.1 (List.all_eq_true.mpr fun c hc => ?_) hnext hws
    exact Unicode.isWord_of_isDigit (List.all_eq_true.mp hn.2 c hc)
  cases he : t.extent with
  | bare =>
    rw [he] at hf
    cases hf
    exact .cons_word hname.ne_nil hname.all rfl trivial
  | width =>
    rw [he] at hf
    obtain ⟨_, _, hopen, ⟨n, _, hn, ⟨_, _, hend, hnil, rfl⟩, rfl⟩, rfl⟩ := by
      simpa only [Extent.kinds, List.forall₂_cons_left_iff] using hf
    cases hnil
    obtain rfl := hmark hopen
    obtain rfl := hmark hend
    refine .cons_word hname.ne_nil hname.all rfl (.cons_other (by decide) (by decide) ?_)
    exact hnumber hn hclose rfl
  | scale =>
    rw [he] at hf
    obtain ⟨_, _, hopen, ⟨n, _, hn, ⟨_, _, hcomma, ⟨m, _, hm, ⟨_, _, hend, hnil, rfl⟩, rfl⟩, rfl⟩,
      rfl⟩, rfl⟩ := by
      simpa only [Extent.kinds, List.forall₂_cons_left_iff] using hf
    cases hnil
    obtain rfl := hmark hopen
    obtain rfl := hmark hcomma
    obtain rfl := hmark hend
    refine .cons_word hname.ne_nil hname.all rfl (.cons_other (by decide) (by decide) ?_)
    refine hnumber hn (.cons_other (by decide) (by decide) ?_) rfl
    exact hnumber hm hclose rfl

/-- A column's line from the name on, word by word. -/
theorem spaced_behindName {type : List (List Char)} (h : Spaced type) :
    Spaced (beforeType ++ (type ++ behindType)) := by
  have hwords : tokens " NOT NULL,".toList = behindType := by decide
  have hbehind : Spaced behindType := hwords ▸ spaced_tokens (by decide)
  exact .cons_other (by decide) (by decide) (.cons_other (by decide) (by decide)
    (h.append hbehind rfl))

theorem spaced_columnLine {type : List (List Char)} (h : Spaced type) (hne : name ≠ [])
    (hall : name.all isWord = true) : Spaced (beforeName ++ name :: (beforeType ++ (type ++ behindType))) :=
  .cons_other (by decide) (by decide) (.cons_other (by decide) (by decide)
    (.cons_other (by decide) (by decide) (.cons_word hne hall rfl (spaced_behindName h))))

/-- The words that are types by themselves, and what they are converted to. -/
def typeRenames : List (String × String) := renames.take 6

/-- The words that are taken out. -/
def removals : List (String × String) := renames.drop 6

theorem renamed_removals (name : List Char) :
    renamed removals (renamed typeRenames name) = renamed renames name := by
  unfold renamed removals typeRenames
  rw [← List.foldl_append, List.take_append_drop]

/-- A name in quotes is converted where it is a type without a width. -/
theorem pass_name (name : List Char) (ws : List (List Char)) :
    pass columnTypes 0 (name :: ['\x60'] :: ws) =
      renamed typeRenames name :: pass columnTypes 0 (['\x60'] :: ws) := by
  by_cases hbare : ∃ u ∈ columnTypes, u.extent = .bare ∧ name = u.name.toList
  · obtain ⟨u, hu, he, rfl⟩ := hbare
    have hnew : ∀ u ∈ columnTypes, u.extent = .bare →
        u.converted [] = [renamed typeRenames u.name.toList] := by decide
    have hf : WordKind.AllFit u.extent.kinds [] := by
      rw [he]
      exact .nil
    have hhit := pass_hit (List.Subset.refl _) hu hf (['\x60'] :: ws)
    rw [List.nil_append, hnew u hu he] at hhit
    exact hhit
  · have hnone : ∀ u ∈ columnTypes, u.convert? name (['\x60'] :: ws) = none := by
      intro u hu
      by_contra hsome
      obtain ⟨r, hr⟩ := Option.ne_none_iff_exists'.mp hsome
      obtain ⟨hname, g, rest, hws, hg, -⟩ := convert?_eq_some.mp hr
      -- a type with a width goes on with a bracket
      cases he : u.extent with
      | bare => exact hbare ⟨u, hu, he, hname⟩
      | width | scale =>
        rw [he] at hg
        obtain ⟨v, g, hv, -, rfl⟩ := List.forall₂_cons_left_iff.mp hg
        obtain rfl : ['\x60'] = v := (List.cons.inj hws).1
        cases hv
    have hwords : ∀ pair ∈ typeRenames, ∃ u ∈ columnTypes, u.extent = .bare ∧
        pair.1.toList = u.name.toList := by decide
    have hsame : renamed typeRenames name = name := by
      refine renamed_of_ne fun pair hpair hname => hbare ?_
      obtain ⟨u, hu, he, hpairName⟩ := hwords pair hpair
      exact ⟨u, hu, he, hname.trans hpairName⟩
    rw [pass_kept hnone, hsame]

/-- The types' steps convert the type, and the name where it is a type itself. -/
theorem runSteps_types_columnLine (ht : t ∈ columnTypes) (hf : WordKind.AllFit t.extent.kinds f)
    (hne : name ≠ []) (hall : name.all isWord = true) :
    RuleSet.runSteps (typeMappings.map .always) (columnLine name (t.written f)) =
      columnLine (renamed typeRenames name) (t.converted f).flatten := by
  have hwritten : t.written f = (t.name.toList :: f).flatten := rfl
  have hspaced := spaced_columnLine (spaced_written ht hf) hne hall
  have hmarks : ∀ w ∈ beforeName, ∀ t ∈ columnTypes, w ≠ t.name.toList := by decide
  have hblanks : ∀ w ∈ beforeType, ∀ t ∈ columnTypes, w ≠ t.name.toList := by decide
  have hwords : ∀ w ∈ behindType, ∀ t ∈ columnTypes, w ≠ t.name.toList := by decide
  have hname := pass_name name ([' '] :: ((t.name.toList :: f) ++ behindType))
  have htype := pass_append hblanks (t.name.toList :: (f ++ behindType))
  have hend := pass_append hwords []
  rw [List.append_nil] at hend
  rw [pass_hit (List.Subset.refl _) ht hf, hend] at htype
  rw [hwritten, columnLine_eq_flatten, columnLine_eq_flatten,
    Converts.runSteps converts_typeMappings (List.Subset.refl _) hspaced, pass_append hmarks]
  have hcut : beforeType ++ ((t.name.toList :: f) ++ behindType) =
      ['\x60'] :: [' '] :: ((t.name.toList :: f) ++ behindType) := rfl
  rw [hcut, hname, ← hcut]
  exact congrArg (fun ws => (beforeName ++ renamed typeRenames name :: ws).flatten) htype

/-! ## The words that are taken out -/

/-- No word of a new type is taken out. -/
theorem not_removed_of_converted (ht : t ∈ columnTypes) (hf : AllFit t.extent.kinds f) :
    ∀ pair ∈ removals, pair.1.toList ∉ t.converted f := by
  have hnew : ∀ pair ∈ removals, ∀ t ∈ columnTypes, pair.1.toList ∉ tokens t.new.toList := by decide
  have hbegins : ∀ pair ∈ removals, beginsName pair.1.toList = true := by decide
  intro pair hpair hmem
  rcases List.mem_append.mp hmem with hmem | hmem
  · exact hnew pair hpair t ht hmem
  · split at hmem
    · have hnot := not_beginsName_of_mem t.extent.settled_kinds hf _ hmem
      rw [hbegins pair hpair] at hnot
      cases hnot
    · cases hmem

theorem runSteps_removals_columnLine (ht : t ∈ columnTypes) (hf : AllFit t.extent.kinds f)
    (hn : name.all isPrefixChar = true) :
    RuleSet.runSteps ([autoIncrement, unsigned].map .always) (columnLine name (t.converted f).flatten) =
      columnLine (renamed removals name) (t.converted f).flatten := by
  have hspaced := spaced_behindName (spaced_converted ht (spaced_written ht hf))
  have hafter : ∀ name, columnLine name (t.converted f).flatten =
      around "  \x60" name (String.ofList (beforeType ++ (t.converted f ++ behindType)).flatten) := by
    intro name
    simp [columnLine, around, beforeType, behindType]
  have hapart : Apart removals "  \x60"
      (String.ofList (beforeType ++ (t.converted f ++ behindType)).flatten) := by
    refine ⟨by decide, ?_, fun pair hpair => ⟨?_, ?_⟩⟩
    · rw [String.toList_ofList]
      rfl
    · have hbefore : ∀ pair ∈ removals, pair.1.toList ∉ tokens "  \x60".toList := by decide
      exact hbefore pair hpair
    · have hblanks : ∀ pair ∈ removals, pair.1.toList ∉ beforeType ∧ pair.1.toList ∉ behindType := by
        decide
      rw [String.toList_ofList, tokens_flatten hspaced.parted, List.mem_append, List.mem_append, not_or,
        not_or]
      exact ⟨(hblanks pair hpair).1, not_removed_of_converted ht hf pair hpair, (hblanks pair hpair).2⟩
  have hpairs : ∀ pair ∈ removals, PlainPair pair := fun pair hpair =>
    plainPair_of_mem (List.mem_of_mem_drop hpair)
  have hsubs : List.Forall₂ Renames [autoIncrement, unsigned] removals :=
    List.forall₂_drop 6 renames_wordMappings
  rw [hafter, hafter, runSteps_renamed hsubs hpairs hapart hn]

/-! ## The quotes -/

theorem not_quote_of_allFit {ks : List WordKind} (hks : .mark '\x60' ∉ ks) (hf : AllFit ks f) :
    '\x60' ∉ f.flatten := by
  induction hf with
  | nil => simp
  | @cons k w ks f hw _ ih =>
    rw [List.mem_cons, not_or] at hks
    rw [List.flatten_cons, List.mem_append, not_or]
    refine ⟨fun hmem => ?_, ih hks.2⟩
    cases k with
    | mark c =>
      obtain rfl := eq_of_beq hw
      obtain rfl := List.mem_singleton.mp hmem
      exact hks.1 rfl
    | number =>
      have hdigit := List.all_eq_true.mp (Bool.and_eq_true_iff.mp hw).2 _ hmem
      cases hdigit

theorem not_quote_converted (ht : t ∈ columnTypes) (hf : AllFit t.extent.kinds f) :
    '\x60' ∉ (t.converted f).flatten := by
  have hnew : ∀ t ∈ columnTypes, '\x60' ∉ t.new.toList := by decide
  have hmarks : .mark '\x60' ∉ t.extent.kinds := by cases t.extent <;> decide
  unfold converted
  rw [List.flatten_append, flatten_tokens, List.mem_append, not_or]
  refine ⟨hnew t ht, ?_⟩
  split
  · exact not_quote_of_allFit hmarks hf
  · simp

/-- A name that is gone leaves its quotes. -/
def nameOrQuotes (name : List Char) : List Char := if name = [] then ['\x60', '\x60'] else name

theorem text_apply_backquotes_columnLine {type : List Char} (htype : '\x60' ∉ type)
    (hname : '\x60' ∉ name) :
    (backquotes.apply (columnLine name type)).text = plainColumn (nameOrQuotes name) type := by
  have hbehind : '\x60' ∉ ' ' :: (type ++ " NOT NULL,".toList) := by
    simp [htype]
  have hparts : columnLine name type =
      "  ".toList ++ '\x60' :: (name ++ '\x60' :: ' ' :: (type ++ " NOT NULL,".toList)) := rfl
  rw [hparts]
  by_cases hne : name = []
  · subst hne
    exact text_apply_backquotes_nothing (by decide) hbehind
  · rw [text_apply_backquotes_name (by decide) hbehind hne hname, nameOrQuotes, if_neg hne]
    rfl

/-! ## The law -/

theorem convertLine_columnLine (p : List Char) (ht : t ∈ columnTypes) (hf : AllFit t.extent.kinds f)
    (hascii : AsciiWords f) (hne : name ≠ []) (hn : name.all isPrefixChar = true) :
    (RuleSet.builtin p).convertLine (columnLine name (t.written f)) =
      .emitted (plainColumn (nameOrQuotes (renamed renames name)) (t.converted f).flatten) := by
  obtain ⟨hdrop, hcreate⟩ := firstSteps_columnLine p ht hf hascii hn
  have htypePairs : ∀ pair ∈ typeRenames, PlainPair pair := fun pair hpair =>
    plainPair_of_mem (List.mem_of_mem_take hpair)
  have hquote := not_quote_of_all (all_isPrefixChar_renamed (fun _ => plainPair_of_mem) hn)
  have hlast : RuleSet.runSteps [.always backquotes]
      (columnLine (renamed renames name) (t.converted f).flatten) =
      plainColumn (nameOrQuotes (renamed renames name)) (t.converted f).flatten :=
    text_apply_backquotes_columnLine (not_quote_converted ht hf) hquote
  have hinsert : ((insertStep p).apply
      (plainColumn (nameOrQuotes (renamed renames name)) (t.converted f).flatten)).text =
      plainColumn (nameOrQuotes (renamed renames name)) (t.converted f).flatten := by
    rw [text_insertStep]
    rfl
  have hsplit : prefixFree = typeMappings ++ ([autoIncrement, unsigned] ++ [backquotes]) := rfl
  have hsteps : RuleSet.runSteps (builtinSteps p) (columnLine name (t.written f)) =
      plainColumn (nameOrQuotes (renamed renames name)) (t.converted f).flatten := by
    rw [builtinSteps_eq, RuleSet.runSteps_cons, EditStep.text_always, hdrop, RuleSet.runSteps_cons,
      hcreate, RuleSet.runSteps_append, hsplit, List.map_append, List.map_append,
      RuleSet.runSteps_append, RuleSet.runSteps_append,
      runSteps_types_columnLine ht hf hne (all_isWord hn),
      runSteps_removals_columnLine ht hf (all_isPrefixChar_renamed htypePairs hn), renamed_removals,
      List.map_singleton, RuleSet.runSteps_cons, hlast, hinsert, RuleSet.runSteps_nil]
  rw [not_skipped_columnLine p ht hf hascii hn, hsteps]

theorem plainColumn_inj {x y type : List Char} : plainColumn x type = plainColumn y type ↔ x = y := by
  unfold plainColumn
  rw [List.append_cancel_left_eq, List.append_cancel_right_eq]

/-- A column's line is left with the name and the new type, under any prefix, exactly when the name is none
of the words that are replaced or taken out. -/
theorem a_column_keeps_its_name_exactly (p : List Char) (ht : t ∈ columnTypes)
    (hf : AllFit t.extent.kinds f) (hascii : AsciiWords f) (hne : name ≠ [])
    (hn : name.all isPrefixChar = true) :
    (RuleSet.builtin p).convertLine (columnLine name (t.written f)) =
        .emitted (plainColumn name (t.converted f).flatten) ↔
      ∀ pair ∈ renames, name ≠ pair.1.toList := by
  rw [convertLine_columnLine p ht hf hascii hne hn, Outcome.emitted.injEq, plainColumn_inj]
  constructor
  · rintro hkept pair hpair rfl
    have hall : ∀ pair ∈ renames, nameOrQuotes (renamed renames pair.1.toList) ≠ pair.1.toList := by
      decide
    exact hall pair hpair hkept
  · intro hother
    rw [renamed_of_ne hother, nameOrQuotes, if_neg hne]

theorem a_column_named_like_a_type_with_a_width :
    (⟨"varchar", .width, "VARCHAR", true⟩ : ColumnType) ∈ columnTypes ∧
    AllFit Extent.width.kinds [['('], "08".toList, [')']] ∧
    AsciiWords [['('], "08".toList, [')']] ∧ "int".toList ≠ [] ∧
    "int".toList.all isPrefixChar = true ∧
    (RuleSet.builtin "temp_".toList).convertLine "  \x60int\x60 varchar(08) NOT NULL,".toList =
      .emitted "  int VARCHAR(08) NOT NULL,".toList := by
  have ht : (⟨"varchar", .width, "VARCHAR", true⟩ : ColumnType) ∈ columnTypes := by decide
  have hf : AllFit Extent.width.kinds [['('], "08".toList, [')']] := by decide
  have hascii : AsciiWords [['('], "08".toList, [')']] := by simp [AsciiWords]
  have hne : "int".toList ≠ [] := by decide
  have hn : "int".toList.all isPrefixChar = true := by decide
  exact ⟨ht, hf, hascii, hne, hn,
    (a_column_keeps_its_name_exactly "temp_".toList ht hf hascii hne hn).mpr (by decide)⟩

/-- Not every column keeps its name. -/
theorem a_column_named_text_is_renamed :
    ¬ ∀ t ∈ columnTypes, ∀ f, AllFit t.extent.kinds f → AsciiWords f → ∀ name : List Char, name ≠ [] →
      name.all isPrefixChar = true →
      (RuleSet.builtin "temp_".toList).convertLine (columnLine name (t.written f)) =
        .emitted (plainColumn name (t.converted f).flatten) := by
  intro hall
  have ht : (⟨"int", .width, "INTEGER", false⟩ : ColumnType) ∈ columnTypes := by decide
  have hf : AllFit Extent.width.kinds [['('], "11".toList, [')']] := by decide
  have hascii : AsciiWords [['('], "11".toList, [')']] := by simp [AsciiWords]
  have hne : "text".toList ≠ [] := by decide
  have hn : "text".toList.all isPrefixChar = true := by decide
  have hkept := hall _ ht _ hf hascii _ hne hn
  rw [convertLine_columnLine _ ht hf hascii hne hn, Outcome.emitted.injEq, plainColumn_inj] at hkept
  exact absurd hkept (by decide)

end SqlDump
