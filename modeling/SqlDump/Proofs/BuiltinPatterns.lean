-- The built-in patterns told item by item, and what a substitution makes of a text by walking along it.
import SqlDump.Proofs.Sequence
import SqlDump.Proofs.Template
import SqlDump.Rule.Set
import Mathlib.Data.List.Forall2

namespace SqlDump

open Regex Regex.Sequence

/-! ## Substitutions by walking -/

/-- The text of pieces with each match replaced. -/
def replaced (rep : Hit → List Char) (ps : List Piece) : List Char :=
  ps.flatMap fun
    | .kept c => [c]
    | .hit h => rep h

theorem replaced_append (rep : Hit → List Char) (ps qs : List Piece) :
    replaced rep (ps ++ qs) = replaced rep ps ++ replaced rep qs := List.flatMap_append

theorem replaced_cons_kept (rep : Hit → List Char) (c : Char) (ps : List Piece) :
    replaced rep (.kept c :: ps) = c :: replaced rep ps := rfl

theorem replaced_cons_hit (rep : Hit → List Char) (h : Hit) (ps : List Piece) :
    replaced rep (.hit h :: ps) = rep h ++ replaced rep ps := rfl

theorem replaced_kept (rep : Hit → List Char) (text : List Char) :
    replaced rep (text.map .kept) = text := by
  induction text with
  | nil => rfl
  | cons c rest ih => rw [List.map_cons, replaced_cons_kept, ih]

namespace Substitution

/-- The substitution replaces every match of the items. -/
structure Walks (s : Substitution) (items : List Item) : Prop where
  matcher : s.pattern.matcher = .sequence items
  everywhere : s.everywhere = true
  takes : items.any Item.takes = true

/-- What stands in place of a match. -/
def replace (s : Substitution) (h : Hit) : List Char :=
  (Template.read s.replacement).expand s.pattern.names h

theorem text_apply {s : Substitution} {items : List Item} (h : s.Walks items) (text : List Char) :
    (s.apply text).text = replaced s.replace (piecesFrom items none text) := by
  unfold apply Pattern.pieces
  rw [h.matcher, h.everywhere]
  rfl

/-- A text without a part that the pattern spells out stays. -/
theorem text_apply_of_not_infix {s : Substitution} {xs ys : List Item} {w text : List Char}
    (hs : s.Walks (xs ++ (literal w ++ ys))) (h : ¬ w <:+: text) : (s.apply text).text = text := by
  rw [text_apply hs, piecesFrom_of_not_infix xs ys none h, replaced_kept]

end Substitution

/-! ## The items of the built-in patterns -/

/-- The edge of a word. -/
def edge : Item := .look (.word .boundary false)

/-- What backquotes enclose. -/
def quotedName : Item := .run (.compl (.single '\x60')) true

/-- A type name with a width. -/
def wide (name : String) (captured : Bool) : List Item :=
  edge :: (literal name.toList ++ (literal ['('] ++ (.run .digit captured :: literal [')'])))

/-- A type name with two numbers. -/
def scaled (name : String) : List Item :=
  edge :: (literal name.toList ++ (literal ['('] ++ (.run .digit false ::
    (literal [','] ++ (.run .digit false :: literal [')'])))))

/-- A whole word. -/
def keyword (name : String) : List Item := edge :: (literal name.toList ++ [edge])

def dropItems : List Item :=
  literal "DROP TABLE IF EXISTS \x60".toList ++ (quotedName :: literal "\x60;".toList)

def createItems : List Item :=
  literal "CREATE TABLE \x60".toList ++ (quotedName :: literal "\x60".toList)

def optionItems : List Item :=
  literal ") ENGINE=".toList ++ (.run .word false :: (literal " DEFAULT CHARSET=".toList ++
    (.run .word false :: literal ";".toList)))

def quoteItems : List Item := literal "\x60".toList ++ (quotedName :: literal "\x60".toList)

/-- The characters of a table's name where rows are inserted. -/
def insertName : CharSet := .union (.range 'a' 'z') (.union (.range 'A' 'Z') (.single '_'))

def insertItems : List Item := literal "INSERT INTO ".toList ++ [.run insertName true]

/-- The items of the column types, in order: those with a width, and those that are a word. -/
def typeItems : List (List Item) :=
  [wide "int" false, wide "tinyint" false, wide "smallint" false, wide "mediumint" false,
    wide "bigint" false, scaled "float", scaled "double", scaled "decimal", wide "varchar" true,
    keyword "text", keyword "longtext", keyword "mediumtext", keyword "tinytext",
    keyword "datetime", keyword "timestamp"]

/-- A quoted name is matched where it stands between the two texts, and captured whole. -/
theorem matchAt_quoted_iff {a b : List Char} {before : Option Char} {text whole : List Char}
    {runs : List (List Char)} :
    matchAt (literal a ++ (quotedName :: literal ('\x60' :: b))) before text = some (whole, runs) ↔
      ∃ name rest, text = whole ++ rest ∧ runs = [name] ∧
        whole = a ++ (name ++ '\x60' :: b) ∧ name ≠ [] ∧ '\x60' ∉ name := by
  have hmem : ∀ c, (CharSet.compl (.single '\x60')).mem c = true ↔ c ≠ '\x60' := by simp [CharSet.mem]
  constructor
  · intro h
    obtain ⟨x, more, rfl, rfl, hname⟩ := matchAt_literal_append_iff.mp h
    obtain ⟨name, y, close, others, rfl, hne, hall, -, hclose, rfl, rfl⟩ := matchAt_run_iff.mp hname
    obtain ⟨rfl, rfl, rest, rfl⟩ := matchAt_literal_iff.mp hclose
    refine ⟨name, rest, by simp, rfl, rfl, hne, fun hquote => ?_⟩
    exact (hmem _).mp (List.all_eq_true.mp hall _ hquote) rfl
  · rintro ⟨name, rest, rfl, rfl, rfl, hne, hquote⟩
    have hall : name.all (CharSet.compl (.single '\x60')).mem = true :=
      List.all_eq_true.mpr fun c hc => (hmem c).mpr fun he => hquote (he ▸ hc)
    have hclose : matchAt (literal ('\x60' :: b)) name.getLast? ('\x60' :: b ++ rest) =
        some ('\x60' :: b, []) := matchAt_literal_iff.mpr ⟨rfl, rfl, List.prefix_append _ rest⟩
    refine matchAt_literal_append_iff.mpr ⟨name ++ ('\x60' :: b ++ rest), _, by simp, rfl, ?_⟩
    refine matchAt_run_iff.mpr ⟨name, _, _, _, rfl, hne, hall, ?_, hclose, rfl, rfl⟩
    rintro c ⟨⟩
    rfl

/-- Behind the keyword all letters and underscores are captured. -/
theorem matchAt_insertItems_iff {before : Option Char} {text whole : List Char} {runs : List (List Char)} :
    matchAt insertItems before text = some (whole, runs) ↔
      ∃ name rest, text = whole ++ rest ∧ runs = [name] ∧ whole = "INSERT INTO ".toList ++ name ∧
        name ≠ [] ∧ name.all insertName.mem = true ∧ ∀ c ∈ rest.head?, insertName.mem c = false := by
  constructor
  · intro h
    obtain ⟨x, more, rfl, rfl, hname⟩ := matchAt_literal_append_iff.mp h
    obtain ⟨name, rest, tail, others, rfl, hne, hall, hstop, hnil, rfl, rfl⟩ := matchAt_run_iff.mp hname
    cases hnil
    exact ⟨name, rest, by simp, rfl, by simp, hne, hall, hstop⟩
  · rintro ⟨name, rest, rfl, rfl, rfl, hne, hall, hstop⟩
    refine matchAt_literal_append_iff.mpr ⟨name ++ rest, name, by simp, rfl, ?_⟩
    exact matchAt_run_iff.mpr ⟨name, rest, [], [], rfl, hne, hall, hstop, rfl, by simp, rfl⟩

theorem walks_dropTable (p : List Char) : (dropTable p).Walks dropItems := ⟨rfl, rfl, rfl⟩

theorem walks_createTable (p : List Char) : (createTable p).Walks createItems := ⟨rfl, rfl, rfl⟩

theorem walks_tableOptions : tableOptions.Walks optionItems := ⟨rfl, rfl, rfl⟩

theorem walks_autoIncrement : autoIncrement.Walks (keyword "AUTO_INCREMENT") := ⟨rfl, rfl, rfl⟩

theorem walks_unsigned : unsigned.Walks (keyword "UNSIGNED") := ⟨rfl, rfl, rfl⟩

theorem walks_backquotes : backquotes.Walks quoteItems := ⟨rfl, rfl, rfl⟩

theorem walks_insertTable (p : List Char) : (insertTable p).Walks insertItems := ⟨rfl, rfl, rfl⟩

theorem walks_typeMappings : List.Forall₂ Substitution.Walks typeMappings typeItems := by
  unfold typeMappings typeItems
  repeat' constructor

theorem exists_of_forall₂ {α β : Type} {R : α → β → Prop} {xs : List α} {ys : List β}
    (h : List.Forall₂ R xs ys) {x : α} (hx : x ∈ xs) : ∃ y ∈ ys, R x y := by
  induction h with
  | nil => cases hx
  | @cons a b as bs hab _ ih =>
    rcases List.mem_cons.mp hx with rfl | hx
    · exact ⟨b, List.mem_cons_self, hab⟩
    · obtain ⟨y, hy, hxy⟩ := ih hx
      exact ⟨y, List.mem_cons_of_mem b hy, hxy⟩

/-! ## The built-in steps -/

theorem EditStep.text_applyAll (subs : List Substitution) (start : Applied) :
    (EditStep.applyAll subs start).text = subs.foldl (fun text s => (s.apply text).text) start.text := by
  unfold EditStep.applyAll
  induction subs generalizing start with
  | nil => rfl
  | cons s subs ih => exact ih _

/-- A step that is made makes its substitutions one after another. -/
theorem EditStep.text_apply (s : EditStep) (text : List Char) :
    (s.apply text).text =
      if s.appliesTo text then s.substitutions.foldl (fun text s => (s.apply text).text) text
      else text := by
  unfold EditStep.apply
  split
  · rw [EditStep.text_applyAll]
  · rfl

/-- A step of one substitution that is always made. -/
def EditStep.always (s : Substitution) : EditStep := { substitutions := [s] }

theorem EditStep.text_always (s : Substitution) (text : List Char) :
    ((EditStep.always s).apply text).text = (s.apply text).text := rfl

/-- The substitutions between the tables' new names that do not know the prefix. -/
def prefixFree : List Substitution := typeMappings ++ [autoIncrement, unsigned, backquotes]

def createStep (p : List Char) : EditStep :=
  { guard := some (.contains "CREATE TABLE".toList), substitutions := [createTable p, tableOptions] }

def insertStep (p : List Char) : EditStep :=
  { guard := some (.startsWith "INSERT INTO ".toList), substitutions := [insertTable p] }

theorem text_createStep (p text : List Char) :
    ((createStep p).apply text).text =
      if containsText "CREATE TABLE".toList text then
        (tableOptions.apply ((createTable p).apply text).text).text
      else text := EditStep.text_apply (createStep p) text

theorem text_insertStep (p text : List Char) :
    ((insertStep p).apply text).text =
      if "INSERT INTO ".toList.isPrefixOf text then ((insertTable p).apply text).text
      else text := EditStep.text_apply (insertStep p) text

theorem builtinSteps_eq (p : List Char) :
    builtinSteps p = .always (dropTable p) :: createStep p ::
      (prefixFree.map .always ++ [insertStep p]) := by
  unfold builtinSteps prefixFree
  rw [List.map_append, List.append_assoc]
  rfl

theorem RuleSet.runSteps_append (xs ys : List EditStep) (line : List Char) :
    RuleSet.runSteps (xs ++ ys) line = RuleSet.runSteps ys (RuleSet.runSteps xs line) :=
  List.foldl_append

theorem RuleSet.runSteps_cons (s : EditStep) (steps : List EditStep) (line : List Char) :
    RuleSet.runSteps (s :: steps) line = RuleSet.runSteps steps (s.apply line).text := rfl

theorem RuleSet.runSteps_nil (line : List Char) : RuleSet.runSteps [] line = line := rfl

end SqlDump
