-- The three statements whose table gets the prefix, told on the text: from left to right each of them is
-- replaced, with the prefix as it is before the name, and everything else stays.
import SqlDump.Proofs.Absence

namespace SqlDump

open Regex Regex.Sequence

/-! ## Statements in a text -/

/-- What a statement looks like: the characters it covers, the name in them, and what stands behind it. -/
abbrev Shape := List Char → List Char → List Char → Prop

/-- A name between backquotes: a fixed text up to the first one, and a fixed text from the second one on. -/
def quotedShape (front back : String) : Shape := fun whole name _ =>
  whole = front.toList ++ (name ++ back.toList) ∧ name ≠ [] ∧ '\x60' ∉ name

def dropShape : Shape := quotedShape "DROP TABLE IF EXISTS \x60" "\x60;"

def createShape : Shape := quotedShape "CREATE TABLE \x60" "\x60"

/-- Whether a character belongs to the name of a table that gets rows. -/
def isInsertChar (c : Char) : Bool := c.isAlpha || c == '_'

/-- All letters and underscores behind the keyword, at least one. -/
def insertShape : Shape := fun whole name rest =>
  whole = "INSERT INTO ".toList ++ name ∧ name ≠ [] ∧ name.all isInsertChar = true ∧
    ∀ c ∈ rest.head?, isInsertChar c = false

/-- A text and what becomes of it: each statement that is met from left to right gives way to a text made of
its name, and any other character is kept. -/
inductive Rewrites (shape : Shape) (new : List Char → List Char) : List Char → List Char → Prop
  | nil : Rewrites shape new [] []
  | kept {c : Char} {rest out : List Char} :
      (∀ whole name more, c :: rest = whole ++ more → ¬ shape whole name more) →
      Rewrites shape new rest out → Rewrites shape new (c :: rest) (c :: out)
  | statement {whole name rest out : List Char} :
      shape whole name rest → Rewrites shape new rest out →
      Rewrites shape new (whole ++ rest) (new name ++ out)

theorem insertName_mem_eq (c : Char) : insertName.mem c = isInsertChar c := by
  have hupper : c.isUpper = decide ('A' ≤ c ∧ c ≤ 'Z') := rfl
  have hlower : c.isLower = (decide ('a' ≤ c) && decide (c ≤ 'z')) := rfl
  have halpha : c.isAlpha = (c.isUpper || c.isLower) := rfl
  rw [isInsertChar, halpha, hupper, hlower, Bool.eq_iff_iff]
  simp only [insertName, CharSet.mem, Bool.or_eq_true, Bool.and_eq_true, decide_eq_true_eq, beq_iff_eq]
  rw [← or_assoc, or_comm (a := _ ∧ _)]

theorem matchAt_insert_iff {before : Option Char} {text whole : List Char} {runs : List (List Char)} :
    matchAt insertItems before text = some (whole, runs) ↔
      ∃ name rest, text = whole ++ rest ∧ runs = [name] ∧ insertShape whole name rest := by
  have hmem : insertName.mem = isInsertChar := funext insertName_mem_eq
  rw [matchAt_insertItems_iff, hmem]
  rfl

/-! ## Statements that are replaced -/

/-- The substitution takes the place of the statements of a shape: its items match them and capture their
names, and it puts `new` of the name there. -/
structure Substitution.TakesOver (s : Substitution) (items : List Item) (shape : Shape)
    (new : List Char → List Char) : Prop where
  walks : s.Walks items
  matches_iff : ∀ {before text whole runs}, matchAt items before text = some (whole, runs) ↔
    ∃ name rest, text = whole ++ rest ∧ runs = [name] ∧ shape whole name rest
  replace_eq : ∀ whole name, s.replace ⟨whole, [some name]⟩ = new name

namespace Substitution.TakesOver

variable {s : Substitution} {items : List Item} {shape : Shape} {new : List Char → List Char}

theorem rewrites (h : s.TakesOver items shape new) (before : Option Char) (text : List Char) :
    Rewrites shape new text (replaced s.replace (piecesFrom items before text)) := by
  induction before, text using walk_induction h.walks.takes with
  | nil before => exact .nil
  | kept before c rest hno ih =>
    rw [piecesFrom_kept hno, replaced_cons_kept]
    refine .kept (fun whole name more hcut hshape => ?_) ih
    have hmatch : matchAt items before (whole ++ more) = some (whole, [name]) :=
      h.matches_iff.mpr ⟨name, more, rfl, rfl, hshape⟩
    rw [← hcut, hno] at hmatch
    cases hmatch
  | hit before whole rest runs hmatch ih =>
    obtain ⟨name, more, hcut, rfl, hshape⟩ := h.matches_iff.mp hmatch
    obtain rfl := List.append_cancel_left hcut
    rw [piecesFrom_hit h.walks.takes hmatch, replaced_cons_hit, List.map_singleton, h.replace_eq]
    exact .statement hshape ih

theorem eq_of_rewrites (h : s.TakesOver items shape new) {text out : List Char}
    (hout : Rewrites shape new text out) (before : Option Char) :
    out = replaced s.replace (piecesFrom items before text) := by
  induction hout generalizing before with
  | nil => rfl
  | @kept c rest out hno _ ih =>
    have hmatch : matchAt items before (c :: rest) = none := by
      rcases hm : matchAt items before (c :: rest) with _ | ⟨whole, runs⟩
      · rfl
      · obtain ⟨name, more, hcut, -, hshape⟩ := h.matches_iff.mp hm
        exact absurd hshape (hno whole name more hcut)
    rw [piecesFrom_kept hmatch, replaced_cons_kept, ← ih]
  | @statement whole name rest out hshape _ ih =>
    have hmatch : matchAt items before (whole ++ rest) = some (whole, [name]) :=
      h.matches_iff.mpr ⟨name, rest, rfl, rfl, hshape⟩
    rw [piecesFrom_hit h.walks.takes hmatch, replaced_cons_hit, List.map_singleton, h.replace_eq, ← ih]

/-- What the substitution makes of a text is what the statements of the text ask for. -/
theorem iff_eq (h : s.TakesOver items shape new) {text out : List Char} :
    Rewrites shape new text out ↔ out = (s.apply text).text := by
  rw [text_apply h.walks]
  exact ⟨fun hout => h.eq_of_rewrites hout none, fun hout => hout ▸ h.rewrites none text⟩

end Substitution.TakesOver

/-! ## The three substitutions -/

/-- What stands in place of a statement: the name behind the prefix, with a text before and a text behind. -/
def renamedTo (before : String) (p : List Char) (after : String) : List Char → List Char :=
  fun name => before.toList ++ p ++ name ++ after.toList

theorem renamedTo_nothing (before : String) (p : List Char) :
    renamedTo before p "" = fun name => before.toList ++ p ++ name :=
  funext fun _ => List.append_nil _

theorem replace_prefixed {s : Substitution} {before after : String} {p : List Char}
    (h : s.replacement = prefixed before p after) (hb : '$' ∉ before.toList) (ha : '$' ∉ after.toList)
    (whole name : List Char) :
    s.replace ⟨whole, [some name]⟩ = renamedTo before p after name := by
  unfold Substitution.replace
  rw [h, Template.expand_read_prefixed _ _ _ _ _ hb ha]
  rfl

theorem takesOver_dropTable (p : List Char) :
    (dropTable p).TakesOver dropItems dropShape (renamedTo "DROP TABLE IF EXISTS " p " CASCADE;") :=
  ⟨walks_dropTable p, matchAt_quoted_iff, replace_prefixed rfl (by decide) (by decide)⟩

theorem takesOver_createTable (p : List Char) :
    (createTable p).TakesOver createItems createShape (renamedTo "CREATE TEMPORARY TABLE " p "") :=
  ⟨walks_createTable p, matchAt_quoted_iff, replace_prefixed rfl (by decide) (by decide)⟩

theorem takesOver_insertTable (p : List Char) :
    (insertTable p).TakesOver insertItems insertShape (renamedTo "INSERT INTO " p "") :=
  ⟨walks_insertTable p, matchAt_insert_iff, replace_prefixed rfl (by decide) (by decide)⟩

/-! ## The law -/

/-- The built-in substitutions of a name. -/
def builtinNamed (p : List Char) (name : String) : List Substitution :=
  ((builtinSteps p).flatMap EditStep.substitutions).filter fun s => s.name == name

/-- There is one substitution for tables that are dropped, one for those that are created and one for those
that get rows. Whatever characters the prefix has, each of them puts in place of every statement that it meets
from left to right the new statement, with the prefix as it is and the name behind it, and leaves all other
characters as they are. -/
theorem statements_get_the_prefix_as_it_is (p : List Char) :
    ∃ drop create insert, builtinNamed p "drop-table" = [drop] ∧
      builtinNamed p "create-table" = [create] ∧ builtinNamed p "insert-table" = [insert] ∧
      ∀ text out,
        (out = (drop.apply text).text ↔
          Rewrites dropShape
            (fun name => "DROP TABLE IF EXISTS ".toList ++ p ++ name ++ " CASCADE;".toList) text out) ∧
        (out = (create.apply text).text ↔
          Rewrites createShape (fun name => "CREATE TEMPORARY TABLE ".toList ++ p ++ name) text out) ∧
        (out = (insert.apply text).text ↔
          Rewrites insertShape (fun name => "INSERT INTO ".toList ++ p ++ name) text out) := by
  refine ⟨dropTable p, createTable p, insertTable p, rfl, rfl, rfl, fun text out => ⟨?_, ?_, ?_⟩⟩
  · exact (takesOver_dropTable p).iff_eq.symm
  · have hcreate := takesOver_createTable p
    rw [renamedTo_nothing] at hcreate
    exact hcreate.iff_eq.symm
  · have hinsert := takesOver_insertTable p
    rw [renamedTo_nothing] at hinsert
    exact hinsert.iff_eq.symm

/-- A prefix of dollars, a brace and a digit, in front of two names. -/
example : ((insertTable "$$1\x7b$".toList).apply "INSERT INTO a_b9; INSERT INTO c".toList).text =
    "INSERT INTO $$1\x7b$a_b9; INSERT INTO $$1\x7b$c".toList := by decide +kernel

end SqlDump
