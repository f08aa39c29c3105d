-- A text with one name in it, on its way through the column types and the words that are taken out: the
-- name may be replaced, and nothing else changes.
import SqlDump.Proofs.Blind
import SqlDump.Proofs.Sketch
import SqlDump.Proofs.Words

namespace SqlDump

open Regex Regex.Sequence Marked

/-! ## Texts with a name in them -/

/-- A text with a name in it. -/
def around (before : String) (name : List Char) (after : String) : List Char :=
  before.toList ++ (name ++ after.toList)

/-- What stands around the name. -/
def frame (before after : String) : Marked := plain before.toList ++ none :: plain after.toList

theorem fill_frame (before after : String) (name : List Char) :
    fill name (frame before after) = around before name after := by
  unfold frame around
  rw [fill_append, fill_plain, fill_none, fill_plain]

theorem not_infix_around {before after : String} {name w : List Char}
    (hn : name.all isPrefixChar = true) (h : mayContain (frame before after) w = false) :
    ¬ w <:+: around before name after := by
  rw [← fill_frame]
  exact not_infix_of_fits (fits_fill hn _) h

theorem around_inj {before after : String} {x y : List Char} :
    around before x after = around before y after ↔ x = y := by
  unfold around
  rw [List.append_cancel_left_eq, List.append_cancel_right_eq]

/-! ## Steps that leave a text as it is -/

theorem runSteps_unchanged {subs : List Substitution} {text : List Char}
    (h : ∀ s ∈ subs, (s.apply text).text = text) :
    RuleSet.runSteps (subs.map .always) text = text := by
  induction subs with
  | nil => rfl
  | cons s subs ih =>
    rw [List.map_cons, RuleSet.runSteps_cons, EditStep.text_always, h s List.mem_cons_self,
      ih fun t ht => h t (List.mem_cons_of_mem s ht)]

/-- The column types that have a width, and how each is spelt up to the width. -/
def widthMappings : List Substitution := typeMappings.take 9

def widthStarts : List String :=
  ["int(", "tinyint(", "smallint(", "mediumint(", "bigint(", "float(", "double(", "decimal(",
    "varchar("]

theorem walks_widthMappings {s : Substitution} (h : s ∈ widthMappings) :
    ∃ start ∈ widthStarts, ∃ ys, s.Walks ([edge] ++ (literal start.toList ++ ys)) := by
  have hitems : List.Forall₂ (fun items start => ∃ ys, items = [edge] ++ (literal start.toList ++ ys))
      (typeItems.take 9) widthStarts := by
    unfold typeItems widthStarts
    repeat' constructor
  obtain ⟨items, hmem, hwalks⟩ := exists_of_forall₂ (List.forall₂_take 9 walks_typeMappings) h
  obtain ⟨start, hstart, ys, rfl⟩ := exists_of_forall₂ hitems hmem
  exact ⟨start, hstart, ys, hwalks⟩

theorem runSteps_widthMappings {before after : String} {name : List Char}
    (hn : name.all isPrefixChar = true)
    (h : ∀ start ∈ widthStarts, mayContain (frame before after) start.toList = false) :
    RuleSet.runSteps (widthMappings.map .always) (around before name after) =
      around before name after := by
  apply runSteps_unchanged
  intro s hs
  obtain ⟨start, hstart, ys, hwalks⟩ := walks_widthMappings hs
  exact Substitution.text_apply_of_not_infix hwalks (not_infix_around hn (h start hstart))

/-! ## Names that are words of their own -/

/-- The substitutions of whole words, in order. -/
def wordMappings : List Substitution := typeMappings.drop 9 ++ [autoIncrement, unsigned]

/-- What they replace, and by what. -/
def renames : List (String × String) :=
  [("text", "TEXT"), ("longtext", "TEXT"), ("mediumtext", "TEXT"), ("tinytext", "TEXT"),
    ("datetime", "TIMESTAMP"), ("timestamp", "TIMESTAMP"), ("AUTO_INCREMENT", ""), ("UNSIGNED", "")]

/-- What becomes of a name that stands alone. -/
def renamed (pairs : List (String × String)) (name : List Char) : List Char :=
  pairs.foldl (fun w pair => if w = pair.1.toList then pair.2.toList else w) name

/-- The substitution puts the second word in place of the first. -/
structure Renames (s : Substitution) (pair : String × String) : Prop where
  walks : s.Walks (keyword pair.1)
  replacement : s.replacement = pair.2.toList

theorem renames_wordMappings : List.Forall₂ Renames wordMappings renames := by
  have htypes : List.Forall₂ Substitution.Walks (typeMappings.drop 9) (typeItems.drop 9) :=
    List.forall₂_drop 9 walks_typeMappings
  obtain _ | ⟨h₁, _ | ⟨h₂, _ | ⟨h₃, _ | ⟨h₄, _ | ⟨h₅, _ | ⟨h₆, _⟩⟩⟩⟩⟩⟩ := htypes
  exact .cons ⟨h₁, rfl⟩ (.cons ⟨h₂, rfl⟩ (.cons ⟨h₃, rfl⟩ (.cons ⟨h₄, rfl⟩ (.cons ⟨h₅, rfl⟩
    (.cons ⟨h₆, rfl⟩ (.cons ⟨walks_autoIncrement, rfl⟩ (.cons ⟨walks_unsigned, rfl⟩ .nil)))))))

/-- Words made of letters, digits and underscores. -/
structure PlainPair (pair : String × String) : Prop where
  ne_nil : pair.1.toList ≠ []
  old : pair.1.toList.all isPrefixChar = true
  new : pair.2.toList.all isPrefixChar = true

theorem all_isWord {w : List Char} (h : w.all isPrefixChar = true) :
    w.all Unicode.isWord = true :=
  List.all_eq_true.mpr fun c hc => isWord_of_isPrefixChar (List.all_eq_true.mp h c hc)

theorem not_dollar_of_all {w : List Char} (h : w.all isPrefixChar = true) : '$' ∉ w := by
  intro hmem
  have hno := List.all_eq_true.mp h _ hmem
  revert hno
  decide

theorem PlainPair.isWordName {pair : String × String} (h : PlainPair pair) : IsWordName pair.1 :=
  ⟨h.ne_nil, all_isWord h.old⟩

theorem plainPair_of_mem {pair : String × String} (h : pair ∈ renames) : PlainPair pair := by
  have hall : ∀ q ∈ renames, q.1.toList ≠ [] ∧ q.1.toList.all isPrefixChar = true ∧
      q.2.toList.all isPrefixChar = true := by
    decide
  obtain ⟨hne, hold, hnew⟩ := hall pair h
  exact ⟨hne, hold, hnew⟩

theorem all_isPrefixChar_renamed {pairs : List (String × String)}
    (hp : ∀ pair ∈ pairs, PlainPair pair) {name : List Char} (hn : name.all isPrefixChar = true) :
    (renamed pairs name).all isPrefixChar = true := by
  induction pairs generalizing name with
  | nil => exact hn
  | cons pair pairs ih =>
    unfold renamed
    rw [List.foldl_cons]
    apply ih (fun q hq => hp q (List.mem_cons_of_mem pair hq))
    split
    · exact (hp pair List.mem_cons_self).new
    · exact hn

/-- A text in which a name can be renamed: what stands around it does not touch it, and holds none of
the words. -/
structure Apart (pairs : List (String × String)) (before after : String) : Prop where
  left : endsWord before.toList = false
  right : beginsWord after.toList = false
  words : ∀ pair ∈ pairs,
    pair.1.toList ∉ tokens before.toList ∧ pair.1.toList ∉ tokens after.toList

/-- The substitutions of whole words change the name and nothing else. -/
theorem runSteps_renamed {subs : List Substitution} {pairs : List (String × String)}
    (hsubs : List.Forall₂ Renames subs pairs) (hp : ∀ pair ∈ pairs, PlainPair pair)
    {before after : String} (hapart : Apart pairs before after) {name : List Char}
    (hn : name.all isPrefixChar = true) :
    RuleSet.runSteps (subs.map .always) (around before name after) =
      around before (renamed pairs name) after := by
  induction hsubs generalizing name with
  | nil => rfl
  | @cons s pair subs pairs hs _ ih =>
    have hpair := hp pair List.mem_cons_self
    obtain ⟨hbefore, hafter⟩ := hapart.words pair List.mem_cons_self
    have hdollar : '$' ∉ s.replacement := by
      rw [hs.replacement]
      exact not_dollar_of_all hpair.new
    have hstep : (s.apply (around before name after)).text =
        around before (if name = pair.1.toList then pair.2.toList else name) after := by
      rw [← hs.replacement]
      exact text_apply_between hs.walks hpair.isWordName hdollar hapart.left hapart.right
        (all_isWord hn) hbefore hafter
    have hnext : (if name = pair.1.toList then pair.2.toList else name).all isPrefixChar = true := by
      split
      · exact hpair.new
      · exact hn
    have hrest : Apart pairs before after :=
      ⟨hapart.left, hapart.right, fun q hq => hapart.words q (List.mem_cons_of_mem pair hq)⟩
    rw [List.map_cons, RuleSet.runSteps_cons, EditStep.text_always, hstep,
      ih (fun q hq => hp q (List.mem_cons_of_mem pair hq)) hrest hnext]
    rfl

theorem renamed_of_ne {pairs : List (String × String)} {name : List Char}
    (h : ∀ pair ∈ pairs, name ≠ pair.1.toList) : renamed pairs name = name := by
  induction pairs with
  | nil => rfl
  | cons pair pairs ih =>
    unfold renamed
    rw [List.foldl_cons, if_neg (h pair List.mem_cons_self)]
    exact ih fun q hq => h q (List.mem_cons_of_mem pair hq)

/-- Exactly the words that are replaced do not keep their name. -/
theorem renamed_eq_self {name : List Char} :
    renamed renames name = name ↔ ∀ pair ∈ renames, name ≠ pair.1.toList := by
  constructor
  · intro h pair hpair he
    have hall : ∀ q ∈ renames, renamed renames q.1.toList ≠ q.1.toList := by decide
    rw [he] at h
    exact hall pair hpair h
  · exact renamed_of_ne

end SqlDump
