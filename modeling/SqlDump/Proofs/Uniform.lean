-- The pipeline takes no notice of the table prefix: the same lines are dropped, and what is emitted is
-- the same text with the prefix at the same places.
import SqlDump.Proofs.Blind

namespace SqlDump

open Regex Regex.Sequence Marked

/-! ## Conditions on a line -/

theorem isPrefixOf_eq_isSome (w text : List Char) (before : Option Char) :
    w.isPrefixOf text = (matchAt (literal w) before text).isSome := by
  rw [Bool.eq_iff_iff, List.isPrefixOf_iff_prefix, Option.isSome_iff_exists]
  constructor
  · exact fun h => ⟨_, matchAt_literal_iff.mpr ⟨rfl, rfl, h⟩⟩
  · rintro ⟨found, h⟩
    exact (matchAt_literal_iff.mp h).2.2

theorem isPrefixOf_fill {letters : List Char} {near here : Bool} {w : List Char}
    (hw : steady letters true near here (literal w) = true) {lead : Lead} {m : Marked}
    (hled : Led letters lead m) (hnear : near = false → lead ≠ .near)
    (hhere : here = false → m.head? ≠ some none) :
    ∃ b, ∀ p, FairPrefix p → w.isPrefixOf (fill p m) = b := by
  rcases followed_of_steady hw hled hnear hhere none with hnone | ⟨_, _, _, _, _, _, hmatch⟩
  · exact ⟨false, fun p hp => by rw [isPrefixOf_eq_isSome w _ none, hnone p hp]; rfl⟩
  · exact ⟨true, fun p hp => by rw [isPrefixOf_eq_isSome w _ none, hmatch p hp]; rfl⟩

/-- What a text contains is not sought in front of it where none of it begins. -/
theorem containsText_append {w : List Char} (x text : List Char)
    (h : ∀ u c v, x = u ++ c :: v → ¬ w <+: c :: v ++ text) :
    containsText w (x ++ text) = containsText w text := by
  induction x with
  | nil => rfl
  | cons c x ih =>
    have hfirst : w.isPrefixOf (c :: x ++ text) = false := by
      rw [Bool.eq_false_iff, Ne, List.isPrefixOf_iff_prefix]
      exact h [] c x rfl
    have hrest := ih fun u d v hx => h (c :: u) d v (by rw [hx]; rfl)
    rw [List.cons_append] at hfirst ⊢
    rw [containsText, hfirst, hrest]
    rfl

theorem containsText_fill {letters : List Char} {w : List Char}
    (hw : steady letters true true false (literal w) = true) (hbars : bars false (literal w) = true)
    {lead : Lead} {m : Marked} (hled : Led letters lead m) :
    ∃ b, ∀ p, FairPrefix p → containsText w (fill p m) = b := by
  induction m generalizing lead with
  | nil => exact ⟨w.isEmpty, fun p _ => rfl⟩
  | cons o m ih =>
    cases o with
    | none =>
      obtain ⟨b, hb⟩ := ih hled.2
      refine ⟨b, fun p hp => ?_⟩
      rw [fill_none, containsText_append, hb p hp]
      intro u c v he hpre
      have hno := barred_of_bars hbars p hp u c v he (fill p m)
      rw [← List.isPrefixOf_iff_prefix, isPrefixOf_eq_isSome w _ (u.getLast?.or (some ' ')), hno] at hpre
      cases hpre
    | some c =>
      obtain ⟨first, hfirst⟩ := isPrefixOf_fill hw hled (fun hno => by cases hno)
        (fun _ hm => by cases hm)
      obtain ⟨b, hb⟩ := ih (led_some.mp hled)
      refine ⟨first || b, fun p hp => ?_⟩
      rw [fill_some, containsText, hb p hp]
      exact congrArg (· || b) (hfirst p hp)

/-! ## The substitutions of the pipeline -/

/-- The letters that lead to a place once tables are dropped, and once they are created too. -/
def dropLetters : List Char := ['S']

def createLetters : List Char := ['E', 'S']

variable {letters : List Char} {last : Bool} {items : List Item}

/-- A replacement without a reference is a plain text. -/
theorem evenhanded_plain {s : Substitution} (hwalks : s.Walks items)
    (hsteady : steady letters last true false items = true) (hbarred : Barred items)
    (hplain : '$' ∉ s.replacement) :
    Evenhanded letters last (fun _ => s) items fun _ => plain s.replacement where
  walks _ := hwalks
  steady := hsteady
  barred := hbarred
  replace p _ taken runs := by
    rw [fill_plain]
    exact Template.expand_read_plain _ _ _ hplain
  led _ _ _ lead := led_plain letters lead _

/-- A replacement around the first captured run, with the prefix before it or without. -/
theorem evenhanded_wrapped {s : List Char → Substitution} (before after : String) (place : Marked)
    (hwalks : ∀ p, (s p).Walks items) (hsteady : steady letters last true false items = true)
    (hbarred : Barred items)
    (hreplace : ∀ p, (s p).replacement = prefixed before (fill p place) after)
    (hbefore : '$' ∉ before.toList) (hafter : '$' ∉ after.toList)
    (hplace : last = false → ∀ lead, Led letters lead (plain before.toList ++ place)) :
    Evenhanded letters last s items fun runs =>
      plain before.toList ++ place ++ runs.headD [] ++ plain after.toList where
  walks := hwalks
  steady := hsteady
  barred := hbarred
  replace p _ taken runs := by
    have hgroup : (Hit.group ⟨taken, (runs.map (fill p)).map some⟩ 1).getD [] =
        fill p (runs.headD []) := by
      cases runs <;> rfl
    unfold Substitution.replace
    rw [hreplace, Template.expand_read_prefixed _ _ _ _ _ hbefore hafter, hgroup]
    simp only [fill_append, fill_plain]
  led hl runs hruns lead := by
    have hrun : Led letters .away (runs.headD []) := by
      cases runs with
      | nil => trivial
      | cons run runs => exact hruns run List.mem_cons_self
    rw [led_append, led_append]
    exact ⟨⟨hplace hl lead, hrun.of_away _⟩, led_plain letters _ _⟩

/-- A place stands behind a text that leads to it. -/
theorem evenhanded_prefixed {s : List Char → Substitution} (before after : String)
    (hwalks : ∀ p, (s p).Walks items) (hsteady : steady letters last true false items = true)
    (hbars : bars false items = true) (hreplace : ∀ p, (s p).replacement = prefixed before p after)
    (hbefore : '$' ∉ before.toList) (hafter : '$' ∉ after.toList)
    (hlead : last = false → ∀ lead : Lead, lead.after letters (plain before.toList) = .here) :
    ∃ out, Evenhanded letters last s items out := by
  refine ⟨_, evenhanded_wrapped before after [none] hwalks hsteady (barred_of_bars hbars) (fun p => ?_)
    hbefore hafter (fun hl lead => ?_)⟩
  · rw [fill_none, fill_nil, List.append_nil]
    exact hreplace p
  · exact led_append.mpr ⟨led_plain letters lead _, hlead hl lead, trivial⟩

theorem evenhanded_dropTable : ∃ out, Evenhanded dropLetters false dropTable dropItems out :=
  evenhanded_prefixed "DROP TABLE IF EXISTS " " CASCADE;" walks_dropTable (by decide) (by decide)
    (fun _ => rfl) (by decide) (by decide) (fun _ lead => by cases lead <;> rfl)

theorem evenhanded_createTable :
    ∃ out, Evenhanded createLetters false createTable createItems out :=
  evenhanded_prefixed "CREATE TEMPORARY TABLE " "" walks_createTable (by decide) (by decide)
    (fun _ => rfl) (by decide) (by decide) (fun _ lead => by cases lead <;> rfl)

/-- A prefix stands in front of nothing that is left. -/
theorem evenhanded_insertTable :
    ∃ out, Evenhanded createLetters true insertTable insertItems out :=
  evenhanded_prefixed "INSERT INTO " "" walks_insertTable (by decide) (by decide) (fun _ => rfl)
    (by decide) (by decide) (fun hno => by cases hno)

theorem matchAt_autoIncrement_fair {p : List Char} (hp : FairPrefix p) (text : List Char) :
    matchAt (literal "AUTO_INCREMENT".toList ++ [edge]) (some ' ') (p ++ text) = none := by
  by_cases hw : "AUTO_INCREMENT".toList <+: p ++ text
  · rcases List.prefix_or_prefix_of_prefix hw (List.prefix_append p text) with hlong | hshort
    · obtain ⟨x, rfl⟩ := hlong
      cases x with
      | nil => exact absurd hp.ends (by decide)
      | cons d x =>
        -- the word goes on, so it has no edge here
        have hd : isPrefixChar d = true :=
          List.all_eq_true.mp hp.characters d (List.mem_append_right _ List.mem_cons_self)
        have hnone : matchAt [edge] (some 'T') (d :: x ++ text) = none := by
          unfold edge
          rw [List.cons_append, matchAt, List.head?_cons, holds_boundary_inside (by decide) hd]
          rfl
        rw [List.append_assoc, matchAt_literal_append]
        exact congrArg (Option.map _) hnone
    · have hall : ∀ q ∈ "AUTO_INCREMENT".toList.inits,
          q.getLast? = some '_' → q = "AUTO_".toList := by
        decide
      exact absurd (hall p ((List.mem_inits _ _).mpr hshort) hp.ends) hp.other
  · exact matchAt_literal_eq_none _ _ hw

/-- The one word with an underscore begins like a prefix only where the prefix is left aside. -/
theorem barred_autoIncrement : Barred (keyword "AUTO_INCREMENT") := by
  intro p hp u c v he text
  have hchars := hp.characters
  rw [he, List.all_append, Bool.and_eq_true, List.all_cons, Bool.and_eq_true] at hchars
  obtain ⟨hu, hc, _⟩ := hchars
  unfold keyword edge
  rw [List.cons_append, matchAt]
  split
  · rename_i hholds
    rcases List.eq_nil_or_concat u with rfl | ⟨u, b, rfl⟩
    · rw [List.nil_append] at he
      rw [← List.cons_append, ← he]
      exact matchAt_autoIncrement_fair hp text
    · rw [List.concat_eq_append, List.all_append, Bool.and_eq_true] at hu
      have hb : isPrefixChar b = true := by simpa using hu.2
      rw [List.concat_eq_append, List.getLast?_concat, List.head?_cons, Option.some_or,
        holds_boundary_inside hb hc] at hholds
      cases hholds
  · rfl

theorem evenhanded_tableOptions :
    ∃ items out, Evenhanded createLetters false (fun _ => tableOptions) items out :=
  ⟨_, _, evenhanded_plain walks_tableOptions (by decide) (barred_of_bars (by decide)) (by decide)⟩

theorem evenhanded_autoIncrement :
    ∃ items out, Evenhanded createLetters false (fun _ => autoIncrement) items out :=
  ⟨_, _, evenhanded_plain walks_autoIncrement (by decide) barred_autoIncrement (by decide)⟩

theorem evenhanded_unsigned :
    ∃ items out, Evenhanded createLetters false (fun _ => unsigned) items out :=
  ⟨_, _, evenhanded_plain walks_unsigned (by decide) (barred_of_bars (by decide)) (by decide)⟩

theorem evenhanded_backquotes :
    ∃ items out, Evenhanded createLetters false (fun _ => backquotes) items out :=
  ⟨_, _, evenhanded_wrapped "" "" [] (fun _ => walks_backquotes) (by decide)
    (barred_of_bars (by decide)) (fun _ => rfl) (by decide) (by decide) (fun _ _ => trivial)⟩

theorem steady_typeItems {items : List Item} (h : items ∈ typeItems) :
    steady createLetters false true false items = true ∧ bars false items = true := by
  have hall : ∀ xs ∈ typeItems,
      steady createLetters false true false xs = true ∧ bars false xs = true := by
    decide
  exact hall items h

theorem evenhanded_typeMapping {s : Substitution} (hs : s ∈ typeMappings) :
    ∃ items out, Evenhanded createLetters false (fun _ => s) items out := by
  obtain ⟨items, hitems, hwalks⟩ := exists_of_forall₂ walks_typeMappings hs
  obtain ⟨hsteady, hbars⟩ := steady_typeItems hitems
  have hkinds : ∀ t ∈ typeMappings,
      '$' ∉ t.replacement ∨ t.replacement = prefixed "VARCHAR(" [] ")" := by
    decide
  rcases hkinds s hs with hplain | hwrapped
  · exact ⟨_, _, evenhanded_plain hwalks hsteady (barred_of_bars hbars) hplain⟩
  · refine ⟨_, _, evenhanded_wrapped "VARCHAR(" ")" [] (fun _ => hwalks) hsteady
      (barred_of_bars hbars) (fun _ => hwrapped) (by decide) (by decide) (fun _ lead => ?_)⟩
    rw [List.append_nil]
    exact led_plain createLetters lead _

/-! ## The steps of the pipeline -/

theorem evenhanded_prefixFree {s : Substitution} (hs : s ∈ prefixFree) :
    ∃ items out, Evenhanded createLetters false (fun _ => s) items out := by
  unfold prefixFree at hs
  rcases List.mem_append.mp hs with htype | hother
  · exact evenhanded_typeMapping htype
  · rcases List.mem_cons.mp hother with rfl | hother
    · exact evenhanded_autoIncrement
    · rcases List.mem_cons.mp hother with rfl | hother
      · exact evenhanded_unsigned
      · rw [List.mem_singleton.mp hother]
        exact evenhanded_backquotes

/-- The steps that do not know the prefix keep a marked text marked, one after another. -/
theorem runSteps_fill {letters : List Char} (subs : List Substitution)
    (h : ∀ s ∈ subs, ∃ items out, Evenhanded letters false (fun _ => s) items out) (m : Marked)
    (hled : Led letters .away m) :
    ∃ m', Led letters .away m' ∧
      ∀ p, FairPrefix p → RuleSet.runSteps (subs.map .always) (fill p m) = fill p m' := by
  induction subs generalizing m with
  | nil => exact ⟨m, hled, fun p _ => rfl⟩
  | cons s subs ih =>
    obtain ⟨items, out, hs⟩ := h s List.mem_cons_self
    obtain ⟨m₁, hled₁, heq₁⟩ := hs.text_apply_fill m hled
    obtain ⟨m₂, hled₂, heq₂⟩ := ih (fun t ht => h t (List.mem_cons_of_mem s ht)) m₁ (hled₁ rfl)
    refine ⟨m₂, hled₂, fun p hp => ?_⟩
    rw [List.map_cons, RuleSet.runSteps_cons, EditStep.text_always, heq₁ p hp, heq₂ p hp]

/-- Whether the guard holds is settled before the table that is created gets its prefix. -/
theorem createStep_fill (m : Marked) (hled : Led dropLetters .away m) :
    ∃ m', Led createLetters .away m' ∧
      ∀ p, FairPrefix p → ((createStep p).apply (fill p m)).text = fill p m' := by
  obtain ⟨b, hguard⟩ := containsText_fill (w := "CREATE TABLE".toList) (by decide) (by decide) hled
  have hmore : Led createLetters .away m := hled.mono (List.subset_cons_self 'E' dropLetters)
  cases b with
  | false => exact ⟨m, hmore, fun p hp => by rw [text_createStep, hguard p hp]; rfl⟩
  | true =>
    obtain ⟨out, hcreate⟩ := evenhanded_createTable
    obtain ⟨m₁, hled₁, heq₁⟩ := hcreate.text_apply_fill m hmore
    obtain ⟨items, out', hoptions⟩ := evenhanded_tableOptions
    obtain ⟨m₂, hled₂, heq₂⟩ := hoptions.text_apply_fill m₁ (hled₁ rfl)
    refine ⟨m₂, hled₂ rfl, fun p hp => ?_⟩
    rw [text_createStep, hguard p hp, if_pos rfl, heq₁ p hp, heq₂ p hp]

theorem insertStep_fill (m : Marked) (hled : Led createLetters .away m) :
    ∃ m', ∀ p, FairPrefix p → ((insertStep p).apply (fill p m)).text = fill p m' := by
  have hfront : m.head? ≠ some none := fun hm => by cases hled.here_of_head hm
  have hsteady : steady createLetters true false false (literal "INSERT INTO ".toList) = true := by
    decide
  obtain ⟨b, hguard⟩ := isPrefixOf_fill hsteady hled (fun _ hno => by cases hno) (fun _ => hfront)
  cases b with
  | false => exact ⟨m, fun p hp => by rw [text_insertStep, hguard p hp]; rfl⟩
  | true =>
    obtain ⟨out, hinsert⟩ := evenhanded_insertTable
    obtain ⟨m₁, _, heq₁⟩ := hinsert.text_apply_fill m hled
    refine ⟨m₁, fun p hp => ?_⟩
    rw [text_insertStep, hguard p hp, if_pos rfl, heq₁ p hp]

/-- What the steps leave of a line is one marked text, filled with the prefix. -/
theorem runSteps_builtin (line : List Char) :
    ∃ m, ∀ p, FairPrefix p → RuleSet.runSteps (builtinSteps p) line = fill p m := by
  obtain ⟨out, hdrop⟩ := evenhanded_dropTable
  obtain ⟨m₁, hled₁, heq₁⟩ := hdrop.text_apply_fill (plain line) (led_plain _ _ line)
  obtain ⟨m₂, hled₂, heq₂⟩ := createStep_fill m₁ (hled₁ rfl)
  obtain ⟨m₃, hled₃, heq₃⟩ := runSteps_fill prefixFree (fun _ => evenhanded_prefixFree) m₂ hled₂
  obtain ⟨m₄, heq₄⟩ := insertStep_fill m₃ hled₃
  refine ⟨m₄, fun p hp => ?_⟩
  have hfirst : ((dropTable p).apply line).text = fill p m₁ := by
    have h := heq₁ p hp
    rwa [fill_plain] at h
  rw [builtinSteps_eq, RuleSet.runSteps_cons, EditStep.text_always, hfirst, RuleSet.runSteps_cons,
    heq₂ p hp, RuleSet.runSteps_append, heq₃ p hp, RuleSet.runSteps_cons, heq₄ p hp,
    RuleSet.runSteps_nil]

/-! ## The law -/

/-- A line is dropped for every prefix, or it is emitted for every prefix as the same stretches with
the prefix between them. -/
theorem the_prefix_shows_only_where_it_stands (line : List Char) :
    (∃ cause, ∀ p, (RuleSet.builtin p).convertLine line = .elided cause) ∨
    ∃ segments : List (List Char), segments ≠ [] ∧ ∀ p, FairPrefix p →
      (RuleSet.builtin p).convertLine line = .emitted (p.intercalate segments) := by
  cases hskip : findSkipRule builtinSkipRules line with
  | some r =>
    refine Or.inl ⟨.builtin r.name, fun p => ?_⟩
    simp only [RuleSet.convertLine, RuleSet.builtin, hskip]
  | none =>
    obtain ⟨m, hm⟩ := runSteps_builtin line
    refine Or.inr ⟨m.segments, m.segments_ne_nil, fun p hp => ?_⟩
    simp only [RuleSet.convertLine, RuleSet.builtin, hskip, RuleSet.runUserRules, hm p hp,
      fill_eq_intercalate]

/-- A statement named inside another one: both prefixes stand at the same two places. -/
theorem two_prefixes_at_a_nested_statement :
    FairPrefix "temp_".toList ∧ FairPrefix "x2_".toList ∧
    ∃ segments : List (List Char), segments ≠ [] ∧
      (RuleSet.builtin "temp_".toList).convertLine
          "CREATE TABLE \x60DROP TABLE IF EXISTS \x60text\x60;\x60 (".toList =
        .emitted ("temp_".toList.intercalate segments) ∧
      (RuleSet.builtin "x2_".toList).convertLine
          "CREATE TABLE \x60DROP TABLE IF EXISTS \x60text\x60;\x60 (".toList =
        .emitted ("x2_".toList.intercalate segments) := by
  have htemp : FairPrefix "temp_".toList := ⟨by decide, by decide, by decide⟩
  have hx2 : FairPrefix "x2_".toList := ⟨by decide, by decide, by decide⟩
  refine ⟨htemp, hx2, ?_⟩
  rcases the_prefix_shows_only_where_it_stands
      "CREATE TABLE \x60DROP TABLE IF EXISTS \x60text\x60;\x60 (".toList with
    ⟨cause, hcause⟩ | ⟨segments, hne, hemitted⟩
  · have hkept : findSkipRule builtinSkipRules
        "CREATE TABLE \x60DROP TABLE IF EXISTS \x60text\x60;\x60 (".toList = none := by rfl
    have hno := hcause "temp_".toList
    simp only [RuleSet.convertLine, RuleSet.builtin, hkept, RuleSet.runUserRules] at hno
    cases hno
  · exact ⟨segments, hne, hemitted _ htemp, hemitted _ hx2⟩

end SqlDump
