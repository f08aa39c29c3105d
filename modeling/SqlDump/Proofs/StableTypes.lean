-- Column types that have been mapped stay as they are. Each mapping shows capitals where it was made, so it
-- leaves no match of its own and brings in none of another one, and no later step brings one back.
import SqlDump.Proofs.Absence
import SqlDump.Proofs.TableNames

namespace SqlDump

open Regex Regex.Sequence
open Unicode (isWord isDigit)

/-! ## Changes that show capitals -/

/-- Whether a part of a template shows no small letter of its own, nor the whole match. -/
def showsNoSmall : TemplatePart → Bool
  | .literal c => !c.isLower
  | .group n => n != 0
  | .named _ => false

/-- Whether a template begins with a capital and shows no small letter but those of groups. -/
def capital : Template → Bool
  | .literal c :: rest => c.isUpper && (TemplatePart.literal c :: rest).all showsNoSmall
  | _ => false

/-- Whether every captured run is made of digits. -/
def capturesDigits (items : List Item) : Bool :=
  items.all fun
    | .run .digit _ => true
    | .run _ captured => !captured
    | _ => true

/-- Whether the items end at an edge, or with a mark. -/
def closes (items : List Item) : Bool :=
  match items.getLast? with
  | some (.look (.word .boundary false)) => true
  | some (.char (.single c)) => !isWord c
  | _ => false

theorem isDigit_of_mem_captured {items : List Item} (h : capturesDigits items = true)
    {before : Option Char} {text taken : List Char} {runs : List (List Char)}
    (hmatch : matchAt items before text = some (taken, runs)) : ∀ r ∈ runs, ∀ c ∈ r, isDigit c = true := by
  induction items generalizing before text taken runs with
  | nil =>
    cases hmatch
    simp
  | cons item items ih =>
    rw [capturesDigits, List.all_cons, Bool.and_eq_true] at h
    cases item with
    | char s =>
      cases text with
      | nil => cases hmatch
      | cons c rest =>
        simp only [matchAt] at hmatch
        split at hmatch
        · obtain ⟨found, hfound, he⟩ := Option.map_eq_some_iff.mp hmatch
          cases he
          exact ih h.2 hfound
        · cases hmatch
    | look l =>
      simp only [matchAt] at hmatch
      split at hmatch
      · exact ih h.2 hmatch
      · cases hmatch
    | run s captured =>
      simp only [matchAt] at hmatch
      split at hmatch
      · cases hmatch
      · obtain ⟨found, hfound, he⟩ := Option.map_eq_some_iff.mp hmatch
        cases he
        cases captured with
        | false => exact ih h.2 hfound
        | true =>
          intro r hr c hc
          rcases List.mem_cons.mp hr with rfl | hr
          · obtain rfl : s = .digit := by
              cases s <;> first | rfl | exact absurd h.1 (by simp)
            exact List.all_eq_true.mp List.all_takeWhile c hc
          · exact ih h.2 hfound r hr c hc

/-- Behind such a match a word begins only where the match did not end in one. -/
theorem behind_of_closes {items : List Item} (h : closes items = true) {before : Option Char}
    {taken rest : List Char} {runs : List (List Char)} (hne : taken ≠ [])
    (hmatch : matchAt items before (taken ++ rest) = some (taken, runs)) :
    isWordSide false taken.getLast? = false ∨ beginsWord rest = false := by
  rcases items.eq_nil_or_concat with rfl | ⟨xs, item, rfl⟩
  · cases h
  · rw [List.concat_eq_append, matchAt_append] at hmatch
    obtain ⟨x, hx, hmatch⟩ := Option.bind_eq_some_iff.mp hmatch
    obtain ⟨y, hy, he⟩ := Option.map_eq_some_iff.mp hmatch
    obtain ⟨he, -⟩ := Prod.ext_iff.mp he
    simp only at he
    rw [closes, List.concat_eq_append, List.getLast?_concat] at h
    rw [← he] at hne ⊢
    have hdrop : (taken ++ rest).drop x.1.length = y.1 ++ rest := by
      rw [← he, List.append_assoc, List.drop_left]
    rw [hdrop] at hy
    split at h
    · rename_i hitem
      cases hitem
      simp only [matchAt] at hy
      split at hy
      · rename_i hedge
        cases hy
        rw [List.append_nil] at hne ⊢
        rw [List.getLast?_eq_some_getLast hne] at hedge ⊢
        cases hlast : isWordSide false (some (x.1.getLast hne)) with
        | false => exact Or.inl rfl
        | true =>
          right
          simpa [Look.holds, WordEdge.holds, hlast, beginsWord] using hedge
      · cases hy
    · rename_i c hitem
      cases hitem
      left
      cases hrest : y.1 ++ rest with
      | nil =>
        rw [hrest] at hy
        cases hy
      | cons d more =>
        rw [hrest] at hy
        simp only [matchAt, CharSet.mem_single, beq_iff_eq] at hy
        split at hy
        · rename_i hd
          cases hy
          rw [List.getLast?_concat, hd]
          simpa using h
        · cases hy
    · cases h

theorem expand_of_capital {t : Template} (h : capital t = true) {names : List (List Char × Nat)}
    {hit : Hit} (hgroups : ∀ g, some g ∈ hit.groups → ∀ c ∈ g, isDigit c = true) :
    (∃ c, (t.expand names hit).head? = some c ∧ c.isUpper = true) ∧
      ∀ c ∈ t.expand names hit, c.isLower = false := by
  unfold capital at h
  split at h
  · rename_i first rest
    rw [Bool.and_eq_true] at h
    refine ⟨⟨first, rfl, h.1⟩, fun c hc => ?_⟩
    obtain ⟨part, hpart, hc⟩ := List.mem_flatMap.mp hc
    have hshows := List.all_eq_true.mp h.2 part hpart
    cases part with
    | literal d =>
      obtain rfl : c = d := List.mem_singleton.mp hc
      simpa [showsNoSmall] using hshows
    | group n =>
      obtain ⟨m, rfl⟩ : ∃ m, n = m + 1 :=
        Nat.exists_eq_succ_of_ne_zero (by simpa [showsNoSmall] using hshows)
      obtain ⟨g, hg, hcg⟩ := Hit.mem_group hc
      by_contra hlower
      rw [Bool.not_eq_false] at hlower
      have hno := isDigit_of_isLower hlower
      rw [hgroups g hg c hcg] at hno
      cases hno
    | named name => cases hshows
  · cases h

/-- A capital is no small letter and no digit. -/
theorem foreign_of_isUpper {c : Char} (h : c.isUpper = true) :
    c.isLower = false ∧ isDigit c = false ∧ isWord c = true := by
  have hbounds : 65 ≤ c.toNat ∧ c.toNat ≤ 90 := by
    have hval : 'A'.val ≤ c.val ∧ c.val ≤ 'Z'.val := of_decide_eq_true h
    exact ⟨UInt32.le_iff_toNat_le.mp hval.1, UInt32.le_iff_toNat_le.mp hval.2⟩
  have hdigit : c.isDigit = true ↔ 48 ≤ c.toNat ∧ c.toNat ≤ 57 := Char.isDigit_iff_toNat
  refine ⟨?_, ?_, ?_⟩
  · by_contra hlower
    have hlower' := toNat_of_isLower (by simpa using hlower)
    omega
  · unfold isDigit
    rw [if_pos (by omega), ← Bool.not_eq_true, hdigit]
    omega
  · have halpha : (c.isUpper || c.isLower) = true := by rw [h, Bool.true_or]
    have halphanum : c.isAlphanum = true := Bool.or_eq_true_iff.mpr (Or.inl halpha)
    unfold isWord
    rw [if_pos (by omega), halphanum]
    rfl

/-- A substitution of small letters by capitals clears. -/
theorem clears_of_capital {s : Substitution} {items : List Item} (hs : s.Walks items)
    (hsmall : small items = true) (hdigits : capturesDigits items = true)
    (hcloses : closes items = true) (hcapital : capital (Template.read s.replacement) = true) :
    Clears items s.replace := by
  have hshown : ∀ {before : Option Char} {text taken : List Char} {runs : List (List Char)},
      matchAt items before text = some (taken, runs) →
      (∃ c, (s.replace ⟨taken, runs.map some⟩).head? = some c ∧ c.isUpper = true) ∧
        ∀ c ∈ s.replace ⟨taken, runs.map some⟩, c.isLower = false := by
    intro before text taken runs hmatch
    refine expand_of_capital hcapital fun g hg c hc => ?_
    obtain ⟨r, hr, he⟩ := List.mem_map.mp hg
    rw [← Option.some.inj he] at hc
    exact isDigit_of_mem_captured hdigits hmatch r hr c hc
  refine { takes := hs.takes, front := ?_, bare := fun hmatch => (hshown hmatch).2, behind := ?_ }
  · intro before taken rest runs hmatch
    obtain ⟨u, hu, hupper⟩ := (hshown hmatch).1
    have hhead : (edited items s.replace before (taken ++ rest)).head? = some u := by
      rw [edited_hit hs.takes hmatch, List.head?_append, hu]
      rfl
    obtain ⟨c, tail, rfl, hc, _⟩ := exists_of_small hsmall
    have hopen : isWordSide false before = false ∧ (taken ++ rest).head? = some c := by
      by_contra hno
      rw [matchAt_small (isWord_of_isLower hc), if_neg hno] at hmatch
      cases hmatch
    rw [hhead, hopen.2]
    refine ⟨?_, ?_, fun hword => ?_⟩
    · rintro d ⟨⟩
      exact isDigit_of_isLower hc
    · rintro d ⟨⟩
      exact ⟨(foreign_of_isUpper hupper).1, (foreign_of_isUpper hupper).2.1⟩
    · rw [hopen.1] at hword
      cases hword
  · intro before taken rest runs hmatch
    exact behind_of_closes hcloses (taken_ne_nil hs.takes hmatch) hmatch

/-! ## Words that are taken out -/

variable {name : String}

/-- A pattern for a whole word matches the word, with no word character on either side. -/
theorem keyword_hit (hname : IsWordName name) {before : Option Char} {taken rest : List Char}
    {runs : List (List Char)}
    (h : matchAt (keyword name) before (taken ++ rest) = some (taken, runs)) :
    taken = name.toList ∧ isWordSide false before = false ∧ beginsWord rest = false := by
  obtain ⟨d, w, hw⟩ := List.exists_cons_of_ne_nil hname.ne_nil
  have hd : isWord d = true := by
    have hall := hname.all
    rw [hw, List.all_cons, Bool.and_eq_true] at hall
    exact hall.1
  have hform : keyword name =
      .look (.word .boundary false) :: .char (.single d) :: (literal w ++ [edge]) := by
    unfold keyword edge
    rw [hw]
    rfl
  have htakes : (keyword name).any Item.takes = true := by
    rw [hform]
    rfl
  have hbehind : isWordSide false taken.getLast? = false ∨ beginsWord rest = false := by
    refine behind_of_closes ?_ (taken_ne_nil htakes h) h
    rw [closes, keyword, ← List.cons_append, List.getLast?_concat]
    rfl
  rw [hform, matchAt_small hd] at h
  split at h
  · rename_i hopen
    have hliteral : matchAt (literal name.toList ++ [edge]) before (taken ++ rest) =
        some (taken, runs) := by
      rw [hw]
      exact h
    obtain ⟨x, more, -, rfl, hedge⟩ := matchAt_literal_append_iff.mp hliteral
    simp only [edge, matchAt] at hedge
    split at hedge
    · cases hedge
      refine ⟨List.append_nil _, hopen.1, hbehind.resolve_left ?_⟩
      have hends := endsWord_of_all hname.ne_nil hname.all
      unfold endsWord at hends
      simp [hends]
    · cases hedge
  · cases h

/-- Taking out a word that begins with a capital clears. -/
theorem clears_of_removal {s : Substitution} (hs : s.Walks (keyword name)) (hname : IsWordName name)
    (hupper : name.toList.head?.all Char.isUpper = true) (hgone : s.replacement = []) :
    Clears (keyword name) s.replace := by
  have hrep : ∀ hit, s.replace hit = [] := by
    intro hit
    unfold Substitution.replace
    rw [hgone]
    rfl
  have hfirst : ∀ rest : List Char, (name.toList ++ rest).head? = name.toList.head? := by
    intro rest
    rw [List.head?_append, List.head?_eq_some_head hname.ne_nil]
    rfl
  refine { takes := hs.takes, front := ?_, bare := ?_, behind := fun hmatch => ?_ }
  · intro before taken rest runs hmatch
    obtain ⟨rfl, hbefore, hrest⟩ := keyword_hit hname hmatch
    refine ⟨fun c hc => ?_, fun c hc => ?_, fun hword => ?_⟩
    · rw [hfirst] at hc
      rw [Option.mem_def.mp hc, Option.all_some] at hupper
      exact (foreign_of_isUpper hupper).2.1
    · -- what is seen is no word character, as none stands behind the word
      rw [edited_hit hs.takes hmatch, hrep, List.nil_append] at hc
      have hother : isWord c = false := by
        rcases place_cases (keyword name) name.toList.getLast? rest with
          rfl | ⟨d, more, rfl, hnone⟩ | ⟨taken, more, runs', rfl, hagain⟩
        · cases hc
        · rw [edited_kept hnone] at hc
          obtain rfl : d = c := Option.some.inj hc
          exact hrest
        · obtain ⟨rfl, -, -⟩ := keyword_hit hname hagain
          unfold beginsWord at hrest
          rw [hfirst, List.head?_eq_some_head hname.ne_nil] at hrest
          have hword := List.all_eq_true.mp hname.all _ (List.head_mem hname.ne_nil)
          rw [isWordSide_some, hword] at hrest
          cases hrest
      refine ⟨?_, ?_⟩
      · by_contra hlower
        rw [isWord_of_isLower (by simpa using hlower)] at hother
        cases hother
      · by_contra hdigit
        rw [Unicode.isWord_of_isDigit (by simpa using hdigit)] at hother
        cases hother
    · rw [hbefore] at hword
      cases hword
  · intro before taken rest runs _ c hc
    rw [hrep] at hc
    cases hc
  · exact Or.inr (keyword_hit hname hmatch).2.2

/-! ## The types -/

/-- A substitution of a type in small letters. -/
structure MapsType (s : Substitution) (items : List Item) : Prop where
  walks : s.Walks items
  small : small items = true
  clears : Clears items s.replace

theorem mapsType_of_mem {s : Substitution} (h : s ∈ typeMappings) : ∃ items, MapsType s items := by
  have hcapital : ∀ t ∈ typeMappings, capital (Template.read t.replacement) = true := by decide
  have hitems : ∀ items ∈ typeItems,
      small items = true ∧ capturesDigits items = true ∧ closes items = true := by decide
  obtain ⟨items, hmem, hwalks⟩ := exists_of_forall₂ walks_typeMappings h
  obtain ⟨hsmall, hdigits, hcloses⟩ := hitems items hmem
  exact ⟨items, hwalks, hsmall,
    clears_of_capital hwalks hsmall hdigits hcloses (hcapital s h)⟩

/-- The pattern of a type has no match in a text. -/
def Free (s : Substitution) (text : List Char) : Prop :=
  ∃ items, MapsType s items ∧ Absent items none text

namespace Free

variable {s t : Substitution} {text : List Char}

theorem isMatch (h : Free s text) : s.pattern.isMatch text = false := by
  obtain ⟨items, hs, habsent⟩ := h
  have hpieces : s.pattern.pieces text = piecesFrom items none text := by
    unfold Pattern.pieces
    rw [hs.walks.matcher]
    rfl
  unfold Pattern.isMatch
  rw [hpieces, piecesFrom_of_absent habsent, List.any_map, List.any_eq_false]
  intro c _
  simp [Piece.isHit]

theorem unchanged (h : Free s text) : (s.apply text).text = text := by
  obtain ⟨items, hs, habsent⟩ := h
  rw [Substitution.text_apply hs.walks, piecesFrom_of_absent habsent, replaced_kept]

theorem own {items : List Item} (h : MapsType s items) (text : List Char) :
    Free s (s.apply text).text := by
  refine ⟨items, h, ?_⟩
  rw [Substitution.text_apply h.walks]
  exact absent_edited h.clears h.small (Or.inl rfl) Or.inl

theorem keep {items : List Item} (h : Free t text) (hs : s.Walks items)
    (hclears : Clears items s.replace) : Free t (s.apply text).text := by
  obtain ⟨its, ht, habsent⟩ := h
  refine ⟨its, ht, ?_⟩
  rw [Substitution.text_apply hs]
  exact absent_edited hclears ht.small (Or.inr habsent) Or.inl

/-- A run of substitutions of types leaves no match of any of them, nor of those that had none. -/
theorem runSteps {subs done : List Substitution} (hsubs : ∀ s ∈ subs, ∃ items, MapsType s items)
    (hdone : ∀ t ∈ done, Free t text) :
    ∀ t ∈ done ++ subs, Free t (RuleSet.runSteps (subs.map .always) text) := by
  induction subs generalizing done text with
  | nil =>
    rw [List.append_nil]
    exact hdone
  | cons s subs ih =>
    obtain ⟨items, hs⟩ := hsubs s List.mem_cons_self
    have hnext : ∀ t ∈ done ++ [s], Free t (s.apply text).text := by
      intro t ht
      rcases List.mem_append.mp ht with ht | ht
      · exact (hdone t ht).keep hs.walks hs.clears
      · rw [List.mem_singleton.mp ht]
        exact own hs text
    intro t ht
    rw [List.map_cons, RuleSet.runSteps_cons, EditStep.text_always]
    refine ih (fun u hu => hsubs u (List.mem_cons_of_mem s hu)) hnext t ?_
    rwa [List.append_assoc, List.singleton_append]

end Free

/-- A text with all its types mapped. -/
def mapTypes (text : List Char) : List Char := RuleSet.runSteps (typeMappings.map .always) text

/-- A text without the words that are taken out. -/
def takeOut (text : List Char) : List Char := (unsigned.apply (autoIncrement.apply text).text).text

theorem free_mapTypes (text : List Char) : ∀ s ∈ typeMappings, Free s (mapTypes text) :=
  Free.runSteps (fun _ h => mapsType_of_mem h) (fun _ h => absurd h List.not_mem_nil)

theorem Free.autoIncrement {s : Substitution} {text : List Char} (h : Free s text) :
    Free s (autoIncrement.apply text).text :=
  h.keep walks_autoIncrement
    (clears_of_removal walks_autoIncrement ⟨by decide, by decide⟩ (by decide) rfl)

theorem Free.unsigned {s : Substitution} {text : List Char} (h : Free s text) :
    Free s (unsigned.apply text).text :=
  h.keep walks_unsigned (clears_of_removal walks_unsigned ⟨by decide, by decide⟩ (by decide) rfl)

/-! ## A prefix before a table's name -/

theorem isPrefixChar_of_insertName {c : Char} (h : insertName.mem c = true) : isPrefixChar c = true := by
  have hmem : (97 ≤ c.toNat ∧ c.toNat ≤ 122) ∨ (65 ≤ c.toNat ∧ c.toNat ≤ 90) ∨ c = '_' := by
    simpa [insertName, CharSet.mem, Char.le_def, UInt32.le_iff_toNat_le] using h
  rw [isPrefixChar_iff]
  rcases hmem with hsmall | hcapital | hunder
  · exact Or.inr (Or.inl hsmall)
  · exact Or.inl hcapital
  · exact Or.inr (Or.inr (Or.inr hunder))

/-- Where rows are inserted the match is the words of the statement and a name. -/
theorem insert_hit {before : Option Char} {taken rest : List Char} {runs : List (List Char)}
    (h : matchAt insertItems before (taken ++ rest) = some (taken, runs)) :
    ∃ name, name ≠ [] ∧ name.all isWord = true ∧ taken = "INSERT INTO ".toList ++ name ∧
      runs = [name] := by
  obtain ⟨name, -, -, rfl, rfl, hne, hall, -⟩ := matchAt_insertItems_iff.mp h
  refine ⟨name, hne, List.all_eq_true.mpr fun c hc => ?_, rfl, rfl⟩
  exact isWord_of_isPrefixChar (isPrefixChar_of_insertName (List.all_eq_true.mp hall c hc))

theorem insertTable_replace (p name taken : List Char) :
    (insertTable p).replace ⟨taken, [name].map some⟩ = "INSERT INTO ".toList ++ (p ++ name) := by
  have hexpand := Template.expand_read_prefixed "INSERT INTO " "" p (insertTable p).pattern.names
    ⟨taken, [name].map some⟩ (by decide) (by decide)
  have hempty : "".toList = [] := rfl
  rw [hempty, List.append_nil, List.append_assoc] at hexpand
  exact hexpand

/-- The statement begins as before. -/
theorem masks_insertTable (p : List Char) : Masks insertItems (insertTable p).replace := by
  refine ⟨rfl, fun {before taken rest runs} hmatch => ?_⟩
  have hedited : edited insertItems (insertTable p).replace before (taken ++ rest) =
      (insertTable p).replace ⟨taken, runs.map some⟩ ++
        edited insertItems (insertTable p).replace taken.getLast? rest := edited_hit rfl hmatch
  obtain ⟨name, -, -, rfl, rfl⟩ := insert_hit hmatch
  have hold : ("INSERT INTO ".toList ++ name ++ rest).head? = some 'I' := rfl
  have hnew : (edited insertItems (insertTable p).replace before
      ("INSERT INTO ".toList ++ name ++ rest)).head? = some 'I' := by
    rw [hedited, insertTable_replace]
    rfl
  rw [hold, hnew]
  refine ⟨?_, ?_, fun _ => ⟨rfl, rfl⟩⟩
  · rintro c ⟨⟩
    rfl
  · rintro c ⟨⟩
    exact ⟨rfl, rfl⟩

/-- A word that has a character besides small letters is none of the words that are sought. -/
theorem matchAt_smallTail_covered {its : List Item} (h : smallTail true its = true)
    {before : Option Char} (hbefore : isWordSide false before = true) {w : List Char}
    (hw : w.all isWord = true) (hother : ∃ c ∈ w, c.isLower = false) (rest : List Char) :
    matchAt its before (w ++ rest) = none := by
  induction its generalizing before w with
  | nil => cases h
  | cons item its ih =>
    obtain ⟨d, w, rfl⟩ : ∃ d v, w = d :: v := by
      obtain ⟨c, hc, -⟩ := hother
      exact List.exists_cons_of_ne_nil (List.ne_nil_of_mem hc)
    rw [List.all_cons, Bool.and_eq_true] at hw
    unfold smallTail at h
    split at h
    · rename_i he
      cases he
    · rename_i he
      cases he
      simp [matchAt, Look.holds, WordEdge.holds, hbefore, hw.1]
    · rename_i c its' he
      cases he
      rw [Bool.and_eq_true] at h
      by_cases hd : d = c
      · subst hd
        have hlower : d.isLower = true := by
          rw [hw.1] at h
          simpa using h.1
        have hrest : ∃ c ∈ w, c.isLower = false := by
          obtain ⟨c, hc, hno⟩ := hother
          rcases List.mem_cons.mp hc with rfl | hc
          · rw [hlower] at hno
            cases hno
          · exact ⟨c, hc, hno⟩
        have hside : isWordSide false (some d) = true := hw.1
        rw [hlower] at h
        rw [List.cons_append, matchAt_single_self, ih h.2 hside hw.2 hrest]
        rfl
      · exact matchAt_single_ne _ _ _ hd
    · rename_i hno _
      cases hno
    · cases h

theorem matchAt_small_covered {its : List Item} (h : small its = true) (before : Option Char)
    {w : List Char} (hw : w.all isWord = true) (hother : ∃ c ∈ w, c.isLower = false)
    (rest : List Char) : matchAt its before (w ++ rest) = none := by
  obtain ⟨c, tail, rfl, hc, htail⟩ := exists_of_small h
  rw [matchAt_small (isWord_of_isLower hc)]
  split
  · rename_i hopen
    obtain ⟨d, w, rfl⟩ : ∃ d v, w = d :: v := by
      obtain ⟨e, he, -⟩ := hother
      exact List.exists_cons_of_ne_nil (List.ne_nil_of_mem he)
    obtain rfl : d = c := Option.some.inj hopen.2
    rw [List.all_cons, Bool.and_eq_true] at hw
    have hside : isWordSide false (some d) = true := hw.1
    have hrest : ∃ e ∈ w, e.isLower = false := by
      obtain ⟨e, he, hno⟩ := hother
      rcases List.mem_cons.mp he with rfl | he
      · rw [hc] at hno
        cases hno
      · exact ⟨e, he, hno⟩
    rw [List.cons_append, matchAt_single_self, matchAt_smallTail_covered htail hside hw.2 hrest]
    rfl
  · rfl

/-- Setting a prefix that has another character than small letters brings in no type. -/
theorem absent_insertTable {its : List Item} (h : small its = true) {p : List Char}
    (hp : p.all isPrefixChar = true) (hother : ∃ c ∈ p, c.isLower = false) {before : Option Char}
    {text : List Char} (habsent : Absent its before text) :
    Absent its before (edited insertItems (insertTable p).replace before text) := by
  have hmasks := masks_insertTable p
  induction before, text using walk_induction hmasks.takes with
  | nil before => trivial
  | kept before c rest hmatch ih =>
    have hfirst : matchAt its before
        (edited insertItems (insertTable p).replace before (c :: rest)) = none := by
      by_contra hsome
      have hold := matchAt_small_of_edited hmasks h Or.inl (Option.isSome_iff_ne_none.mpr hsome)
      rw [habsent.1] at hold
      cases hold
    rw [edited_kept hmatch] at hfirst ⊢
    exact ⟨hfirst, ih habsent.2⟩
  | hit before taken rest runs hmatch ih =>
    have hright := habsent.append_right
    obtain ⟨name, hne, hname, rfl, rfl⟩ := insert_hit hmatch
    have hlast : ∀ (x : List Char) (o : Option Char), (x ++ name).getLast?.or o = name.getLast? := by
      intro x o
      rw [List.getLast?_append_of_ne_nil _ hne, List.getLast?_eq_some_getLast hne]
      rfl
    have hbehind : ("INSERT INTO ".toList ++ name).getLast? = name.getLast? :=
      List.getLast?_append_of_ne_nil _ hne
    rw [hlast] at hright
    rw [hbehind] at ih
    rw [edited_hit hmasks.takes hmatch, insertTable_replace, hbehind, List.append_assoc]
    -- no match begins in the words of the statement, at the prefix, or further on in the new name
    obtain ⟨d, q, rfl⟩ : ∃ d q, p = d :: q := by
      obtain ⟨c, hc, -⟩ := hother
      exact List.exists_cons_of_ne_nil (List.ne_nil_of_mem hc)
    have hword := all_isWord hp
    have hinside : (q ++ name).all isWord = true := by
      rw [List.all_cons, Bool.and_eq_true] at hword
      rw [List.all_append, hword.2, hname]
      rfl
    have hside : isWordSide false (some d) = true := by
      rw [List.all_cons, Bool.and_eq_true] at hword
      exact hword.1
    have hwords : "INSERT INTO ".toList.all (fun c => !c.isLower) = true := by decide
    have hcapitals : ∀ c ∈ "INSERT INTO ".toList, c.isLower = false := fun c hc => by
      simpa using List.all_eq_true.mp hwords c hc
    refine absent_append_of_no_lower h hcapitals ⟨?_, ?_⟩
    · have hcovered := matchAt_small_covered h (("INSERT INTO ".toList).getLast?.or before) hword hother
        (name ++ edited insertItems (insertTable (d :: q)).replace name.getLast? rest)
      rwa [← List.append_assoc] at hcovered
    · have hrest : Absent its ((q ++ name).getLast?.or (some d))
          (edited insertItems (insertTable (d :: q)).replace name.getLast? rest) := by
        rw [hlast]
        exact ih hright
      exact absent_append_of_inside h hside hinside hrest

/-- Setting no prefix changes nothing. -/
theorem text_apply_insertTable_nil (text : List Char) : ((insertTable []).apply text).text = text := by
  rw [Substitution.text_apply (walks_insertTable [])]
  have hsame : ∀ before, edited insertItems (insertTable []).replace before text = text := by
    intro before
    induction before, text using walk_induction (walks_insertTable []).takes with
    | nil before => rfl
    | kept before c rest hmatch ih => rw [edited_kept hmatch, ih]
    | hit before taken rest runs hmatch ih =>
      rw [edited_hit (walks_insertTable []).takes hmatch, ih]
      obtain ⟨name, -, -, rfl, rfl⟩ := insert_hit hmatch
      rw [insertTable_replace, List.nil_append]
  exact hsame none

theorem Free.insertStep {s : Substitution} {p text : List Char} (h : Free s text)
    (hp : p.all isPrefixChar = true) (hother : p = [] ∨ ∃ c ∈ p, c.isLower = false) :
    Free s ((insertStep p).apply text).text := by
  rw [text_insertStep]
  split
  · rcases hother with rfl | hother
    · rwa [text_apply_insertTable_nil]
    · obtain ⟨items, hs, habsent⟩ := h
      refine ⟨items, hs, ?_⟩
      rw [Substitution.text_apply (walks_insertTable p)]
      exact absent_insertTable hs.small hp hother habsent
  · exact h

/-! ## The law -/

/-- The steps up to the words that are taken out. -/
def firstSteps (p : List Char) : List EditStep :=
  .always (dropTable p) :: createStep p ::
    (typeMappings.map .always ++ [.always autoIncrement, .always unsigned])

theorem builtinSteps_firstSteps (p : List Char) :
    builtinSteps p = firstSteps p ++ [.always backquotes, insertStep p] := by
  rw [builtinSteps_eq]
  unfold firstSteps prefixFree
  simp

/-- What the steps make of a line without quotes: behind the mapping of types words are taken out and a
prefix is set, and nothing else happens. -/
theorem runSteps_without_quotes {p line : List Char} (hline : '\x60' ∉ line)
    (hp : p.all isPrefixChar = true) :
    ∃ text, RuleSet.runSteps (builtinSteps p) line =
      ((insertStep p).apply (takeOut (mapTypes text))).text := by
  have hnone : '\x60' ∉ RuleSet.runSteps (firstSteps p) line := by
    refine RuleSet.not_mem_runSteps (fun s hs => ?_) hline
    refine not_mem_builtinSteps (not_quote_of_all hp) (by decide) s ?_
    rw [builtinSteps_firstSteps]
    exact List.mem_append_left _ hs
  have hkept : (backquotes.apply (RuleSet.runSteps (firstSteps p) line)).text =
      RuleSet.runSteps (firstSteps p) line :=
    text_apply_backquotes fun hin => hnone (hin.subset List.mem_cons_self)
  refine ⟨((createStep p).apply ((dropTable p).apply line).text).text, ?_⟩
  rw [builtinSteps_firstSteps, RuleSet.runSteps_append, RuleSet.runSteps_cons, EditStep.text_always,
    hkept, RuleSet.runSteps_cons, RuleSet.runSteps_nil, firstSteps, RuleSet.runSteps_cons,
    RuleSet.runSteps_cons, RuleSet.runSteps_append, RuleSet.runSteps_cons, RuleSet.runSteps_cons,
    RuleSet.runSteps_nil, EditStep.text_always, EditStep.text_always, EditStep.text_always]
  rfl

/-- A text with its types mapped has no type left to map, so mapping again changes nothing, and none comes
back where words are taken out. The same holds of a whole line without quotes under a prefix that is empty
or has another character than small letters. -/
theorem mapped_types_are_never_mapped_again :
    (∀ text, (∀ s ∈ typeMappings, s.pattern.isMatch (mapTypes text) = false) ∧
      mapTypes (mapTypes text) = mapTypes text ∧
      (∀ s ∈ typeMappings, s.pattern.isMatch (autoIncrement.apply (mapTypes text)).text = false) ∧
      ∀ s ∈ typeMappings, s.pattern.isMatch (takeOut (mapTypes text)) = false) ∧
    ∀ p line text, p.all isPrefixChar = true → (p = [] ∨ ∃ c ∈ p, c.isLower = false) →
      '\x60' ∉ line → (RuleSet.builtin p).convertLine line = .emitted text →
      ∀ s ∈ typeMappings, s.pattern.isMatch text = false := by
  have hout : ∀ text, ∀ s ∈ typeMappings, Free s (takeOut (mapTypes text)) := fun text s hs =>
    (free_mapTypes text s hs).autoIncrement.unsigned
  refine ⟨fun text => ⟨?_, ?_, ?_, ?_⟩, ?_⟩
  · exact fun s hs => (free_mapTypes text s hs).isMatch
  · exact runSteps_unchanged fun s hs => (free_mapTypes text s hs).unchanged
  · exact fun s hs => (free_mapTypes text s hs).autoIncrement.isMatch
  · exact fun s hs => (hout text s hs).isMatch
  · intro p line text hp hother hline hemitted s hs
    unfold RuleSet.convertLine at hemitted
    split at hemitted
    · cases hemitted
    · obtain ⟨mapped, hsteps⟩ := runSteps_without_quotes hline hp
      have htext : RuleSet.runSteps (builtinSteps p) line = text := by
        simpa [RuleSet.builtin, RuleSet.runUserRules] using hemitted
      rw [← htext, hsteps]
      exact ((hout mapped s hs).insertStep hp hother).isMatch

/-- Types side by side, and one that becomes a table's name. -/
theorem types_side_by_side_are_mapped_once :
    let p := "int2".toList
    let line := "INSERT INTO text int(11)tinyint(1) varchar(8)longtext UNSIGNED int(3)".toList
    let text := "INSERT INTO int2TEXT INTEGERtinyint(1) VARCHAR(8)TEXT  INTEGER".toList
    (p.all isPrefixChar = true ∧ (p = [] ∨ ∃ c ∈ p, c.isLower = false) ∧ '\x60' ∉ line ∧
      (RuleSet.builtin p).convertLine line = .emitted text) ∧
    ∀ s ∈ typeMappings, s.pattern.isMatch text = false := by
  intro p line text
  have hp : p.all isPrefixChar = true := by decide
  have hother : p = [] ∨ ∃ c ∈ p, c.isLower = false := Or.inr ⟨'2', by decide, by decide⟩
  have hline : '\x60' ∉ line := by decide
  have hemitted : (RuleSet.builtin p).convertLine line = .emitted text := by decide +kernel
  exact ⟨⟨hp, hother, hline, hemitted⟩,
    mapped_types_are_never_mapped_again.2 p line text hp hother hline hemitted⟩

end SqlDump
