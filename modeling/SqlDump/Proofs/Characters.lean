-- Where the characters of a changed text come from: they stood in the text before, or the template spells
-- them out. So a character that neither has cannot appear, whatever the patterns are.
import SqlDump.Proofs.BuiltinPatterns

namespace SqlDump

open Regex

/-! ## Pieces -/

namespace Regex

/-- All characters of a piece stand in the text, those of a group in the match. -/
def Piece.Within (text : List Char) : Piece → Prop
  | .kept c => c ∈ text
  | .hit h => h.whole ⊆ text ∧ ∀ g, some g ∈ h.groups → g ⊆ h.whole

/-- A group of a match has characters only where it took part. -/
theorem Hit.mem_group {h : Hit} {n : Nat} {c : Char} (hc : c ∈ (h.group (n + 1)).getD []) :
    ∃ g, some g ∈ h.groups ∧ c ∈ g := by
  have hgroup : h.group (n + 1) = (h.groups[n]?).join := rfl
  rw [hgroup] at hc
  rcases hn : h.groups[n]? with _ | _ | g
  · rw [hn] at hc
    cases hc
  · rw [hn] at hc
    cases hc
  · rw [hn] at hc
    exact ⟨g, List.mem_of_getElem? hn, hc⟩

theorem Hit.group_subset {h : Hit} (hg : ∀ g, some g ∈ h.groups → g ⊆ h.whole) (n : Nat) :
    (h.group n).getD [] ⊆ h.whole := by
  cases n with
  | zero => exact List.Subset.refl _
  | succ n =>
    intro c hc
    obtain ⟨g, hmem, hcg⟩ := Hit.mem_group hc
    exact hg g hmem hcg

namespace Sequence

/-- A match takes a beginning of the text, and captures parts of it. -/
theorem matchAt_taken {items : List Item} {before : Option Char} {text taken : List Char}
    {runs : List (List Char)} (h : matchAt items before text = some (taken, runs)) :
    taken <+: text ∧ ∀ r ∈ runs, r ⊆ taken := by
  induction items generalizing before text taken runs with
  | nil =>
    cases h
    exact ⟨List.nil_prefix, by simp⟩
  | cons item items ih =>
    cases item with
    | char s =>
      cases text with
      | nil => cases h
      | cons c rest =>
        simp only [matchAt] at h
        split at h
        · obtain ⟨found, hfound, he⟩ := Option.map_eq_some_iff.mp h
          cases he
          obtain ⟨hpre, hruns⟩ := ih hfound
          exact ⟨List.cons_prefix_cons.mpr ⟨rfl, hpre⟩,
            fun r hr => List.Subset.trans (hruns r hr) (List.subset_cons_self c found.1)⟩
        · cases h
    | look l =>
      simp only [matchAt] at h
      split at h
      · exact ih h
      · cases h
    | run s captured =>
      simp only [matchAt] at h
      split at h
      · cases h
      · obtain ⟨found, hfound, he⟩ := Option.map_eq_some_iff.mp h
        cases he
        obtain ⟨hpre, hruns⟩ := ih hfound
        have htext := List.prefix_iff_eq_append.mp (List.takeWhile_prefix s.mem (l := text))
        have hlater : ∀ r ∈ found.2, r ⊆ text.takeWhile s.mem ++ found.1 := fun r hr =>
          List.Subset.trans (hruns r hr) (List.subset_append_right _ _)
        refine ⟨?_, fun r hr => ?_⟩
        · have hboth := (List.prefix_append_right_inj (text.takeWhile s.mem)).mpr hpre
          rwa [htext] at hboth
        · cases captured with
          | false => exact hlater r hr
          | true =>
            rcases List.mem_cons.mp hr with rfl | hr
            · exact List.subset_append_left _ _
            · exact hlater r hr

theorem within_scan {items : List Item} {x : List Char} (inside : Nat) (before : Option Char)
    (text : List Char) (done : List Piece) (htext : text ⊆ x) (hdone : ∀ p ∈ done, p.Within x) :
    ∀ p ∈ scan items inside before text done, p.Within x := by
  induction text generalizing inside before done with
  | nil => cases inside <;> exact hdone
  | cons c rest ih =>
    have hrest : rest ⊆ x := fun d hd => htext (List.mem_cons_of_mem c hd)
    cases inside with
    | succ n => exact ih n (some c) done hrest hdone
    | zero =>
      simp only [scan]
      split
      · rename_i taken runs hmatch
        obtain ⟨hpre, hruns⟩ := matchAt_taken hmatch
        refine ih _ _ _ hrest fun p hp => ?_
        rcases List.mem_cons.mp hp with rfl | hp
        · refine ⟨List.Subset.trans hpre.subset htext, fun g hg => ?_⟩
          obtain ⟨r, hr, he⟩ := List.mem_map.mp hg
          rw [← Option.some.inj he]
          exact hruns r hr
        · exact hdone p hp
      · refine ih _ _ _ hrest fun p hp => ?_
        rcases List.mem_cons.mp hp with rfl | hp
        · exact htext List.mem_cons_self
        · exact hdone p hp

end Sequence

theorem groupText_subset {start : Nat} {whole g : List Char} {slots : Slots} {i : Nat}
    (h : groupText start whole slots i = some g) : g ⊆ whole := by
  unfold groupText at h
  split at h
  · cases h
    exact List.Subset.trans (List.take_subset _ _) (List.drop_subset _ _)
  · cases h

theorem within_map_kept {x text : List Char} (h : text ⊆ x) :
    ∀ p ∈ text.map Piece.kept, p.Within x := by
  intro p hp
  obtain ⟨c, hc, rfl⟩ := List.mem_map.mp hp
  exact h hc

theorem within_cutAt {x : List Char} (groups pos : Nat) (text : List Char) (found : List Slots)
    (h : text ⊆ x) : ∀ p ∈ cutAt groups pos text found, p.Within x := by
  induction found generalizing pos text with
  | nil => exact within_map_kept h
  | cons s more ih =>
    unfold cutAt
    split
    · rename_i a b _
      split
      · intro p hp
        rcases List.mem_append.mp hp with hfront | hp
        · exact within_map_kept (List.Subset.trans (List.take_subset _ _) h) p hfront
        rcases List.mem_cons.mp hp with rfl | hp
        · refine ⟨List.Subset.trans (List.take_subset _ _)
            (List.Subset.trans (List.drop_subset _ _) h), fun g hg => ?_⟩
          obtain ⟨i, _, hi⟩ := List.mem_map.mp hg
          exact groupText_subset hi
        · exact ih _ _ (List.Subset.trans (List.drop_subset _ _)
            (List.Subset.trans (List.drop_subset _ _) h)) p hp
      · exact ih pos text h
    · exact ih pos text h

/-- However a pattern is matched, it cuts the text into its own characters. -/
theorem Pattern.within_pieces (p : Pattern) (text : List Char) :
    ∀ q ∈ p.pieces text, q.Within text := by
  unfold Pattern.pieces
  cases p.matcher with
  | sequence items =>
    intro q hq
    exact Sequence.within_scan 0 none text [] (List.Subset.refl _) (by simp) q (List.mem_reverse.mp hq)
  | program code => exact within_cutAt _ _ _ _ (List.Subset.refl _)

theorem within_firstHitOnly {x : List Char} {ps : List Piece} (h : ∀ p ∈ ps, p.Within x) :
    ∀ p ∈ firstHitOnly ps, p.Within x := by
  induction ps with
  | nil => exact h
  | cons q ps ih =>
    have hps : ∀ p ∈ ps, p.Within x := fun p hp => h p (List.mem_cons_of_mem q hp)
    intro p hp
    cases q with
    | kept c =>
      rcases List.mem_cons.mp hp with rfl | hp
      · exact h _ List.mem_cons_self
      · exact ih hps p hp
    | hit g =>
      rcases List.mem_cons.mp hp with rfl | hp
      · exact h _ List.mem_cons_self
      · obtain ⟨q, hq, hp⟩ := List.mem_flatMap.mp hp
        have hsource : q.source ⊆ x := by
          have hin := hps q hq
          cases q with
          | kept c => exact List.cons_subset.mpr ⟨hin, List.nil_subset _⟩
          | hit g => exact hin.1
        exact within_map_kept hsource p hp

/-! ## Templates -/

namespace Template

theorem readReference_ne_literal {text : List Char} {c : Char} {n : Nat} :
    readReference text ≠ some (.literal c, n) := by
  have href : ∀ name, reference name ≠ .literal c := by
    intro name
    unfold reference
    split <;> simp
  unfold readReference
  split
  · dsimp only
    split
    · simp [href]
    · simp
  · dsimp only
    split
    · simp
    · simp [href]

/-- A character that the template spells out stands in its text. -/
theorem mem_of_literal_mem_readFrom {skip : Nat} {text : List Char} {c : Char}
    (h : .literal c ∈ readFrom skip text) : c ∈ text := by
  induction text generalizing skip with
  | nil => cases skip <;> simp [readFrom] at h
  | cons d rest ih =>
    cases skip with
    | succ n => exact List.mem_cons_of_mem d (ih h)
    | zero =>
      have hor : c = d ∨ (∃ n, TemplatePart.literal c ∈ readFrom n rest) := by
        simp only [readFrom, beq_iff_eq] at h
        split at h
        · rename_i hd
          subst hd
          split at h
          · rcases List.mem_cons.mp h with he | h
            · cases he
              exact Or.inl rfl
            · exact Or.inr ⟨1, h⟩
          · split at h
            · rename_i part taken href
              rcases List.mem_cons.mp h with rfl | h
              · exact absurd href readReference_ne_literal
              · exact Or.inr ⟨taken, h⟩
            · rcases List.mem_cons.mp h with he | h
              · cases he
                exact Or.inl rfl
              · exact Or.inr ⟨0, h⟩
        · rcases List.mem_cons.mp h with he | h
          · cases he
            exact Or.inl rfl
          · exact Or.inr ⟨0, h⟩
      rcases hor with rfl | ⟨n, hn⟩
      · exact List.mem_cons_self
      · exact List.mem_cons_of_mem d (ih hn)

/-- The text for a match comes from the template and the match. -/
theorem mem_of_mem_expand {w : List Char} {names : List (List Char × Nat)} {h : Hit} {c : Char}
    (hg : ∀ g, some g ∈ h.groups → g ⊆ h.whole) (hc : c ∈ expand (read w) names h) :
    c ∈ w ∨ c ∈ h.whole := by
  obtain ⟨part, hpart, hc⟩ := List.mem_flatMap.mp hc
  cases part with
  | literal d =>
    obtain rfl : c = d := List.mem_singleton.mp hc
    exact Or.inl (mem_of_literal_mem_readFrom hpart)
  | group n => exact Or.inr (h.group_subset hg n hc)
  | named name =>
    simp only [partText] at hc
    split at hc
    · exact Or.inr (h.group_subset hg _ hc)
    · cases hc

end Template

end Regex

/-! ## Changed texts -/

/-- A substitution brings in no character but those of its replacement. -/
theorem Substitution.mem_text_apply {s : Substitution} {text : List Char} {c : Char}
    (h : c ∈ (s.apply text).text) : c ∈ text ∨ c ∈ s.replacement := by
  have hpieces : ∀ p ∈ if s.everywhere then s.pattern.pieces text
      else firstHitOnly (s.pattern.pieces text), p.Within text := by
    split
    · exact s.pattern.within_pieces text
    · exact within_firstHitOnly (s.pattern.within_pieces text)
  obtain ⟨p, hp, hc⟩ := List.mem_flatMap.mp h
  have hin := hpieces p hp
  cases p with
  | kept d =>
    obtain rfl : c = d := List.mem_singleton.mp hc
    exact Or.inl hin
  | hit g =>
    rcases Template.mem_of_mem_expand hin.2 hc with hw | hg
    · exact Or.inr hw
    · exact Or.inl (hin.1 hg)

theorem Substitution.not_mem_foldl_apply {subs : List Substitution} {text : List Char} {c : Char}
    (hs : ∀ s ∈ subs, c ∉ s.replacement) (h : c ∉ text) :
    c ∉ subs.foldl (fun text s => (s.apply text).text) text := by
  induction subs generalizing text with
  | nil => exact h
  | cons s subs ih =>
    rw [List.foldl_cons]
    refine ih (fun t ht => hs t (List.mem_cons_of_mem s ht)) fun hc => ?_
    rcases Substitution.mem_text_apply hc with hc | hc
    · exact h hc
    · exact hs s List.mem_cons_self hc

/-- A step brings in no character that none of its replacements has. -/
theorem EditStep.not_mem_text_apply {s : EditStep} {text : List Char} {c : Char}
    (hs : ∀ sub ∈ s.substitutions, c ∉ sub.replacement) (h : c ∉ text) :
    c ∉ (s.apply text).text := by
  rw [EditStep.text_apply]
  split
  · exact Substitution.not_mem_foldl_apply hs h
  · exact h

theorem RuleSet.not_mem_runSteps {steps : List EditStep} {text : List Char} {c : Char}
    (hs : ∀ s ∈ steps, ∀ sub ∈ s.substitutions, c ∉ sub.replacement) (h : c ∉ text) :
    c ∉ RuleSet.runSteps steps text := by
  induction steps generalizing text with
  | nil => exact h
  | cons s steps ih =>
    rw [RuleSet.runSteps_cons]
    exact ih (fun t ht => hs t (List.mem_cons_of_mem s ht))
      (EditStep.not_mem_text_apply (hs s List.mem_cons_self) h)

/-! ## The built-in steps -/

theorem mem_prefixed {before after : String} {tablePrefix : List Char} {c : Char}
    (h : c ∈ prefixed before tablePrefix after) : c ∈ tablePrefix ∨ c ∈ prefixed before ['$'] after := by
  have hescape : c ∈ escapeTemplate tablePrefix → c ∈ tablePrefix ∨ c = '$' := by
    intro hc
    obtain ⟨d, hd, hc⟩ := List.mem_flatMap.mp hc
    split at hc
    · right
      simpa using hc
    · obtain rfl : c = d := List.mem_singleton.mp hc
      exact Or.inl hd
  have hdollar : '$' ∈ escapeTemplate ['$'] := by decide
  unfold prefixed at h ⊢
  simp only [List.mem_append] at h ⊢
  rcases h with ((h | h) | h) | h
  · exact Or.inr (Or.inl (Or.inl (Or.inl h)))
  · rcases hescape h with h | rfl
    · exact Or.inl h
    · exact Or.inr (Or.inl (Or.inl (Or.inr hdollar)))
  · exact Or.inr (Or.inl (Or.inr h))
  · exact Or.inr (Or.inr h)

/-- All that the built-in steps spell out, the prefix aside. -/
def spelling : List Char :=
  ((builtinSteps ['$']).flatMap (·.substitutions)).flatMap (·.replacement)

theorem mem_spelling {p : List Char} {c : Char} {s : EditStep} {sub : Substitution}
    (hs : s ∈ builtinSteps p) (hsub : sub ∈ s.substitutions) (hc : c ∈ sub.replacement) :
    c ∈ p ∨ c ∈ spelling := by
  have hspelt : ∀ t ∈ builtinSteps ['$'], ∀ sub ∈ t.substitutions, c ∈ sub.replacement →
      c ∈ spelling := fun t ht sub hsub hc =>
    List.mem_flatMap.mpr ⟨sub, List.mem_flatMap.mpr ⟨t, ht, hsub⟩, hc⟩
  have hsteps := builtinSteps_eq ['$']
  rw [builtinSteps_eq p] at hs
  rcases List.mem_cons.mp hs with rfl | hs
  · obtain rfl := List.mem_singleton.mp hsub
    refine (mem_prefixed hc).imp_right (hspelt (.always (dropTable ['$'])) ?_ _ List.mem_cons_self)
    rw [hsteps]
    exact List.mem_cons_self
  rcases List.mem_cons.mp hs with rfl | hs
  · rcases List.mem_cons.mp hsub with rfl | hsub
    · refine (mem_prefixed hc).imp_right (hspelt (createStep ['$']) ?_ _ List.mem_cons_self)
      rw [hsteps]
      simp
    · refine Or.inr (hspelt (createStep ['$']) ?_ sub (List.mem_cons_of_mem _ hsub) hc)
      rw [hsteps]
      simp
  rcases List.mem_append.mp hs with hs | hs
  · refine Or.inr (hspelt s ?_ sub hsub hc)
    rw [hsteps]
    exact List.mem_cons_of_mem _ (List.mem_cons_of_mem _ (List.mem_append_left _ hs))
  · obtain rfl := List.mem_singleton.mp hs
    obtain rfl := List.mem_singleton.mp hsub
    refine (mem_prefixed hc).imp_right (hspelt (insertStep ['$']) ?_ _ List.mem_cons_self)
    rw [hsteps]
    simp

/-- The built-in steps bring in no character but their own and those of the prefix. -/
theorem not_mem_builtinSteps {p : List Char} {c : Char} (hp : c ∉ p) (hc : c ∉ spelling) :
    ∀ s ∈ builtinSteps p, ∀ sub ∈ s.substitutions, c ∉ sub.replacement := by
  intro s hs sub hsub hmem
  rcases mem_spelling hs hsub hmem with h | h
  · exact hp h
  · exact hc h

end SqlDump
