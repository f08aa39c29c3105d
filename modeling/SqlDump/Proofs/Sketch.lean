-- What a text with names in it can contain. The names are known to be made of letters, digits and
-- underscores only, so that a text sought in it is refused by looking at what stands around the names.
import SqlDump.Proofs.Marked
import SqlDump.Rule.Set

namespace SqlDump

theorem containsText_iff {w text : List Char} : containsText w text = true ↔ w <:+: text := by
  induction text with
  | nil => simp [containsText]
  | cons c rest ih =>
    rw [containsText, Bool.or_eq_true, ih, List.isPrefixOf_iff_prefix, List.infix_cons_iff]

namespace Marked

/-- Whether a text is got by filling each place with a name of its own. -/
def Fits : Marked → List Char → Prop
  | [], text => text = []
  | some c :: m, text => ∃ rest, text = c :: rest ∧ Fits m rest
  | none :: m, text => ∃ n rest, text = n ++ rest ∧ n.all isPrefixChar = true ∧ Fits m rest

theorem fits_fill {n : List Char} (hn : n.all isPrefixChar = true) (m : Marked) : Fits m (fill n m) := by
  induction m with
  | nil => rfl
  | cons o m ih =>
    cases o with
    | none => exact ⟨n, fill n m, rfl, hn, ih⟩
    | some c => exact ⟨fill n m, rfl, ih⟩

theorem fits_plain (text : List Char) : Fits (plain text) text := by
  induction text with
  | nil => rfl
  | cons c text ih => exact ⟨text, rfl, ih⟩

theorem Fits.append {m k : Marked} {x y : List Char} (hm : Fits m x) (hk : Fits k y) :
    Fits (m ++ k) (x ++ y) := by
  induction m generalizing x with
  | nil =>
    obtain rfl : x = [] := hm
    exact hk
  | cons o m ih =>
    cases o with
    | none =>
      obtain ⟨n, rest, rfl, hn, hrest⟩ := hm
      exact ⟨n, rest ++ y, List.append_assoc n rest y, hn, ih hrest⟩
    | some c =>
      obtain ⟨rest, rfl, hrest⟩ := hm
      exact ⟨rest ++ y, rfl, ih hrest⟩

/-- What a text leaves when some letters, digits and underscores are taken off its front. -/
def leftovers : List Char → List (List Char)
  | [] => [[]]
  | c :: w => (c :: w) :: if isPrefixChar c then leftovers w else []

theorem mem_leftovers {n : List Char} (hn : n.all isPrefixChar = true) (w : List Char) :
    w ∈ leftovers (n ++ w) := by
  induction n with
  | nil => cases w <;> simp [leftovers]
  | cons c n ih =>
    rw [List.all_cons, Bool.and_eq_true] at hn
    rw [List.cons_append, leftovers, if_pos hn.1]
    exact List.mem_cons_of_mem _ (ih hn.2)

/-- Whether a text may stand at the front, whatever the names are. -/
def mayBegin : Marked → List Char → Bool
  | [], w => w.isEmpty
  | some _ :: _, [] => true
  | some c :: m, d :: w => d == c && mayBegin m w
  | none :: m, w => (leftovers w).any (mayBegin m)

theorem mayBegin_nil (m : Marked) : mayBegin m [] = true := by
  induction m with
  | nil => rfl
  | cons o m ih =>
    cases o with
    | none => simp [mayBegin, leftovers, ih]
    | some c => rfl

theorem mayBegin_none {n text w : List Char} {m : Marked} (hn : n.all isPrefixChar = true)
    (hm : ∀ x, x <+: text → mayBegin m x = true) (h : w <+: n ++ text) :
    mayBegin (none :: m) w = true := by
  rw [mayBegin, List.any_eq_true]
  rcases List.prefix_or_prefix_of_prefix h (List.prefix_append n text) with hin | hout
  · refine ⟨[], ?_, mayBegin_nil m⟩
    have hw : w.all isPrefixChar = true :=
      List.all_eq_true.mpr fun c hc => List.all_eq_true.mp hn c (hin.subset hc)
    have hmem := mem_leftovers hw []
    rwa [List.append_nil] at hmem
  · obtain ⟨x, rfl⟩ := hout
    exact ⟨x, mem_leftovers hn x, hm x ((List.prefix_append_right_inj n).mp h)⟩

theorem mayBegin_sound {m : Marked} {text w : List Char} (hm : Fits m text) (h : w <+: text) :
    mayBegin m w = true := by
  induction m generalizing text w with
  | nil =>
    obtain rfl : text = [] := hm
    simpa [mayBegin] using h
  | cons o m ih =>
    cases o with
    | none =>
      obtain ⟨n, rest, rfl, hn, hrest⟩ := hm
      exact mayBegin_none hn (fun x hx => ih hrest hx) h
    | some c =>
      obtain ⟨rest, rfl, hrest⟩ := hm
      cases w with
      | nil => rfl
      | cons d w =>
        obtain ⟨rfl, hw⟩ := List.cons_prefix_cons.mp h
        simp [mayBegin, ih hrest hw]

/-- Whether a text may stand anywhere, whatever the names are. -/
def mayContain : Marked → List Char → Bool
  | [], w => w.isEmpty
  | o :: m, w => mayBegin (o :: m) w || mayContain m w

theorem mayContain_sound {m : Marked} {text w : List Char} (hm : Fits m text) (h : w <:+: text) :
    mayContain m w = true := by
  induction m generalizing text with
  | nil =>
    obtain rfl : text = [] := hm
    simpa [mayContain] using h
  | cons o m ih =>
    rw [mayContain, Bool.or_eq_true]
    cases o with
    | some c =>
      obtain ⟨rest, rfl, hrest⟩ := hm
      rcases List.infix_cons_iff.mp h with hfirst | hlater
      · exact Or.inl (mayBegin_sound ⟨rest, rfl, hrest⟩ hfirst)
      · exact Or.inr (ih hrest hlater)
    | none =>
      obtain ⟨n, rest, rfl, hn, hrest⟩ := hm
      -- the text may begin anywhere in the name
      have hname : ∀ x : List Char, x.all isPrefixChar = true → w <:+: x ++ rest →
          mayBegin (none :: m) w = true ∨ mayContain m w = true := by
        intro x hx hw
        induction x with
        | nil => exact Or.inr (ih hrest hw)
        | cons c x ihx =>
          rcases List.infix_cons_iff.mp hw with hfirst | hlater
          · exact Or.inl (mayBegin_none hx (fun y hy => mayBegin_sound hrest hy) hfirst)
          · rw [List.all_cons, Bool.and_eq_true] at hx
            exact ihx hx.2 hlater
      exact hname n hn h

/-- What such a text cannot contain, no text that is filled in has. -/
theorem not_infix_of_fits {m : Marked} {text w : List Char} (hm : Fits m text)
    (h : mayContain m w = false) : ¬ w <:+: text := by
  intro hin
  rw [mayContain_sound hm hin] at h
  cases h

end Marked

/-! ## Conditions -/

open Marked

mutual

/-- Whether a condition may hold, whatever the names are. -/
def LineMatcher.mayHold (m : Marked) : LineMatcher → Bool
  | .startsWith text => mayBegin m text
  | .contains text => mayContain m text
  | .all inner => LineMatcher.allMayHold m inner
  | .pattern _ => true

def LineMatcher.allMayHold (m : Marked) : List LineMatcher → Bool
  | [] => true
  | c :: rest => c.mayHold m && LineMatcher.allMayHold m rest

end

mutual

theorem LineMatcher.mayHold_of_holds {m : Marked} {line : List Char} (hm : Fits m line)
    (c : LineMatcher) (h : c.holds line = true) : c.mayHold m = true := by
  cases c with
  | startsWith text => exact mayBegin_sound hm (List.isPrefixOf_iff_prefix.mp h)
  | contains text => exact mayContain_sound hm (containsText_iff.mp h)
  | all inner => exact LineMatcher.allMayHold_of_allHold hm inner h
  | pattern p => rfl

theorem LineMatcher.allMayHold_of_allHold {m : Marked} {line : List Char} (hm : Fits m line)
    (inner : List LineMatcher) (h : LineMatcher.allHold line inner = true) :
    LineMatcher.allMayHold m inner = true := by
  cases inner with
  | nil => rfl
  | cons c rest =>
    rw [LineMatcher.allHold, Bool.and_eq_true] at h
    rw [LineMatcher.allMayHold, Bool.and_eq_true]
    exact ⟨LineMatcher.mayHold_of_holds hm c h.1, LineMatcher.allMayHold_of_allHold hm rest h.2⟩

end

/-- A line that no rule may catch is caught by none. -/
theorem findSkipRule_eq_none {m : Marked} {line : List Char} (hm : Fits m line)
    {rules : List SkipRule} (h : ∀ r ∈ rules, r.matcher.mayHold m = false) :
    findSkipRule rules line = none := by
  unfold findSkipRule
  rw [List.find?_eq_none]
  intro r hr hholds
  have hmay := LineMatcher.mayHold_of_holds hm r.matcher hholds
  rw [h r hr] at hmay
  cases hmay

/-- A line that no built-in rule may catch is what the steps leave of it. -/
theorem convertLine_of_fits (p : List Char) {m : Marked} {line : List Char} (hm : Fits m line)
    (h : ∀ r ∈ builtinSkipRules, r.matcher.mayHold m = false) :
    (RuleSet.builtin p).convertLine line = .emitted (RuleSet.runSteps (builtinSteps p) line) := by
  have hnone := findSkipRule_eq_none hm h
  simp only [RuleSet.convertLine, RuleSet.builtin, hnone, RuleSet.runUserRules]

end SqlDump
