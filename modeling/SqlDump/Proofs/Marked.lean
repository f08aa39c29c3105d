-- Texts with places for a table prefix. A place is told by what leads to it, a letter and a blank, so
-- that a pattern can be followed to the left of a place without knowing the prefix.
import SqlDump.Config

namespace SqlDump

/-- A text with places that are still to be filled. -/
abbrev Marked := List (Option Char)

/-- A table prefix that ends in an underscore. The one prefix that could become a part of a word which
is taken out of a line is left aside. -/
structure FairPrefix (p : List Char) : Prop where
  characters : p.all isPrefixChar = true
  ends : p.getLast? = some '_'
  other : p ≠ "AUTO_".toList

theorem FairPrefix.ne_nil {p : List Char} (h : FairPrefix p) : p ≠ [] := by
  intro hp
  have hends := h.ends
  rw [hp] at hends
  cases hends

/-- The shortest such prefix. -/
theorem fairPrefix_underscore : FairPrefix ['_'] := ⟨by decide, by decide, by decide⟩

namespace Marked

/-! ## Filling the places -/

/-- The text with the same prefix at every place. -/
def fill (p : List Char) (m : Marked) : List Char := m.flatMap fun
  | some c => [c]
  | none => p

/-- A text without places. -/
def plain (text : List Char) : Marked := text.map some

@[simp] theorem fill_nil (p : List Char) : fill p [] = [] := rfl

@[simp] theorem fill_some (p : List Char) (c : Char) (m : Marked) :
    fill p (some c :: m) = c :: fill p m := rfl

@[simp] theorem fill_none (p : List Char) (m : Marked) : fill p (none :: m) = p ++ fill p m := rfl

theorem fill_append (p : List Char) (m k : Marked) : fill p (m ++ k) = fill p m ++ fill p k :=
  List.flatMap_append

@[simp] theorem fill_plain (p text : List Char) : fill p (plain text) = text := by
  induction text with
  | nil => rfl
  | cons c rest ih => exact congrArg (c :: ·) ih

/-- The stretches between the places. -/
def segments : Marked → List (List Char)
  | [] => [[]]
  | some c :: m => Substitution.consPart c (segments m)
  | none :: m => [] :: segments m

theorem segments_ne_nil (m : Marked) : segments m ≠ [] := by
  cases m with
  | nil => simp [segments]
  | cons o m =>
    cases o with
    | none => simp [segments]
    | some c =>
      unfold segments Substitution.consPart
      split <;> simp

/-- Filling the places is joining the stretches by the prefix. -/
theorem fill_eq_intercalate (p : List Char) (m : Marked) : fill p m = p.intercalate (segments m) := by
  induction m with
  | nil => rfl
  | cons o m ih =>
    obtain ⟨part, parts, hparts⟩ := List.exists_cons_of_ne_nil (segments_ne_nil m)
    cases o with
    | none =>
      rw [fill_none, ih]
      simp only [segments, hparts]
      rfl
    | some c =>
      rw [fill_some, ih]
      simp only [segments, hparts, Substitution.consPart]
      cases parts <;> simp [List.intercalate]

theorem fill_eq_nil {p : List Char} (hp : FairPrefix p) {m : Marked} : fill p m = [] ↔ m = [] := by
  cases m with
  | nil => simp
  | cons o m => cases o <;> simp [hp.ne_nil]

theorem head?_fill (p : List Char) {m : Marked} (h : m.head? ≠ some none) :
    (fill p m).head? = m.head?.join := by
  cases m with
  | nil => rfl
  | cons o m =>
    cases o with
    | none => exact absurd rfl h
    | some c => rfl

/-- Whatever the prefix is, a filled text ends in the same character. -/
theorem getLast?_fill {p : List Char} (hp : FairPrefix p) (m : Marked) :
    (fill p m).getLast? = m.getLast?.map (·.getD '_') := by
  rcases List.eq_nil_or_concat m with rfl | ⟨m, o, rfl⟩
  · rfl
  · rw [List.concat_eq_append, fill_append, List.getLast?_append, List.getLast?_concat]
    cases o with
    | none => simp [hp.ends]
    | some c => simp

end Marked

/-! ## What leads to a place -/

/-- Where a text has got to: a place may stand here, or behind one more blank, or neither. -/
inductive Lead
  | away
  | near
  | here
deriving DecidableEq

namespace Lead

/-- A place is led to by one of the letters and a blank. -/
def step (letters : List Char) (lead : Lead) (c : Char) : Lead :=
  if c = ' ' then (if lead = near then here else away)
  else if c ∈ letters then near else away

/-- Where a text leads to. -/
def after (letters : List Char) : Lead → Marked → Lead
  | lead, [] => lead
  | lead, some c :: m => after letters (lead.step letters c) m
  | _, none :: m => after letters away m

theorem of_step_here {letters : List Char} {lead : Lead} {c : Char}
    (h : lead.step letters c = here) : c = ' ' ∧ lead = near := by
  unfold step at h
  split at h
  · split at h
    · exact ⟨‹_›, ‹_›⟩
    · cases h
  · split at h <;> cases h

theorem of_step_near {letters : List Char} {lead : Lead} {c : Char}
    (h : lead.step letters c = near) : c ∈ letters := by
  unfold step at h
  split at h
  · split at h <;> cases h
  · split at h
    · assumption
    · cases h

/-- Where a place may stand a blank has just been passed. -/
theorem getLast?_of_here {letters : List Char} {lead : Lead} {m : Marked} (hm : m ≠ [])
    (h : after letters lead m = here) : m.getLast? = some (some ' ') := by
  induction m generalizing lead with
  | nil => exact absurd rfl hm
  | cons o m ih =>
    cases m with
    | nil =>
      cases o with
      | none => cases h
      | some c => rw [(of_step_here h).1]; rfl
    | cons o' m' =>
      rw [List.getLast?_cons_cons]
      cases o with
      | none => exact ih (List.cons_ne_nil _ _) h
      | some c => exact ih (List.cons_ne_nil _ _) h

end Lead

namespace Marked

/-- Every place of the text is led to. -/
def Led (letters : List Char) : Lead → Marked → Prop
  | _, [] => True
  | lead, some c :: m => Led letters (lead.step letters c) m
  | lead, none :: m => lead = .here ∧ Led letters .away m

theorem led_some {letters : List Char} {lead : Lead} {c : Char} {m : Marked} :
    Led letters lead (some c :: m) ↔ Led letters (lead.step letters c) m := Iff.rfl

theorem led_append {letters : List Char} {lead : Lead} {m k : Marked} :
    Led letters lead (m ++ k) ↔ Led letters lead m ∧ Led letters (lead.after letters m) k := by
  induction m generalizing lead with
  | nil => simp [Led, Lead.after]
  | cons o m ih =>
    cases o with
    | none => simp only [List.cons_append, Led, Lead.after, ih, and_assoc]
    | some c => simp only [List.cons_append, Led, Lead.after, ih]

theorem led_plain (letters : List Char) (lead : Lead) (text : List Char) :
    Led letters lead (plain text) := by
  induction text generalizing lead with
  | nil => trivial
  | cons c rest ih => exact ih _

theorem Led.here_of_head {letters : List Char} {lead : Lead} {m : Marked} (h : Led letters lead m)
    (hm : m.head? = some none) : lead = .here := by
  cases m with
  | nil => cases hm
  | cons o m =>
    cases hm
    exact h.1

/-- A text that needs no lead is led to from everywhere. -/
theorem Led.of_away {letters : List Char} {m : Marked} (h : Led letters .away m) (lead : Lead) :
    Led letters lead m := by
  induction m generalizing lead with
  | nil => trivial
  | cons o m ih =>
    cases o with
    | none => cases h.1
    | some c =>
      rw [led_some] at h ⊢
      by_cases hc : c = ' '
      · have haway : Lead.step letters .away c = .away := by simp [Lead.step, hc]
        rw [haway] at h
        exact ih h _
      · have hsame : lead.step letters c = Lead.step letters .away c := by simp [Lead.step, hc]
        rwa [hsame]

/-- Only a letter just passed, or a place that stands at the front, needs a lead. -/
theorem Led.to_away {letters : List Char} {lead : Lead} {m : Marked} (h : Led letters lead m)
    (hlead : lead ≠ .near) (hm : m.head? ≠ some none) : Led letters .away m := by
  cases m with
  | nil => trivial
  | cons o m =>
    cases o with
    | none => exact absurd rfl hm
    | some c =>
      have hsame : Lead.step letters .away c = lead.step letters c := by simp [Lead.step, hlead]
      rwa [led_some, hsame]

/-- More letters lead to no fewer places. -/
theorem Led.mono {a b : List Char} (hab : a ⊆ b) {lead : Lead} {m : Marked} (h : Led a lead m) :
    Led b lead m := by
  induction m generalizing lead with
  | nil => trivial
  | cons o m ih =>
    cases o with
    | none => exact ⟨h.1, ih h.2⟩
    | some c =>
      have hm : Led b (lead.step a c) m := ih h
      rw [led_some]
      by_cases hc : c = ' '
      · have hsame : lead.step b c = lead.step a c := by simp [Lead.step, hc]
        rwa [hsame]
      · by_cases ha : c ∈ a
        · have hsame : lead.step b c = lead.step a c := by simp [Lead.step, hc, ha, hab ha]
          rwa [hsame]
        · have haway : lead.step a c = .away := by simp [Lead.step, hc, ha]
          rw [haway] at hm
          exact hm.of_away _

end Marked

end SqlDump
