-- Column types told word by word: a word that names a type is converted together with the words behind it.
-- Converting one type after another comes to the same as one pass for all of them.
import SqlDump.Proofs.Words

namespace SqlDump

open Unicode (isWord isDigit)

/-! ## Types and what follows them -/

/-- What a word behind the name of a type can be. -/
inductive WordKind
  | mark (c : Char)
  | number
deriving DecidableEq

/-- Whether a word is made of digits. -/
def isNumber (w : List Char) : Bool := !w.isEmpty && w.all isDigit

namespace WordKind

def fits : WordKind → List Char → Bool
  | mark c, w => w == [c]
  | number, w => isNumber w

/-- The words at the front that are of the given kinds, one by one. -/
def take? : List WordKind → List (List Char) → Option (List (List Char))
  | [], _ => some []
  | _ :: _, [] => none
  | k :: ks, w :: ws => if k.fits w then (take? ks ws).map (w :: ·) else none

end WordKind

/-- How a type goes on behind its name: not at all, with a width, or with a precision and a scale. -/
inductive Extent
  | bare
  | width
  | scale
deriving DecidableEq

def Extent.kinds : Extent → List WordKind
  | bare => []
  | width => [.mark '(', .number, .mark ')']
  | scale => [.mark '(', .number, .mark ',', .number, .mark ')']

/-- A type, what it is converted to, and whether the new type keeps what follows the name. -/
structure ColumnType where
  name : String
  extent : Extent
  new : String
  keeps : Bool
deriving DecidableEq

namespace ColumnType

/-- The new type, word by word. -/
def converted (t : ColumnType) (following : List (List Char)) : List (List Char) :=
  tokens t.new.toList ++ if t.keeps then following else []

/-- Where a word names the type and goes on as it must, the new type and the number of words that belong to
the old one behind its name. -/
def convert? (t : ColumnType) (w : List Char) (ws : List (List Char)) : Option (List (List Char) × Nat) :=
  if w = t.name.toList then
    (WordKind.take? t.extent.kinds ws).map fun following => (t.converted following, following.length)
  else none

/-- One pass over the words of a text: each type is converted and all other words stay. The first `skip`
words are passed over. -/
def pass (types : List ColumnType) : Nat → List (List Char) → List (List Char)
  | _, [] => []
  | skip + 1, _ :: ws => pass types skip ws
  | 0, w :: ws =>
    match types.findSome? fun t => t.convert? w ws with
    | some (new, taken) => new ++ pass types taken ws
    | none => w :: pass types 0 ws

end ColumnType

/-- The types that are known. -/
def columnTypes : List ColumnType := [
  ⟨"int", .width, "INTEGER", false⟩, ⟨"tinyint", .width, "SMALLINT", false⟩,
  ⟨"smallint", .width, "SMALLINT", false⟩, ⟨"mediumint", .width, "INTEGER", false⟩,
  ⟨"bigint", .width, "BIGINT", false⟩, ⟨"float", .scale, "REAL", false⟩,
  ⟨"double", .scale, "DOUBLE PRECISION", false⟩, ⟨"decimal", .scale, "DECIMAL", false⟩,
  ⟨"varchar", .width, "VARCHAR", true⟩, ⟨"text", .bare, "TEXT", false⟩,
  ⟨"longtext", .bare, "TEXT", false⟩, ⟨"mediumtext", .bare, "TEXT", false⟩,
  ⟨"tinytext", .bare, "TEXT", false⟩, ⟨"datetime", .bare, "TIMESTAMP", false⟩,
  ⟨"timestamp", .bare, "TIMESTAMP", false⟩]

/-- A text with its types converted in one pass. -/
def convertTypes (text : List Char) : List Char := (ColumnType.pass columnTypes 0 (tokens text)).flatten

/-! ## Words of a kind -/

/-- Whether a word begins as names do: with a word character that is no digit. -/
def beginsName (w : List Char) : Bool := w.head?.any fun c => isWord c && !isDigit c

namespace WordKind

variable {k : WordKind} {ks : List WordKind} {w : List Char} {ws f rest : List (List Char)}

/-- Whether every number stands before a mark, and no mark is part of a word. -/
def settled : List WordKind → Bool
  | [] => true
  | mark c :: ks => !isWord c && settled ks
  | number :: ks => (ks.head?.any fun k => k != number) && settled ks

/-- Words are of the given kinds, one by one. -/
abbrev AllFit (ks : List WordKind) (f : List (List Char)) : Prop :=
  List.Forall₂ (fun (k : WordKind) w => k.fits w = true) ks f

theorem not_beginsName_of_fits (hk : settled (k :: ks) = true) (h : k.fits w = true) :
    beginsName w = false := by
  cases k with
  | mark c =>
    obtain rfl : w = [c] := by simpa [fits] using h
    rw [settled, Bool.and_eq_true, Bool.not_eq_true'] at hk
    simp [beginsName, hk.1]
  | number =>
    simp only [fits, isNumber, Bool.and_eq_true, Bool.not_eq_true', List.isEmpty_eq_false_iff] at h
    obtain ⟨c, w, rfl⟩ := List.exists_cons_of_ne_nil h.1
    have hc : isDigit c = true := by
      have hall := h.2
      rw [List.all_cons, Bool.and_eq_true] at hall
      exact hall.1
    simp [beginsName, hc]

theorem settled_tail (h : settled (k :: ks) = true) : settled ks = true := by
  cases k <;> exact (Bool.and_eq_true_iff.mp h).2

theorem not_beginsName_of_mem (hk : settled ks = true) (h : AllFit ks f) :
    ∀ w ∈ f, beginsName w = false := by
  induction h with
  | nil =>
    intro w hw
    cases hw
  | @cons k v ks f hv _ ih =>
    intro w hw
    rcases List.mem_cons.mp hw with rfl | hw
    · exact not_beginsName_of_fits hk hv
    · exact ih (settled_tail hk) w hw

theorem take?_eq_some (h : take? ks ws = some f) : ∃ rest, ws = f ++ rest ∧ AllFit ks f := by
  induction ks generalizing ws f with
  | nil =>
    obtain rfl : [] = f := by simpa [take?] using h
    exact ⟨ws, rfl, .nil⟩
  | cons k ks ih =>
    cases ws with
    | nil => simp [take?] at h
    | cons w ws =>
      by_cases hw : k.fits w = true
      · simp only [take?, hw, if_true, Option.map_eq_some_iff] at h
        obtain ⟨g, hg, rfl⟩ := h
        obtain ⟨rest, rfl, hfits⟩ := ih hg
        exact ⟨rest, rfl, .cons hw hfits⟩
      · simp [take?, hw] at h

theorem take?_append (h : AllFit ks f) (rest : List (List Char)) : take? ks (f ++ rest) = some f := by
  induction h with
  | nil => cases rest <;> rfl
  | cons hw _ ih => simp [take?, hw, ih]

end WordKind

theorem Extent.settled_kinds (e : Extent) : WordKind.settled e.kinds = true := by
  cases e <;> decide

/-! ## Known types -/

/-- A name is a whole word that is no number, the new type begins with such a word, and none of its words
names a type. -/
structure ColumnType.Sound (t : ColumnType) : Prop where
  name : IsWordName t.name
  begins : beginsName t.name.toList = true
  new_begins : (tokens t.new.toList).head?.any beginsName = true
  new_other : ∀ w ∈ tokens t.new.toList, ∀ u ∈ columnTypes, w ≠ u.name.toList

theorem sound_of_mem {t : ColumnType} (h : t ∈ columnTypes) : t.Sound := by
  have hname : ∀ t ∈ columnTypes, t.name.toList ≠ [] ∧ t.name.toList.all isWord = true ∧
      beginsName t.name.toList = true := by decide
  have hnew : ∀ t ∈ columnTypes, (tokens t.new.toList).head?.any beginsName = true := by decide
  have hother : ∀ t ∈ columnTypes, ∀ w ∈ tokens t.new.toList, ∀ u ∈ columnTypes, w ≠ u.name.toList := by
    decide
  exact {
    name := ⟨(hname t h).1, (hname t h).2.1⟩
    begins := (hname t h).2.2
    new_begins := hnew t h
    new_other := hother t h }

theorem eq_of_name_eq {t u : ColumnType} (ht : t ∈ columnTypes) (hu : u ∈ columnTypes)
    (h : t.name.toList = u.name.toList) : t = u := by
  have hall : ∀ t ∈ columnTypes, ∀ u ∈ columnTypes, t.name.toList = u.name.toList → t = u := by decide
  exact hall t ht u hu h

theorem singleton_subset {t : ColumnType} (h : t ∈ columnTypes) : [t] ⊆ columnTypes :=
  List.cons_subset.mpr ⟨h, List.nil_subset _⟩

namespace ColumnType

open WordKind

variable {t u : ColumnType} {types : List ColumnType} {w : List Char} {ws f rest : List (List Char)}

theorem convert?_eq_some {r : List (List Char) × Nat} :
    t.convert? w ws = some r ↔
      w = t.name.toList ∧ ∃ f rest, ws = f ++ rest ∧ AllFit t.extent.kinds f ∧
        r = (t.converted f, f.length) := by
  unfold convert?
  constructor
  · intro h
    split at h
    · rename_i hw
      obtain ⟨f, hf, rfl⟩ := Option.map_eq_some_iff.mp h
      obtain ⟨rest, hws, hfits⟩ := take?_eq_some hf
      exact ⟨hw, f, rest, hws, hfits, rfl⟩
    · cases h
  · rintro ⟨rfl, f, rest, rfl, hfits, rfl⟩
    rw [if_pos rfl, take?_append hfits]
    rfl

/-! ## The pass word by word -/

/-- At most one of the known types is converted at a word. -/
theorem findSome?_convert? (hsub : types ⊆ columnTypes) {r : List (List Char) × Nat} :
    (types.findSome? fun t => t.convert? w ws) = some r ↔ ∃ t ∈ types, t.convert? w ws = some r := by
  refine ⟨List.exists_of_findSome?_eq_some, ?_⟩
  rintro ⟨t, ht, hr⟩
  cases hfound : types.findSome? fun t => t.convert? w ws with
  | none =>
    rw [List.findSome?_eq_none_iff.mp hfound t ht] at hr
    cases hr
  | some r' =>
    obtain ⟨u, hu, hr'⟩ := List.exists_of_findSome?_eq_some hfound
    have hname := (convert?_eq_some.mp hr).1.symm.trans (convert?_eq_some.mp hr').1
    rw [eq_of_name_eq (hsub ht) (hsub hu) hname, hr'] at hr
    exact hr

/-- The order of the types makes no difference to a pass. -/
theorem pass_congr {others : List ColumnType} (hsub : types ⊆ columnTypes)
    (hsame : ∀ t, t ∈ types ↔ t ∈ others) (skip : Nat) (ws : List (List Char)) :
    pass types skip ws = pass others skip ws := by
  have hothers : others ⊆ columnTypes := fun t ht => hsub ((hsame t).mpr ht)
  induction ws generalizing skip with
  | nil => rfl
  | cons w ws ih =>
    cases skip with
    | succ skip => exact ih skip
    | zero =>
      have hfound : (types.findSome? fun t => t.convert? w ws) =
          others.findSome? fun t => t.convert? w ws := by
        refine Option.ext fun r => ?_
        rw [findSome?_convert? hsub, findSome?_convert? hothers]
        simp only [hsame]
      rw [pass, pass, hfound]
      simp only [ih]

theorem pass_skip (types : List ColumnType) (f rest : List (List Char)) :
    pass types f.length (f ++ rest) = pass types 0 rest := by
  induction f with
  | nil => rfl
  | cons w f ih => exact ih

theorem pass_kept (h : ∀ t ∈ types, t.convert? w ws = none) :
    pass types 0 (w :: ws) = w :: pass types 0 ws := by
  rw [pass, List.findSome?_eq_none_iff.mpr h]

theorem pass_hit (hsub : types ⊆ columnTypes) (ht : t ∈ types) (hf : AllFit t.extent.kinds f)
    (rest : List (List Char)) :
    pass types 0 (t.name.toList :: (f ++ rest)) = t.converted f ++ pass types 0 rest := by
  have hfound : (types.findSome? fun u => u.convert? t.name.toList (f ++ rest)) =
      some (t.converted f, f.length) :=
    (findSome?_convert? hsub).mpr ⟨t, ht, convert?_eq_some.mpr ⟨rfl, f, rest, rfl, hf, rfl⟩⟩
  rw [pass, hfound]
  exact congrArg _ (pass_skip types f rest)

/-- Words that name no type stay. -/
theorem pass_append (h : ∀ w ∈ f, ∀ t ∈ types, w ≠ t.name.toList) (rest : List (List Char)) :
    pass types 0 (f ++ rest) = f ++ pass types 0 rest := by
  induction f with
  | nil => rfl
  | cons w f ih =>
    have hnone : ∀ t ∈ types, t.convert? w (f ++ rest) = none := fun t ht =>
      if_neg (h w List.mem_cons_self t ht)
    rw [List.cons_append, pass_kept hnone, ih fun v hv => h v (List.mem_cons_of_mem w hv)]
    rfl

/-- What holds of no words, and goes over to words with one more in front that is kept or with a type in
front, holds of all words. -/
theorem pass_induction (types : List ColumnType) {P : List (List Char) → Prop} (nil : P [])
    (kept : ∀ w ws, (∀ t ∈ types, t.convert? w ws = none) → P ws → P (w :: ws))
    (hit : ∀ t ∈ types, ∀ f rest, AllFit t.extent.kinds f → P rest →
      P (t.name.toList :: (f ++ rest)))
    (ws : List (List Char)) : P ws := by
  induction hn : ws.length using Nat.strongRecOn generalizing ws with
  | ind n ih =>
    cases ws with
    | nil => exact nil
    | cons w ws =>
      by_cases hnone : ∀ t ∈ types, t.convert? w ws = none
      · exact kept w ws hnone (ih ws.length (by rw [← hn]; simp) ws rfl)
      · simp only [not_forall] at hnone
        obtain ⟨t, ht, hsome⟩ := hnone
        obtain ⟨r, hr⟩ := Option.ne_none_iff_exists'.mp hsome
        obtain ⟨rfl, f, rest, rfl, hf, -⟩ := convert?_eq_some.mp hr
        refine hit t ht f rest hf (ih rest.length ?_ rest rfl)
        rw [← hn, List.length_cons, List.length_append]
        omega

/-! ## One pass after another -/

/-- The words of a known type behind its name are no names themselves. -/
theorem not_name_of_mem (hf : AllFit t.extent.kinds f) (hu : u ∈ columnTypes) :
    ∀ w ∈ f, w ≠ u.name.toList := by
  rintro w hw rfl
  have hbegins := not_beginsName_of_mem t.extent.settled_kinds hf _ hw
  rw [(sound_of_mem hu).begins] at hbegins
  cases hbegins

/-- What has been converted names no type. -/
theorem not_name_of_mem_converted (ht : t ∈ columnTypes) (hf : AllFit t.extent.kinds f)
    (hu : u ∈ columnTypes) : ∀ w ∈ t.converted f, w ≠ u.name.toList := by
  intro w hw
  rcases List.mem_append.mp hw with hw | hw
  · exact (sound_of_mem ht).new_other w hw u hu
  · split at hw
    · exact not_name_of_mem hf hu w hw
    · cases hw

/-- What a type is converted to begins as names do. -/
theorem exists_converted (ht : t ∈ columnTypes) (f : List (List Char)) :
    ∃ v vs, t.converted f = v :: vs ∧ beginsName v = true := by
  have hbegins := (sound_of_mem ht).new_begins
  unfold converted
  cases hnew : tokens t.new.toList with
  | nil =>
    rw [hnew] at hbegins
    cases hbegins
  | cons v vs =>
    rw [hnew] at hbegins
    exact ⟨v, _, rfl, hbegins⟩

/-- Converting types leaves as many words of given kinds at the front as there were. -/
theorem take?_pass (ht : t ∈ columnTypes) {ks : List WordKind} (hk : settled ks = true)
    (ws : List (List Char)) : take? ks (pass [t] 0 ws) = take? ks ws := by
  have hsub := singleton_subset ht
  induction ks generalizing ws with
  | nil => simp [take?]
  | cons k ks ih =>
    induction ws using pass_induction [t] with
    | nil => rfl
    | kept w ws hnone _ => rw [pass_kept hnone, take?, take?, ih (settled_tail hk)]
    | hit u hu f rest hf _ =>
      obtain rfl := List.mem_singleton.mp hu
      -- neither the name nor the new type begins with a word of the kind
      have hnot : ∀ w vs, beginsName w = true → take? (k :: ks) (w :: vs) = none := by
        intro w vs hw
        rw [take?, if_neg]
        intro hfits
        rw [not_beginsName_of_fits hk hfits] at hw
        cases hw
      obtain ⟨v, vs, hconverted, hv⟩ := exists_converted ht f
      rw [pass_hit hsub hu hf, hconverted, hnot _ _ (sound_of_mem ht).begins, List.cons_append, hnot v _ hv]

theorem convert?_pass (ht : t ∈ columnTypes) (u : ColumnType) (w : List Char) (ws : List (List Char)) :
    u.convert? w (pass [t] 0 ws) = u.convert? w ws := by
  unfold convert?
  rw [take?_pass ht u.extent.settled_kinds]

/-- A pass for one type and then a pass for others are one pass for all of them. -/
theorem pass_pass (ht : t ∈ columnTypes) (hsub : types ⊆ columnTypes) (ws : List (List Char)) :
    pass types 0 (pass [t] 0 ws) = pass (t :: types) 0 ws := by
  have hall : t :: types ⊆ columnTypes := List.cons_subset.mpr ⟨ht, hsub⟩
  have hone := singleton_subset ht
  induction ws using pass_induction (t :: types) with
  | nil => rfl
  | kept w ws hnone ih =>
    have hfirst : ∀ u ∈ [t], u.convert? w ws = none := by
      intro u hu
      obtain rfl := List.mem_singleton.mp hu
      exact hnone u List.mem_cons_self
    have hothers : ∀ u ∈ types, u.convert? w (pass [t] 0 ws) = none := by
      intro u hu
      rw [convert?_pass ht]
      exact hnone u (List.mem_cons_of_mem t hu)
    rw [pass_kept hfirst, pass_kept hothers, pass_kept hnone, ih]
  | hit u hu f rest hf ih =>
    rw [pass_hit hall hu hf, ← ih]
    by_cases he : u = t
    · subst he
      rw [pass_hit hone List.mem_cons_self hf]
      exact pass_append (fun w hw v hv => not_name_of_mem_converted ht hf (hsub hv) w hw) _
    · have hin : u ∈ types := (List.mem_cons.mp hu).resolve_left he
      have hkept : ∀ w ∈ u.name.toList :: f, ∀ v ∈ [t], w ≠ v.name.toList := by
        intro w hw v hv
        obtain rfl := List.mem_singleton.mp hv
        rcases List.mem_cons.mp hw with rfl | hw
        · exact fun hname => he (eq_of_name_eq (hsub hin) ht hname)
        · exact not_name_of_mem hf ht w hw
      rw [← List.cons_append, pass_append hkept, List.cons_append, pass_hit hsub hin hf]

end ColumnType

end SqlDump
