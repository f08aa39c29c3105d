-- Patterns that take no notice of table prefixes. Two checks on the items are enough: no match begins at
-- or inside a prefix, and a match that begins elsewhere passes over places or stops before them.
import SqlDump.Proofs.BuiltinPatterns
import SqlDump.Proofs.Marked

namespace SqlDump

/-! ## The characters of a prefix -/

theorem isPrefixChar_iff {c : Char} : isPrefixChar c = true ↔
    (65 ≤ c.toNat ∧ c.toNat ≤ 90) ∨ (97 ≤ c.toNat ∧ c.toNat ≤ 122) ∨
      (48 ≤ c.toNat ∧ c.toNat ≤ 57) ∨ c = '_' := by
  have hdef : isPrefixChar c =
      ((decide ('A'.val ≤ c.val ∧ c.val ≤ 'Z'.val) ||
        (decide ('a'.val ≤ c.val) && decide (c.val ≤ 'z'.val)) ||
        (decide ('0'.val ≤ c.val) && decide (c.val ≤ '9'.val))) || c == '_') := rfl
  rw [hdef]
  simp only [Bool.or_eq_true, Bool.and_eq_true, decide_eq_true_eq, beq_iff_eq, or_assoc,
    UInt32.le_iff_toNat_le]
  rfl

theorem isWord_of_isPrefixChar {c : Char} (h : isPrefixChar c = true) : Unicode.isWord c = true := by
  have hsmall : c.toNat < 128 := by
    rcases isPrefixChar_iff.mp h with h | h | h | rfl
    · omega
    · omega
    · omega
    · decide
  unfold Unicode.isWord
  rw [if_pos hsmall]
  exact h

namespace Regex.Sequence

open Marked

/-! ## Where no match begins -/

/-- There is no edge inside a word. -/
theorem holds_boundary_inside {b c : Char} (hb : isPrefixChar b = true) (hc : isPrefixChar c = true) :
    (Look.word .boundary false).holds (some b) (some c) = false := by
  simp [Look.holds, WordEdge.holds, isWordSide, isWord_of_isPrefixChar hb, isWord_of_isPrefixChar hc]

/-- Whether the items cannot take letters, digits and underscores that end in an underscore. `inside`
tells that such a character has been passed. -/
def bars : Bool → List Item → Bool
  | _, .char (.single c) :: rest => c != '_' && (!isPrefixChar c || bars true rest)
  | inside, .look (.word .boundary false) :: rest => inside || bars false rest
  | _, _ => false

theorem matchAt_of_bars {items : List Item} {inside : Bool} (h : bars inside items = true)
    {v : List Char} (hv : v.all isPrefixChar = true) (hlast : v.getLast? = some '_')
    {before : Option Char}
    (hbefore : inside = true → ∃ b, before = some b ∧ isPrefixChar b = true) (text : List Char) :
    matchAt items before (v ++ text) = none := by
  obtain ⟨d, v, rfl⟩ : ∃ d v', v = d :: v' := by
    cases v with
    | nil => cases hlast
    | cons d v => exact ⟨d, v, rfl⟩
  rw [List.all_cons, Bool.and_eq_true] at hv
  induction items generalizing inside d v before with
  | nil => cases h
  | cons item items ih =>
    cases item with
    | run s captured => cases h
    | char s =>
      cases s with
      | single c =>
        simp only [bars, Bool.and_eq_true, bne_iff_ne, Bool.or_eq_true, Bool.not_eq_true'] at h
        by_cases hd : d = c
        · subst hd
          -- the underscore at the end is still to come
          obtain ⟨e, v, rfl⟩ : ∃ e v', v = e :: v' := by
            cases v with
            | nil => exact absurd (Option.some.inj hlast) h.1
            | cons e v => exact ⟨e, v, rfl⟩
          have hrest : bars true items = true := by
            rcases h.2 with hno | hyes
            · rw [hv.1] at hno
              cases hno
            · exact hyes
          have hnone := ih hrest (fun _ => ⟨d, rfl, hv.1⟩) e v
            (by simpa only [List.all_cons, Bool.and_eq_true] using hv.2)
            (by rwa [List.getLast?_cons_cons] at hlast)
          rw [List.cons_append, matchAt_single_self, hnone]
          rfl
        · exact matchAt_single_ne _ _ _ hd
      | _ => cases h
    | look l =>
      obtain rfl : l = .word .boundary false := by
        unfold bars at h
        split at h <;> simp_all
      simp only [bars, Bool.or_eq_true] at h
      simp only [matchAt]
      split
      · rename_i hholds
        rcases h with hinside | hrest
        · obtain ⟨b, rfl, hword⟩ := hbefore hinside
          rw [List.cons_append, List.head?_cons, holds_boundary_inside hword hv.1] at hholds
          cases hholds
        · exact ih hrest (fun hno => by cases hno) d v hv hlast
      · rfl

/-- No match begins at a prefix behind a blank, or inside it. -/
def Barred (items : List Item) : Prop :=
  ∀ p, FairPrefix p → ∀ u c v, p = u ++ c :: v → ∀ text,
    matchAt items (u.getLast?.or (some ' ')) (c :: v ++ text) = none

theorem barred_of_bars {items : List Item} (h : bars false items = true) : Barred items := by
  intro p hp u c v he text
  have hchars := hp.characters
  have hends := hp.ends
  rw [he] at hchars hends
  rw [List.all_append, Bool.and_eq_true] at hchars
  rw [List.getLast?_append_of_ne_nil _ (List.cons_ne_nil c v)] at hends
  exact matchAt_of_bars h hchars.2 hends (fun hno => by cases hno) text

/-! ## Runs beside places -/

/-- Whether a run of the set either passes over places or stops at the blank before them. -/
def even : CharSet → Bool
  | .compl (.single d) => !isPrefixChar d
  | s => !s.mem ' '

/-- A run that takes every character of a prefix passes over places. -/
theorem takeWhile_fill_over {s : CharSet} (hs : ∀ c, isPrefixChar c = true → s.mem c = true)
    {p : List Char} (hp : FairPrefix p) (m : Marked) :
    (fill p m).takeWhile s.mem = fill p (m.takeWhile fun o => o.elim true s.mem) := by
  induction m with
  | nil => rfl
  | cons o m ih =>
    cases o with
    | none =>
      have hchars : ∀ c ∈ p, s.mem c = true := fun c hc =>
        hs c (List.all_eq_true.mp hp.characters c hc)
      rw [fill_none, List.takeWhile_append_of_pos hchars, ih]
      rfl
    | some c =>
      by_cases hc : s.mem c = true
      · simp [hc, ih]
      · simp [hc]

/-- A run that takes no blank stops before the next place. -/
theorem takeWhile_fill_before {s : CharSet} (hs : s.mem ' ' = false) {letters : List Char}
    {lead : Lead} {m : Marked} (hled : Led letters lead m) (hhead : m.head? ≠ some none) :
    ∃ w rest, m = plain w ++ rest ∧ rest.head? ≠ some none ∧
      ∀ p, (fill p m).takeWhile s.mem = w := by
  induction m generalizing lead with
  | nil => exact ⟨[], [], rfl, hhead, fun p => rfl⟩
  | cons o m ih =>
    cases o with
    | none => exact absurd rfl hhead
    | some c =>
      by_cases hc : s.mem c = true
      · have hnext : m.head? ≠ some none := by
          intro hplace
          have hblank := (Lead.of_step_here (Led.here_of_head (led_some.mp hled) hplace)).1
          rw [hblank, hs] at hc
          cases hc
        obtain ⟨w, rest, hm, hrest, htake⟩ := ih (led_some.mp hled) hnext
        refine ⟨c :: w, rest, by rw [hm]; rfl, hrest, ?_⟩
        intro p
        rw [fill_some, List.takeWhile_cons_of_pos hc, htake]
      · exact ⟨[], some c :: m, rfl, hhead, fun p => List.takeWhile_cons_of_neg hc⟩

theorem takeWhile_fill {s : CharSet} (hs : even s = true) {letters : List Char} {lead : Lead}
    {m : Marked} (hled : Led letters lead m) (hhead : m.head? ≠ some none) :
    ∃ run rest, m = run ++ rest ∧ rest.head? ≠ some none ∧
      ∀ p, FairPrefix p → (fill p m).takeWhile s.mem = fill p run := by
  have hcases : (∀ c, isPrefixChar c = true → s.mem c = true) ∨ s.mem ' ' = false := by
    unfold even at hs
    split at hs
    · rename_i d
      refine Or.inl (fun c hc => ?_)
      have hne : c ≠ d := by
        rintro rfl
        rw [hc] at hs
        cases hs
      simpa using hne
    · exact Or.inr (by simpa using hs)
  rcases hcases with hover | hblank
  · refine ⟨m.takeWhile _, m.dropWhile _, List.takeWhile_append_dropWhile.symm, ?_,
      fun p hp => takeWhile_fill_over hover hp m⟩
    intro hplace
    have hstop := List.head?_dropWhile_not (fun o : Option Char => o.elim true s.mem) m
    rw [hplace] at hstop
    cases hstop
  · obtain ⟨w, rest, hm, hrest, htake⟩ := takeWhile_fill_before hblank hled hhead
    exact ⟨plain w, rest, hm, hrest, fun p _ => by rw [htake, fill_plain]⟩

/-! ## Matches beside places -/

/-- Whether a match can be followed without knowing the prefix, given whether a place may be near, and
whether one may stand at the front. Unless the step is the `last` one, nothing that the items take may
lead to a place. -/
def steady (letters : List Char) (last : Bool) : Bool → Bool → List Item → Bool
  | near, here, [] => last || (!near && !here)
  | near, here, .char s :: rest =>
    (!here || bars false (.char s :: rest)) && steady letters last (letters.any s.mem) (near && s.mem ' ') rest
  | near, here, .look _ :: rest => !here && steady letters last near false rest
  | near, here, .run s _ :: rest => !here && !near && even s && steady letters last true false rest

/-- The items take the same of a marked text whatever the prefix is: nothing, or a beginning. The runs
they capture need no lead, and neither does what is left unless the step is the last one. -/
def Followed (letters : List Char) (last : Bool) (items : List Item) (before : Option Char)
    (m : Marked) : Prop :=
  (∀ p, FairPrefix p → matchAt items before (fill p m) = none) ∨
  ∃ (taken : Marked) (runs : List Marked) (rest : Marked), m = taken ++ rest ∧
    (∀ run ∈ runs, Led letters .away run) ∧ (last = false → Led letters .away rest) ∧
    ∀ p, FairPrefix p → matchAt items before (fill p m) = some (fill p taken, runs.map (fill p))

variable {letters : List Char} {last : Bool} {items : List Item} {before : Option Char}

theorem followed_char {s : CharSet} {c : Char} {m : Marked} (hc : s.mem c = true)
    (h : Followed letters last items (some c) m) :
    Followed letters last (.char s :: items) before (some c :: m) := by
  have hstep : ∀ p, matchAt (.char s :: items) before (fill p (some c :: m)) =
      (matchAt items (some c) (fill p m)).map fun found => (c :: found.1, found.2) :=
    fun p => if_pos hc
  rcases h with hnone | ⟨taken, runs, rest, hm, hruns, hrest, hmatch⟩
  · exact Or.inl fun p hp => by rw [hstep, hnone p hp]; rfl
  · refine Or.inr ⟨some c :: taken, runs, rest, by rw [hm]; rfl, hruns, hrest, ?_⟩
    intro p hp
    rw [hstep, hmatch p hp]
    rfl

theorem followed_look {l : Look} {m : Marked} (hhead : m.head? ≠ some none)
    (h : Followed letters last items before m) :
    Followed letters last (.look l :: items) before m := by
  have hstep : ∀ p, matchAt (.look l :: items) before (fill p m) =
      if l.holds before m.head?.join then matchAt items before (fill p m) else none := by
    intro p
    rw [← head?_fill p hhead]
    rfl
  by_cases hl : l.holds before m.head?.join = true
  · unfold Followed
    simp only [hstep, hl, if_true]
    exact h
  · exact Or.inl fun p _ => by rw [hstep, if_neg hl]

theorem followed_run {s : CharSet} {captured : Bool} {run rest : Marked}
    (htake : ∀ p, FairPrefix p → (fill p (run ++ rest)).takeWhile s.mem = fill p run)
    (haway : Led letters .away run)
    (h : Followed letters last items (run.getLast?.map (·.getD '_')) rest) :
    Followed letters last (.run s captured :: items) before (run ++ rest) := by
  by_cases hrun : run = []
  · refine Or.inl fun p hp => ?_
    have hempty : ((fill p (run ++ rest)).takeWhile s.mem).isEmpty = true := by
      rw [htake p hp, hrun]
      rfl
    exact if_pos hempty
  · have hstep : ∀ p, FairPrefix p → matchAt (.run s captured :: items) before
        (fill p (run ++ rest)) =
        (matchAt items (run.getLast?.map (·.getD '_')) (fill p rest)).map
          fun found => (fill p run ++ found.1,
            if captured then fill p run :: found.2 else found.2) := by
      intro p hp
      have hfull : (fill p run).isEmpty = false := by
        rw [Bool.eq_false_iff, Ne, List.isEmpty_iff, fill_eq_nil hp]
        exact hrun
      simp only [matchAt, htake p hp, hfull]
      rw [getLast?_fill hp, fill_append, List.drop_left]
      rfl
    rcases h with hnone | ⟨taken, runs, rest', hm, hruns, hrest, hmatch⟩
    · exact Or.inl fun p hp => by rw [hstep p hp, hnone p hp]; rfl
    · refine Or.inr ⟨run ++ taken, if captured then run :: runs else runs, rest',
        by rw [hm, List.append_assoc], ?_, hrest, ?_⟩
      · intro r hr
        cases captured with
        | false => exact hruns r hr
        | true =>
          rcases List.mem_cons.mp hr with rfl | hr
          · exact haway
          · exact hruns r hr
      · intro p hp
        rw [hstep p hp, hmatch p hp, fill_append]
        cases captured <;> rfl

/-- The check is enough to follow a match through a marked text. -/
theorem followed_of_steady {near here : Bool} (hsteady : steady letters last near here items = true)
    {lead : Lead} {m : Marked} (hled : Led letters lead m) (hnear : near = false → lead ≠ .near)
    (hhere : here = false → m.head? ≠ some none) (before : Option Char) :
    Followed letters last items before m := by
  induction items generalizing near here lead m before with
  | nil =>
    refine Or.inr ⟨[], [], m, rfl, by simp, ?_, fun p _ => rfl⟩
    rintro rfl
    simp only [steady, Bool.false_or, Bool.and_eq_true, Bool.not_eq_true'] at hsteady
    exact hled.to_away (hnear hsteady.1) (hhere hsteady.2)
  | cons item items ih =>
    -- one case for each kind of item: what it takes, and where that leads
    cases item with
    | char s =>
      simp only [steady, Bool.and_eq_true, Bool.or_eq_true, Bool.not_eq_true'] at hsteady
      obtain ⟨hbars, hsteady⟩ := hsteady
      cases m with
      | nil => exact Or.inl fun p _ => rfl
      | cons o m =>
        cases o with
        | none =>
          rcases hbars with hno | hbars
          · exact absurd rfl (hhere hno)
          · refine Or.inl fun p hp => ?_
            rw [fill_none]
            exact matchAt_of_bars hbars hp.characters hp.ends (fun hno => by cases hno) _
        | some c =>
          by_cases hc : s.mem c = true
          · rw [led_some] at hled
            have hnear' : letters.any s.mem = false → lead.step letters c ≠ .near := by
              intro hnone h
              exact List.any_eq_false.mp hnone c (Lead.of_step_near h) hc
            have hhere' : (near && s.mem ' ') = false → m.head? ≠ some none := by
              intro hnone h
              obtain ⟨rfl, hl⟩ := Lead.of_step_here (hled.here_of_head h)
              rw [hc, Bool.and_true] at hnone
              exact hnear hnone hl
            exact followed_char hc (ih hsteady hled hnear' hhere' (some c))
          · exact Or.inl fun p _ => if_neg hc
    | look l =>
      simp only [steady, Bool.and_eq_true, Bool.not_eq_true'] at hsteady
      obtain ⟨hnotHere, hsteady⟩ := hsteady
      exact followed_look (hhere hnotHere) (ih hsteady hled hnear (fun _ => hhere hnotHere) before)
    | run s captured =>
      simp only [steady, Bool.and_eq_true, Bool.not_eq_true'] at hsteady
      obtain ⟨⟨⟨hnotHere, hnotNear⟩, heven⟩, hsteady⟩ := hsteady
      obtain ⟨run, rest, rfl, hrest, htake⟩ := takeWhile_fill heven hled (hhere hnotHere)
      have haway := (led_append.mp (hled.to_away (hnear hnotNear) (hhere hnotHere))).1
      exact followed_run htake haway (ih hsteady (led_append.mp hled).2 (fun hno => by cases hno)
        (fun _ => hrest) _)

/-- Characters at which no match begins are kept, those of a prefix too. -/
theorem piecesFrom_fair {items : List Item} (h : Barred items) {p : List Char} (hp : FairPrefix p)
    (rest : List Char) :
    piecesFrom items (some ' ') (p ++ rest) =
      p.map .kept ++ piecesFrom items (some '_') rest := by
  rw [piecesFrom_append_kept items (some ' ') p rest fun u c v he => h p hp u c v he rest, hp.ends]
  rfl

end Regex.Sequence

/-! ## Substitutions -/

open Regex Regex.Sequence Marked

/-- A substitution that takes no notice of the prefix. What it puts in place of a match is a marked text
made of the captured runs; unless the step is the last one, every place in it is led to. -/
structure Evenhanded (letters : List Char) (last : Bool) (s : List Char → Substitution)
    (items : List Item) (out : List Marked → Marked) : Prop where
  walks : ∀ p, (s p).Walks items
  steady : steady letters last true false items = true
  barred : Barred items
  replace : ∀ p, FairPrefix p → ∀ taken (runs : List Marked),
    (s p).replace ⟨taken, (runs.map (fill p)).map some⟩ = fill p (out runs)
  led : last = false → ∀ runs : List Marked, (∀ run ∈ runs, Led letters .away run) →
    ∀ lead, Led letters lead (out runs)

namespace Evenhanded

variable {letters : List Char} {last : Bool} {s : List Char → Substitution} {items : List Item}
  {out : List Marked → Marked}

/-- A match is replaced by the same marked text whatever the prefix is. -/
theorem piecesFrom_hit_fill (h : Evenhanded letters last s items out) {p : List Char}
    (hp : FairPrefix p) {before : Option Char} {taken rest : Marked} {runs : List Marked}
    (hmatch : matchAt items before (fill p (taken ++ rest)) = some (fill p taken, runs.map (fill p))) :
    replaced (s p).replace (piecesFrom items before (fill p (taken ++ rest))) =
      fill p (out runs) ++ replaced (s p).replace
        (piecesFrom items (taken.getLast?.map (·.getD '_')) (fill p rest)) := by
  rw [fill_append] at hmatch ⊢
  rw [piecesFrom_hit (h.walks p).takes hmatch, replaced_cons_hit, h.replace p hp, getLast?_fill hp]

/-- What is left behind a match goes on from the lead of the text that is put in, where that matters. -/
theorem exists_next_lead {lead : Lead} {taken rest : Marked} (new : Marked)
    (hled : Led letters lead (taken ++ rest)) (hrest : last = false → Led letters .away rest) :
    ∃ next, Led letters next rest ∧ (last = false → next = lead.after letters new) := by
  cases last with
  | true => exact ⟨_, (led_append.mp hled).2, fun hno => by cases hno⟩
  | false => exact ⟨_, (hrest rfl).of_away _, fun _ => rfl⟩

theorem blank_before_place {lead : Lead} {taken rest : Marked} (htaken : taken ≠ [])
    (hled : Led letters lead (taken ++ rest)) (hplace : rest.head? = some none) :
    taken.getLast?.map (·.getD '_') = some ' ' := by
  have hhere := (led_append.mp hled).2.here_of_head hplace
  rw [Lead.getLast?_of_here htaken hhere]
  rfl

/-- What is made of a marked text is a marked text, the same whatever the prefix is. -/
theorem replaced_fill (h : Evenhanded letters last s items out) (lead : Lead)
    (before : Option Char) (m : Marked) (hled : Led letters lead m)
    (hbefore : m.head? = some none → before = some ' ') :
    ∃ m' : Marked, (last = false → Led letters lead m') ∧
      ∀ p, FairPrefix p →
        replaced (s p).replace (piecesFrom items before (fill p m)) = fill p m' := by
  -- by the length of the text, since a match takes several characters at once
  induction hn : m.length using Nat.strongRecOn generalizing lead before m with
  | ind n ih =>
    cases m with
    | nil => exact ⟨[], fun _ => trivial, fun p _ => rfl⟩
    | cons o m =>
      cases o with
      | none =>
        obtain ⟨hlead, haway⟩ := hled
        have hnext : m.head? = some none → some '_' = some ' ' := fun hm => by
          cases haway.here_of_head hm
        obtain ⟨m', hled', heq⟩ := ih m.length (by simp at hn; omega) .away (some '_') m haway hnext rfl
        refine ⟨none :: m', fun hl => ⟨hlead, hled' hl⟩, fun p hp => ?_⟩
        rw [fill_none, hbefore rfl, piecesFrom_fair h.barred hp, replaced_append, replaced_kept,
          heq p hp, fill_none]
      | some c =>
        rcases followed_of_steady h.steady hled (fun hno => by cases hno) (fun _ hm => by cases hm)
          before with hnone | ⟨taken, runs, rest, hm, hruns, hrest, hmatch⟩
        · have hnext : m.head? = some none → some c = some ' ' := by
            intro hm
            rw [(Lead.of_step_here (Led.here_of_head (led_some.mp hled) hm)).1]
          obtain ⟨m', hled', heq⟩ := ih m.length (by simp at hn; omega) _ (some c) m
            (led_some.mp hled) hnext rfl
          refine ⟨some c :: m', fun hl => led_some.mpr (hled' hl), fun p hp => ?_⟩
          have hkept : piecesFrom items before (c :: fill p m) =
              .kept c :: piecesFrom items (some c) (fill p m) := piecesFrom_kept (hnone p hp)
          rw [fill_some, hkept, replaced_cons_kept, heq p hp, fill_some]
        · rw [hm] at hled hn ⊢
          have htaken : taken ≠ [] := by
            rintro rfl
            exact taken_ne_nil (h.walks ['_']).takes (hmatch _ fairPrefix_underscore) rfl
          have hshort : rest.length < n := by
            have hpos := List.length_pos_of_ne_nil htaken
            rw [List.length_append] at hn
            omega
          obtain ⟨next, hnext, hgo⟩ := exists_next_lead (out runs) hled hrest
          obtain ⟨m', hled', heq⟩ := ih rest.length hshort next _ rest hnext
            (blank_before_place htaken hled) rfl
          refine ⟨out runs ++ m', fun hl => led_append.mpr ⟨h.led hl runs hruns lead, ?_⟩, fun p hp => ?_⟩
          · rw [← hgo hl]
            exact hled' hl
          · rw [h.piecesFrom_hit_fill hp (hm ▸ hmatch p hp), heq p hp, fill_append]

theorem text_apply_fill (h : Evenhanded letters last s items out) (m : Marked)
    (hled : Led letters .away m) :
    ∃ m' : Marked, (last = false → Led letters .away m') ∧
      ∀ p, FairPrefix p → ((s p).apply (fill p m)).text = fill p m' := by
  obtain ⟨m', hled', heq⟩ := h.replaced_fill .away none m hled
    (fun hm => by cases hled.here_of_head hm)
  exact ⟨m', hled', fun p hp => by rw [Substitution.text_apply (h.walks p), heq p hp]⟩

end Evenhanded

end SqlDump
