-- Files in a tree: putting one where no folder stands changes that place and no other, and no path leads
-- elsewhere than before.
import SqlDump.FileTree

namespace SqlDump.FileTree

/-! ## What stands at a place -/

theorem lookup_map_of_ne {entries : List (Place × Node)} {place q : Place} {node : Node} (h : q ≠ place) :
    (entries.map fun e => if e.1 == place then (place, node) else e).lookup q = entries.lookup q := by
  induction entries with
  | nil => rfl
  | cons e entries ih =>
    rw [List.map_cons]
    by_cases he : e.1 = place
    · have hq : (q == e.1) = false := beq_eq_false_iff_ne.mpr fun hqe => h (hqe.trans he)
      have hp : (q == place) = false := beq_eq_false_iff_ne.mpr h
      rw [if_pos (beq_iff_eq.mpr he), List.lookup_cons, hp, List.lookup_cons, hq, ih]
    · rw [if_neg (mt beq_iff_eq.mp he), List.lookup_cons, List.lookup_cons, ih]

theorem lookup_map_self {entries : List (Place × Node)} {place : Place} {node : Node}
    (h : entries.any (·.1 == place) = true) :
    (entries.map fun e => if e.1 == place then (place, node) else e).lookup place = some node := by
  induction entries with
  | nil => cases h
  | cons e entries ih =>
    rw [List.map_cons]
    by_cases he : e.1 = place
    · rw [if_pos (beq_iff_eq.mpr he), List.lookup_cons_self]
    · have hrest : entries.any (·.1 == place) = true := by simpa [he] using h
      have hp : (place == e.1) = false := beq_eq_false_iff_ne.mpr (Ne.symm he)
      rw [if_neg (mt beq_iff_eq.mp he), List.lookup_cons, hp]
      exact ih hrest

theorem lookup_eq_none {entries : List (Place × Node)} {place : Place}
    (h : ¬ entries.any (·.1 == place) = true) : entries.lookup place = none := by
  rw [List.lookup_eq_none_iff]
  intro e he
  rw [bne_iff_ne]
  exact fun hp => h (List.any_eq_true.mpr ⟨e, he, beq_iff_eq.mpr hp.symm⟩)

@[simp] theorem working_put (t : FileTree) (place : Place) (node : Node) :
    (t.put place node).working = t.working := by
  unfold put
  split <;> rfl

theorem lookup_put (t : FileTree) (place q : Place) (node : Node) :
    (t.put place node).entries.lookup q = if q = place then some node else t.entries.lookup q := by
  unfold put
  split
  · rename_i hany
    split
    · rename_i heq
      rw [heq, lookup_map_self hany]
    · rename_i hdiff
      rw [lookup_map_of_ne hdiff]
  · rename_i hany
    rw [List.lookup_append]
    split
    · rename_i heq
      rw [heq, lookup_eq_none hany, Option.none_or, List.lookup_cons_self]
    · rename_i hdiff
      rw [List.lookup_cons, beq_eq_false_iff_ne.mpr hdiff, List.lookup_nil, Option.or_none]

/-- A node that is put where no folder stands is there then, and all others stand as before. -/
theorem at?_put {t : FileTree} {place : Place} (node : Node) (hopen : t.at? place ≠ some .folder) (q : Place) :
    (t.put place node).at? q = if q = place then some node else t.at? q := by
  have hbelow : ¬ place <+: t.working := fun h => hopen (if_pos h)
  unfold at?
  rw [working_put, lookup_put]
  by_cases hq : q = place
  · subst hq
    rw [if_neg hbelow, if_pos rfl, if_pos rfl]
  · rw [if_neg hq, if_neg hq]

/-! ## A file that is put -/

/-- One tree is another one with a file put where no folder stood. -/
structure Placed (t t' : FileTree) (place : Place) (bytes : List UInt8) : Prop where
  there : t'.at? place = some (.file bytes)
  spared : ∀ q, q ≠ place → t'.at? q = t.at? q
  free : t.at? place ≠ some .folder
  working : t'.working = t.working

theorem Placed.put {t : FileTree} {place : Place} (bytes : List UInt8) (hopen : t.at? place ≠ some .folder) :
    Placed t (t.put place (.file bytes)) place bytes where
  there := by rw [at?_put _ hopen, if_pos rfl]
  spared q hq := by rw [at?_put _ hopen, if_neg hq]
  free := hopen
  working := working_put t place _

variable {t t' : FileTree} {place : Place} {bytes : List UInt8}

/-- A second file at the same place takes the place of the first. -/
theorem Placed.put_again (h : Placed t t' place bytes) (more : List UInt8) :
    Placed t (t'.put place (.file more)) place more := by
  have hopen : t'.at? place ≠ some .folder := by
    rw [h.there]
    exact fun hf => nomatch Option.some.inj hf
  exact {
    there := by rw [at?_put _ hopen, if_pos rfl]
    spared := fun q hq => by rw [at?_put _ hopen, if_neg hq, h.spared q hq]
    free := h.free
    working := (working_put t' place _).trans h.working }

theorem Placed.isSome_at? (h : Placed t t' place bytes) {q : Place} (hq : (t.at? q).isSome) :
    (t'.at? q).isSome := by
  by_cases he : q = place
  · rw [he, h.there]
    rfl
  · rwa [h.spared q he]

theorem Placed.folder_iff (h : Placed t t' place bytes) (q : Place) :
    t'.at? q = some .folder ↔ t.at? q = some .folder := by
  by_cases he : q = place
  · subst he
    rw [h.there]
    exact ⟨fun hf => (nomatch Option.some.inj hf), fun hf => absurd hf h.free⟩
  · rw [h.spared q he]

theorem Placed.start_eq (h : Placed t t' place bytes) (path : String) : t'.start path = t.start path := by
  unfold start
  rw [h.working]

/-! ## Ways -/

theorem stepFrom_name {name : String} (hdot : name ≠ ".") (hup : name ≠ "..") :
    stepFrom place name = place ++ [name] := by
  unfold stepFrom
  rw [if_neg hdot, if_neg hup]

theorem walk_append (t : FileTree) (start : Place) (a b : List String) :
    t.walk start (a ++ b) = (t.walk start a).bind fun p => t.walk p b := by
  induction a generalizing start with
  | nil => rfl
  | cons s a ih =>
    rw [List.cons_append, walk, walk]
    split
    · exact ih _
    · rfl

/-- Every way is still there. -/
theorem Placed.walk_of_walk (h : Placed t t' place bytes) {start p : Place} {steps : List String}
    (hw : t.walk start steps = some p) : t'.walk start steps = some p := by
  induction steps generalizing start with
  | nil => exact hw
  | cons s steps ih =>
    rw [walk] at hw ⊢
    split at hw
    · rename_i hstep
      rw [if_pos ⟨(h.folder_iff start).mpr hstep.1, h.isSome_at? hstep.2⟩]
      exact ih hw
    · cases hw

/-- The only new way is the one to the file. -/
theorem Placed.walk_back (h : Placed t t' place bytes) {start p : Place} {steps : List String}
    (hw : t'.walk start steps = some p) (hp : p ≠ place) : t.walk start steps = some p := by
  induction steps generalizing start with
  | nil => exact hw
  | cons s steps ih =>
    rw [walk] at hw ⊢
    split at hw
    · rename_i hstep
      have hnext : stepFrom start s ≠ place := by
        -- No way goes on behind a file.
        intro he
        cases steps with
        | nil => exact hp ((Option.some.inj hw).symm.trans he)
        | cons s' steps =>
          rw [he, walk, if_neg fun hs => by rw [h.there] at hs; cases hs.1] at hw
          cases hw
      rw [if_pos ⟨(h.folder_iff start).mp hstep.1, by rw [← h.spared _ hnext]; exact hstep.2⟩]
      exact ih hw
    · cases hw

/-- The names on the way to the working folder lead there from the root. -/
theorem walk_names {names : List String} (hnames : ∀ s ∈ names, s ≠ "." ∧ s ≠ "..")
    (h : place ++ names <+: t.working) : t.walk place names = some (place ++ names) := by
  induction names generalizing place with
  | nil => rw [walk, List.append_nil]
  | cons s names ih =>
    obtain ⟨hs, hrest⟩ := List.forall_mem_cons.mp hnames
    have hway : place ++ [s] ++ names <+: t.working := by rwa [List.append_assoc]
    have hhere : t.at? place = some .folder := if_pos ((List.prefix_append _ _).trans h)
    have hthere : t.at? (place ++ [s]) = some .folder := if_pos ((List.prefix_append _ _).trans hway)
    rw [walk, stepFrom_name hs.1 hs.2, if_pos ⟨hhere, by rw [hthere]; rfl⟩, ih hrest hway, List.append_assoc]
    rfl

/-! ## Paths -/

/-- The names on the way to the working folder, put before the steps of a path that starts there, give a path
from the root to the same place. -/
theorem locate_from_root {path full : String} {steps : List String}
    (hnames : ∀ s ∈ t.working, s ≠ "." ∧ s ≠ "..") (hpath : steps? path = some steps)
    (hinside : t.start path = t.working) (hfull : steps? full = some ("." :: t.working ++ steps))
    (houtside : t.start full = []) : t.locate full = t.locate path := by
  have hroot : t.at? [] = some .folder := if_pos List.nil_prefix
  have hway : t.walk [] t.working = some t.working := walk_names hnames List.prefix_rfl
  rw [locate, locate, hpath, hfull, Option.bind_some, Option.bind_some, hinside, houtside, List.cons_append,
    walk, stepFrom, if_pos rfl, if_pos ⟨hroot, by rw [hroot]; rfl⟩, walk_append, hway, Option.bind_some]

theorem Placed.locate_of_locate (h : Placed t t' place bytes) {path : String} {p : Place}
    (hl : t.locate path = some p) : t'.locate path = some p := by
  obtain ⟨steps, hsteps, hw⟩ := Option.bind_eq_some_iff.mp hl
  refine Option.bind_eq_some_iff.mpr ⟨steps, hsteps, ?_⟩
  rw [h.start_eq]
  exact h.walk_of_walk hw

/-- A path that does not lead to the file leads where it led before. -/
theorem Placed.locate_eq (h : Placed t t' place bytes) {path : String}
    (hl : t'.locate path ≠ some place) : t'.locate path = t.locate path := by
  rcases hp : t'.locate path with _ | p
  · rcases hold : t.locate path with _ | p
    · rfl
    · rw [h.locate_of_locate hold] at hp
      cases hp
  · rw [hp] at hl
    obtain ⟨steps, hsteps, hw⟩ := Option.bind_eq_some_iff.mp hp
    rw [h.start_eq] at hw
    exact (Option.bind_eq_some_iff.mpr
      ⟨steps, hsteps, h.walk_back hw fun he => hl (congrArg some he)⟩).symm

/-- What a path led to stands there as before, unless it leads to the file. -/
theorem Placed.node?_eq (h : Placed t t' place bytes) {path : String}
    (hl : t'.locate path ≠ some place) : t'.node? path = t.node? path := by
  unfold node?
  rw [h.locate_eq hl]
  rcases hp : t.locate path with _ | p
  · rfl
  · rw [h.locate_eq hl, hp] at hl
    exact h.spared p fun he => hl (congrArg some he)

theorem Placed.node?_of_locate (h : Placed t t' place bytes) {path : String}
    (hl : t'.locate path = some place) : t'.node? path = some (.file bytes) := by
  unfold node?
  rw [hl, Option.bind_some, h.there]

theorem fileAt?_of_node? {path : String} (h : t.node? path = some (.file bytes)) :
    t.fileAt? path = some bytes := by
  unfold fileAt?
  rw [h]

theorem fileAt?_eq {path : String} (h : t'.node? path = t.node? path) :
    t'.fileAt? path = t.fileAt? path := by
  unfold fileAt?
  rw [h]

theorem locate_of_fileAt? {path : String} (h : t.fileAt? path = some bytes) :
    ∃ p, t.locate path = some p := by
  unfold fileAt? node? at h
  rcases hp : t.locate path with _ | p
  · rw [hp] at h
    cases h
  · exact ⟨p, rfl⟩

/-- What a path leads to once a place is emptied: nothing where it leads there, what it led to otherwise. -/
theorem fileAt?_emptied {path : String} (hfile : t.fileAt? path = some bytes)
    (hopen : t.at? place ≠ some .folder) :
    (t.put place (.file [])).fileAt? path = some (if t.locate path = some place then [] else bytes) := by
  have hemptied := Placed.put [] hopen
  obtain ⟨p, hp⟩ := locate_of_fileAt? hfile
  have hafter := hemptied.locate_of_locate hp
  by_cases hsame : p = place
  · subst hsame
    rw [hp, if_pos rfl]
    exact fileAt?_of_node? (hemptied.node?_of_locate hafter)
  · have hne : (t.put place (.file [])).locate path ≠ some place := by
      rw [hafter]
      simpa using hsame
    rw [hp, if_neg (by simpa using hsame), fileAt?_eq (hemptied.node?_eq hne), hfile]

/-- A file is made in a folder that is there, under a new name or that of a file. -/
theorem exists_folder {path : String} (h : t.creationPlace? path = some place) :
    ∃ init name folder, steps? path = some (init ++ [name]) ∧ t.walk (t.start path) init = some folder ∧
      t.at? folder = some .folder ∧ stepFrom folder name = place ∧ t.at? place ≠ some .folder := by
  obtain ⟨steps, hsteps, h⟩ := Option.bind_eq_some_iff.mp h
  obtain ⟨name, hname, h⟩ := Option.bind_eq_some_iff.mp h
  obtain ⟨folder, hfolder, h⟩ := Option.bind_eq_some_iff.mp h
  split at h
  · rename_i hopen
    obtain ⟨hthere, hdot, hup, -, hfree⟩ := hopen
    obtain rfl := Option.some.inj h
    obtain ⟨init, rfl⟩ := List.getLast?_eq_some_iff.mp hname
    rw [List.dropLast_concat] at hfolder
    exact ⟨init, name, folder, hsteps, hfolder, hthere, stepFrom_name hdot hup, hfree⟩
  · cases h

theorem free_of_creationPlace? {path : String} (h : t.creationPlace? path = some place) :
    t.at? place ≠ some .folder := by
  obtain ⟨-, -, -, -, -, -, -, hfree⟩ := exists_folder h
  exact hfree

/-- The path of a file that is made leads to it. -/
theorem Placed.locate_creationPlace (h : Placed t t' place bytes) {path : String}
    (hc : t.creationPlace? path = some place) : t'.locate path = some place := by
  obtain ⟨init, name, folder, hsteps, hwalk, hfolder, hnext, -⟩ := exists_folder hc
  have hlast : t'.walk folder [name] = some place := by
    rw [walk, hnext, if_pos ⟨(h.folder_iff folder).mpr hfolder, by rw [h.there]; rfl⟩, walk]
  rw [locate, hsteps, Option.bind_some, h.start_eq, walk_append, h.walk_of_walk hwalk, Option.bind_some, hlast]

end SqlDump.FileTree
