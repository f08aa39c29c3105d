-- The lines of an input, told on the whole byte sequence: it is cut behind every line feed. How a reader
-- delivers the bytes makes no difference, and a failure costs the line that it cuts short.
import SqlDump.Text.Lines
import Mathlib.Data.List.TakeWhile

namespace SqlDump

/-! ## Stretches -/

/-- A byte sequence cut behind every line feed. Only the last stretch may lack one. -/
def stretches : List UInt8 → List (List UInt8)
  | [] => []
  | b :: rest =>
    if b = lineFeed then [b] :: stretches rest
    else
      match stretches rest with
      | [] => [[b]]
      | s :: more => (b :: s) :: more

/-- Nothing is left over behind the last line feed. -/
def Ended (bytes : List UInt8) : Prop := bytes = [] ∨ bytes.getLast? = some lineFeed

theorem stretches_append_feed (x rest : List UInt8) (h : lineFeed ∉ x) :
    stretches (x ++ lineFeed :: rest) = (x ++ [lineFeed]) :: stretches rest := by
  induction x with
  | nil => simp [stretches]
  | cons b x ih =>
    rw [List.mem_cons, not_or] at h
    simp [stretches, Ne.symm h.1, ih h.2]

theorem stretches_of_no_feed (x : List UInt8) (h : lineFeed ∉ x) (hne : x ≠ []) :
    stretches x = [x] := by
  induction x with
  | nil => exact absurd rfl hne
  | cons b x ih =>
    rw [List.mem_cons, not_or] at h
    cases x with
    | nil => simp [stretches, Ne.symm h.1]
    | cons c x => rw [stretches, if_neg (Ne.symm h.1), ih h.2 (by simp)]

/-- Every byte sequence is one without a line feed, or has a first one. -/
theorem feed_cases (bytes : List UInt8) :
    lineFeed ∉ bytes ∨ ∃ x rest, lineFeed ∉ x ∧ bytes = x ++ lineFeed :: rest := by
  by_cases h : lineFeed ∈ bytes
  · obtain ⟨x, rest, hb, hx⟩ := List.eq_append_cons_of_mem h
    exact Or.inr ⟨x, rest, hx, hb⟩
  · exact Or.inl h

/-- Induction on the lines of a byte sequence, the first one first. -/
theorem feed_induction {P : List UInt8 → Prop} (last : ∀ x, lineFeed ∉ x → P x)
    (more : ∀ x rest, lineFeed ∉ x → P rest → P (x ++ lineFeed :: rest)) (bytes : List UInt8) :
    P bytes := by
  induction hn : bytes.length using Nat.strongRecOn generalizing bytes with
  | _ n ih =>
    rcases feed_cases bytes with hx | ⟨x, rest, hx, rfl⟩
    · exact last bytes hx
    · exact more x rest hx (ih rest.length (by simp at hn; omega) rest rfl)

theorem Ended.of_append_feed {x rest : List UInt8} (h : Ended (x ++ lineFeed :: rest)) :
    Ended rest := by
  rcases h with h | h
  · simp at h
  · cases rest with
    | nil => exact Or.inl rfl
    | cons b rest => exact Or.inr (by simpa using h)

theorem Ended.eq_nil_of_no_feed {x : List UInt8} (h : Ended x) (hx : lineFeed ∉ x) : x = [] := by
  rcases h with h | h
  · exact h
  · exact absurd (List.mem_of_getLast? h) hx

/-- The cut has no memory at a line feed. -/
theorem stretches_append (a b : List UInt8) (h : Ended a) :
    stretches (a ++ b) = stretches a ++ stretches b := by
  induction a using feed_induction with
  | last x hx =>
    rw [h.eq_nil_of_no_feed hx]
    rfl
  | more x rest hx ih =>
    rw [List.append_assoc, List.cons_append, stretches_append_feed x _ hx,
      stretches_append_feed x _ hx, ih h.of_append_feed, List.cons_append]

/-- The first stretches of an input are the stretches of what they cover. -/
theorem stretches_take (bytes : List UInt8) (n : Nat) :
    stretches ((stretches bytes).take n).flatten = (stretches bytes).take n := by
  induction n generalizing bytes with
  | zero => rfl
  | succ n ih =>
    rcases feed_cases bytes with hx | ⟨x, rest, hx, rfl⟩
    · by_cases hne : bytes = []
      · subst hne; rfl
      · simp [stretches_of_no_feed bytes hx hne]
    · rw [stretches_append_feed x _ hx, List.take_succ_cons, List.flatten_cons, List.append_assoc]
      rw [List.singleton_append, stretches_append_feed x _ hx, ih rest]

/-! ## The part in whole lines -/

/-- What lies up to the last line feed. -/
def wholeLines (bytes : List UInt8) : List UInt8 := (bytes.reverse.dropWhile (· ≠ lineFeed)).reverse

theorem wholeLines_of_no_feed (x : List UInt8) (h : lineFeed ∉ x) : wholeLines x = [] := by
  unfold wholeLines
  rw [List.reverse_eq_nil_iff, List.dropWhile_eq_nil_iff]
  intro b hb
  have : b ≠ lineFeed := fun he => h (by simpa [he] using hb)
  simpa using this

theorem wholeLines_append_feed (x rest : List UInt8) :
    wholeLines (x ++ lineFeed :: rest) = x ++ lineFeed :: wholeLines rest := by
  unfold wholeLines
  rw [List.reverse_append, List.reverse_cons, List.append_assoc, List.dropWhile_append]
  split
  · rename_i h
    rw [List.isEmpty_iff.mp h]
    simp
  · simp

theorem wholeLines_begins (bytes : List UInt8) : wholeLines bytes <+: bytes := by
  have h := List.dropWhile_suffix (l := bytes.reverse) (· ≠ lineFeed)
  simpa [wholeLines] using List.reverse_prefix.mpr h

theorem ended_wholeLines (bytes : List UInt8) : Ended (wholeLines bytes) := by
  unfold wholeLines Ended
  rw [List.getLast?_reverse, List.reverse_eq_nil_iff]
  cases hd : bytes.reverse.dropWhile (· ≠ lineFeed) with
  | nil => exact Or.inl rfl
  | cons b rest =>
    have hb := List.head?_dropWhile_not (fun b => decide (b ≠ lineFeed)) bytes.reverse
    rw [hd] at hb
    exact Or.inr (by simpa using hb)

/-- No longer beginning of the input is in whole lines. -/
theorem wholeLines_longest (bytes a : List UInt8) (hp : a <+: bytes) (h : Ended a) :
    a.length ≤ (wholeLines bytes).length := by
  obtain ⟨b, rfl⟩ := hp
  rcases h with rfl | h
  · simp
  · obtain ⟨x, rfl⟩ := List.getLast?_eq_some_iff.mp h
    rw [List.append_assoc, List.singleton_append, wholeLines_append_feed]
    simp

/-! ## The line of a stretch -/

/-- The line that a stretch holds. A carriage return directly before the line feed belongs to the
end. -/
def Line.ofStretch (s : List UInt8) : Line :=
  if s.getLast? = some lineFeed then
    let body := s.dropLast
    ⟨Utf8.decode (if body.getLast? = some carriageReturn then body.dropLast else body), true⟩
  else ⟨Utf8.decode s, false⟩

/-- The lines of an input. -/
def inputLines (bytes : List UInt8) : List Line := (stretches bytes).map Line.ofStretch

theorem inputLines_append (a b : List UInt8) (h : Ended a) :
    inputLines (a ++ b) = inputLines a ++ inputLines b := by
  simp [inputLines, stretches_append a b h]

theorem ofStretch_ended (x : List UInt8) :
    Line.ofStretch (x ++ [lineFeed]) = Line.ended x.reverse := by
  have hlast : (x ++ [lineFeed]).getLast? = some lineFeed := by simp
  unfold Line.ofStretch Line.ended
  rw [if_pos hlast, List.dropLast_concat]
  rcases x.eq_nil_or_concat with rfl | ⟨y, b, rfl⟩
  · rfl
  · by_cases hb : b = carriageReturn
    · simp [hb]
    · simp [hb]

theorem ofStretch_unended (x : List UInt8) (h : lineFeed ∉ x) :
    Line.ofStretch x = Line.unended x.reverse := by
  have hlast : ¬ x.getLast? = some lineFeed := fun he => h (List.mem_of_getLast? he)
  unfold Line.ofStretch Line.unended
  rw [if_neg hlast, List.reverse_reverse]

/-! ## The reader -/

namespace LineReader

/-- A reader that takes the rest of an input ends with the lines of the bytes it had begun and the
rest. -/
theorem finish_feed (r : LineReader) (bytes : List UInt8) (h : lineFeed ∉ r.begun) :
    (bytes.foldl feed r).finish = r.done.reverse ++ inputLines (r.begun.reverse ++ bytes) := by
  induction bytes generalizing r with
  | nil =>
    by_cases hb : r.begun = []
    · simp [finish, hb, inputLines, stretches]
    · have hs := stretches_of_no_feed r.begun.reverse (by simpa using h) (by simpa using hb)
      have hl := ofStretch_unended r.begun.reverse (by simpa using h)
      simp [finish, hb, inputLines, hs, hl]
  | cons b rest ih =>
    rw [List.foldl_cons]
    by_cases hb : b = lineFeed
    · have hs := stretches_append_feed r.begun.reverse rest (by simpa using h)
      have hl := ofStretch_ended r.begun.reverse
      rw [ih _ (by simp [feed, hb])]
      simp [feed, hb, inputLines, hs, hl]
    · rw [ih _ (by simp [feed, hb, Ne.symm hb, h])]
      simp [feed, hb]

/-- The lines that a reader has done are those of the part in whole lines. -/
theorem done_feed (r : LineReader) (bytes : List UInt8) (h : lineFeed ∉ r.begun) :
    (bytes.foldl feed r).done.reverse =
      r.done.reverse ++ inputLines (wholeLines (r.begun.reverse ++ bytes)) := by
  induction bytes generalizing r with
  | nil =>
    have hw := wholeLines_of_no_feed r.begun.reverse (by simpa using h)
    simp [hw, inputLines, stretches]
  | cons b rest ih =>
    rw [List.foldl_cons]
    by_cases hb : b = lineFeed
    · have hs := stretches_append_feed r.begun.reverse (wholeLines rest) (by simpa using h)
      have hl := ofStretch_ended r.begun.reverse
      rw [ih _ (by simp [feed, hb]), hb, wholeLines_append_feed]
      simp [feed, inputLines, hs, hl]
    · rw [ih _ (by simp [feed, hb, Ne.symm hb, h])]
      simp [feed, hb]

end LineReader

/-! ## What a reader delivers -/

/-- The bytes that come before the first failure. -/
def delivered : List Arrival → List UInt8
  | [] => []
  | .bytes chunk :: rest => chunk ++ delivered rest
  | .interruption :: rest => delivered rest
  | .failure :: _ => []

/-- Whether a failure comes. -/
def fails : List Arrival → Bool
  | [] => false
  | .failure :: _ => true
  | _ :: rest => fails rest

/-- The bytes whose lines are read: all of them, or whole lines only where reading fails. -/
def readable (arrivals : List Arrival) : List UInt8 :=
  if fails arrivals then wholeLines (delivered arrivals) else delivered arrivals

theorem readFrom_eq (r : LineReader) (arrivals : List Arrival) :
    LineStream.readFrom r arrivals =
      if fails arrivals then ⟨((delivered arrivals).foldl LineReader.feed r).done.reverse, true⟩
      else ⟨((delivered arrivals).foldl LineReader.feed r).finish, false⟩ := by
  induction arrivals generalizing r with
  | nil => rfl
  | cons a rest ih =>
    cases a with
    | bytes chunk => simp only [LineStream.readFrom, fails, delivered, List.foldl_append, ih]
    | interruption => exact ih r
    | failure => rfl

/-- The lines read depend on the bytes alone. -/
theorem ofArrivals_eq (arrivals : List Arrival) :
    LineStream.ofArrivals arrivals = ⟨inputLines (readable arrivals), fails arrivals⟩ := by
  unfold LineStream.ofArrivals readable
  rw [readFrom_eq]
  split
  · rename_i h
    simp [LineReader.done_feed {} _ List.not_mem_nil, h]
  · rename_i h
    simp [LineReader.finish_feed {} _ List.not_mem_nil, h]

end SqlDump
