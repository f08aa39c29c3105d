-- The laws of templates: plain text stands for itself, an escaped text stands for the text, and a table
-- prefix is set before the group as it is.
import SqlDump.Rule.Builtin

namespace SqlDump

namespace Regex.Template

/-! ## Reading -/

theorem readFrom_plain (w rest : List Char) (h : '$' ∉ w) :
    readFrom 0 (w ++ rest) = w.map .literal ++ readFrom 0 rest := by
  induction w with
  | nil => rfl
  | cons c w ih =>
    rw [List.mem_cons, not_or] at h
    have hc : (c == '$') = false := by simpa using Ne.symm h.1
    simp [readFrom, hc, ih h.2]

/-- Every dollar sign of an escaped text is written twice and read once. -/
theorem readFrom_escape (w rest : List Char) :
    readFrom 0 (escapeTemplate w ++ rest) = w.map .literal ++ readFrom 0 rest := by
  induction w with
  | nil => rfl
  | cons c w ih =>
    unfold escapeTemplate at ih ⊢
    rw [List.flatMap_cons, List.append_assoc]
    by_cases hc : c = '$'
    · subst hc
      simp [readFrom, ih]
    · simp [readFrom, hc, ih]

theorem readFrom_reference {rest : List Char} {part : TemplatePart} {taken : Nat}
    (hd : rest.head? ≠ some '$') (h : readReference rest = some (part, taken)) :
    readFrom 0 ('$' :: rest) = part :: readFrom taken rest := by
  simp [readFrom, hd, h]

theorem readFrom_group_one (rest : List Char) :
    readFrom 0 ("$\x7b1\x7d".toList ++ rest) = .group 1 :: readFrom 0 rest := by
  have htake : ('1' :: '\x7d' :: rest).takeWhile (· != '\x7d') = ['1'] := by simp
  have href : readReference ('\x7b' :: '1' :: '\x7d' :: rest) = some (.group 1, 3) := by
    unfold readReference
    simp only [htake, List.length_cons, List.length_nil]
    rw [if_pos (by omega)]
    rfl
  exact readFrom_reference (by simp) href

theorem read_prefixed (before after : String) (tablePrefix : List Char)
    (hb : '$' ∉ before.toList) (ha : '$' ∉ after.toList) :
    read (prefixed before tablePrefix after) =
      before.toList.map .literal ++ (tablePrefix.map .literal ++
        (.group 1 :: after.toList.map .literal)) := by
  unfold read prefixed
  rw [List.append_assoc, List.append_assoc, readFrom_plain _ _ hb, readFrom_escape, readFrom_group_one]
  have hend := readFrom_plain after.toList [] ha
  rw [List.append_nil] at hend
  rw [hend]
  simp [readFrom]

/-! ## Expanding -/

theorem expand_append (t u : Template) (names : List (List Char × Nat)) (h : Hit) :
    expand (t ++ u) names h = expand t names h ++ expand u names h := List.flatMap_append

theorem expand_literals (w : List Char) (names : List (List Char × Nat)) (h : Hit) :
    expand (w.map .literal) names h = w := by
  unfold expand
  rw [List.flatMap_map]
  exact List.flatMap_singleton' w

theorem expand_group (n : Nat) (t : Template) (names : List (List Char × Nat)) (h : Hit) :
    expand (.group n :: t) names h = (h.group n).getD [] ++ expand t names h := rfl

theorem expand_read_plain (w : List Char) (names : List (List Char × Nat)) (h : Hit) (hw : '$' ∉ w) :
    expand (read w) names h = w := by
  have hread := readFrom_plain w [] hw
  rw [List.append_nil] at hread
  unfold read
  rw [hread]
  exact (expand_append _ _ names h).trans (by rw [expand_literals]; simp [readFrom, expand])

/-- The prefix stands before the first group, whatever characters it has. -/
theorem expand_read_prefixed (before after : String) (tablePrefix : List Char)
    (names : List (List Char × Nat)) (h : Hit) (hb : '$' ∉ before.toList) (ha : '$' ∉ after.toList) :
    expand (read (prefixed before tablePrefix after)) names h =
      before.toList ++ tablePrefix ++ (h.group 1).getD [] ++ after.toList := by
  rw [read_prefixed before after tablePrefix hb ha, expand_append, expand_append, expand_group,
    expand_literals, expand_literals, expand_literals]
  simp

end Regex.Template

end SqlDump
