import RestScaffold.Proofs.Text.Layout

/-! What the layout of a file leaves of its text: the lines that are not blank, without the blanks
at their ends, each at its place. -/
namespace RestScaffold.Text

variable {line cs before after : List Char} {ls : List (List Char)}

def rows (cs : List Char) : List (List Char) := ((lines cs).map trimEnd).filter (!·.isEmpty)

def rowsFrom (line cs : List Char) : List (List Char) :=
  ((linesFrom line cs).map trimEnd).filter (!·.isEmpty)

theorem trimEndBlank {c : Char} (blank : isBlank c = true) (l : List Char) :
    trimEnd (l ++ [c]) = trimEnd l := by
  simp [trimEnd, blank]

theorem trimEndEnded (line : List Char) : trimEnd (ended line) = trimEnd line.reverse := by
  unfold ended
  split
  · rw [List.reverse_cons, trimEndBlank (by decide)]
  · rfl

theorem rowsFromLast (line : List Char) :
    rowsFrom line [] = [trimEnd line.reverse].filter (!·.isEmpty) := by
  cases line <;> rfl

theorem rowsFromSplit (line before after : List Char) :
    rowsFrom line (before ++ '\n' :: after) = rowsFrom line before ++ rows after := by
  induction before generalizing line with
  | nil =>
      rw [List.nil_append, rowsFrom, linesFromFeed, List.map_cons, trimEndEnded, rowsFromLast,
        ← List.singleton_append, List.filter_append]
      rfl
  | cons c rest ih =>
      rw [List.cons_append]
      by_cases feed : c = '\n'
      · subst feed
        have split := ih []
        simp only [rowsFrom, linesFromFeed, List.map_cons] at split ⊢
        rw [← List.singleton_append, List.filter_append, split, ← List.append_assoc,
          ← List.filter_append, List.singleton_append]
      · have split := ih (c :: line)
        simp only [rowsFrom, linesFromOther feed] at split ⊢
        exact split

theorem rowsSplit (before after : List Char) :
    rows (before ++ '\n' :: after) = rows before ++ rows after := rowsFromSplit [] before after

theorem rowsPlain (plain : '\n' ∉ cs) : rows cs = [trimEnd cs].filter (!·.isEmpty) := by
  have alone := linesFromPlain plain [] []
  rw [List.append_nil, List.append_nil] at alone
  have last := rowsFromLast cs.reverse
  rw [rowsFrom, ← alone, List.reverse_reverse] at last
  exact last

theorem rowsJoined (ls : List (List Char)) :
    rows (List.intercalate ['\n'] ls) = ls.flatMap rows := by
  induction ls with
  | nil => rfl
  | cons l rest ih =>
      cases rest with
      | nil => simp [List.intercalate]
      | cons m more =>
          have split : List.intercalate ['\n'] (l :: m :: more) =
              l ++ '\n' :: List.intercalate ['\n'] (m :: more) := by simp [List.intercalate]
          rw [split, rowsSplit, ih, ← List.flatMap_cons]

theorem trimEndSplit (cs : List Char) :
    ∃ blanks, cs = trimEnd cs ++ blanks ∧ ∀ c ∈ blanks, isBlank c = true := by
  refine ⟨(cs.reverse.takeWhile isBlank).reverse, ?_, fun c member => ?_⟩
  · rw [trimEnd, ← List.reverse_append, List.takeWhile_append_dropWhile, List.reverse_reverse]
  · exact List.all_eq_true.mp List.all_takeWhile c (List.mem_reverse.mp member)

/-- A reader that goes from mode to mode, to which the blanks at the end of a line make no
difference, and neither does an empty line where a line can begin. -/
structure Rowwise {Mode Out : Type} (run : Mode → List Char → List Out × Mode)
    (Opens : Mode → Prop) : Prop where
  nothing (m : Mode) : run m [] = ([], m)
  append (m : Mode) (xs ys : List Char) :
    run m (xs ++ ys) = ((run m xs).1 ++ (run (run m xs).2 ys).1, (run (run m xs).2 ys).2)
  feed (m : Mode) : Opens (run m ['\n']).2
  stay {m : Mode} (opens : Opens m) : run m ['\n'] = ([], m)
  blanks {cs : List Char} (blank : ∀ c ∈ cs, isBlank c = true) (noFeed : '\n' ∉ cs) (m : Mode) :
    run m (cs ++ ['\n']) = run m ['\n']

namespace Rowwise

variable {Mode Out : Type} {run : Mode → List Char → List Out × Mode} {Opens : Mode → Prop}
  (rowwise : Rowwise run Opens) {m : Mode}
include rowwise

theorem feedOpens (m : Mode) (cs : List Char) : Opens (run m (cs ++ ['\n'])).2 := by
  rw [rowwise.append]
  exact rowwise.feed _

theorem trimmed (noFeed : '\n' ∉ cs) (m : Mode) :
    run m (cs ++ ['\n']) = run m (trimEnd cs ++ ['\n']) := by
  obtain ⟨blanks, split, blank⟩ := trimEndSplit cs
  have noFeed' : '\n' ∉ blanks := fun feed => noFeed (split ▸ List.mem_append_right _ feed)
  have whole : run m (cs ++ ['\n']) = run m (trimEnd cs ++ (blanks ++ ['\n'])) := by
    rw [← List.append_assoc, ← split]
  rw [whole, rowwise.append, rowwise.blanks blank noFeed', ← rowwise.append]

theorem row (opens : Opens m) (noFeed : '\n' ∉ cs) :
    run m ((rows cs).flatMap (· ++ ['\n'])) = run m (cs ++ ['\n']) := by
  rw [rowwise.trimmed noFeed, rowsPlain noFeed]
  cases own : trimEnd cs with
  | nil =>
      rw [List.nil_append, rowwise.stay opens]
      exact rowwise.nothing m
  | cons c rest =>
      rw [List.filter_cons_of_pos (by simp), List.filter_nil, List.flatMap_singleton]

theorem read (opens : Opens m) (cs : List Char) :
    run m ((rows cs).flatMap (· ++ ['\n'])) = run m (cs ++ ['\n']) := by
  induction length : cs.length using Nat.strongRecOn generalizing m cs with
  | ind n ih =>
      by_cases feed : '\n' ∈ cs
      · obtain ⟨before, after, rfl⟩ := List.append_of_mem feed
        rw [List.length_append, List.length_cons] at length
        have whole :
            before ++ '\n' :: after ++ ['\n'] = (before ++ ['\n']) ++ (after ++ ['\n']) := by
          simp
        rw [rowsSplit, List.flatMap_append, whole, rowwise.append, rowwise.append,
          ih before.length (by omega) opens before rfl,
          ih after.length (by omega) (rowwise.feedOpens m before) after rfl]
      · exact rowwise.row opens feed

end Rowwise

end RestScaffold.Text

namespace RestScaffold.Layout
open Text

variable {l : List Char} {ls : List (List Char)}

theorem trimEndTwice (l : List Char) : trimEnd (trimEnd l) = trimEnd l :=
  trimEndSame (trimEndLast l)

theorem rowsSolid (solid : Solid l) : rows l = [l] := by
  have filled : l.isEmpty = false := by simp [solid.some]
  rw [rowsPlain solid.noFeed, solidTrim solid, List.filter_cons_of_pos (by simp [filled]),
    List.filter_nil]

theorem placeFilled (kept : List (List Char)) (line : List Char) :
    (place kept line).filter (!·.isEmpty) =
      [line].filter (!·.isEmpty) ++ kept.filter (!·.isEmpty) := by
  have single : ∀ ls : List (List Char),
      (line :: ls).filter (!·.isEmpty) = [line].filter (!·.isEmpty) ++ ls.filter (!·.isEmpty) :=
    fun ls => List.filter_append [line] ls
  unfold place
  split
  · rfl
  · split <;> rfl
  · split
    · exact single _
    · exact single _
  · exact single _

theorem placedFilled (kept lines : List (List Char)) :
    (lines.foldl place kept).filter (!·.isEmpty) =
      (lines.filter (!·.isEmpty)).reverse ++ kept.filter (!·.isEmpty) := by
  induction lines generalizing kept with
  | nil => rfl
  | cons line rest ih =>
      have single : [line].filter (!·.isEmpty) = ([line].filter (!·.isEmpty)).reverse := by
        by_cases blank : line.isEmpty <;> simp [blank]
      rw [List.foldl_cons, ih, placeFilled, single, ← List.append_assoc, ← List.reverse_append,
        ← List.filter_append, List.singleton_append]

theorem unlinesRows (kept : ∀ l ∈ ls, Kept l) (trimmed : ∀ l ∈ ls, trimEnd l = l) :
    rows (unlines ls) = ls.filter (!·.isEmpty) := by
  cases ls with
  | nil => rfl
  | cons l rest =>
      rw [rows, linesUnlines (List.cons_ne_nil _ _) kept, List.map_congr_left trimmed, List.map_id']

theorem tidyRows (cs : List Char) : rows (tidyChars cs) = rows cs := by
  have members : ∀ l ∈ ((((lines cs).map trimEnd).foldl place []).dropWhile List.isEmpty).reverse,
      l = [] ∨ l ∈ (lines cs).map trimEnd := by
    intro l member
    have placed := (List.dropWhile_sublist _).subset (List.mem_reverse.mp member)
    rcases placedMembers [] _ l placed with none | own | none
    · exact .inl none
    · exact .inr own
    · exact absurd none List.not_mem_nil
  have blanks : ∀ ls : List (List Char),
      (ls.dropWhile List.isEmpty).filter (!·.isEmpty) = ls.filter (!·.isEmpty) := by
    intro ls
    induction ls with
    | nil => rfl
    | cons l rest ih =>
        by_cases blank : l.isEmpty
        · rw [List.dropWhile_cons_of_pos blank, ih, List.filter_cons_of_neg (by simp [blank])]
        · rw [List.dropWhile_cons_of_neg blank]
  rw [tidyChars, unlinesRows, List.filter_reverse, blanks, placedFilled, List.filter_nil,
    List.append_nil, List.reverse_reverse]
  · rfl
  · intro l member
    rcases members l member with rfl | own
    · exact ⟨List.not_mem_nil, by simp⟩
    · exact trimEndKept own
  · intro l member
    rcases members l member with rfl | own
    · rfl
    · obtain ⟨line, -, rfl⟩ := List.mem_map.mp own
      exact trimEndTwice line

end RestScaffold.Layout
