import Mathlib.Data.List.TakeWhile
import RestScaffold.Proofs.Text.Rows

/-! A part of a line that the layout cannot touch, such as a literal. Whatever stands before and
after it in a file, it comes out as it is, and what comes out around it does not depend on it. -/
namespace RestScaffold.Layout
open Text

/-- A part of one line that neither begins nor ends with a blank, nor with a bracket that opens or
closes a block where it stands. -/
structure Span (l : List Char) : Prop where
  noFeed : '\n' ∉ l
  first : ∃ c ∈ l.head?, isBlank c = false ∧ c ≠ '\x7d' ∧ c ≠ ')'
  last : ∃ c ∈ l.getLast?, isBlank c = false ∧ c ≠ '\x7b' ∧ c ≠ '('

def lead (before : List Char) : List Char := (before.reverse.takeWhile (· ≠ '\n')).reverse

def past (before : List Char) : List Char := (before.reverse.dropWhile (· ≠ '\n')).reverse

def trail (after : List Char) : List Char := after.takeWhile (· ≠ '\n')

def coming (after : List Char) : List Char := (after.dropWhile (· ≠ '\n')).drop 1

def mark : List Char := ['"']

def placed (kept : List (List Char)) (cs : List Char) : List (List Char) :=
  ((lines cs).map trimEnd).foldl place kept

def keptBefore (before : List Char) : List (List Char) :=
  (place (placed [] (past before)) (lead before ++ mark)).tail

def keptAfter (after : List Char) : List (List Char) :=
  (placed [mark ++ trimEnd (trail after)] (coming after)).dropLast.dropWhile List.isEmpty

def endedLines (ls : List (List Char)) : List Char := ls.reverse.flatMap (· ++ ['\n'])

def front (before : List Char) : List Char := endedLines (keptBefore before) ++ lead before

def back (after : List Char) : List Char :=
  trimEnd (trail after) ++ '\n' :: endedLines (keptAfter after)

variable {l more : List Char} {kept ls : List (List Char)}

theorem Span.some (span : Span l) : l ≠ [] := by
  rintro rfl
  obtain ⟨c, none, -⟩ := span.first
  contradiction

theorem markSpan : Span mark where
  noFeed := by decide
  first := ⟨'"', rfl, by decide, by decide, by decide⟩
  last := ⟨'"', rfl, by decide, by decide, by decide⟩

theorem beforeCases (before : List Char) :
    (past before = [] ∧ lead before = before ∧ '\n' ∉ before) ∨
      ∃ earlier, past before = earlier ++ ['\n'] ∧ '\n' ∉ lead before ∧
        before = earlier ++ '\n' :: lead before := by
  by_cases feed : '\n' ∈ before.reverse
  · obtain ⟨line, earlier, split, noFeed⟩ := List.eq_append_cons_of_mem feed
    have whole : before = earlier.reverse ++ '\n' :: line.reverse := by
      simpa using congrArg List.reverse split
    have other : ∀ c ∈ line, decide (c ≠ '\n') = true := fun c member =>
      decide_eq_true fun same => noFeed (same ▸ member)
    have leads : lead before = line.reverse := by
      rw [lead, split, List.takeWhile_append_of_pos other]
      simp
    refine .inr ⟨earlier.reverse, ?_, ?_, leads ▸ whole⟩
    · rw [past, split, List.dropWhile_append_of_pos other]
      simp
    · simpa [leads] using noFeed
  · have other : ∀ c ∈ before.reverse, decide (c ≠ '\n') = true := fun c member =>
      decide_eq_true fun same => feed (same ▸ member)
    refine .inl ⟨?_, ?_, by simpa using feed⟩
    · rw [past, List.dropWhile_eq_nil_iff.mpr other, List.reverse_nil]
    · rw [lead, List.takeWhile_eq_self_iff.mpr other, List.reverse_reverse]

theorem afterCases (after : List Char) :
    (coming after = [] ∧ trail after = after ∧ '\n' ∉ after) ∨
      ('\n' ∉ trail after ∧ after = trail after ++ '\n' :: coming after) := by
  by_cases feed : '\n' ∈ after
  · obtain ⟨line, later, rfl, noFeed⟩ := List.eq_append_cons_of_mem feed
    have other : ∀ c ∈ line, decide (c ≠ '\n') = true := fun c member =>
      decide_eq_true fun same => noFeed (same ▸ member)
    have trails : trail (line ++ '\n' :: later) = line := by
      rw [trail, List.takeWhile_append_of_pos other]
      simp
    have comes : coming (line ++ '\n' :: later) = later := by
      rw [coming, List.dropWhile_append_of_pos other]
      simp
    rw [trails, comes]
    exact .inr ⟨noFeed, rfl⟩
  · have other : ∀ c ∈ after, decide (c ≠ '\n') = true := fun c member =>
      decide_eq_true fun same => feed (same ▸ member)
    refine .inl ⟨?_, List.takeWhile_eq_self_iff.mpr other, feed⟩
    rw [coming, List.dropWhile_eq_nil_iff.mpr other, List.drop_nil]

theorem beforeLines (before cs : List Char) :
    lines (before ++ cs) = lines (past before) ++ lines (lead before ++ cs) := by
  rcases beforeCases before with ⟨none, own, -⟩ | ⟨earlier, ended, -, whole⟩
  · rw [none, own]
    rfl
  · have split := linesSplit earlier (lead before ++ cs)
    rw [ended, ← split, ← List.cons_append, ← List.append_assoc, ← whole]

theorem leadNoFeed (before : List Char) : '\n' ∉ lead before := by
  rcases beforeCases before with ⟨-, own, noFeed⟩ | ⟨-, -, noFeed, -⟩
  · rwa [own]
  · exact noFeed

theorem afterLines {line : List Char} (noFeed : '\n' ∉ line) (some : line ≠ [])
    (after : List Char) : (lines (line ++ after)).map trimEnd =
      trimEnd (line ++ trail after) :: (lines (coming after)).map trimEnd := by
  rcases afterCases after with ⟨none, own, noFeed'⟩ | ⟨noFeed', whole⟩
  · have plain : '\n' ∉ line ++ after := by simp [noFeed, noFeed']
    have alone := linesFromPlain plain [] []
    obtain ⟨c, more, same⟩ := List.exists_cons_of_ne_nil (l := (line ++ after).reverse)
      (by simp [some])
    rw [none, own, lines]
    rw [List.append_nil, List.append_nil] at alone
    rw [alone, same]
    simp [linesFrom, ← same, lines]
  · have plain : '\n' ∉ line ++ trail after := by simp [noFeed, noFeed']
    have own : lines (line ++ after) =
        ended (line ++ trail after).reverse :: lines (coming after) :=
      calc lines (line ++ after)
        _ = lines ((line ++ trail after) ++ '\n' :: coming after) := by
          rw [List.append_assoc, ← whole]
        _ = ended (line ++ trail after).reverse :: lines (coming after) := by
          rw [lines, linesFromPlain plain, List.append_nil, linesFromFeed]
          rfl
    rw [own, List.map_cons, trimEndEnded, List.reverse_reverse]

theorem trimEndAppend {front : List Char} (full : ∀ c ∈ front.getLast?, isBlank c = false)
    (some : front ≠ []) (cs : List Char) : trimEnd (front ++ cs) = front ++ trimEnd cs := by
  have reversed := full
  rw [List.getLast?_eq_head?_reverse] at reversed
  obtain ⟨c, more, same⟩ := List.exists_cons_of_ne_nil (List.reverse_ne_nil_iff.mpr some)
  have kept : front.reverse.dropWhile isBlank = front.reverse := by
    rw [same] at reversed ⊢
    rw [List.dropWhile_cons_of_neg (by simp [reversed c rfl])]
  rw [trimEnd, List.reverse_append, List.dropWhile_append, kept]
  split
  · rename_i none
    rw [List.reverse_reverse, trimEnd, List.isEmpty_iff.mp none, List.reverse_nil, List.append_nil]
  · rw [List.reverse_append, List.reverse_reverse, trimEnd]

theorem rowsBegin {line : List Char} (noFeed : '\n' ∉ line) {c : Char}
    (last : line.getLast? = some c) (full : isBlank c = false) (after : List Char) :
    ∃ cut more, cut <+: after ∧ rows (line ++ after) = (line ++ cut) :: more := by
  have some : line ≠ [] := by
    rintro rfl
    contradiction
  have whole := trimEndAppend (fun d ends => Option.some.inj (last.symm.trans ends) ▸ full) some
    (trail after)
  have split : rows (line ++ after) = (line ++ trimEnd (trail after)) :: rows (coming after) := by
    rw [rows, afterLines noFeed some, whole, List.filter_cons_of_pos (by simp [some])]
    rfl
  exact ⟨_, _, (trimEndPrefix _).trans (List.takeWhile_prefix _), split⟩

theorem Span.lineLast (span : Span l) (line cs : List Char) :
    trimEnd (line ++ l ++ cs) = line ++ l ++ trimEnd cs := by
  obtain ⟨c, last, full, -⟩ := span.last
  refine trimEndAppend (fun d ends => ?_) (by simp [span.some]) cs
  rw [List.getLast?_append, Option.mem_def.mp last, Option.some_or] at ends
  exact Option.some.inj ends ▸ full

theorem Span.closes (span : Span l) (line cs : List Char) :
    closesBlock (line ++ l ++ cs) = closesBlock line := by
  obtain ⟨c, first, full, notClosing, notClosing'⟩ := span.first
  obtain ⟨rest, rfl⟩ := List.head?_eq_some_iff.mp first
  unfold closesBlock trimStart
  rw [List.append_assoc, List.dropWhile_append]
  by_cases none : line.dropWhile isBlank = []
  · rw [none, List.isEmpty_nil, if_pos rfl, List.cons_append,
      List.dropWhile_cons_of_neg (by simp [full])]
    simp [notClosing, notClosing']
  · obtain ⟨d, more, same⟩ := List.exists_cons_of_ne_nil none
    rw [same]
    rfl

theorem Span.opens (span : Span l) (line cs : List Char) :
    opensBlock (line ++ l ++ cs) = opensBlock (mark ++ cs) := by
  obtain ⟨c, last, -, notOpening, notOpening'⟩ := span.last
  unfold opensBlock
  rw [List.getLast?_append, List.getLast?_append, List.getLast?_append, Option.mem_def.mp last,
    Option.some_or]
  cases cs.getLast? with
  | none => simp [mark, notOpening, notOpening']
  | some d => rfl

theorem Span.placedAlike (span : Span l) (kept : List (List Char)) (line cs : List Char) :
    place kept (line ++ l ++ cs) = (line ++ l ++ cs) :: (place kept (line ++ mark)).tail := by
  have closes : closesBlock (line ++ l ++ cs) = closesBlock (line ++ mark) := by
    rw [span.closes, ← markSpan.closes line [], List.append_nil]
  obtain ⟨c, more, same⟩ := List.exists_cons_of_ne_nil (l := line ++ l ++ cs) (by simp [span.some])
  obtain ⟨d, rest, same'⟩ := List.exists_cons_of_ne_nil (l := line ++ mark) (by simp [mark])
  rw [same, same'] at closes ⊢
  match kept with
  | [] => rfl
  | (_ :: _) :: _ => rfl
  | [] :: before =>
      by_cases closing : closesBlock (d :: rest) = true
      · simp [place, closes, closing]
      · simp [place, closes, closing]

theorem placeOver {last last' : List Char} (some : last ≠ []) (some' : last' ≠ [])
    (opens : opensBlock last = opensBlock last') (above before : List (List Char))
    (line : List Char) : ∃ above', place (above ++ last :: before) line = above' ++ last :: before ∧
      place (above ++ [last']) line = above' ++ [last'] := by
  obtain ⟨c, more, rfl⟩ := List.exists_cons_of_ne_nil some
  obtain ⟨d, rest, rfl⟩ := List.exists_cons_of_ne_nil some'
  cases above with
  | nil =>
    cases line with
    | nil =>
        by_cases opening : opensBlock (c :: more) = true
        · exact ⟨[], by simp [place, opening, ← opens]⟩
        · exact ⟨[[]], by simp [place, opening, ← opens]⟩
    | cons e text => exact ⟨[e :: text], rfl, rfl⟩
  | cons top below =>
    cases line with
    | nil =>
        by_cases opening : (top.isEmpty || opensBlock top) = true
        · exact ⟨top :: below, by simp [place, opening]⟩
        · exact ⟨[] :: top :: below, by simp [place, opening]⟩
    | cons e text =>
        cases top with
        | nil =>
            by_cases closing : closesBlock (e :: text) = true
            · exact ⟨(e :: text) :: below, by simp [place, closing]⟩
            · exact ⟨(e :: text) :: [] :: below, by simp [place, closing]⟩
        | cons f other => exact ⟨(e :: text) :: (f :: other) :: below, rfl, rfl⟩

theorem placedOver {last last' : List Char} (some : last ≠ []) (some' : last' ≠ [])
    (opens : opensBlock last = opensBlock last') (above before : List (List Char))
    (ls : List (List Char)) : ∃ above', ls.foldl place (above ++ last :: before) =
        above' ++ last :: before ∧ ls.foldl place (above ++ [last']) = above' ++ [last'] := by
  induction ls generalizing above with
  | nil => exact ⟨above, rfl, rfl⟩
  | cons line rest ih =>
      obtain ⟨above', one, other⟩ := placeOver some some' opens above before line
      rw [List.foldl_cons, List.foldl_cons, one, other]
      exact ih above'

theorem unlinesEnded (some : ls ≠ []) : unlines ls = ls.flatMap (· ++ ['\n']) := by
  induction ls with
  | nil => contradiction
  | cons l rest ih =>
      cases rest with
      | nil => simp [unlines]
      | cons m more =>
          have split : unlines (l :: m :: more) = l ++ '\n' :: unlines (m :: more) := by
            simp [unlines]
          rw [split, ih (List.cons_ne_nil _ _), List.flatMap_cons]
          simp

theorem Span.tidied (span : Span l) (before after : List Char) :
    tidyChars (before ++ l ++ after) = front before ++ l ++ back after := by
  have noFeed : '\n' ∉ lead before ++ l := by simp [leadNoFeed, span.noFeed]
  have some : lead before ++ l ≠ [] := by simp [span.some]
  have split : (lines (before ++ l ++ after)).map trimEnd =
      (lines (past before)).map trimEnd ++
        ((lead before ++ l ++ trimEnd (trail after)) :: (lines (coming after)).map trimEnd) := by
    rw [List.append_assoc, beforeLines, List.map_append, ← List.append_assoc,
      afterLines noFeed some, span.lineLast]
  have own : lead before ++ l ++ trimEnd (trail after) ≠ [] := by simp [span.some]
  obtain ⟨above, one, other⟩ := placedOver own (List.cons_ne_nil '"' (trimEnd (trail after)))
    (span.opens (lead before) (trimEnd (trail after))) [] (keptBefore before)
    ((lines (coming after)).map trimEnd)
  have later : keptAfter after = above.dropWhile List.isEmpty := by
    have placedAfter : placed [mark ++ trimEnd (trail after)] (coming after) =
        above ++ ['"' :: trimEnd (trail after)] := other
    rw [keptAfter, placedAfter, List.dropLast_concat]
  have stays : (above ++ (lead before ++ l ++ trimEnd (trail after)) :: keptBefore before).dropWhile
      List.isEmpty = keptAfter after ++ (lead before ++ l ++ trimEnd (trail after)) ::
        keptBefore before := by
    rw [later, List.dropWhile_append]
    by_cases none : above.dropWhile List.isEmpty = []
    · rw [none, List.isEmpty_nil, if_pos rfl, List.nil_append,
        List.dropWhile_cons_of_neg (by simpa using own)]
    · rw [if_neg (by simpa using none)]
  rw [tidyChars, split, List.foldl_append, List.foldl_cons, span.placedAlike]
  change unlines (List.dropWhile List.isEmpty (List.foldl place
    ((lead before ++ l ++ trimEnd (trail after)) :: keptBefore before) _)).reverse = _
  rw [List.nil_append] at one
  rw [one, stays, unlinesEnded (by simp)]
  simp [front, back, endedLines]

end RestScaffold.Layout
