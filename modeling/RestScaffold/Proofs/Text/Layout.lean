import RestScaffold.Layout

/-! Lines of texts, and what the layout of a file does to them. A line that is not blank stays, at
its place among the others, less the blanks at its end. -/
namespace RestScaffold.Text

variable {line cs before after : List Char} {ls : List (List Char)}

def OneLine (s : String) : Prop := '\n' ∉ s.toList

instance (s : String) : Decidable (OneLine s) := inferInstanceAs (Decidable ¬_)

@[simp]
theorem oneLineAppend {s t : String} : OneLine (s ++ t) ↔ OneLine s ∧ OneLine t := by
  simp [OneLine]

theorem oneLineFixed {cs : List Char} (plain : '\n' ∉ cs) : OneLine (String.ofList cs) := by
  rwa [OneLine, String.toList_ofList]

theorem freeIntercalate {c : Char} {separator : String} {parts : List String}
    (between : c ∉ separator.toList) (each : ∀ s ∈ parts, c ∉ s.toList) :
    c ∉ (separator.intercalate parts).toList := by
  induction parts with
  | nil => exact List.not_mem_nil
  | cons s rest ih =>
      obtain ⟨first, others⟩ := List.forall_mem_cons.mp each
      cases rest with
      | nil => simpa using first
      | cons t more =>
          have later := ih others
          rw [String.intercalate_cons_cons]
          simp only [String.toList_append, List.mem_append, not_or]
          exact ⟨⟨first, between⟩, later⟩

theorem oneLineIntercalate {separator : String} {parts : List String} (between : OneLine separator)
    (each : ∀ s ∈ parts, OneLine s) : OneLine (separator.intercalate parts) :=
  freeIntercalate between each

def ended : List Char → List Char
  | '\r' :: line => line.reverse
  | line => line.reverse

theorem linesFromFeed (line rest : List Char) :
    linesFrom line ('\n' :: rest) = ended line :: linesFrom [] rest := by
  unfold ended
  split
  · simp [linesFrom]
  · rename_i other
    rw [linesFrom]
    exact other

theorem linesFromOther {c : Char} (other : c ≠ '\n') (line rest : List Char) :
    linesFrom line (c :: rest) = linesFrom (c :: line) rest := by
  rw [linesFrom] <;> simp [other]

theorem linesFromPlain (plain : '\n' ∉ cs) (line rest : List Char) :
    linesFrom line (cs ++ rest) = linesFrom (cs.reverse ++ line) rest := by
  induction cs generalizing line with
  | nil => rfl
  | cons c more ih =>
      obtain ⟨first, others⟩ := not_or.mp (mt List.mem_cons.mpr plain)
      rw [List.cons_append, linesFromOther (Ne.symm first), ih others, List.reverse_cons,
        List.append_assoc]
      rfl

theorem linesFromSplit (line before after : List Char) :
    linesFrom line (before ++ '\n' :: after) =
      linesFrom line (before ++ ['\n']) ++ lines after := by
  induction before generalizing line with
  | nil =>
      rw [List.nil_append, List.nil_append, linesFromFeed, linesFromFeed]
      rfl
  | cons c rest ih =>
      rw [List.cons_append, List.cons_append]
      by_cases feed : c = '\n'
      · subst feed
        rw [linesFromFeed, linesFromFeed, ih]
        rfl
      · rw [linesFromOther feed, linesFromOther feed, ih]

theorem linesSplit (before after : List Char) :
    lines (before ++ '\n' :: after) = lines (before ++ ['\n']) ++ lines after :=
  linesFromSplit [] before after

theorem linesFromNoFeed (plain : '\n' ∉ line) : ∀ l ∈ linesFrom line cs, '\n' ∉ l := by
  induction cs generalizing line with
  | nil =>
      cases line with
      | nil => nofun
      | cons c more => simpa [linesFrom, and_comm] using plain
  | cons c rest ih =>
      by_cases feed : c = '\n'
      · subst feed
        have own : '\n' ∉ ended line := by
          unfold ended
          split
          · exact fun member => plain (List.mem_cons_of_mem _ (List.mem_reverse.mp member))
          · exact fun member => plain (List.mem_reverse.mp member)
        rw [linesFromFeed]
        exact List.forall_mem_cons.mpr ⟨own, ih List.not_mem_nil⟩
      · rw [linesFromOther feed]
        exact ih (by simp [Ne.symm feed, plain])

theorem linesNoFeed (cs : List Char) : ∀ l ∈ lines cs, '\n' ∉ l := linesFromNoFeed List.not_mem_nil

structure Kept (l : List Char) : Prop where
  noFeed : '\n' ∉ l
  noReturn : l.getLast? ≠ some '\r'

theorem linesKept (kept : Kept line) (rest : List Char) :
    lines (line ++ '\n' :: rest) = line :: lines rest := by
  have whole : ended line.reverse = line := by
    unfold ended
    split
    · rename_i more same
      refine absurd ?_ kept.noReturn
      rw [List.getLast?_eq_head?_reverse, same]
      rfl
    · exact List.reverse_reverse line
  rw [lines, linesFromPlain kept.noFeed, List.append_nil, linesFromFeed, whole]
  rfl

theorem linesUnlines (some : ls ≠ []) (kept : ∀ l ∈ ls, Kept l) : lines (unlines ls) = ls := by
  induction ls with
  | nil => contradiction
  | cons l rest ih =>
      obtain ⟨first, others⟩ := List.forall_mem_cons.mp kept
      cases rest with
      | nil => simpa [unlines, lines, linesFrom] using linesKept first []
      | cons m more =>
          have split : unlines (l :: m :: more) = l ++ '\n' :: unlines (m :: more) := by
            simp [unlines]
          rw [split, linesKept first, ih (by simp) others]

theorem linesJoined (some : ∀ l ∈ ls, l ≠ []) (kept : ∀ l ∈ ls, Kept l) :
    lines (List.intercalate ['\n'] ls) = ls := by
  induction ls with
  | nil => rfl
  | cons l rest ih =>
      obtain ⟨first, others⟩ := List.forall_mem_cons.mp kept
      obtain ⟨named, named'⟩ := List.forall_mem_cons.mp some
      cases rest with
      | nil =>
          have alone := linesFromPlain first.noFeed [] []
          rw [List.append_nil, List.append_nil] at alone
          obtain ⟨c, more, same⟩ := List.exists_cons_of_ne_nil (List.reverse_ne_nil_iff.mpr named)
          rw [List.intercalate, List.intersperse, List.flatten_singleton, lines, alone, same]
          simp [linesFrom, ← same]
      | cons m more =>
          have split : List.intercalate ['\n'] (l :: m :: more) =
              l ++ '\n' :: List.intercalate ['\n'] (m :: more) := by simp [List.intercalate]
          rw [split, linesKept first, ih named' others]

theorem joinedAppend {front back : List (List Char)} (some : front ≠ []) (some' : back ≠ []) :
    List.intercalate ['\n'] (front ++ back) =
      List.intercalate ['\n'] front ++ '\n' :: List.intercalate ['\n'] back := by
  induction front with
  | nil => contradiction
  | cons l rest ih =>
      obtain ⟨m, more, rfl⟩ := List.exists_cons_of_ne_nil some'
      cases rest with
      | nil => simp [List.intercalate]
      | cons k others =>
          have whole := ih (by simp)
          simp only [List.intercalate, List.cons_append, List.intersperse_cons_cons,
            List.flatten_cons] at whole ⊢
          rw [whole]
          simp

end RestScaffold.Text

namespace RestScaffold.Layout
open Text

structure Solid (l : List Char) : Prop where
  some : l ≠ []
  noFeed : '\n' ∉ l
  noBlank : ∀ c ∈ l.getLast?, isBlank c = false

variable {l : List Char} {ls before : List (List Char)}

theorem trimEndSubset (l : List Char) : ∀ c ∈ trimEnd l, c ∈ l := fun _ member =>
  List.mem_reverse.mp ((List.dropWhile_sublist _).subset (List.mem_reverse.mp member))

theorem trimEndPrefix (l : List Char) : trimEnd l <+: l := by
  have suffix := List.dropWhile_suffix isBlank (l := l.reverse)
  simpa [trimEnd] using List.reverse_prefix.mpr suffix

theorem trimEndLast (l : List Char) : ∀ c ∈ (trimEnd l).getLast?, isBlank c = false := by
  intro c last
  rw [trimEnd, List.getLast?_reverse] at last
  have stopped := List.head?_dropWhile_not isBlank l.reverse
  rw [Option.mem_def.mp last] at stopped
  simpa using stopped

theorem Solid.kept (solid : Solid l) : Kept l :=
  ⟨solid.noFeed, fun last => by
    have blank := solid.noBlank '\r' last
    revert blank
    decide⟩

theorem solidConcat {c : Char} (oneLine : '\n' ∉ l) (full : isBlank c = false) :
    Solid (l ++ [c]) := by
  have noFeed : '\n' ≠ c := by
    rintro rfl
    revert full
    decide
  exact ⟨by simp, by simp [oneLine, noFeed], by simpa using full⟩

theorem trimEndSame (noTrailing : ∀ c ∈ l.getLast?, isBlank c = false) : trimEnd l = l := by
  cases last : l.getLast? with
  | none => rw [List.getLast?_eq_none_iff.mp last]; rfl
  | some c =>
      have full := noTrailing c (Option.mem_def.mpr last)
      rw [List.getLast?_eq_head?_reverse] at last
      obtain ⟨more, same⟩ := List.head?_eq_some_iff.mp last
      rw [trimEnd, same, List.dropWhile_cons_of_neg (by simp [full]), ← same, List.reverse_reverse]

theorem solidTrim (solid : Solid l) : trimEnd l = l := trimEndSame solid.noBlank

theorem trimEndKept {cs : List Char} (member : l ∈ (lines cs).map trimEnd) : Kept l := by
  obtain ⟨own, known, rfl⟩ := List.mem_map.mp member
  refine ⟨fun feed => linesNoFeed cs own known (trimEndSubset own _ feed), fun last => ?_⟩
  have blank := trimEndLast own '\r' last
  revert blank
  decide

theorem placeMembers (kept : List (List Char)) (line : List Char) :
    ∀ l ∈ place kept line, l = [] ∨ l = line ∨ l ∈ kept := by
  intro l member
  unfold place at member
  split at member
  · exact .inr (.inr member)
  · split at member
    · exact .inr (.inr member)
    · exact (List.mem_cons.mp member).imp_right .inr
  · split at member
    · exact .inr ((List.mem_cons.mp member).imp_right (List.mem_cons_of_mem _))
    · exact .inr (List.mem_cons.mp member)
  · exact .inr (List.mem_cons.mp member)

theorem placedMembers (kept lines : List (List Char)) :
    ∀ l ∈ lines.foldl place kept, l = [] ∨ l ∈ lines ∨ l ∈ kept := by
  induction lines generalizing kept with
  | nil => exact fun _ member => .inr (.inr member)
  | cons line rest ih =>
      intro l member
      rcases ih _ l member with none | later | earlier
      · exact .inl none
      · exact .inr (.inl (List.mem_cons_of_mem _ later))
      · rcases placeMembers kept line l earlier with none | rfl | before
        · exact .inl none
        · exact .inr (.inl List.mem_cons_self)
        · exact .inr (.inr before)

theorem placeSolid (solid : l ≠ []) (kept : List (List Char)) :
    ∃ before, place kept l = l :: before ∧ ∀ k ∈ before, k ∈ kept := by
  obtain ⟨c, rest, rfl⟩ := List.exists_cons_of_ne_nil solid
  unfold place
  split
  · contradiction
  · contradiction
  · split
    · exact ⟨_, rfl, fun k member => List.mem_cons_of_mem _ member⟩
    · exact ⟨_, rfl, fun k member => member⟩
  · exact ⟨_, rfl, fun k member => member⟩

theorem placeAfter (solid : l ≠ []) {last : List Char} (solid' : last ≠ []) :
    place (last :: before) l = l :: last :: before := by
  obtain ⟨c, rest, rfl⟩ := List.exists_cons_of_ne_nil solid
  obtain ⟨d, more, rfl⟩ := List.exists_cons_of_ne_nil solid'
  rfl

theorem placedSolid (some : ls ≠ []) (solid : ∀ l ∈ ls, l ≠ []) (kept : List (List Char)) :
    ∃ before, ls.foldl place kept = ls.reverse ++ before ∧ ∀ k ∈ before, k ∈ kept := by
  obtain ⟨first, rest, rfl⟩ := List.exists_cons_of_ne_nil some
  obtain ⟨head, tail⟩ := List.forall_mem_cons.mp solid
  obtain ⟨before, placed, inside⟩ := placeSolid head kept
  refine ⟨before, ?_, inside⟩
  rw [List.foldl_cons, placed]
  have further : ∀ (rest : List (List Char)) (last : List Char) (done : List (List Char)),
      last ≠ [] → (∀ l ∈ rest, l ≠ []) →
        rest.foldl place (last :: done) = rest.reverse ++ last :: done := by
    intro rest
    induction rest with
    | nil => exact fun _ _ _ _ => rfl
    | cons l more ih =>
        intro last done named named'
        obtain ⟨one, others⟩ := List.forall_mem_cons.mp named'
        rw [List.foldl_cons, placeAfter one named, ih l _ one others]
        simp
  rw [further rest first before head tail]
  simp

theorem tidyEnd {front : List (List Char)} (some : front ≠ []) (some' : ls ≠ [])
    (solid : ∀ l ∈ ls, Solid l) :
    ∃ before, lines (tidyChars (List.intercalate ['\n'] (front ++ ls))) = before ++ ls := by
  have named : ∀ l ∈ ls, l ≠ [] := fun l member => (solid l member).some
  have kept : ∀ l ∈ ls, Kept l := fun l member => (solid l member).kept
  have trimmed : ls.map trimEnd = ls :=
    (List.map_congr_left fun l member => solidTrim (solid l member)).trans (List.map_id ls)
  have split := linesSplit (List.intercalate ['\n'] front) (List.intercalate ['\n'] ls)
  rw [← joinedAppend some some', linesJoined named kept] at split
  obtain ⟨before, placed, inside⟩ := placedSolid some' named
    (((lines (List.intercalate ['\n'] front ++ ['\n'])).map trimEnd).foldl place [])
  have last : (ls.reverse ++ before).dropWhile List.isEmpty = ls.reverse ++ before := by
    obtain ⟨l, rest, same⟩ := List.exists_cons_of_ne_nil (List.reverse_ne_nil_iff.mpr some')
    rw [same, List.cons_append, List.dropWhile_cons_of_neg]
    have own := named l (List.mem_reverse.mp (same ▸ List.mem_cons_self))
    simpa using own
  refine ⟨before.reverse, ?_⟩
  rw [tidyChars, split, List.map_append, trimmed, List.foldl_append, placed, last,
    List.reverse_append, List.reverse_reverse, linesUnlines (by simp [some'])]
  refine List.forall_mem_append.mpr ⟨fun l member => ?_, kept⟩
  rcases placedMembers [] _ l (inside l (List.mem_reverse.mp member)) with rfl | own | none
  · exact ⟨List.not_mem_nil, nofun⟩
  · exact trimEndKept own
  · contradiction

end RestScaffold.Layout
