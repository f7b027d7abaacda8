import Mathlib.Data.List.Chain
import Mathlib.Data.List.TakeWhile
import RestScaffold.Proofs.Text.Rows

/-! What the layout of a file comes to, whatever the text was: no white space ends a line, blank
lines stand alone and away from the brackets that open and close blocks, and one line feed ends the
text. A text that is laid out so already stays as it is. -/
namespace RestScaffold.Layout
open Text

def Blank (l : List Char) : Prop := ∀ c ∈ l, isBlank c = true

instance (l : List Char) : Decidable (Blank l) :=
  decidable_of_iff (l.all isBlank = true) List.all_eq_true

structure Follows (l m : List Char) : Prop where
  alone : Blank l → ¬Blank m
  opened : ∀ c ∈ l.getLast?, c = '\x7b' ∨ c = '(' → ¬Blank m
  closed : ∀ c ∈ m.find? (!isBlank ·), c = '\x7d' ∨ c = ')' → ¬Blank l

/-- Lines as a file shows them, each ended by a line feed. -/
structure Tidied (ls : List (List Char)) : Prop where
  oneLine : ∀ l ∈ ls, '\n' ∉ l
  trimmed : ∀ l ∈ ls, ∀ c ∈ l.getLast?, isBlank c = false
  follows : ls.IsChain Follows
  first : ∀ l ∈ ls.head?, ¬Blank l
  last : ∀ l ∈ ls.getLast?, ¬Blank l

variable {l m : List Char} {ls kept before : List (List Char)}

theorem trimmedLast (trimmed : trimEnd l = l) : ∀ c ∈ l.getLast?, isBlank c = false :=
  trimmed ▸ trimEndLast l

theorem blankIff (l : List Char) : Blank l ↔ trimEnd l = [] := by
  rw [trimEnd, List.reverse_eq_nil_iff, List.dropWhile_eq_nil_iff]
  simp [Blank]

theorem trimmedBlank (trimmed : trimEnd l = l) : Blank l ↔ l = [] := by rw [blankIff, trimmed]

theorem blankTrimmed (l : List Char) : Blank (trimEnd l) ↔ Blank l := by
  rw [blankIff, trimEndTwice, blankIff]

theorem opensIff : opensBlock l = true ↔ ∃ c ∈ l.getLast?, c = '\x7b' ∨ c = '(' := by
  unfold opensBlock
  cases l.getLast? <;> simp

theorem closesIff : closesBlock l = true ↔ ∃ c ∈ l.find? (!isBlank ·), c = '\x7d' ∨ c = ')' := by
  induction l with
  | nil => simp [closesBlock, trimStart]
  | cons d rest ih =>
      by_cases blank : isBlank d = true
      · have same : closesBlock (d :: rest) = closesBlock rest := by
          simp [closesBlock, trimStart, blank]
        rw [same, ih, List.find?_cons_of_neg (by simp [blank])]
      · simp [closesBlock, trimStart, blank]

theorem followsFilled (filled : ¬Blank l) (filled' : ¬Blank m) : Follows l m :=
  ⟨fun blank => absurd blank filled, fun _ _ _ => filled', fun _ _ _ => filled⟩

structure Laid (kept : List (List Char)) : Prop where
  whole : ∀ l ∈ kept, Kept l ∧ trimEnd l = l
  follows : kept.IsChain fun m l => Follows l m
  first : ∀ l ∈ kept.getLast?, ¬Blank l

theorem Laid.tail (laid : Laid (l :: kept)) : Laid kept where
  whole k member := laid.whole k (List.mem_cons_of_mem l member)
  follows := laid.follows.tail
  first k last := by
    refine laid.first k ?_
    rw [List.getLast?_cons, Option.mem_def.mp last]
    rfl

theorem Laid.filled (laid : Laid kept) (own : Kept l ∧ trimEnd l = l) (filled : ¬Blank l)
    (follows : ∀ k ∈ kept.head?, Follows k l) : Laid (l :: kept) where
  whole := List.forall_mem_cons.mpr ⟨own, laid.whole⟩
  follows := List.isChain_cons.mpr ⟨follows, laid.follows⟩
  first k last := by
    cases kept with
    | nil =>
        obtain rfl : l = k := by simpa using last
        exact filled
    | cons m more => exact laid.first k (by simpa using last)

theorem placeLaid (laid : Laid kept) (own : Kept l ∧ trimEnd l = l) : Laid (place kept l) := by
  cases l with
  | nil =>
      cases kept with
      | nil => exact laid
      | cons last before =>
          by_cases stays : (last.isEmpty || opensBlock last) = true
          · simpa [place, stays] using laid
          · obtain ⟨some, closed⟩ : last ≠ [] ∧ opensBlock last = false := by simpa using stays
            have filled : ¬Blank last :=
              mt (trimmedBlank (laid.whole last List.mem_cons_self).2).mp some
            have follows : Follows last [] :=
              ⟨fun blank => absurd blank filled, fun c ends bracket => by
                rw [opensIff.mpr ⟨c, ends, bracket⟩] at closed
                contradiction, nofun⟩
            have placed : place (last :: before) [] = [] :: last :: before := by
              simp [place, some, closed]
            rw [placed]
            exact ⟨List.forall_mem_cons.mpr ⟨own, laid.whole⟩,
              List.isChain_cons_cons.mpr ⟨follows, laid.follows⟩, laid.first⟩
  | cons c rest =>
      have filled : ¬Blank (c :: rest) := mt (trimmedBlank own.2).mp (List.cons_ne_nil c rest)
      match kept with
      | [] => exact laid.filled own filled nofun
      | (d :: text) :: before =>
          have some := mt (trimmedBlank (laid.whole _ List.mem_cons_self).2).mp
            (List.cons_ne_nil d text)
          exact laid.filled own filled fun k head => by
            obtain rfl : d :: text = k := by simpa using head
            exact followsFilled some filled
      | [] :: before =>
          by_cases closing : closesBlock (c :: rest) = true
          · have placed : place ([] :: before) (c :: rest) = (c :: rest) :: before := by
              simp [place, closing]
            rw [placed]
            -- What stood before the blank line is not blank itself.
            refine laid.tail.filled own filled fun k head => followsFilled (fun blank => ?_) filled
            exact ((List.isChain_cons.mp laid.follows).1 k head).alone blank nofun
          · have placed : place ([] :: before) (c :: rest) = (c :: rest) :: [] :: before := by
              simp [place, closing]
            rw [placed]
            refine laid.filled own filled fun k head => ?_
            obtain rfl : [] = k := by simpa using head
            exact ⟨fun _ => filled, fun _ _ _ => filled, fun d ends bracket =>
              absurd (closesIff.mpr ⟨d, ends, bracket⟩) closing⟩

theorem placedLaid (laid : Laid kept) (own : ∀ l ∈ ls, Kept l ∧ trimEnd l = l) :
    Laid (ls.foldl place kept) := by
  induction ls generalizing kept with
  | nil => exact laid
  | cons l rest ih =>
      obtain ⟨first, others⟩ := List.forall_mem_cons.mp own
      exact ih (placeLaid laid first) others

theorem Laid.ended (laid : Laid kept) :
    Laid (kept.dropWhile List.isEmpty) ∧
      ∀ l ∈ (kept.dropWhile List.isEmpty).head?, ¬Blank l := by
  induction kept with
  | nil => exact ⟨laid, nofun⟩
  | cons l rest ih =>
      by_cases none : l.isEmpty = true
      · rw [List.dropWhile_cons_of_pos none]
        exact ih laid.tail
      · rw [List.dropWhile_cons_of_neg none]
        refine ⟨laid, fun k head => ?_⟩
        obtain rfl : l = k := by simpa using head
        exact mt (trimmedBlank (laid.whole _ List.mem_cons_self).2).mp (by simpa using none)

theorem Laid.tidied (laid : Laid kept) (ended : ∀ l ∈ kept.head?, ¬Blank l) :
    Tidied kept.reverse where
  oneLine l member := (laid.whole l (List.mem_reverse.mp member)).1.noFeed
  trimmed l member := trimmedLast (laid.whole l (List.mem_reverse.mp member)).2
  follows := List.isChain_reverse.mpr laid.follows
  first l head := laid.first l (by rwa [List.head?_reverse] at head)
  last l last := ended l (by rwa [List.getLast?_reverse] at last)

def tidyLines (cs : List Char) : List (List Char) :=
  ((((lines cs).map trimEnd).foldl place []).dropWhile List.isEmpty).reverse

theorem tidyCharsLines (cs : List Char) : tidyChars cs = unlines (tidyLines cs) := rfl

theorem tidyLinesTidied (cs : List Char) : Tidied (tidyLines cs) := by
  have own : ∀ l ∈ (lines cs).map trimEnd, Kept l ∧ trimEnd l = l := by
    refine fun l member => ⟨trimEndKept member, ?_⟩
    obtain ⟨line, -, rfl⟩ := List.mem_map.mp member
    exact trimEndTwice line
  have empty : Laid [] := ⟨nofun, .nil, nofun⟩
  obtain ⟨laid, ended⟩ := (placedLaid empty own).ended
  exact laid.tidied ended

theorem Tidied.whole (tidied : Tidied ls) : ∀ l ∈ ls, Kept l := fun l member =>
  ⟨tidied.oneLine l member, fun last => by
    have full := tidied.trimmed l member '\r' last
    revert full
    decide⟩

theorem Tidied.trims (tidied : Tidied ls) : ∀ l ∈ ls, trimEnd l = l := fun l member =>
  trimEndSame (tidied.trimmed l member)

theorem filteredBlank (trims : ∀ l ∈ ls, trimEnd l = l) :
    ls.filter (!·.isEmpty) = ls.filter (¬Blank ·) := by
  refine List.filter_congr fun l member => ?_
  rw [decide_not, decide_eq_decide.mpr (trimmedBlank (trims l member))]
  cases l <;> rfl

theorem tidyLinesFilled (cs : List Char) :
    (tidyLines cs).filter (¬Blank ·) = ((lines cs).filter (¬Blank ·)).map trimEnd := by
  have tidied := tidyLinesTidied cs
  have trims : ∀ l ∈ (lines cs).map trimEnd, trimEnd l = l := by
    intro l member
    obtain ⟨line, -, rfl⟩ := List.mem_map.mp member
    exact trimEndTwice line
  have same := tidyRows cs
  rw [tidyCharsLines, unlinesRows tidied.whole tidied.trims, rows, filteredBlank tidied.trims,
    filteredBlank trims, List.filter_map] at same
  rw [same]
  refine congrArg (List.map trimEnd) (List.filter_congr fun l _ => ?_)
  simp [blankTrimmed]

theorem placedTidied (follows : (m :: ls).IsChain Follows) (trims : ∀ l ∈ m :: ls, trimEnd l = l)
    (before : List (List Char)) :
    ls.foldl place (m :: before) = ls.reverse ++ m :: before := by
  induction ls generalizing m before with
  | nil => rfl
  | cons l rest ih =>
      obtain ⟨next, others⟩ := List.isChain_cons_cons.mp follows
      obtain ⟨own, trims'⟩ := List.forall_mem_cons.mp trims
      have own' := trims' l List.mem_cons_self
      have placed : place (m :: before) l = l :: m :: before := by
        match l, m with
        | [], m =>
            have some : m ≠ [] := fun none => next.alone (none ▸ nofun) nofun
            have closed : opensBlock m = false := by
              by_contra opens
              obtain ⟨c, ends, bracket⟩ := opensIff.mp (by simpa using opens)
              exact next.opened c ends bracket nofun
            simp [place, some, closed]
        | c :: text, [] =>
            have stays : closesBlock (c :: text) = false := by
              by_contra closes
              obtain ⟨d, ends, bracket⟩ := closesIff.mp (by simpa using closes)
              exact next.closed d ends bracket nofun
            simp [place, stays]
        | c :: text, d :: more => rfl
      rw [List.foldl_cons, placed, ih others trims']
      simp

theorem Tidied.tidyLines (tidied : Tidied ls) : tidyLines (unlines ls) = ls := by
  cases ls with
  | nil => rfl
  | cons l rest =>
      have trims := tidied.trims
      have filled : l ≠ [] := by
        rintro rfl
        exact tidied.first [] rfl nofun
      obtain ⟨c, text, rfl⟩ := List.exists_cons_of_ne_nil filled
      have placed := placedTidied tidied.follows trims []
      have last : ((rest.reverse ++ [c :: text]).dropWhile List.isEmpty) =
          rest.reverse ++ [c :: text] := by
        obtain ⟨k, more, same⟩ :=
          List.exists_cons_of_ne_nil (l := rest.reverse ++ [c :: text]) (by simp)
        have ends : k ∈ ((c :: text) :: rest).getLast? := by
          rw [List.getLast?_eq_head?_reverse, List.reverse_cons, same]
          rfl
        have some : k ≠ [] := by
          rintro rfl
          exact tidied.last [] ends nofun
        rw [same, List.dropWhile_cons_of_neg (by simpa using some)]
      rw [Layout.tidyLines, linesUnlines (List.cons_ne_nil _ _) tidied.whole,
        List.map_congr_left trims, List.map_id', List.foldl_cons]
      change (List.dropWhile List.isEmpty (rest.foldl place [c :: text])).reverse = _
      rw [placed, last]
      simp

theorem Tidied.noneIff (tidied : Tidied ls) : unlines ls = ['\n'] ↔ ∀ l ∈ ls, Blank l := by
  cases ls with
  | nil => simp [unlines]
  | cons l rest =>
      refine iff_of_false (fun same => ?_) fun blank =>
        tidied.first l rfl (blank l List.mem_cons_self)
      have front : (List.intersperse ['\n'] (l :: rest)).flatten = [] := by
        simpa [unlines] using same
      have own : l = [] := List.flatten_eq_nil_iff.mp front l (by cases rest <;> simp)
      exact tidied.first l rfl fun c among => absurd (own ▸ among) List.not_mem_nil

theorem Tidied.ended (tidied : Tidied ls) :
    ∃ body, unlines ls = body ++ ['\n'] ∧ body.getLast? ≠ some '\n' := by
  refine ⟨List.intercalate ['\n'] ls, rfl, fun feed => ?_⟩
  cases last : ls.getLast? with
  | none =>
      rw [List.getLast?_eq_none_iff.mp last] at feed
      contradiction
  | some l =>
      obtain ⟨front, rfl⟩ := List.getLast?_eq_some_iff.mp last
      have some : l ≠ [] := by
        rintro rfl
        exact tidied.last [] last nofun
      have ends : ∃ begun, List.intercalate ['\n'] (front ++ [l]) = begun ++ l := by
        by_cases none : front = []
        · exact ⟨[], by simp [none, List.intercalate]⟩
        · exact ⟨List.intercalate ['\n'] front ++ ['\n'], by
            rw [joinedAppend none (by simp)]
            simp [List.intercalate]⟩
      obtain ⟨begun, whole⟩ := ends
      rw [whole, List.getLast?_append_of_ne_nil _ some] at feed
      exact tidied.oneLine l (by simp) (List.mem_of_getLast? feed)

/-- Every text comes out with its lines that are not blank, in order and less the white space at
their ends. Blank lines stand alone between them, but not after a bracket that opens a block or
before one that closes it. One line feed ends the text, and another pass changes nothing. -/
theorem tidiesEveryText (raw : String) :
    (tidy raw = "\n" ↔ ∀ l ∈ lines raw.toList, Blank l) ∧
    (∃ ls, (tidy raw).toList = unlines ls ∧ Tidied ls ∧
      ls.filter (¬Blank ·) = ((lines raw.toList).filter (¬Blank ·)).map trimEnd) ∧
    (∃ body, (tidy raw).toList = body ++ ['\n'] ∧ body.getLast? ≠ some '\n') ∧
    tidy (tidy raw) = tidy raw := by
  have tidied := tidyLinesTidied raw.toList
  have filled := tidyLinesFilled raw.toList
  have text : (tidy raw).toList = unlines (tidyLines raw.toList) := String.toList_ofList
  have blank (ls : List (List Char)) : (∀ l ∈ ls, Blank l) ↔ ls.filter (¬Blank ·) = [] := by
    simp [List.filter_eq_nil_iff]
  refine ⟨?_, ⟨tidyLines raw.toList, text, tidied, filled⟩, text ▸ tidied.ended, ?_⟩
  · rw [← String.toList_inj, text]
    refine tidied.noneIff.trans ?_
    rw [blank, blank, filled, List.map_eq_nil_iff]
  · rw [tidy, text, tidyCharsLines, tidied.tidyLines, ← text, String.ofList_toList]

end RestScaffold.Layout
