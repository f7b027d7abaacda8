import RestScaffold.FileTree.Path

/-! The names of a path that is joined to another one. -/
namespace RestScaffold.Path

theorem segmentsSlash (rest : List Char) : segments ('/' :: rest) = [] :: segments rest := rfl

theorem segmentsSome (cs : List Char) : ∃ first more, segments cs = first :: more := by
  induction cs with
  | nil => exact ⟨[], [], rfl⟩
  | cons c rest ih =>
      obtain ⟨first, more, found⟩ := ih
      by_cases slash : c = '/'
      · subst slash
        exact ⟨[], segments rest, rfl⟩
      · exact ⟨c :: first, more, by rw [segments, found]; exact slash⟩

theorem segmentsCons {c : Char} {rest first : List Char} {more : List (List Char)}
    (plain : c ≠ '/') (found : segments rest = first :: more) :
    segments (c :: rest) = (c :: first) :: more := by
  rw [segments, found]
  exact plain

theorem segmentsAppend (before after : List Char) :
    segments (before ++ '/' :: after) = segments before ++ segments after := by
  induction before with
  | nil => rfl
  | cons c rest ih =>
      by_cases slash : c = '/'
      · subst slash
        rw [List.cons_append, segmentsSlash, segmentsSlash, ih, List.cons_append]
      · obtain ⟨first, more, found⟩ := segmentsSome rest
        have whole : segments (rest ++ '/' :: after) = first :: (more ++ segments after) := by
          rw [ih, found, List.cons_append]
        rw [List.cons_append, segmentsCons slash found, segmentsCons slash whole]
        rfl

theorem segmentsPlain {cs : List Char} (plain : '/' ∉ cs) : segments cs = [cs] := by
  induction cs with
  | nil => rfl
  | cons c rest ih =>
      obtain ⟨head, tail⟩ := not_or.mp (mt List.mem_cons.mpr plain)
      exact segmentsCons (Ne.symm head) (ih tail)

theorem namesOfSlash {path before after : String}
    (same : path.toList = before.toList ++ '/' :: after.toList) :
    names path = names before ++ names after := by
  simp only [names, same, segmentsAppend, List.filter_append, List.map_append]

theorem namesFolder {folder : String} (ends : folder.toList.getLast? = some '/') (path : String) :
    names (folder ++ path) = names folder ++ names path := by
  obtain ⟨before, same⟩ := List.getLast?_eq_some_iff.mp ends
  have slash : folder.toList = (String.ofList before).toList ++ '/' :: "".toList := by simp [same]
  have whole : names folder = names (String.ofList before) :=
    (namesOfSlash slash).trans (List.append_nil _)
  rw [whole]
  exact namesOfSlash (by simp [same])

theorem namesPlain {path : String} (plain : '/' ∉ path.toList)
    (some : isIdle path.toList = false) : names path = [path] := by
  simp [names, segmentsPlain plain, some]

theorem segmentsJoin (root : String) {path : String} (relative : isAbsolute path = false) :
    ∃ before, segments (join root path).toList = before ++ segments path.toList ∧
      (before.filter (!isIdle ·)).map String.ofList = names root := by
  simp only [join, relative, Bool.false_or]
  split
  · rename_i missing
    obtain rfl := String.isEmpty_iff.mp missing
    exact ⟨[], rfl, rfl⟩
  · split
    · rename_i ends
      obtain ⟨before, same⟩ := List.getLast?_eq_some_iff.mp ends
      refine ⟨segments before, ?_, ?_⟩
      · rw [String.toList_append, same, List.append_assoc]
        exact segmentsAppend before path.toList
      · rw [names, same, segmentsAppend, List.filter_append, List.map_append]
        exact (List.append_nil _).symm
    · refine ⟨segments root.toList, ?_, rfl⟩
      rw [← segmentsAppend]
      simp

theorem namesJoin (root : String) {path : String} (relative : isAbsolute path = false) :
    names (join root path) = names root ++ names path := by
  obtain ⟨before, same, own⟩ := segmentsJoin root relative
  rw [names, same, List.filter_append, List.map_append, own]
  rfl

theorem componentsNames {path : String} (relative : isAbsolute path = false)
    (plain : (segments path.toList).head? ≠ some ['.']) : components path = names path := by
  rw [components, relative, if_neg Bool.false_ne_true, if_neg plain]

theorem headSegment {folder : String} (ends : folder.toList.getLast? = some '/') (path : String) :
    (segments (folder ++ path).toList).head? = (segments folder.toList).head? := by
  obtain ⟨before, same⟩ := List.getLast?_eq_some_iff.mp ends
  obtain ⟨first, more, found⟩ := segmentsSome before
  rw [String.toList_append, same, List.append_assoc, List.singleton_append, segmentsAppend,
    segmentsAppend, found]
  rfl

structure Descends (path : String) : Prop where
  relative : isAbsolute path = false
  down : ".." ∉ names path

theorem segmentsSlashless (cs : List Char) : ∀ s ∈ segments cs, '/' ∉ s := by
  induction cs with
  | nil => simp [segments]
  | cons c rest ih =>
      by_cases slash : c = '/'
      · subst slash
        rw [segmentsSlash]
        exact List.forall_mem_cons.mpr ⟨List.not_mem_nil, ih⟩
      · obtain ⟨first, more, found⟩ := segmentsSome rest
        rw [found] at ih
        rw [segmentsCons slash found]
        obtain ⟨head, tail⟩ := List.forall_mem_cons.mp ih
        exact List.forall_mem_cons.mpr ⟨by simp [Ne.symm slash, head], tail⟩

theorem segmentsIntercalate {parts : List (List Char)} (some : parts ≠ [])
    (slashless : ∀ s ∈ parts, '/' ∉ s) : segments (List.intercalate ['/'] parts) = parts := by
  induction parts with
  | nil => contradiction
  | cons first rest ih =>
      obtain ⟨head, tail⟩ := List.forall_mem_cons.mp slashless
      cases rest with
      | nil => simpa [List.intercalate] using segmentsPlain head
      | cons second more =>
          have split : List.intercalate ['/'] (first :: second :: more) =
              first ++ '/' :: List.intercalate ['/'] (second :: more) := by
            simp [List.intercalate]
          rw [split, segmentsAppend, segmentsPlain head, ih (by simp) tail]
          rfl

structure Housed (path : String) : Prop extends Descends path where
  whole : ∀ s ∈ segments path.toList, isIdle s = false
  deep : 1 < (names path).length
  flat : (names path).length < 4

variable {path : String}

theorem Housed.names (housed : Housed path) :
    names path = (segments path.toList).map String.ofList := by
  have kept : (segments path.toList).filter (!isIdle ·) = segments path.toList :=
    List.filter_eq_self.mpr fun s member => by simp [housed.whole s member]
  rw [Path.names, kept]

theorem Housed.some (housed : Housed path) : Path.names path ≠ [] := by
  intro none
  have deep := housed.deep
  rw [none] at deep
  contradiction

theorem settleKept {s : List Char} (rest : List (List Char)) (kept : isIdle s = false) :
    settle (s :: rest) = s :: rest := by
  cases rest with
  | nil => rfl
  | cons before more => rw [settle, kept, if_neg Bool.false_ne_true]

theorem componentsLength (path : String) : (names path).length ≤ (components path).length := by
  unfold components
  split
  · exact Nat.le_succ _
  · split
    · exact Nat.le_succ _
    · exact Nat.le_refl _

theorem segmentsOf {parts : List (List Char)} (some : parts ≠ [])
    (slashless : ∀ s ∈ parts, '/' ∉ s) : segments (ofSegments parts).toList = parts := by
  rw [ofSegments, String.toList_ofList]
  exact segmentsIntercalate some slashless

theorem parentOf {above : List (List Char)} {folder last : List Char}
    (split : segments path.toList = above ++ [folder, last]) (folder' : isIdle folder = false)
    (last' : isIdle last = false) : parent? path = some (ofSegments (above ++ [folder])) := by
  have reversed : (segments path.toList).reverse = last :: folder :: above.reverse := by
    simp [split]
  have kept : settle (settle (segments path.toList).reverse).tail = folder :: above.reverse := by
    rw [reversed, settleKept _ last', List.tail_cons, settleKept _ folder']
  have long : 1 < (components path).length := by
    refine Nat.lt_of_lt_of_le ?_ (componentsLength path)
    simp [names, split, folder', last']
  have below : ¬(components path = [] ∨ components path = ["/"]) := by
    rintro (none | top)
    · simp [none] at long
    · simp [top] at long
  have named : folder ≠ [] := by
    rintro rfl
    contradiction
  rw [parent?, if_neg below, kept]
  simp [named]

theorem parentJoin (root : String) (housed : Housed path) :
    ∃ parent, parent? (join root path) = some parent ∧
      Path.names parent = Path.names root ++ (Path.names path).dropLast ∧
      endsInDot parent = false := by
  obtain ⟨before, joined, own⟩ := segmentsJoin root housed.relative
  have deep := housed.deep
  rw [housed.names, List.length_map] at deep
  obtain ⟨above, last, split⟩ : ∃ above last, segments path.toList = above ++ [last] :=
    ⟨_, _, (List.dropLast_concat_getLast (by rintro none; simp [none] at deep)).symm⟩
  obtain ⟨middle, folder, rfl⟩ : ∃ middle folder, above = middle ++ [folder] :=
    ⟨_, _, (List.dropLast_concat_getLast (by rintro rfl; simp [split] at deep)).symm⟩
  have whole := housed.whole
  rw [split] at whole
  have folder' : isIdle folder = false := whole folder (by simp)
  have again : segments (ofSegments (before ++ middle ++ [folder])).toList =
      before ++ middle ++ [folder] := by
    refine segmentsOf (by simp) fun s member => ?_
    refine segmentsSlashless (join root path).toList s ?_
    rw [joined, split]
    simp only [List.mem_append] at member ⊢
    grind
  refine ⟨ofSegments (before ++ middle ++ [folder]), ?_, ?_, ?_⟩
  · exact parentOf (by simp [joined, split]) folder' (whole last (by simp))
  · have lower : (middle ++ [folder]).filter (!isIdle ·) = middle ++ [folder] :=
      List.filter_eq_self.mpr fun s member => by
        simp [whole s (List.mem_append_left _ member)]
    have whole' : (middle ++ [folder] ++ [last]).map String.ofList =
        (middle ++ [folder]).map String.ofList ++ [String.ofList last] := by
      rw [List.map_append, List.map_singleton]
    rw [Path.names, again, housed.names, split, List.append_assoc, List.filter_append, lower,
      List.map_append, own, whole', List.dropLast_concat]
  · have named : folder ≠ [] := by
      rintro rfl
      contradiction
    have dotted : folder ≠ ['.'] := by
      rintro rfl
      contradiction
    rw [endsInDot, again]
    simp [named, dotted]

end RestScaffold.Path
