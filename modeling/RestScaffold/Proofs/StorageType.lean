import RestScaffold.GoType
import RestScaffold.Proofs.Text.Lower
import RestScaffold.Proofs.Text.NormalForm
import RestScaffold.Proofs.Text.Span
import RestScaffold.ScriptType

/-! The spelling of a column type. Letters in either case, white space around it and modifiers in
parentheses are told apart from the type by nobody, and there is one array type behind all the ways
to mark one. -/
namespace RestScaffold.StorageType
open Text Layout

structure Answers where
  go : String
  goNullable : String
  script : String
  scriptNullable : String
  schema : SchemaType
  textual : Bool
  numeric : Bool
  deriving DecidableEq, Repr

def answersOf (t : StorageType) : Answers where
  go := (GoType.ofColumn t false).text
  goNullable := (GoType.ofColumn t true).text
  script := (ScriptType.ofColumn t false).text
  scriptNullable := (ScriptType.ofColumn t true).text
  schema := t.schemaType
  textual := t.isTextual
  numeric := t.isNumeric

def answers (cs : List Char) : Answers := answersOf (ofText (String.ofList cs))

structure Stem (b : List Char) : Prop where
  ascii : ∀ c ∈ b, c.toNat < 128
  first : ∃ c ∈ b.head?, isBlank c = false
  last : ∃ c ∈ b.getLast?, isBlank c = false
  bare : ∀ c ∈ b, c ≠ '(' ∧ c ≠ ')'

inductive Modifiers : List Char → Prop where
  | none : Modifiers []
  | more {blanks inner rest : List Char} (blank : Blank blanks) (inside : ')' ∉ inner)
      (later : Modifiers rest) : Modifiers (blanks ++ '(' :: (inner ++ ')' :: rest))

def modifier (inner : List Char) : List Char := '(' :: (inner ++ [')'])

inductive Spelt (alike : Char → Char → Prop) : List Char → List Char → Prop where
  | none : Spelt alike [] []
  | plain {c d b t} (same : alike c d) (later : Spelt alike b t) : Spelt alike (c :: b) (d :: t)
  | modified {c d b t modifiers} (full : isBlank c = false) (same : alike c d)
      (after : Modifiers modifiers) (later : Spelt alike b t) :
      Spelt alike (c :: b) (d :: (modifiers ++ t))

def SameLetter (c d : Char) : Prop := lowerChar c = lowerChar d

variable {b t before after blanks inner modifiers rest : List Char} {c d : Char}
  {alike : Char → Char → Prop}

def blankPoints : List Nat :=
  blankRanges.flatMap fun r => (List.range (r.2 + 1 - r.1)).map (r.1 + ·)

theorem blankPoint (blank : isBlank c = true) : c.toNat ∈ blankPoints := by
  obtain ⟨r, known, inside⟩ := List.any_eq_true.mp blank
  obtain ⟨low, high⟩ : r.1 ≤ c.toNat ∧ c.toNat ≤ r.2 := by simpa using inside
  exact List.mem_flatMap.mpr ⟨r, known, List.mem_map.mpr
    ⟨c.toNat - r.1, List.mem_range.mpr (by omega), by omega⟩⟩

theorem blankLower (blank : isBlank c = true) : c ≠ 'Σ' ∧ lowerChar c = [c] := by
  have points : ∀ n ∈ blankPoints,
      Char.ofNat n ≠ 'Σ' ∧ lowerChar (Char.ofNat n) = [Char.ofNat n] := by decide +kernel
  have known := points c.toNat (blankPoint blank)
  rwa [Char.ofNat_toNat] at known

theorem asciiLower : ∀ n < 128, let c := Char.ofNat n
    c.toLower.toNat < 128 ∧ isBlank c.toLower = isBlank c ∧
      (c.toLower = '(' → c = '(') ∧ (c.toLower = ')' → c = ')') ∧
      (c.toLower = '[' ↔ c = '[') ∧ (c.toLower = ']' ↔ c = ']') := by
  decide +kernel

theorem asciiLowered (ascii : c.toNat < 128) :
    c.toLower.toNat < 128 ∧ isBlank c.toLower = isBlank c ∧
      (c.toLower = '(' → c = '(') ∧ (c.toLower = ')' → c = ')') ∧
      (c.toLower = '[' ↔ c = '[') ∧ (c.toLower = ']' ↔ c = ']') := by
  have known := asciiLower c.toNat ascii
  rwa [Char.ofNat_toNat] at known

theorem sameLower (ascii : c.toNat < 128) (same : SameLetter c d) :
    d ≠ 'Σ' ∧ lowerChar d = [c.toLower] := by
  have own : lowerChar d = [c.toLower] := same.symm.trans (if_pos ascii)
  refine ⟨?_, own⟩
  rintro rfl
  have sigma : lowerChar 'Σ' = ['σ'] := by decide +kernel
  have small := (asciiLowered ascii).1
  rw [← List.singleton_inj.mp (sigma.symm.trans own)] at small
  revert small
  decide

theorem sameFull (ascii : c.toNat < 128) (same : SameLetter c d) (full : isBlank c = false) :
    isBlank d = false := by
  by_contra blank
  rw [Bool.not_eq_false] at blank
  have own : d = c.toLower :=
    List.singleton_inj.mp ((blankLower blank).2.symm.trans (sameLower ascii same).2)
  rw [own, (asciiLowered ascii).2.1, full] at blank
  contradiction

theorem lowerBlanks (blank : Blank blanks) (before rest : List Char) :
    lowerFrom before (blanks ++ rest) =
      blanks ++ lowerFrom (blanks.reverse ++ before) rest := by
  induction blanks generalizing before with
  | nil => rfl
  | cons c more ih =>
      obtain ⟨first, others⟩ := List.forall_mem_cons.mp blank
      obtain ⟨other, own⟩ := blankLower first
      rw [List.cons_append, lowerFrom, if_neg other, own, ih others]
      simp

theorem lowerInside (inside : ')' ∉ inner) (before rest : List Char) :
    ∃ inner', ')' ∉ inner' ∧ lowerFrom before (inner ++ rest) =
      inner' ++ lowerFrom (inner.reverse ++ before) rest := by
  induction inner generalizing before with
  | nil => exact ⟨[], inside, rfl⟩
  | cons c more ih =>
      obtain ⟨first, others⟩ := not_or.mp (mt List.mem_cons.mpr inside)
      obtain ⟨inner', inside', lowered⟩ := ih others (c :: before)
      rw [List.cons_append, lowerFrom, lowered, List.reverse_cons, List.append_assoc _ [c]]
      refine ⟨_ ++ inner', fun member => ?_, (List.append_assoc _ _ _).symm⟩
      rcases List.mem_append.mp member with own | later
      · rcases lowerFirstRaises own with same | raised
        · exact first same
        · revert raised
          decide
      · exact inside' later

theorem lowerModifiers (known : Modifiers modifiers) (before rest : List Char) :
    ∃ modifiers', Modifiers modifiers' ∧ lowerFrom before (modifiers ++ rest) =
      modifiers' ++ lowerFrom (modifiers.reverse ++ before) rest := by
  induction known generalizing before with
  | none => exact ⟨[], .none, rfl⟩
  | @more blanks inner more blank inside _ ih =>
      obtain ⟨inner', inside', lowered⟩ := lowerInside inside ('(' :: (blanks.reverse ++ before))
        (')' :: (more ++ rest))
      obtain ⟨modifiers', known', lowered'⟩ :=
        ih (')' :: (inner.reverse ++ '(' :: (blanks.reverse ++ before)))
      have opening : lowerChar '(' = ['('] := by decide
      have closing : lowerChar ')' = [')'] := by decide
      refine ⟨_, .more blank inside' known', ?_⟩
      simp only [List.append_assoc, List.cons_append, lowerBlanks blank]
      rw [lowerFrom, if_neg (by decide), opening, lowered, lowerFrom, if_neg (by decide), closing,
        lowered']
      simp

theorem lowerSpelt (spelt : Spelt SameLetter b t) (ascii : ∀ c ∈ b, c.toNat < 128)
    (before : List Char) : Spelt Eq (b.map Char.toLower) (lowerFrom before t) := by
  induction spelt generalizing before with
  | none => exact .none
  | plain same _ ih =>
      obtain ⟨first, others⟩ := List.forall_mem_cons.mp ascii
      obtain ⟨other, own⟩ := sameLower first same
      rw [lowerFrom, if_neg other, own]
      exact .plain rfl (ih others _)
  | modified full same after _ ih =>
      obtain ⟨first, others⟩ := List.forall_mem_cons.mp ascii
      obtain ⟨other, own⟩ := sameLower first same
      obtain ⟨modifiers', after', lowered⟩ := lowerModifiers after _ _
      rw [lowerFrom, if_neg other, own, lowered, List.singleton_append]
      exact .modified ((asciiLowered first).2.1.trans full) rfl after' (ih others _)

theorem afterClosingFound (inside : ')' ∉ inner) (rest : List Char) :
    afterClosing (inner ++ ')' :: rest) = some rest := by
  induction inner with
  | nil => rfl
  | cons c more ih =>
      obtain ⟨first, others⟩ := not_or.mp (mt List.mem_cons.mpr inside)
      rw [List.cons_append, afterClosing, if_neg (Ne.symm first), ih others]

theorem modifiersDropped (known : Modifiers modifiers) (rest : List Char) :
    withoutModifiers [] (modifiers ++ rest) = withoutModifiers [] rest := by
  have blanksRead (blanks read rest : List Char) (blank : Blank blanks) :
      withoutModifiers read (blanks ++ rest) = withoutModifiers (read ++ blanks) rest := by
    induction blanks generalizing read with
    | nil => simp
    | cons c more ih =>
        obtain ⟨first, others⟩ := List.forall_mem_cons.mp blank
        have other : c ≠ '(' := by
          rintro rfl
          revert first
          decide
        rw [List.cons_append, withoutModifiers, if_neg other, if_pos first, ih _ others]
        simp
  induction known with
  | none => rfl
  | @more blanks inner more blank inside _ ih =>
      simp only [List.append_assoc, List.cons_append]
      rw [blanksRead _ _ _ blank, withoutModifiers, if_pos rfl]
      split
      · rename_i found
        rw [afterClosingFound inside] at found
        cases found
        exact ih
      · rename_i found
        rw [afterClosingFound inside] at found
        contradiction

theorem speltStripped (spelt : Spelt Eq b t) (bare : ∀ c ∈ b, c ≠ '(') (read : List Char) :
    withoutModifiers read t = read ++ b := by
  induction spelt generalizing read with
  | none => simp [withoutModifiers]
  | @plain c d b t same _ ih =>
      obtain ⟨first, others⟩ := List.forall_mem_cons.mp bare
      subst same
      rw [withoutModifiers, if_neg first]
      split
      · rw [ih others]
        simp
      · rw [ih others]
        rfl
  | @modified c d b t modifiers full same after _ ih =>
      obtain ⟨first, others⟩ := List.forall_mem_cons.mp bare
      subst same
      rw [withoutModifiers, if_neg first, if_neg (by simp [full]),
        modifiersDropped after, ih others]
      rfl

theorem Modifiers.last (known : Modifiers modifiers) :
    modifiers = [] ∨ modifiers.getLast? = some ')' := by
  induction known with
  | none => exact .inl rfl
  | @more blanks inner rest blank inside _ ih =>
      have split : blanks ++ '(' :: (inner ++ ')' :: rest) =
          (blanks ++ '(' :: inner) ++ ')' :: rest := by simp
      rw [split, List.getLast?_append_of_ne_nil _ (List.cons_ne_nil _ _), List.getLast?_cons]
      refine .inr ?_
      rcases ih with rfl | ends
      · rfl
      · rw [ends]
        rfl

theorem Spelt.first (spelt : Spelt SameLetter b t) (stem : Stem b) :
    ∃ c ∈ t.head?, isBlank c = false := by
  obtain ⟨c, head, full⟩ := stem.first
  cases spelt with
  | none => contradiction
  | plain same _ | modified _ same _ _ =>
      obtain rfl := Option.some.inj head
      exact ⟨_, rfl, sameFull (stem.ascii _ List.mem_cons_self) same full⟩

theorem Spelt.last (spelt : Spelt SameLetter b t) (ascii : ∀ c ∈ b, c.toNat < 128)
    (full : ∃ c ∈ b.getLast?, isBlank c = false) : ∃ c ∈ t.getLast?, isBlank c = false := by
  have further (front : List Char) {t : List Char} (ends : ∃ c ∈ t.getLast?, isBlank c = false) :
      ∃ c ∈ (front ++ t).getLast?, isBlank c = false := by
    obtain ⟨c, last, full⟩ := ends
    exact ⟨c, by rw [List.getLast?_append, Option.mem_def.mp last]; rfl, full⟩
  induction spelt with
  | none => exact full
  | @plain c d b t same later ih =>
      obtain ⟨first, others⟩ := List.forall_mem_cons.mp ascii
      cases later with
      | none =>
          obtain ⟨e, last, full⟩ := full
          obtain rfl := Option.some.inj last
          exact ⟨d, rfl, sameFull first same full⟩
      | plain | modified => exact further [d] (ih others full)
  | @modified c d b t modifiers own same after later ih =>
      obtain ⟨first, others⟩ := List.forall_mem_cons.mp ascii
      cases later with
      | none =>
          rw [List.append_nil]
          rcases after.last with rfl | ends
          · exact ⟨d, rfl, sameFull first same own⟩
          · exact further [d] ⟨')', ends, by decide⟩
      | plain | modified => exact further (d :: modifiers) (ih others full)

theorem trimSpelt (spelt : Spelt SameLetter b t) (stem : Stem b) (blank : Blank before)
    (blank' : Blank after) : trim (String.ofList (before ++ t ++ after)) = String.ofList t := by
  obtain ⟨c, head, full⟩ := spelt.first stem
  obtain ⟨rest, rfl⟩ := List.head?_eq_some_iff.mp head
  obtain ⟨e, last, full'⟩ := spelt.last stem.ascii stem.last
  have started : trimStart (before ++ (c :: rest) ++ after) = c :: rest ++ after := by
    rw [trimStart, List.append_assoc, List.dropWhile_append_of_pos blank, List.cons_append,
      List.dropWhile_cons_of_neg (by simp [full])]
  have ended := trimEndAppend (fun d ends => Option.some.inj (last.symm.trans ends) ▸ full')
    (List.cons_ne_nil c rest) after
  rw [trim, String.toList_ofList, started, ended, (blankIff after).mp blank', List.append_nil]

theorem ofSpelling (stem : Stem b) (spelt : Spelt SameLetter b t) (blank : Blank before)
    (blank' : Blank after) :
    ofText (String.ofList (before ++ t ++ after)) = ofBase (b.map Char.toLower) := by
  have bare : ∀ c ∈ b.map Char.toLower, c ≠ '(' := by
    intro d member
    obtain ⟨c, known, rfl⟩ := List.mem_map.mp member
    exact mt (asciiLowered (stem.ascii c known)).2.2.1 (stem.bare c known).1
  rw [ofText, trimSpelt spelt stem blank blank', lower, String.toList_ofList, String.toList_ofList,
    speltStripped (lowerSpelt spelt stem.ascii []) bare]
  rfl

theorem oneModifier (inside : ')' ∉ inner) : Modifiers (modifier inner) := by
  have none : Blank [] := nofun
  exact .more none inside .none

theorem speltLetters (same : b.map lowerChar = t.map lowerChar) : Spelt SameLetter b t := by
  induction b generalizing t with
  | nil =>
      obtain rfl := List.map_eq_nil_iff.mp same.symm
      exact .none
  | cons c rest ih =>
      obtain ⟨d, more, rfl, first, others⟩ := List.map_eq_cons_iff.mp same.symm
      exact .plain first.symm (ih others.symm)

theorem Spelt.append {b' t' : List Char} (spelt : Spelt alike b t) (spelt' : Spelt alike b' t') :
    Spelt alike (b ++ b') (t ++ t') := by
  induction spelt with
  | none => exact spelt'
  | plain same _ ih => exact .plain same ih
  | modified full same after _ ih =>
      rw [List.cons_append, List.cons_append, List.append_assoc]
      exact .modified full same after ih

theorem speltAfter (full : ∃ c ∈ b.getLast?, isBlank c = false) (after : Modifiers modifiers) :
    Spelt SameLetter b (b ++ modifiers) := by
  obtain ⟨c, last, full⟩ := full
  obtain ⟨front, rfl⟩ := List.getLast?_eq_some_iff.mp last
  have own : Spelt SameLetter [c] (c :: (modifiers ++ [])) := .modified full rfl after .none
  rw [List.append_nil] at own
  rw [List.append_assoc]
  exact (speltLetters rfl).append own

theorem Stem.marked (stem : Stem b) : Stem ('_' :: b) where
  ascii := List.forall_mem_cons.mpr ⟨by decide, stem.ascii⟩
  first := ⟨'_', rfl, by decide⟩
  last := by
    obtain ⟨c, last, full⟩ := stem.last
    exact ⟨c, by rw [List.getLast?_cons, Option.mem_def.mp last]; rfl, full⟩
  bare := List.forall_mem_cons.mpr ⟨by decide, stem.bare⟩

theorem Stem.listed (stem : Stem b) : Stem (b ++ ['[', ']']) where
  ascii := List.forall_mem_append.mpr ⟨stem.ascii, by simp⟩
  first := by
    obtain ⟨c, head, full⟩ := stem.first
    obtain ⟨rest, rfl⟩ := List.head?_eq_some_iff.mp head
    exact ⟨c, rfl, full⟩
  last := ⟨']', by simp, by decide⟩
  bare := List.forall_mem_append.mpr ⟨stem.bare, by simp⟩

theorem ofBaseListed (cs : List Char) :
    ofBase (cs ++ ['[', ']']) = ⟨.ofName (trimEnd (trimStart cs)), true⟩ := by
  unfold ofBase
  rw [List.reverse_append]
  simp

theorem ofBaseMarked {cs : List Char} (unlisted : ¬['[', ']'] <:+ '_' :: cs) :
    ofBase ('_' :: cs) = ⟨.ofName cs, true⟩ := by
  unfold ofBase
  split
  · rename_i element ends
    exact absurd ⟨element.reverse, by simpa using (congrArg List.reverse ends).symm⟩ unlisted
  · rfl

theorem listedBase (stem : Stem b) :
    ofBase ((b ++ ['[', ']']).map Char.toLower) = ⟨.ofName (b.map Char.toLower), true⟩ := by
  have full {c : Char} (member : c ∈ b) (own : isBlank c = false) : isBlank c.toLower = false :=
    (asciiLowered (stem.ascii c member)).2.1.trans own
  have started : trimStart (b.map Char.toLower) = b.map Char.toLower := by
    obtain ⟨c, head, own⟩ := stem.first
    obtain ⟨rest, rfl⟩ := List.head?_eq_some_iff.mp head
    rw [trimStart, List.map_cons,
      List.dropWhile_cons_of_neg (by simp [full List.mem_cons_self own])]
  have ended : trimEnd (b.map Char.toLower) = b.map Char.toLower := by
    obtain ⟨c, last, own⟩ := stem.last
    refine trimEndSame fun d last' => ?_
    rw [List.getLast?_map, Option.mem_def.mp last] at last'
    obtain rfl := Option.some.inj last'
    exact full (List.mem_of_getLast? last) own
  have brackets : ['[', ']'].map Char.toLower = ['[', ']'] := by decide
  rw [List.map_append, brackets, ofBaseListed, started, ended]

theorem markedBase (stem : Stem b) (unlisted : ¬['[', ']'] <:+ b) :
    ofBase (('_' :: b).map Char.toLower) = ⟨.ofName (b.map Char.toLower), true⟩ := by
  refine ofBaseMarked fun ends => ?_
  rcases List.suffix_cons_iff.mp ends with whole | ⟨front, whole⟩
  · cases whole
  · obtain ⟨front, back, rfl, -, brackets⟩ := List.map_eq_append_iff.mp whole.symm
    obtain ⟨c, more, rfl, opening, others⟩ := List.map_eq_cons_iff.mp brackets
    obtain ⟨d, none, rfl, closing, rest⟩ := List.map_eq_cons_iff.mp others
    obtain rfl := List.map_eq_nil_iff.mp rest
    obtain rfl := (asciiLowered (stem.ascii c (by simp))).2.2.2.2.1.mp opening
    obtain rfl := (asciiLowered (stem.ascii d (by simp))).2.2.2.2.2.mp closing
    exact unlisted (List.suffix_append _ _)

/-- Generated code and documents do not depend on how a column type is spelt: not on the case of its
letters, nor on white space around it, nor on modifiers after any of its characters. The type of its
arrays is one too, whichever way they are marked. -/
theorem spellingIsFree {b : List Char} (stem : Stem b) :
    (∀ before after t, Blank before → Blank after → Spelt SameLetter b t →
      answers (before ++ t ++ after) = answers b) ∧
    (¬['[', ']'] <:+ b → ∀ inner, ')' ∉ inner →
      ∀ array ∈ [b ++ ['[', ']'], '_' :: (b ++ modifier inner),
          b ++ modifier inner ++ ['[', ']'], b ++ ['[', ']'] ++ modifier inner],
        answers array = answers ('_' :: b)) := by
  have ofStem {b : List Char} (stem : Stem b) {t : List Char} (spelt : Spelt SameLetter b t)
      {before after : List Char} (blank : Blank before) (blank' : Blank after) :
      answers (before ++ t ++ after) = answersOf (ofBase (b.map Char.toLower)) :=
    congrArg answersOf (ofSpelling stem spelt blank blank')
  have alone {b : List Char} (stem : Stem b) {t : List Char} (spelt : Spelt SameLetter b t) :
      answers t = answersOf (ofBase (b.map Char.toLower)) := by
    have none : Blank [] := nofun
    have own := ofStem stem spelt none none
    rwa [List.append_nil] at own
  refine ⟨fun before after t blank blank' spelt => ?_, fun unlisted inner inside => ?_⟩
  · exact (ofStem stem spelt blank blank').trans (alone stem (speltLetters rfl)).symm
  · have known := oneModifier inside
    have marked (t) (spelt : Spelt SameLetter ('_' :: b) t) : answers t = answers ('_' :: b) :=
      (alone stem.marked spelt).trans (alone stem.marked (speltLetters rfl)).symm
    have listed (t) (spelt : Spelt SameLetter (b ++ ['[', ']']) t) :
        answers t = answers ('_' :: b) := by
      rw [alone stem.listed spelt, alone stem.marked (speltLetters rfl), listedBase stem,
        markedBase stem unlisted]
    simp only [List.forall_mem_cons]
    exact ⟨listed _ (speltLetters rfl), marked _ (.plain rfl (speltAfter stem.last known)),
      listed _ ((speltAfter stem.last known).append (speltLetters rfl)),
      listed _ (speltAfter stem.listed.last known), nofun⟩

def numericName : List Char := ['n', 'u', 'm', 'e', 'r', 'i', 'c']

theorem numericSpellings :
    Stem numericName ∧
      answers ['\t', 'N', 'U', 'm', ' ', '(', '(', '1', ')', 'e', 'r', 'I', 'c', '(', ')', '\n'] =
        answers numericName ∧
      answers (numericName ++ ['[', ']', '(', '8', ')']) = answers ('_' :: numericName) := by
  have stem : Stem numericName :=
    ⟨by simp [numericName], ⟨'n', rfl, by decide⟩, ⟨'c', rfl, by decide⟩, by simp [numericName]⟩
  obtain ⟨spellings, arrays⟩ := spellingIsFree stem
  have second : Modifiers ([' '] ++ '(' :: (['(', '1'] ++ [')'])) :=
    .more (by decide) (by decide) .none
  have spelt : Spelt SameLetter numericName
      ['N', 'U', 'm', ' ', '(', '(', '1', ')', 'e', 'r', 'I', 'c', '(', ')'] := by
    have front : Spelt SameLetter ['n', 'u'] ['N', 'U'] := speltLetters (by decide)
    have back : Spelt SameLetter ['e', 'r', 'i'] ['e', 'r', 'I'] := speltLetters (by decide)
    have middle : Spelt SameLetter ['m'] ('m' :: _) := .modified (by decide) rfl second .none
    have empty : Modifiers (modifier []) := oneModifier (by decide)
    exact front.append (middle.append (back.append (speltAfter ⟨'c', rfl, by decide⟩ empty)))
  refine ⟨stem, ?_, ?_⟩
  · have own := spellings ['\t'] ['\n'] _ (by decide) (by decide) spelt
    simp only [List.cons_append, List.nil_append] at own
    exact own
  · exact arrays (by decide) ['8'] (by decide) _ (.tail _ (.tail _ (.tail _ (.head _))))

end RestScaffold.StorageType
