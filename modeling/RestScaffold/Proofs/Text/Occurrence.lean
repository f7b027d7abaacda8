import RestScaffold.Proofs.Code.ImportBlock
import RestScaffold.Proofs.Server.Wording

/-! Texts that occur in others. What occurs in a file occurs in one of the lines that it is printed
from, and a text around a blank occurs in no line whose parts keep the letters around it apart. -/
namespace RestScaffold.Text
open Layout

def Occurs (part text : String) : Prop := part.toList <:+: text.toList

instance (part text : String) : Decidable (Occurs part text) :=
  List.instDecidableIsInfixOfDecidableEq _ _

variable {part cs row before after : List Char}

theorem infixSplit {c : Char} (free : c ∉ part) (inside : part <:+: before ++ c :: after) :
    part <:+: before ∨ part <:+: after := by
  have started {ls : List Char} (starts : ls <+: c :: after) (inner : ∀ d ∈ ls, d ∈ part) :
      ls = [] := by
    cases ls with
    | nil => rfl
    | cons d more =>
        obtain ⟨rfl, -⟩ := List.cons_prefix_cons.mp starts
        exact absurd (inner d List.mem_cons_self) free
  rcases List.infix_append_iff.mp inside with own | later | ⟨front, back, rfl, first, last⟩
  · exact .inl own
  · rcases List.infix_cons_iff.mp later with starts | own
    · rw [started starts fun _ member => member]
      exact .inl List.nil_infix
    · exact .inr own
  · rw [started last fun _ member => List.mem_append_right _ member, List.append_nil]
    exact .inl first.isInfix

theorem trimEndFilled {c : Char} (full : isBlank c = false) (before after : List Char) :
    trimEnd (before ++ c :: after) = before ++ c :: trimEnd after := by
  have reversed : (before ++ c :: after).reverse = after.reverse ++ c :: before.reverse := by simp
  rw [trimEnd, reversed, List.dropWhile_append]
  split
  · rename_i blank
    have gone : trimEnd after = [] := by
      rw [trimEnd, List.isEmpty_iff.mp blank]
      rfl
    rw [List.dropWhile_cons_of_neg (by simp [full]), gone]
    simp
  · simp [trimEnd]

theorem infixTrim (solid : Solid part) (inside : part <:+: cs) : part <:+: trimEnd cs := by
  obtain ⟨front, c, rfl⟩ := (List.eq_nil_or_concat part).resolve_left solid.some
  obtain ⟨before, after, rfl⟩ := inside
  have full : isBlank c = false := solid.noBlank c (by simp)
  refine ⟨before, trimEnd after, ?_⟩
  have whole (rest : List Char) :
      before ++ (front ++ [c]) ++ rest = before ++ front ++ c :: rest := by simp
  rw [List.concat_eq_append, whole, whole, trimEndFilled full]

theorem feedInduction {motive : List Char → Prop} (alone : ∀ cs, '\n' ∉ cs → motive cs)
    (more : ∀ before after, '\n' ∉ before → motive after → motive (before ++ '\n' :: after))
    (cs : List Char) : motive cs := by
  by_cases feed : '\n' ∈ cs
  · obtain ⟨before, after, whole, free⟩ := List.eq_append_cons_of_mem feed
    exact whole ▸ more before after free (feedInduction alone more after)
  · exact alone cs feed
termination_by cs.length
decreasing_by
  simp only [whole, List.length_append, List.length_cons]
  omega

theorem memRowsPlain (free : '\n' ∉ cs) : row ∈ rows cs ↔ row = trimEnd cs ∧ row ≠ [] := by
  rw [rowsPlain free, List.mem_filter, List.mem_singleton]
  simp

theorem infixRow (solid : Solid part) (inside : part <:+: cs) :
    ∃ row ∈ rows cs, part <:+: row := by
  induction cs using feedInduction with
  | alone cs free =>
      have trimmed := infixTrim solid inside
      refine ⟨_, (memRowsPlain free).mpr ⟨rfl, fun none => solid.some ?_⟩, trimmed⟩
      exact List.infix_nil.mp (none ▸ trimmed)
  | more before after free ih =>
      rw [rowsSplit]
      rcases infixSplit solid.noFeed inside with first | later
      · have trimmed := infixTrim solid first
        refine ⟨_, List.mem_append_left _ ((memRowsPlain free).mpr ⟨rfl, fun none => ?_⟩), trimmed⟩
        exact solid.some (List.infix_nil.mp (none ▸ trimmed))
      · obtain ⟨row, member, own⟩ := ih later
        exact ⟨row, List.mem_append_right _ member, own⟩

theorem rowInfix (member : row ∈ rows cs) : row <:+: cs := by
  induction cs using feedInduction with
  | alone cs free =>
      obtain ⟨rfl, -⟩ := (memRowsPlain free).mp member
      exact (trimEndPrefix cs).isInfix
  | more before after free ih =>
      rw [rowsSplit] at member
      rcases List.mem_append.mp member with first | later
      · obtain ⟨rfl, -⟩ := (memRowsPlain free).mp first
        exact (trimEndPrefix before).isInfix.trans (List.prefix_append ..).isInfix
      · exact (ih later).trans (List.suffix_append_of_suffix (List.suffix_cons ..)).isInfix

theorem memRowsOf {ls : List Line} (member : row ∈ Code.rowsOf (ls.map Code.lineText)) :
    ∃ l ∈ ls, row <:+: (Code.lineText l).toList := by
  obtain ⟨text, known, own⟩ := List.mem_flatMap.mp member
  obtain ⟨l, listed, rfl⟩ := List.mem_map.mp known
  exact ⟨l, listed, rowInfix own⟩

def headWords : List String :=
  [generatedNotice, "import (", ")", "context", "database/sql", "encoding/csv", "encoding/json",
    "errors", "fmt", "net/http", "strconv", "strings", "time", "github.com/gin-gonic/gin", "dto",
    "handlers", "models", "repository"]

structure Foreign (part : String) : Prop where
  solid : Solid part.toList
  free : '\t' ∉ part.toList ∧ '"' ∉ part.toList ∧ '/' ∉ part.toList
  absent : ∀ word ∈ headWords, ¬Occurs part word

theorem Foreign.path {part goModule : String} (foreign : Foreign part) {p : Package}
    (occurs : Occurs part (p.path goModule)) : Occurs part goModule := by
  have own (last : String) (known : last ∈ headWords)
      (occurs : Occurs part (goModule ++ ("/" ++ last))) : Occurs part goModule := by
    have split : (goModule ++ ("/" ++ last)).toList = goModule.toList ++ '/' :: last.toList := by
      simp
    rw [Occurs, split] at occurs
    exact (infixSplit foreign.free.2.2 occurs).resolve_right (foreign.absent last known)
  cases p with
  | dto => exact own "dto" (by decide) occurs
  | handlers => exact own "handlers" (by decide) occurs
  | models => exact own "models" (by decide) occurs
  | repository => exact own "repository" (by decide) occurs
  | _ =>
      refine absurd occurs (foreign.absent _ ?_)
      simp [headWords, Package.path, Package.name]

theorem Foreign.importText {part goModule : String} (foreign : Foreign part) {p : Package}
    (occurs : Occurs part (Go.importText goModule p)) : Occurs part goModule := by
  have whole : (Go.importText goModule p).toList =
      [] ++ '\t' :: ([] ++ '"' :: ((p.path goModule).toList ++ '"' :: [])) := by
    simp [Go.importText]
  obtain ⟨tab, quote, -⟩ := foreign.free
  have none : ¬part.toList <:+: [] := mt List.infix_nil.mp foreign.solid.some
  rw [Occurs, whole] at occurs
  have quoted := (infixSplit quote ((infixSplit tab occurs).resolve_left none)).resolve_left none
  exact foreign.path ((infixSplit quote quoted).resolve_right none)

theorem Foreign.inFile {part goModule : String} {f : GoFile} (foreign : Foreign part)
    (package : ¬Occurs part ("package " ++ f.package)) (occurs : Occurs part (f.text goModule)) :
    Occurs part goModule ∨ ∃ l ∈ f.body, Occurs part (Code.lineText l) := by
  have alone {word : String} (known : word ∈ headWords) :
      ¬Occurs part (Code.lineText (Code.plain word)) := by
    simpa [Code.plain, Fragment.string] using foreign.absent word known
  obtain ⟨row, member, inside⟩ := infixRow foreign.solid occurs
  have within {ls : List Line} (member : row ∈ Code.rowsOf (ls.map Code.lineText)) :
      ∃ l ∈ ls, Occurs part (Code.lineText l) := by
    obtain ⟨l, listed, own⟩ := memRowsOf member
    exact ⟨l, listed, inside.trans own⟩
  rw [GoFile.text, Code.rowsOfFile, GoFile.lines, List.map_append, List.map_append,
    Code.rowsOfAppend, Code.rowsOfAppend, Go.blockRows, List.append_assoc] at member
  rcases List.mem_append.mp member with head | member
  · obtain ⟨l, listed, own⟩ := within head
    simp only [List.mem_cons, List.not_mem_nil, or_false] at listed
    rcases listed with rfl | rfl | rfl
    · exact absurd own (alone (by decide))
    · exact absurd (List.infix_nil.mp own) foreign.solid.some
    · exact absurd own (by simpa [Code.plain, Fragment.string] using package)
  rcases List.mem_append.mp member with imported | body
  · by_cases none : f.imports.flatten = []
    · rw [if_pos none] at imported
      exact absurd imported List.not_mem_nil
    · rw [if_neg none] at imported
      rcases List.mem_cons.mp imported with opens | imported
      · have opening : ¬part.toList <:+: "import (".toList := foreign.absent "import (" (by decide)
        exact absurd (opens ▸ inside) opening
      rcases List.mem_append.mp imported with listed | ended
      · obtain ⟨p, -, own⟩ := List.mem_flatMap.mp listed
        exact .inl (foreign.importText (inside.trans (rowInfix own)))
      · have closing : ¬part.toList <:+: [')'] := foreign.absent ")" (by decide)
        exact absurd (List.mem_singleton.mp ended ▸ inside) closing
  · exact .inr (within body)

structure Apart (a b : Char) (cs : List Char) : Prop where
  inside : ¬[a, ' ', b] <:+: cs
  first : ¬[' ', b] <+: cs
  last : ¬[a, ' '] <:+ cs
  more : cs ≠ [' ']

instance (a b : Char) (cs : List Char) : Decidable (Apart a b cs) :=
  have : Decidable ([a, ' ', b] <:+: cs) := List.instDecidableIsInfixOfDecidableEq _ _
  decidable_of_iff (¬[a, ' ', b] <:+: cs ∧ ¬[' ', b] <+: cs ∧ ¬[a, ' '] <:+ cs ∧ cs ≠ [' '])
    ⟨fun held => ⟨held.1, held.2.1, held.2.2.1, held.2.2.2⟩,
      fun apart => ⟨apart.inside, apart.first, apart.last, apart.more⟩⟩

def KeepsApart (a b : Char) (text : String) : Prop := Apart a b text.toList

variable {a b : Char} {xs ys : List Char}

theorem apartUnblank (free : ' ' ∉ cs) : Apart a b cs where
  inside := fun occurs => free (occurs.subset (by simp))
  first := fun starts => free (starts.subset (by simp))
  last := fun ends => free (ends.subset (by simp))
  more := fun blank => free (by simp [blank])

theorem pairAppend {c d : Char} (one : ¬[c, d] <+: xs) (other : ¬[c, d] <+: ys)
    (more : xs ≠ [c]) : ¬[c, d] <+: xs ++ ys := by
  intro starts
  rcases xs with - | ⟨x, - | ⟨y, rest⟩⟩
  · exact other starts
  · obtain ⟨rfl, -⟩ := List.cons_prefix_cons.mp starts
    exact more rfl
  · simp only [List.cons_append, List.cons_prefix_cons] at starts
    obtain ⟨rfl, rfl, -⟩ := starts
    exact one ⟨rest, rfl⟩

theorem Apart.append (one : Apart a b xs) (other : Apart a b ys) : Apart a b (xs ++ ys) where
  inside := by
    rw [List.infix_append_iff]
    rintro (own | own | ⟨front, back, whole, first, last⟩)
    · exact one.inside own
    · exact other.inside own
    · rcases front with - | ⟨c, - | ⟨d, - | ⟨e, more⟩⟩⟩
      · exact other.inside (by simpa [whole] using last.isInfix)
      · obtain ⟨-, rfl⟩ := List.cons.inj whole
        exact other.first last
      · simp only [List.cons_append, List.nil_append, List.cons.injEq] at whole
        obtain ⟨rfl, rfl, -⟩ := whole
        exact one.last first
      · simp only [List.cons_append, List.cons.injEq] at whole
        obtain ⟨rfl, rfl, rfl, none⟩ := whole
        rw [(List.append_eq_nil_iff.mp none.symm).1] at first
        exact one.inside first.isInfix
  first := pairAppend one.first other.first one.more
  last := by
    have turned {cs : List Char} : [a, ' '] <:+ cs ↔ [' ', a] <+: cs.reverse :=
      List.reverse_prefix.symm
    rw [turned, List.reverse_append]
    refine pairAppend (mt turned.mpr other.last) (mt turned.mpr one.last) fun alone => other.more ?_
    simpa using congrArg List.reverse alone
  more := by
    intro blank
    rcases List.append_eq_singleton_iff.mp blank with ⟨-, alone⟩ | ⟨alone, -⟩
    · exact other.more alone
    · exact one.more alone

theorem keepsApart (apart : Apart a b cs) : KeepsApart a b (String.ofList cs) :=
  (String.toList_ofList.symm ▸ apart : Apart a b _)

instance : Joins (KeepsApart a b) where
  empty := apartUnblank (by simp)
  append one other := (String.toList_append ▸ one.append other : Apart a b _)

end RestScaffold.Text
