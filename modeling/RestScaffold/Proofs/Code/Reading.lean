import RestScaffold.Proofs.Code.Words

/-! What generated code is read as. Lines are put together from fragments, and where no word goes
from one fragment into the next, the words of a line are those of its fragments. -/
namespace RestScaffold
open Layout Text Word Code

namespace Code

variable {P : Word → Prop} {good : Word → Bool} {n c : Char} {s t : String} {l : Line}
  {ls more : List Line}

theorem lineJoins (parts : List Line) :
    lineText (line parts) = String.join (parts.map lineText) := by
  induction parts with
  | nil => rfl
  | cons p rest ih =>
      rw [line, List.flatten_cons, textAppend, List.map_cons, String.join_cons]
      exact congrArg _ ih

structure Fits (P : Word → Prop) (n : Char) (s : String) : Prop where
  reads : Reads P s.toList n
  oneLine : OneLine s

def FitsWord (P : Word → Prop) (n : Char) (s : String) : Prop :=
  (∀ c ∈ s.toList, inWord c = true) ∧ inWord n = false ∧ P ⟨s.toList, .of n⟩

theorem FitsWord.fits (word : FitsWord P n s) : Fits P n s := by
  obtain ⟨inside, outside, known⟩ := word
  exact ⟨readsWord inside outside known, fun feed => absurd (inside _ feed) (by decide)⟩

theorem fitsEmpty : Fits P n "" := ⟨readsNil, by decide⟩

theorem Fits.append (one : Fits P (t.toList.headD n) s) (other : Fits P n t) : Fits P n (s ++ t) :=
  ⟨by
    rw [String.toList_append]
    exact one.reads.append other.reads, by simp [one.oneLine, other.oneLine]⟩

theorem Fits.apart (fits : Fits P 'a' s) (n : Char) : Fits P n s :=
  ⟨fits.reads.apart n, fits.oneLine⟩

theorem Fits.line (fits : Fits P '\n' s) : Ends s.toList ∧ ∀ w ∈ ofLine s.toList, P w :=
  fits.reads.line

def Checked (good : Word → Bool) (n : Char) (cs : List Char) : Prop :=
  check good n cs = true ∧ '\n' ∉ cs

instance (good : Word → Bool) (n : Char) (cs : List Char) : Decidable (Checked good n cs) :=
  inferInstanceAs (Decidable (_ ∧ _))

theorem fitsFixed (sound : ∀ w, good w = true → P w) {cs : List Char}
    (checked : Checked good n cs) : Fits P n (String.ofList cs) :=
  ⟨by
    rw [String.toList_ofList]
    exact readsCheck sound checked.1, oneLineFixed checked.2⟩

theorem fitsText (sound : ∀ w, good w = true → P w) (checked : Checked good n s.toList) :
    Fits P n s := by
  rw [← String.ofList_toList (s := s)]
  exact fitsFixed sound checked

theorem fitsWordless {cs : List Char} (checked : Checked (fun _ => false) n cs) :
    Fits P n (String.ofList cs) :=
  fitsFixed (fun _ holds => absurd holds Bool.false_ne_true) checked

def Follows (P : Word → Prop) (c : Char) (s : String) : Prop :=
  ∀ t more n, Fits P c t → Fits P ((s ++ more).toList.headD n) t

theorem followsFirst (begins : s.toList.head? = some c) : Follows P c s := by
  intro t more n fits
  obtain ⟨rest, own⟩ := List.head?_eq_some_iff.mp begins
  rw [String.toList_append, own]
  exact fits

theorem followsAnything : Follows P 'a' s := fun _ _ _ fits => fits.apart _

def Part (P : Word → Prop) (c n : Char) (s : String) : Prop := Fits P n s ∧ Follows P c s

theorem FitsWord.part (word : FitsWord P n s) : Part P 'a' n s := ⟨word.fits, followsAnything⟩

theorem fixedPart (sound : ∀ w, good w = true → P w) {cs : List Char}
    (checked : Checked good n (c :: cs)) : Part P c n (String.ofList (c :: cs)) :=
  ⟨fitsFixed sound checked, followsFirst (by simp)⟩

def Raw (s : String) : Prop := '`' ∉ s.toList ∧ OneLine s

instance (s : String) : Decidable (Raw s) := inferInstanceAs (Decidable (_ ∧ _))

theorem rawPart (raw : Raw s) :
    Part P '`' n ("`" ++ s ++ "`") := by
  have split : ("`" ++ s ++ "`").toList = '`' :: (s.toList ++ ['`']) := by simp
  have mark : OneLine "`" := by decide
  have reads : Reads P ("`" ++ s ++ "`").toList n := by
    rw [split]
    exact readsRaw raw.1 n
  exact ⟨⟨reads, by simp [raw.2, mark]⟩, followsFirst (by rw [split, List.head?_cons])⟩

theorem fitsComment (oneLine : OneLine s) : Fits P '\n' ("// " ++ s) := by
  have opening : OneLine "// " := by decide
  have noFeed : '\n' ∉ ' ' :: s.toList := by simpa [OneLine] using oneLine
  refine ⟨?_, by simp [opening, oneLine]⟩
  rw [String.toList_append]
  exact readsComment noFeed

structure Untagged (P : Word → Prop) (t : String) : Prop where
  oneLine : OneLine t
  reads : Reads P (Word.untagged t.toList) '\n'

theorem Fits.untagged (fits : Fits P '\n' t) (none : '`' ∉ t.toList) : Untagged P t :=
  ⟨fits.oneLine, (untaggedWhole none).symm ▸ fits.reads⟩

theorem untaggedComment (oneLine : OneLine s) : Untagged P ("// " ++ s) := by
  have opening : OneLine "// " := by decide
  have whole : ("// " ++ s).toList = '/' :: '/' :: ' ' :: s.toList := by simp
  refine ⟨by simp [opening, oneLine], ?_⟩
  rw [whole, Word.untagged, List.takeWhile_cons_of_pos (by decide),
    List.takeWhile_cons_of_pos (by decide)]
  refine readsComment fun feed => ?_
  have inside := (List.takeWhile_sublist _).subset feed
  exact oneLine ((List.mem_cons.mp inside).resolve_left (by decide))

theorem untaggedAt {rest : String} (fits : Fits P '\n' t) (none : '`' ∉ t.toList)
    (oneLine : OneLine rest) : Untagged P (t ++ "`" ++ rest) := by
  have mark : OneLine "`" := by decide
  have whole : (t ++ "`" ++ rest).toList = t.toList ++ '`' :: rest.toList := by simp
  refine ⟨by simp [fits.oneLine, mark, oneLine], ?_⟩
  rw [whole, untaggedTag none]
  exact fits.reads

/-- One rule for each kind of fragment. The index is the character the line begins with, or the one
that follows it where the line is empty. -/
inductive Spells (P : Word → Prop) (good : Word → Bool) : Char → Line → Prop
  | nil : Spells P good '\n' []
  | empty {n : Char} {rest : Line} (later : Spells P good n rest) :
      Spells P good n (.text "" :: rest)
  | fixed {c n : Char} {cs : List Char} {rest : Line} (later : Spells P good n rest)
      (checked : Checked good n (c :: cs)) :
      Spells P good c (.text (String.ofList (c :: cs)) :: rest)
  | raw {n : Char} {s : String} {rest : Line} (later : Spells P good n rest) (raw : Raw s) :
      Spells P good '`' (.text ("`" ++ s ++ "`") :: rest)
  | split {c : Char} {s t : String} {rest : Line}
      (spells : Spells P good c (.text s :: .text t :: rest)) :
      Spells P good c (.text (s ++ t) :: rest)
  | imported {n : Char} {p : Package} {name : String} {rest : Line} (later : Spells P good n rest)
      (word : FitsWord P n (p.name ++ "." ++ name)) : Spells P good 'a' (.imported p name :: rest)
  | own {n : Char} {name : String} {rest : Line} (later : Spells P good n rest)
      (word : FitsWord P n name) : Spells P good 'a' (.own name :: rest)
  | declared {n : Char} {name : String} {rest : Line} (later : Spells P good n rest)
      (word : FitsWord P n name) : Spells P good 'a' (.declared name :: rest)
  | word {n : Char} {s : String} {rest : Line} (later : Spells P good n rest)
      (word : FitsWord P n s) : Spells P good 'a' (.text s :: rest)
  | text {c n : Char} {s : String} {rest : Line} (later : Spells P good n rest)
      (part : Part P c n s) : Spells P good c (.text s :: rest)
  | parts {n : Char} {s t : String} {rest : Line} (later : Spells P good n rest)
      (word : FitsWord P n (s ++ t)) : Spells P good 'a' (.text s :: .text t :: rest)

theorem Part.append (part : Part P c n s) {more : String} (later : Fits P '\n' more)
    (follows : ∀ t, Fits P n t → Fits P (more.toList.headD '\n') t) :
    Fits P '\n' (s ++ more) ∧ ∀ t, Fits P c t → Fits P ((s ++ more).toList.headD '\n') t :=
  ⟨(follows s part.1).append later, fun t fits => part.2 t more '\n' fits⟩

theorem Spells.fits (sound : ∀ w, good w = true → P w) (spells : Spells P good c l) :
    Fits P '\n' (lineText l) ∧
      ∀ t, Fits P c t → Fits P ((lineText l).toList.headD '\n') t := by
  induction spells with
  | nil => exact ⟨fitsEmpty, fun _ fits => fits⟩
  | empty later ih =>
      rw [textCons, Fragment.stringText, String.empty_append]
      exact ih
  | fixed later checked ih =>
      rw [textCons]
      exact (fixedPart sound checked).append ih.1 ih.2
  | text later part ih =>
      rw [textCons]
      exact part.append ih.1 ih.2
  | raw later raw ih =>
      rw [textCons]
      exact (rawPart raw).append ih.1 ih.2
  | split spells ih => simpa [String.append_assoc] using ih
  | imported later word ih | own later word ih | declared later word ih | word later word ih =>
      rw [textCons]
      exact word.part.append ih.1 ih.2
  | parts later word ih =>
      rw [textCons, textCons, ← String.append_assoc]
      exact word.part.append ih.1 ih.2

theorem spelledLine (sound : ∀ w, good w = true → P w) (spells : Spells P good c l) :
    Fits P '\n' (lineText l) := (spells.fits sound).1

def AllFit (P : Word → Prop) (ls : List Line) : Prop := ∀ l ∈ ls, Fits P '\n' (lineText l)

@[simp]
theorem allFitNil : AllFit P [] := nofun

@[simp]
theorem allFitCons : AllFit P (l :: ls) ↔ Fits P '\n' (lineText l) ∧ AllFit P ls :=
  List.forall_mem_cons

@[simp]
theorem allFitAppend : AllFit P (ls ++ more) ↔ AllFit P ls ∧ AllFit P more :=
  List.forall_mem_append

@[simp]
theorem allFitMap {α : Type} {items : List α} {code : α → Line} :
    AllFit P (items.map code) ↔ ∀ a ∈ items, Fits P '\n' (lineText (code a)) :=
  List.forall_mem_map

@[simp]
theorem allFitFlatMap {α : Type} {items : List α} {code : α → List Line} :
    AllFit P (items.flatMap code) ↔ ∀ a ∈ items, AllFit P (code a) := by
  simp only [AllFit, List.mem_flatMap]
  grind

@[simp]
theorem allFitOption {α : Type} {item : Option α} {code : α → List Line} :
    AllFit P ((item.map code).getD []) ↔ ∀ a ∈ item, AllFit P (code a) := by
  cases item with
  | none => exact ⟨fun _ => nofun, fun _ => nofun⟩
  | some a => simp

def Shift (step : String) : Prop := OneLine step ∧ run .code step.toList = ([], .code)

instance (step : String) : Decidable (Shift step) := inferInstanceAs (Decidable (_ ∧ _))

theorem fitsShifted {step : String} (shift : Shift step) : Fits P n (step ++ s) ↔ Fits P n s := by
  obtain ⟨oneLine, plain⟩ := shift
  have same : run .code (step ++ s).toList = run .code s.toList := by
    rw [String.toList_append, runAppend, plain, List.nil_append]
  constructor
  · rintro ⟨⟨words, finished⟩, both⟩
    rw [same] at words finished
    exact ⟨⟨words, finished⟩, (oneLineAppend.mp both).2⟩
  · rintro ⟨⟨words, finished⟩, own⟩
    rw [← same] at words finished
    exact ⟨⟨words, finished⟩, oneLineAppend.mpr ⟨oneLine, own⟩⟩

theorem allFitIndented {step : String} (shift : Shift step) :
    AllFit P (indented step ls) ↔ AllFit P ls := by
  simp [AllFit, indented, fitsShifted shift]

theorem fitsClosing : Fits P n "\x7d" :=
  fitsWordless ⟨by cases h : n == '\n' <;> rfl, by decide⟩

@[simp]
theorem allFitBlock (head : Line) : AllFit P (Go.block head ls) ↔
    Fits P '\n' (lineText (line [head, " \x7b"])) ∧ AllFit P ls := by
  have tab : Shift "\t" := by decide
  rw [Go.block, block, allFitAppend, allFitCons, allFitIndented tab, allFitCons, plainText]
  simp [fitsClosing, allFitNil]

@[simp]
theorem allFitIf (condition : Line) : AllFit P (Go.ifBlock condition ls) ↔
    Fits P '\n' (lineText (line [line ["if ", condition], " \x7b"])) ∧ AllFit P ls := by
  rw [Go.ifBlock, allFitBlock]

@[simp]
theorem allFitIfElse (condition : Line) : AllFit P (Go.ifElse condition ls more) ↔
    Fits P '\n' (lineText (line ["if ", condition, " \x7b"])) ∧ AllFit P ls ∧
      Fits P '\n' (lineText (plain "\x7d else \x7b")) ∧ AllFit P more := by
  have tab : Shift "\t" := by decide
  have closing : Fits P '\n' (lineText (plain "\x7d")) := (plainText _).symm ▸ fitsClosing
  simp only [Go.ifElse, List.cons_append, List.append_assoc, allFitAppend, allFitCons, allFitNil,
    allFitIndented tab, closing, List.nil_append, and_true]

@[simp]
theorem allFitFunction (comment : Option String) (head : Line) :
    AllFit P (Go.function comment head ls) ↔ (∀ c ∈ comment, Fits P '\n' ("// " ++ c)) ∧
      Fits P '\n' (lineText (line [line ["func ", head], " \x7b"])) ∧ AllFit P ls := by
  have told : AllFit P (comment.map fun c => plain ("// " ++ c)).toList ↔
      ∀ c ∈ comment, Fits P '\n' ("// " ++ c) := by
    cases comment <;> simp [allFitCons, allFitNil, plainText]
  rw [Go.function, List.cons_append, allFitCons, allFitAppend, allFitBlock, told]
  simp [blank, fitsEmpty]

theorem allFitStruct {comment : String} (oneLine : OneLine comment) (name : String) :
    AllFit P (Go.struct comment name ls) ↔
      Fits P '\n' (lineText (line [line ["type ", declared name, " struct"], " \x7b"])) ∧
        AllFit P ls := by
  rw [Go.struct, allFitAppend, allFitCons, allFitCons, allFitBlock, plainText]
  simp [blank, fitsEmpty, fitsComment oneLine, allFitNil]

end Code
end RestScaffold
