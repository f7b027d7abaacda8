import RestScaffold.Proofs.Code.Outline
import RestScaffold.Proofs.Code.Reading

/-! What a file of the server's code declares, read off its rows: types, constants, variables and
functions by name, methods and structs with the rows inside them. -/
namespace RestScaffold.Go
open Code Layout Text Word

def declaration? (row : List Char) : Option String :=
  if begins "type " row then some (upTo ' ' (row.drop 5))
  else if begins "const " row then some (upTo ' ' (row.drop 6))
  else if begins "var " row then some (upTo ' ' (row.drop 4))
  else if begins "func (" row then none
  else if begins "func " row then some (upTo '(' (row.drop 5))
  else none

def declarations (text : String) : List String := (codeRows text).filterMap declaration?

def method? (row : List Char) : Option String :=
  if begins "func (" row then some (upTo '(' ((row.dropWhile (· ≠ ')')).drop 2)) else none

def methods (text : String) : List (String × List (List Char)) := blocks method? (codeRows text)

def declaredMethods (text : String) : List String := (methods text).map Prod.fst

/-- The structs with that name have a field with this one. -/
def HasField (text struct field : String) : Prop :=
  ∃ inside, (struct, inside) ∈ blocks opensStruct? (codeRows text) ∧
    field ∈ inside.map fun row => upTo ' ' (row.drop 1)

def Margin (ls : List Line) : Prop := ∀ l ∈ ls, (lineText l).toList.head? ≠ some ')'

section
variable {ls more : List Line} {l : Line}

@[simp]
theorem marginNil : Margin [] := nofun

@[simp]
theorem marginCons : Margin (l :: ls) ↔ (lineText l).toList.head? ≠ some ')' ∧ Margin ls :=
  List.forall_mem_cons

@[simp]
theorem marginAppend : Margin (ls ++ more) ↔ Margin ls ∧ Margin more := List.forall_mem_append

@[simp]
theorem marginFlatMap {α : Type} {items : List α} {code : α → List Line} :
    Margin (items.flatMap code) ↔ ∀ a ∈ items, Margin (code a) := by
  simp only [Margin, List.mem_flatMap]
  grind

@[simp]
theorem marginOption {α : Type} {item : Option α} {code : α → List Line} :
    Margin ((item.map code).getD []) ↔ ∀ a ∈ item, Margin (code a) := by
  cases item with
  | none => exact ⟨fun _ => nofun, fun _ => nofun⟩
  | some a => simp

@[simp]
theorem marginIndented : Margin (indented "\t" ls) := List.forall_mem_map.mpr fun l _ => by simp

@[simp]
theorem marginBlock (head : Line) :
    Margin (block head ls) ↔ (lineText head).toList.head? ≠ some ')' := by
  have first : (lineText (line [head, " \x7b"])).toList.head? ≠ some ')' ↔
      (lineText head).toList.head? ≠ some ')' := by
    cases own : (lineText head).toList <;> simp [line, own]
  rw [block, Code.block, marginAppend, marginCons, first]
  simp [plainText]

@[simp]
theorem marginFunction (comment : Option String) (head : Line) :
    Margin (function comment head ls) := by
  have told : Margin (comment.map fun c => plain ("// " ++ c)).toList := by
    cases comment <;> simp [plainText]
  rw [function, List.cons_append, marginCons, marginAppend, marginBlock]
  simp [told, blank, line]

theorem structHead (comment name : String) : ∀ l ∈ struct comment name ls,
    (lineText l).toList.head? ∈ [none, some '/', some 't', some '\t', some '\x7d'] := by
  have inside : ∀ l ∈ indented "\t" ls, (lineText l).toList.head? = some '\t' :=
    List.forall_mem_map.mpr fun l _ => by simp
  intro l member
  simp only [struct, block, Code.block, List.mem_append, List.mem_cons, List.not_mem_nil,
    or_false] at member
  rcases member with (rfl | rfl) | (rfl | tabbed) | rfl
  · simp [blank]
  · simp [plainText]
  · simp [line]
  · simp [inside l tabbed]
  · simp [plainText]

@[simp]
theorem marginStruct (comment name : String) : Margin (struct comment name ls) := by
  intro l member closing
  have known := structHead comment name l member
  rw [closing] at known
  exact absurd known (by decide)

end

structure Legible (f : GoFile) : Prop where
  package : Solid ("package " ++ f.package).toList
  oneLine : ∀ l ∈ f.body, OneLine (lineText l)
  margin : Margin f.body

variable {f : GoFile} {goModule : String} {l : Line} {row : List Char} {name : String}

namespace Legible

variable (legible : Legible f)
include legible

theorem codeSplit (goModule : String) :
    ∃ front, (∀ t ∈ front, t = generatedNotice ∨ t = "package " ++ f.package) ∧
      codeRows (f.text goModule) = rowsOf (front ++ f.body.map lineText) := by
  have closed : ∀ row ∈ rowsOf (f.body.map lineText), row ≠ [')'] := by
    intro row member same
    obtain ⟨t, known, own⟩ := List.mem_flatMap.mp member
    obtain ⟨l, line, rfl⟩ := List.mem_map.mp known
    refine legible.margin l line ?_
    rw [← rowHead (legible.oneLine l line) own, same, List.head?_cons]
  obtain ⟨front, notices, split⟩ := codeRowsOf legible.package closed goModule
  have known : ∀ t ∈ front.map String.ofList,
      t = generatedNotice ∨ t = "package " ++ f.package := by
    refine List.forall_mem_map.mpr fun row member => (notices row member).imp ?_ ?_
    all_goals exact fun same => same ▸ String.ofList_toList
  refine ⟨front.map String.ofList, known, ?_⟩
  have notice : Solid generatedNotice.toList := by
    have split : generatedNotice.toList = generatedNotice.toList.dropLast ++ ['.'] := by decide
    rw [split]
    exact solidConcat (by decide) (by decide)
  have solid : ∀ t ∈ front.map String.ofList, Solid t.toList := fun t member => by
    rcases known t member with rfl | rfl
    · exact notice
    · exact legible.package
  have rows : (front.map String.ofList).map String.toList = front := by simp
  rw [split, rowsOfAppend, rowsOfSolid solid, rows]

omit legible in
theorem noticeFits {P : Word → Prop} : Fits P '\n' generatedNotice := fitsWordless (by decide)

theorem words {P : Word → Prop} (fit : AllFit P f.body)
    (clause : Fits P '\n' ("package " ++ f.package)) (goModule : String) :
    ∀ w ∈ ofRows (codeRows (f.text goModule)), P w := by
  obtain ⟨front, own, split⟩ := legible.codeSplit goModule
  have each : ∀ t ∈ front ++ f.body.map lineText, Fits P '\n' t := by
    refine List.forall_mem_append.mpr ⟨fun t member => ?_, List.forall_mem_map.mpr fit⟩
    rcases own t member with rfl | rfl
    · exact noticeFits
    · exact clause
  rw [split, ofRowsLines fun t member => (each t member).line.1]
  intro w member
  obtain ⟨t, known, inside⟩ := List.mem_flatMap.mp member
  exact (each t known).line.2 w inside

theorem untaggedWords {P : Word → Prop} (fit : ∀ t ∈ f.body.map lineText, Untagged P t)
    (clause : Untagged P ("package " ++ f.package)) (goModule : String) :
    ∀ w ∈ ofRows ((codeRows (f.text goModule)).map untagged), P w := by
  obtain ⟨front, own, split⟩ := legible.codeSplit goModule
  have each : ∀ t ∈ front ++ f.body.map lineText, Untagged P t := by
    refine List.forall_mem_append.mpr ⟨fun t member => ?_, fit⟩
    rcases own t member with rfl | rfl
    · exact noticeFits.untagged (by decide)
    · exact clause
  rw [split, ofRowsUntagged (fun t member => (each t member).oneLine)
    fun t member => (each t member).reads.line.1]
  intro w member
  obtain ⟨t, known, inside⟩ := List.mem_flatMap.mp member
  exact (each t known).reads.line.2 w inside

theorem shows (before ls after : List Line) (body : f.body = before ++ ls ++ after)
    (goModule : String) : ∃ above below, codeRows (f.text goModule) =
      above ++ rowsOf (ls.map lineText) ++ below := by
  obtain ⟨front, -, split⟩ := legible.codeSplit goModule
  exact ⟨rowsOf (front ++ before.map lineText), rowsOf (after.map lineText), by
    simp only [split, body, List.map_append, rowsOfAppend, List.append_assoc]⟩

theorem solidRow (member : l ∈ f.body) (solid : Solid (lineText l).toList) (goModule : String) :
    (lineText l).toList ∈ codeRows (f.text goModule) := by
  obtain ⟨before, after, body⟩ := List.append_of_mem member
  obtain ⟨above, below, split⟩ := legible.shows before [l] after (by simpa using body) goModule
  rw [split, rowsOfSolid (by simpa using solid)]
  simp

end Legible

theorem notOpening {c : Char} (other : row.head? ≠ some c) {start : String}
    (first : start.toList.head? = some c) : begins start row = false := by
  obtain ⟨rest, own⟩ := List.head?_eq_some_iff.mp first
  refine Bool.eq_false_iff.mpr fun opened => other ?_
  obtain ⟨after, whole⟩ := List.isPrefixOf_iff_prefix.mp opened
  rw [← whole, own, List.cons_append, List.head?_cons]

def Heads (name : String) (head : Line) : Prop :=
  '(' ∉ name.toList ∧ name ≠ "" ∧
    ∃ parameters, (lineText head).toList = name.toList ++ '(' :: parameters

def HeadsMethod (name : String) (head : Line) : Prop :=
  '(' ∉ name.toList ∧ ∃ receiver parameters, ')' ∉ receiver ∧ (lineText head).toList =
    '(' :: (receiver ++ ')' :: ' ' :: (name.toList ++ '(' :: parameters))

theorem headsDeclared (bare : '(' ∉ name.toList) (full : name ≠ "") {t : String} {rest : Line}
    (opens : t.toList.head? = some '(') : Heads name (.declared name :: .text t :: rest) := by
  obtain ⟨more, own⟩ := List.head?_eq_some_iff.mp opens
  exact ⟨bare, full, more ++ (lineText rest).toList, by simp [own]⟩

theorem headsReceiver (bare : '(' ∉ name.toList) {type : String} (closed : ')' ∉ type.toList)
    {c : Char} (other : c ≠ ')') {rest : Line} :
    HeadsMethod name (.text (String.ofList ['(', c, ' ', '*']) :: .own type :: .text ") " ::
      .declared name :: .text "(" :: rest) :=
  ⟨bare, c :: ' ' :: '*' :: type.toList, (lineText rest).toList, by simp [closed, Ne.symm other],
    by simp⟩

theorem namedFirst (bare : '(' ∉ name.toList) (full : name ≠ "") (parameters : List Char) :
    begins "(" (name.toList ++ '(' :: parameters) = false := by
  refine notOpening (c := '(') ?_ rfl
  obtain ⟨c, rest, own⟩ := List.exists_cons_of_ne_nil (show name.toList ≠ [] by simpa using full)
  rw [own, List.cons_append, List.head?_cons]
  exact fun same => bare (own ▸ Option.some.inj same ▸ List.mem_cons_self)

theorem declarationFunction {parameters : List Char} (bare : '(' ∉ name.toList) (full : name ≠ "") :
    declaration? ("func ".toList ++ (name.toList ++ '(' :: parameters)) = Option.some name := by
  have first := namedFirst bare full parameters
  have other : ∀ cs, begins "type " ("func ".toList ++ cs) = false ∧
      begins "const " ("func ".toList ++ cs) = false ∧
      begins "var " ("func ".toList ++ cs) = false ∧
      begins "func (" ("func ".toList ++ cs) = begins "(" cs ∧
      begins "func " ("func ".toList ++ cs) = true ∧
      ("func ".toList ++ cs).drop 5 = cs := fun _ => ⟨rfl, rfl, rfl, rfl, rfl, rfl⟩
  obtain ⟨type, const, var, method, function, rest⟩ := other (name.toList ++ '(' :: parameters)
  simp only [declaration?, type, const, var, method, first, function, rest, Bool.false_eq_true,
    if_false, if_true]
  rw [upToFirst bare, String.ofList_toList]

theorem openingSolid {head : Line}
    (oneLine : OneLine (lineText (line [line ["func ", head], " \x7b"]))) :
    Solid (opening head) := by
  have text : lineText (line [line ["func ", head], " \x7b"]) =
      "func " ++ lineText head ++ " \x7b" := String.toList_inj.mp (openingText head)
  rw [text] at oneLine
  exact solidEnd oneLine rfl (by decide)

theorem methodNamed {receiver parameters : List Char} (closed : ')' ∉ receiver)
    (bare : '(' ∉ name.toList) :
    method? ("func (".toList ++ (receiver ++ ')' :: ' ' :: (name.toList ++ '(' :: parameters))) =
      some name := by
  have before : ∀ c ∈ "func (".toList ++ receiver, decide (c ≠ ')') = true := by
    intro c member
    refine decide_eq_true ?_
    rintro rfl
    simp [closed] at member
  have rest : ("func (".toList ++ (receiver ++ ')' :: ' ' ::
      (name.toList ++ '(' :: parameters))).dropWhile (· ≠ ')') =
        ')' :: ' ' :: (name.toList ++ '(' :: parameters) := by
    rw [← List.append_assoc, List.dropWhile_append_of_pos before,
      List.dropWhile_cons_of_neg (by decide)]
  rw [method?, if_pos (beginsAppend _ _), rest, List.drop_succ_cons, List.drop_succ_cons,
    List.drop_zero, upToFirst bare, String.ofList_toList]

theorem HeadsMethod.opens {head : Line} (heads : HeadsMethod name head) :
    method? (opening head) = some name := by
  obtain ⟨bare, receiver, parameters, closed, spelled⟩ := heads
  have split : opening head = "func (".toList ++ (receiver ++ ')' :: ' ' ::
      (name.toList ++ '(' :: (parameters ++ " \x7b".toList))) := by
    rw [openingSplit, spelled]
    simp
  rw [split]
  exact methodNamed closed bare

theorem Heads.declares {head : Line} (heads : Heads name head) :
    declaration? (opening head) = some name ∧ method? (opening head) = none := by
  obtain ⟨bare, full, parameters, spelled⟩ := heads
  have same : ∀ cs, begins "func (" ("func ".toList ++ cs) = begins "(" cs := fun _ => rfl
  rw [openingSplit, spelled, List.append_assoc, List.cons_append]
  refine ⟨declarationFunction bare full, ?_⟩
  rw [method?, same, namedFirst bare full]
  rfl

section
variable {opens? : List Char → Option String} {before inside after : List (List Char)}

theorem blocksLater {block : String × List (List Char)} (member : block ∈ blocks opens? after) :
    block ∈ blocks opens? (before ++ after) := by
  induction before with
  | nil => exact member
  | cons row rest ih => exact List.mem_append_right _ ih

theorem blocksNamed (opened : opens? row = some name) {code : List (List Char)}
    (member : row ∈ code) : name ∈ (blocks opens? code).map Prod.fst := by
  obtain ⟨before, after, rfl⟩ := List.append_of_mem member
  refine List.mem_map.mpr ⟨(name, after.takeWhile (begins "\t")), blocksLater ?_, rfl⟩
  rw [blocks, opened]
  exact List.mem_cons_self

end

theorem declarationType (bare : ' ' ∉ name.toList) (rest : List Char) :
    declaration? ("type ".toList ++ (name.toList ++ ' ' :: rest)) = some name := by
  rw [declaration?, if_pos (beginsAppend _ _)]
  exact congrArg some ((upToFirst bare rest).trans String.ofList_toList)

theorem declarationVariable (bare : ' ' ∉ name.toList) (rest : List Char) :
    declaration? ("var ".toList ++ (name.toList ++ ' ' :: rest)) = some name := by
  have other : ∀ cs, begins "type " ("var ".toList ++ cs) = false ∧
      begins "const " ("var ".toList ++ cs) = false := fun _ => ⟨rfl, rfl⟩
  obtain ⟨type, const⟩ := other (name.toList ++ ' ' :: rest)
  simp only [declaration?, type, const, beginsAppend, Bool.false_eq_true, if_false, if_true]
  exact congrArg some ((upToFirst bare rest).trans String.ofList_toList)

theorem structOpening (name : String) : ("type " ++ name ++ " struct \x7b").toList =
    "type ".toList ++ (name.toList ++ ' ' :: "struct \x7b".toList) := by
  simp

def Tells (read? : List Char → Option String) (name : String) (ls : List Line) : Prop :=
  ∃ l ∈ ls, read? (lineText l).toList = some name ∧
    (OneLine (lineText l) → Solid (lineText l).toList)

section
variable {read? : List Char → Option String} {ls more : List Line} {head : Line}

theorem Tells.left (tells : Tells read? name ls) : Tells read? name (ls ++ more) := by
  obtain ⟨l, member, own⟩ := tells
  exact ⟨l, List.mem_append_left _ member, own⟩

theorem Tells.right (tells : Tells read? name more) : Tells read? name (ls ++ more) := by
  obtain ⟨l, member, own⟩ := tells
  exact ⟨l, List.mem_append_right _ member, own⟩

theorem tellsOption {α : Type} {a : α} {code : α → List Line} (tells : Tells read? name (code a)) :
    Tells read? name (((some a).map code).getD []) := tells

theorem tellsFlatMap {α : Type} {a : α} {items : List α} {code : α → List Line} (member : a ∈ items)
    (tells : Tells read? name (code a)) : Tells read? name (items.flatMap code) := by
  obtain ⟨l, inside, own⟩ := tells
  exact ⟨l, List.mem_flatMap.mpr ⟨a, member, inside⟩, own⟩

theorem tellsOpening {comment : Option String} (read : read? (opening head) = some name) :
    Tells read? name (function comment head ls) := by
  refine ⟨line [line ["func ", head], " \x7b"], List.mem_append_right _
    (List.mem_append_left _ List.mem_cons_self), ?_, fun oneLine => ?_⟩
  · rwa [openingText]
  · rw [openingText]
    exact openingSolid oneLine

theorem Heads.tells {comment : Option String} (heads : Heads name head) :
    Tells declaration? name (function comment head ls) := tellsOpening heads.declares.1

theorem HeadsMethod.tells {comment : Option String} (heads : HeadsMethod name head) :
    Tells method? name (function comment head ls) := tellsOpening heads.opens

theorem tellsStruct {comment : String} (bare : ' ' ∉ name.toList) :
    Tells declaration? name (struct comment name ls) := by
  have split : lineText (line [line ["type ", declared name, " struct"], " \x7b"]) =
      "type " ++ name ++ " struct \x7b" := by
    refine String.toList_inj.mp ?_
    simp [line, declared]
  refine ⟨line [line ["type ", declared name, " struct"], " \x7b"], List.mem_append_right _
    (List.mem_append_left _ List.mem_cons_self), ?_, fun oneLine => ?_⟩
  · rw [split, structOpening]
    exact declarationType bare _
  · rw [split] at oneLine ⊢
    exact solidEnd oneLine rfl (by decide)

end

namespace Legible

variable (legible : Legible f)
include legible

theorem tells {read? : List Char → Option String} (tells : Tells read? name f.body)
    (goModule : String) : ∃ row ∈ codeRows (f.text goModule), read? row = some name := by
  obtain ⟨l, member, read, solid⟩ := tells
  exact ⟨_, legible.solidRow member (solid (legible.oneLine l member)) goModule, read⟩

theorem declared (tells : Tells declaration? name f.body) (goModule : String) :
    name ∈ declarations (f.text goModule) := List.mem_filterMap.mpr (legible.tells tells goModule)

theorem declaredMethod (tells : Tells method? name f.body) (goModule : String) :
    name ∈ declaredMethods (f.text goModule) := by
  obtain ⟨row, member, read⟩ := legible.tells tells goModule
  exact blocksNamed read member

theorem printsDeclared {code more : List Line} (body : f.body = code ++ more)
    {structs : List (Struct String)} (prints : Prints code structs) {s : Struct String}
    (member : s ∈ structs) (regular : s.Regular) (goModule : String) :
    s.name ∈ declarations (f.text goModule) ∧
      ∀ field ∈ s.fields, HasField (f.text goModule) s.name field.name := by
  obtain ⟨above, below, shown⟩ := legible.shows [] code more (by simpa using body) goModule
  obtain ⟨shapes, rfl, comments, texts⟩ := prints
  obtain ⟨shape, known, rfl⟩ := List.mem_map.mp member
  obtain ⟨front, back, rfl⟩ := List.append_of_mem known
  obtain ⟨quiet, -, split⟩ := structRows (comments shape known) regular
  obtain ⟨before, after, whole⟩ : ∃ before after, codeRows (f.text goModule) =
      before ++ ("type " ++ shape.2.name ++ " struct \x7b").toList ::
        (shape.2.fields.map Field.row ++ ['\x7d'] :: after) := by
    have here : structTexts (front ++ shape :: back) =
        structTexts front ++ shape.2.texts shape.1 ++ structTexts back := by
      simp [structTexts]
    refine ⟨above ++ rowsOf (structTexts front) ++ quiet, rowsOf (structTexts back) ++ below, ?_⟩
    rw [shown, texts, here, rowsOfAppend, rowsOfAppend, split]
    simp
  constructor
  · refine List.mem_filterMap.mpr ⟨("type " ++ shape.2.name ++ " struct \x7b").toList, ?_, ?_⟩
    · rw [whole]
      simp
    · rw [structOpening]
      exact declarationType regular.name.1 _
  · intro field own
    have tabs : ∀ row ∈ shape.2.fields.map Field.row, begins "\t" row = true :=
      List.forall_mem_map.mpr fun f _ => beginsAppend "\t" _
    refine ⟨shape.2.fields.map Field.row, ?_, ?_⟩
    · rw [whole]
      refine blocksLater ?_
      rw [blocksFirst (structOpened regular.name.1) tabs (by decide)]
      exact List.mem_cons_self
    · refine List.mem_map.mpr ⟨field.row, List.mem_map_of_mem own, ?_⟩
      rw [fieldRow, List.drop_succ_cons, List.drop_zero,
        upToFirst (regular.fields field own).name.1, String.ofList_toList]

end Legible

section
variable {comment : Option String} {head : Line} {ls : List Line}

theorem indentedRows (oneLine : ∀ l ∈ indented "\t" ls, OneLine (lineText l)) :
    ∀ row ∈ rowsOf ((indented "\t" ls).map lineText), begins "\t" row = true := by
  intro row member
  obtain ⟨t, known, own⟩ := List.mem_flatMap.mp member
  obtain ⟨l, inside, rfl⟩ := List.mem_map.mp known
  obtain ⟨m, -, rfl⟩ := List.mem_map.mp inside
  have single := oneLine _ inside
  rw [rowsPlain single] at own
  obtain ⟨trimmed, full⟩ := List.mem_filter.mp own
  obtain rfl := List.mem_singleton.mp trimmed
  have start : (lineText (.text "\t" :: m)).toList = '\t' :: (lineText m).toList := by simp
  obtain ⟨after, whole⟩ := trimEndPrefix (lineText (.text "\t" :: m)).toList
  cases same : trimEnd (lineText (.text "\t" :: m)).toList with
  | nil =>
      rw [same] at full
      contradiction
  | cons c rest =>
      rw [same, start, List.cons_append] at whole
      rw [(List.cons.inj whole).1]
      rfl

theorem functionSplit (comment : Option String) (head : Line) (ls : List Line) :
    ∃ told, function comment head ls = told ++
        (line [line ["func ", head], " \x7b"] :: (indented "\t" ls ++ [plain "\x7d"])) ∧
      ∀ l ∈ told, (lineText l).toList.head? ≠ some 'f' := by
  refine ⟨blank :: (comment.map fun c => plain ("// " ++ c)).toList, rfl, ?_⟩
  cases comment <;> simp [blank, plainText]

theorem functionRows (oneLine : ∀ l ∈ function comment head ls, OneLine (lineText l)) :
    ∃ quiet, (∀ row ∈ quiet, row.head? ≠ some 'f') ∧
      rowsOf ((function comment head ls).map lineText) =
        quiet ++ opening head :: (rowsOf ((indented "\t" ls).map lineText) ++ [['\x7d']]) := by
  obtain ⟨told, split, single⟩ := functionSplit comment head ls
  rw [split] at oneLine ⊢
  have opened : rows (lineText (line [line ["func ", head], " \x7b"])).toList = [opening head] := by
    rw [openingText]
    exact rowsSolid (openingSolid (oneLine _ (by simp)))
  have closed : rowsOf ([plain "\x7d"].map lineText) = [['\x7d']] := by decide
  refine ⟨rowsOf (told.map lineText), fun row member => ?_, ?_⟩
  · obtain ⟨t, known, own⟩ := List.mem_flatMap.mp member
    obtain ⟨l, inside, rfl⟩ := List.mem_map.mp known
    rw [rowHead (oneLine l (List.mem_append_left _ inside)) own]
    exact single l inside
  · rw [List.map_append, List.map_cons, List.map_append, rowsOfAppend, ← closed, rowsOf,
      rowsOf, List.flatMap_cons, opened, List.singleton_append, ← rowsOf, ← rowsOf, rowsOfAppend]

theorem methodNone (other : row.head? ≠ some 'f') : method? row = none := by
  rw [method?, notOpening other rfl]
  rfl

theorem tabHead (tab : begins "\t" row = true) : row.head? ≠ some 'f' := by
  obtain ⟨after, whole⟩ := List.isPrefixOf_iff_prefix.mp tab
  rw [← whole]
  simp

section
variable (oneLine : ∀ l ∈ function comment head ls, OneLine (lineText l))
include oneLine

theorem functionTabs :
    ∀ row ∈ rowsOf ((indented "\t" ls).map lineText), begins "\t" row = true := by
  refine indentedRows fun l member => oneLine l ?_
  exact List.mem_append_right _ (List.mem_append_left _ (List.mem_cons_of_mem _ member))

theorem functionNone (heads : Heads name head) :
    ∀ row ∈ rowsOf ((function comment head ls).map lineText), method? row = none := by
  obtain ⟨quiet, others, split⟩ := functionRows oneLine
  have tabs := functionTabs oneLine
  rw [split]
  simp only [List.forall_mem_append, List.forall_mem_cons]
  exact ⟨fun row member => methodNone (others row member), heads.declares.2,
    fun row member => methodNone (tabHead (tabs row member)), rfl, nofun⟩

theorem methodBlock (heads : HeadsMethod name head) (after : List (List Char)) :
    blocks method? (rowsOf ((function comment head ls).map lineText) ++ after) =
      (name, rowsOf ((indented "\t" ls).map lineText)) :: blocks method? after := by
  obtain ⟨quiet, others, split⟩ := functionRows oneLine
  have tabs := functionTabs oneLine
  rw [split, List.append_assoc, blocksQuiet fun row member => methodNone (others row member),
    List.cons_append, List.append_assoc, List.singleton_append,
    blocksFirst heads.opens tabs (by decide),
    blocksQuiet fun row member => methodNone (tabHead (tabs row member))]
  rfl

end

end

end RestScaffold.Go
