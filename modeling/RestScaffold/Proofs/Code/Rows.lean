import RestScaffold.Proofs.Server.Bindings
import RestScaffold.Proofs.Text.Rows

/-! Rows of generated files, by the lines that they are printed from. -/
namespace RestScaffold
open Catalog Code

namespace Fragment

@[simp]
theorem stringText (s : String) : (text s).string = s := rfl

@[simp]
theorem stringImported (p : Package) (name : String) :
    (imported p name).string = p.name ++ "." ++ name := rfl

@[simp]
theorem stringOwn (name : String) : (own name).string = name := rfl

@[simp]
theorem stringDeclared (name : String) : (declared name).string = name := rfl

end Fragment

namespace Code
open Layout Text

def HasRow (text row : String) : Prop := row.toList ∈ rows text.toList

variable {ls : List Line} {l : Line} {row : String}

@[simp]
theorem textNil : lineText [] = "" := rfl

@[simp]
theorem textCons (f : Fragment) (l : Line) : lineText (f :: l) = f.string ++ lineText l := by
  simp [lineText]

@[simp]
theorem textAppend (l m : Line) : lineText (l ++ m) = lineText l ++ lineText m := by
  induction l with
  | nil => simp
  | cons f rest ih => simp [ih, String.append_assoc]

theorem functionTexts {comment : Option String} {head head' : Line} {ls more : List Line}
    (heads : lineText head = lineText head') (bodies : ls.map lineText = more.map lineText) :
    (Go.function comment head ls).map lineText = (Go.function comment head' more).map lineText := by
  have inside : ∀ ls : List Line, (indented "\t" ls).map lineText =
      (ls.map lineText).map ("\t" ++ ·) := by
    intro ls
    simp [indented, List.map_map, Function.comp_def, Fragment.string]
  simp only [Go.function, Go.block, block, List.map_append, List.map_cons, inside, bodies, line,
    List.flatten_cons, textAppend, heads]

def rowsOf (texts : List String) : List (List Char) := texts.flatMap fun t => rows t.toList

theorem rowsOfAppend (texts more : List String) :
    rowsOf (texts ++ more) = rowsOf texts ++ rowsOf more := List.flatMap_append

theorem rowsOfSolid {texts : List String} (solid : ∀ t ∈ texts, Solid t.toList) :
    rowsOf texts = texts.map String.toList := by
  induction texts with
  | nil => rfl
  | cons t more ih =>
      obtain ⟨own, others⟩ := List.forall_mem_cons.mp solid
      rw [rowsOf, List.flatMap_cons, rowsSolid own, ← rowsOf, ih others]
      rfl

theorem rowHead {text : String} (oneLine : OneLine text) {own : List Char}
    (member : own ∈ rows text.toList) : own.head? = text.toList.head? := by
  rw [rowsPlain oneLine] at member
  obtain ⟨single, full⟩ := List.mem_filter.mp member
  obtain rfl := List.mem_singleton.mp single
  obtain ⟨after, whole⟩ := trimEndPrefix text.toList
  cases same : trimEnd text.toList with
  | nil =>
      rw [same] at full
      contradiction
  | cons c rest =>
      rw [← whole, same]
      rfl

theorem rowsOfFile (ls : List Line) : rows (fileText ls).toList = rowsOf (ls.map lineText) := by
  rw [fileLines, tidyRows, rowsJoined, rowsOf, List.flatMap_map, List.flatMap_map]

theorem fileRows (member : l ∈ ls) {own : List Char} (inside : own ∈ rows (lineText l).toList) :
    own ∈ rows (fileText ls).toList := by
  rw [rowsOfFile]
  exact List.mem_flatMap.mpr ⟨_, List.mem_map_of_mem member, inside⟩

theorem fileRow (member : l ∈ ls) (spelled : lineText l = row) (solid : Solid row.toList) :
    HasRow (fileText ls) row := by
  have own : rows (lineText l).toList = [row.toList] := by
    rw [spelled, rowsSolid solid]
  exact fileRows member (own ▸ List.mem_singleton_self _)

theorem goRow {f : GoFile} (goModule : String) (member : l ∈ f.body) (spelled : lineText l = row)
    (solid : Solid row.toList) : HasRow (f.text goModule) row :=
  fileRow (List.mem_append_right _ member) spelled solid

theorem solidEnd {front last : String} {c : Char} (oneLine : OneLine (front ++ last))
    (ends : last.toList.getLast? = some c) (full : isBlank c = false) :
    Solid (front ++ last).toList := by
  have whole : (front ++ last).toList.getLast? = some c := by
    rw [String.toList_append, List.getLast?_append, ends, Option.some_or]
  refine ⟨fun none => ?_, oneLine, ?_⟩
  · rw [none] at whole
    contradiction
  · intro d last
    rw [whole] at last
    exact Option.some.inj last ▸ full

theorem functionMember {comment : Option String} {head : Line} (member : l ∈ ls) :
    (.text "\t" :: l : Line) ∈ Go.function comment head ls := by
  have inside : (.text "\t" :: l : Line) ∈ Code.indented "\t" ls := List.mem_map_of_mem member
  simp [Go.function, Go.block, block, inside]

end Code

end RestScaffold
