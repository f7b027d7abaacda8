import RestScaffold.Proofs.Code.Rows
import RestScaffold.Proofs.Text.GoLiteral
import RestScaffold.Proofs.Text.Span

/-! The imports of a file, read off its rows: after the package clause, a block of paths in
literals. -/
namespace RestScaffold.Go
open Code Layout Text

def importPath? (row : List Char) : Option (List UInt8) :=
  match row with
  | '\t' :: rest =>
      match GoString.read rest with
      | some (path, []) => some path
      | _ => none
  | _ => none

def readBlock : List (List Char) → Option (List (List UInt8))
  | [] => none
  | row :: rest =>
      if row = [')'] then some []
      else
        match importPath? row with
        | none => none
        | some path => (readBlock rest).map (path :: ·)

def importsFrom : List (List Char) → Option (List (List UInt8))
  | [] => some []
  | row :: rest => if row = "import (".toList then readBlock rest else some []

def imports (text : String) : Option (List (List UInt8)) :=
  importsFrom (((rows text.toList).dropWhile (!begins "package " ·)).drop 1)

def importText (goModule : String) (p : Package) : String := "\t\"" ++ p.path goModule ++ "\""

def importRows (goModule : String) (packages : List Package) : List (List Char) :=
  packages.flatMap fun p => rows (importText goModule p).toList

theorem blankRows : rows [] = [] := rfl

theorem groupRows (goModule : String) (groups : List (List Package)) :
    rowsOf ((((groups.map fun group => group.map (GoFile.importLine goModule)).intersperse
      [blank]).flatten).map lineText) = importRows goModule groups.flatten := by
  have own (group : List Package) : rowsOf ((group.map (GoFile.importLine goModule)).map lineText) =
      importRows goModule group := by
    rw [rowsOf, List.map_map, List.flatMap_map]
    refine congrArg (List.flatMap · group) (funext fun p => ?_)
    simp [GoFile.importLine, plainText, importText]
  induction groups with
  | nil => rfl
  | cons group rest ih =>
      cases rest with
      | nil => simpa using own group
      | cons next more =>
          simp only [List.map_cons, List.intersperse_cons_cons, List.flatten_cons, List.map_append,
            rowsOfAppend] at ih ⊢
          rw [ih, own, importRows, importRows, importRows, List.flatMap_append]
          simp [rowsOf, blank, blankRows]

theorem filledGroups (groups : List (List Package)) :
    (groups.filter (!·.isEmpty)).flatten = groups.flatten := by
  induction groups with
  | nil => rfl
  | cons group rest ih => cases group <;> simp [ih]

theorem filledNone {groups : List (List Package)} :
    groups.filter (!·.isEmpty) = [] ↔ groups.flatten = [] := by
  simp

theorem blockRows (goModule : String) (groups : List (List Package)) :
    rowsOf ((GoFile.importLines goModule groups).map lineText) =
      if groups.flatten = [] then []
      else "import (".toList :: (importRows goModule groups.flatten ++ [[')']]) := by
  have own := groupRows goModule (groups.filter (!·.isEmpty))
  rw [filledGroups] at own
  have opening : rowsOf ([blank, plain "import ("].map lineText) = ["import (".toList] := by
    decide
  have closing : rowsOf ([plain ")"].map lineText) = [[')']] := by
    decide
  rw [GoFile.importLines]
  by_cases none : groups.flatten = []
  · rw [if_pos none, filledNone.mpr none]
    rfl
  · have some : (groups.filter (!·.isEmpty)).isEmpty = false := by
      simpa only [List.isEmpty_eq_false_iff] using mt filledNone.mp none
    simp only [some, Bool.false_eq_true, if_false]
    rw [if_neg none, List.map_append, List.map_append, rowsOfAppend, rowsOfAppend, opening, closing,
      own]
    rfl

variable {goModule : String} {p : Package}

theorem pathRead {cut : List Char} {path : List UInt8} :
    importPath? ('\t' :: '"' :: cut) = some path ↔ GoString.readText cut = some (path, []) := by
  simp only [importPath?, GoString.read]
  split
  · rename_i found
    simp [found]
  · rename_i other
    refine ⟨nofun, fun found => absurd found (other path)⟩

theorem importRow (goModule : String) (p : Package) :
    ∃ first more, rows (importText goModule p).toList = first :: more ∧ first ≠ [')'] ∧
      (GoString.Literal (p.path goModule).toList →
        more = [] ∧ importPath? first = some (utf8 (p.path goModule).toList)) ∧
      (importPath? first = some (utf8 (p.path goModule).toList) →
        GoString.Literal (p.path goModule).toList) := by
  have split : (importText goModule p).toList =
      ['\t', '"'] ++ ((p.path goModule).toList ++ ['"']) := by simp [importText]
  have noFeed : '\n' ∉ ['\t', '"'] := by decide
  obtain ⟨cut, more, begins, own⟩ := rowsBegin noFeed rfl (by decide)
    ((p.path goModule).toList ++ ['"'])
  rw [← split] at own
  refine ⟨_, more, own, by simp, fun literal => ?_, fun read => ?_⟩
  · have oneLine : '\n' ∉ ['\t', '"'] ++ (p.path goModule).toList := by
      have feedless : '\n' ∉ (p.path goModule).toList := fun feed => (literal _ feed).2.1 rfl
      simp [feedless]
    have solid : Solid (importText goModule p).toList := by
      rw [split, ← List.append_assoc]
      exact solidConcat oneLine (by decide)
    rw [rowsSolid solid, split] at own
    obtain ⟨same, none⟩ := List.cons.inj own
    refine ⟨none.symm, ?_⟩
    rw [← same]
    exact pathRead.mpr (GoString.readLiteral literal [])
  · exact GoString.readLiteralCut begins (pathRead.mp read)

theorem blockRead {packages : List Package} {rest : List (List Char)} :
    readBlock (importRows goModule packages ++ [')'] :: rest) =
        some (packages.map fun p => utf8 (p.path goModule).toList) ↔
      ∀ p ∈ packages, GoString.Literal (p.path goModule).toList := by
  induction packages with
  | nil => simp [importRows, readBlock]
  | cons p others ih =>
      obtain ⟨first, more, own, inside, reads, literal⟩ := importRow goModule p
      have split : importRows goModule (p :: others) =
          first :: (more ++ importRows goModule others) := by
        rw [importRows, List.flatMap_cons, own]
        rfl
      rw [split, List.cons_append, readBlock, if_neg inside, List.forall_mem_cons, ← ih,
        List.map_cons]
      constructor
      · intro read
        split at read
        · contradiction
        · rename_i path found
          obtain ⟨paths, later, same⟩ := Option.map_eq_some_iff.mp read
          obtain ⟨rfl, rfl⟩ := List.cons.inj same
          have own := literal found
          rw [(reads own).1] at later
          exact ⟨own, later⟩
      · rintro ⟨own, later⟩
        obtain ⟨none, found⟩ := reads own
        rw [none, found]
        simp only [List.nil_append, later, Option.map_some]

theorem goRows {f : GoFile} (package : Solid ("package " ++ f.package).toList) (goModule : String) :
    rows (f.text goModule).toList = generatedNotice.toList :: ("package " ++ f.package).toList ::
      (rowsOf ((GoFile.importLines goModule f.imports).map lineText) ++
        rowsOf (f.body.map lineText)) := by
  have notice : rowsOf ([plain generatedNotice, blank].map lineText) =
      [generatedNotice.toList] := by decide
  have clause : rowsOf ([plain ("package " ++ f.package)].map lineText) =
      [("package " ++ f.package).toList] := by
    rw [List.map_singleton, plainText]
    exact rowsOfSolid (List.forall_mem_singleton.mpr package)
  have lines : f.lines goModule = [plain generatedNotice, blank] ++
      [plain ("package " ++ f.package)] ++ GoFile.importLines goModule f.imports ++ f.body := rfl
  rw [GoFile.text, rowsOfFile, lines]
  simp only [List.map_append, rowsOfAppend, notice, clause]
  rfl

theorem importsRead {f : GoFile} (package : Solid ("package " ++ f.package).toList)
    (body : (rowsOf (f.body.map lineText)).head? ≠ some "import (".toList) :
    imports (f.text goModule) =
        some (f.imports.flatten.map fun p => utf8 (p.path goModule).toList) ↔
      ∀ p ∈ f.imports.flatten, GoString.Literal (p.path goModule).toList := by
  have begins : begins "package " ("package " ++ f.package).toList = true := by
    rw [String.toList_append]
    exact beginsAppend _ _
  have other : (!Go.begins "package " generatedNotice.toList) = true := by decide
  rw [imports, goRows package]
  simp only [List.dropWhile_cons, other, if_true, begins, Bool.not_true, Bool.false_eq_true,
    if_false, List.drop_succ_cons, List.drop_zero, blockRows]
  split
  · rename_i none
    rw [none, List.nil_append]
    have first : importsFrom (rowsOf (f.body.map lineText)) = some [] := by
      cases own : rowsOf (f.body.map lineText) with
      | nil => rfl
      | cons row more =>
          rw [own] at body
          rw [importsFrom, if_neg fun same => body (congrArg some same)]
    simp [first]
  · rw [List.cons_append, importsFrom, if_pos rfl, List.append_assoc]
    exact blockRead

end RestScaffold.Go
