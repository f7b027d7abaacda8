import RestScaffold.Proofs.Server.Bindings
import RestScaffold.Proofs.Text.Rows

/-! What the file exports through which the client's tables are reached together, read off its
text. -/
namespace RestScaffold.Client
open Code Layout Naming Text

def exportRow (path : String) : List Char := ("export * from '" ++ path ++ "';").toList

def export? (row : List Char) : Option String :=
  let path := Go.upTo '\'' (row.drop 15)
  if row = exportRow path then some path else none

def exports (text : String) : List String := (rows text.toList).filterMap export?

theorem exportRead {path : String} (bare : '\'' ∉ path.toList) :
    export? (exportRow path) = some path := by
  have quoted : (exportRow path).drop 15 = path.toList ++ '\'' :: [';'] := by
    simp [exportRow]
  rw [export?, quoted, Go.upToFirst bare, String.ofList_toList, if_pos rfl]

def Quotable (s : String) : Prop := '\'' ∉ s.toList ∧ '\n' ∉ s.toList

theorem quotableAppend {s t : String} : Quotable (s ++ t) ↔ Quotable s ∧ Quotable t := by
  simp only [Quotable, String.toList_append, List.mem_append, not_or]
  tauto

theorem exportsLine (text path : String) (spelled : text.toList = exportRow path)
    (quotable : Quotable path) :
    (rows (lineText (plain text)).toList).filterMap export? = [path] := by
  obtain ⟨bare, noFeed⟩ := quotable
  have solid : Solid (exportRow path) := by
    have ending : exportRow path = ("export * from '" ++ path ++ "'").toList ++ [';'] := by
      simp [exportRow]
    rw [ending]
    exact solidConcat (by simp [noFeed]) (by decide)
  rw [plainText, spelled, rowsSolid solid, List.filterMap_cons_some (exportRead bare),
    List.filterMap_nil]

theorem indexExports {stems : List String} (wordly : ∀ stem ∈ stems, Wordly stem.toList) :
    exports (fileText (indexCode stems)) =
      stems.flatMap fun stem => ["./types/" ++ stem, "./api/" ++ stem] := by
  have heading : ([plain generatedNotice, blank].flatMap
      fun l => rows (lineText l).toList).filterMap
      export? = [] := by decide
  rw [exports, fileLines, tidyRows, rowsJoined, List.flatMap_map, indexCode, List.flatMap_append,
    List.filterMap_append, heading, List.nil_append]
  induction stems with
  | nil => rfl
  | cons stem rest ih =>
      obtain ⟨own, others⟩ := List.forall_mem_cons.mp wordly
      have quotable : Quotable stem := ⟨own.without (by decide), own.without (by decide)⟩
      have types := exportsLine ("export * from './types/" ++ stem ++ "';") ("./types/" ++ stem)
        (by simp [exportRow]) (quotableAppend.mpr ⟨⟨by decide, by decide⟩, quotable⟩)
      have api := exportsLine ("export * from './api/" ++ stem ++ "';") ("./api/" ++ stem)
        (by simp [exportRow]) (quotableAppend.mpr ⟨⟨by decide, by decide⟩, quotable⟩)
      simp only [List.flatMap_cons, List.filterMap_append, List.cons_append, List.nil_append, types,
        api, ih others]

end RestScaffold.Client
