import RestScaffold.Policy.Validation
import RestScaffold.Proofs.Code.ImportBlock
import RestScaffold.Proofs.Server.Imports

/-! The imports of the server's files, read off their lines. A path takes the name of the module as
it is, and is read back exactly if the name needs no escape. -/
namespace RestScaffold
open Catalog Code Layout Text

def Package.generated : List Package := [.dto, .handlers, .models, .repository]

theorem Package.pathSplit (p : Package) (goModule : String) :
    p.path goModule = (if p ∈ generated then goModule else "") ++ p.path "" := by
  cases p <;> simp [path, generated]

theorem Package.pathLiteral (p : Package) (goModule : String) :
    GoString.Literal (p.path goModule).toList ↔
      (p ∈ generated → GoString.Literal goModule.toList) := by
  have own : GoString.Literal (p.path "").toList := by cases p <;> decide
  have split : GoString.Literal (p.path goModule).toList ↔
      GoString.Literal (if p ∈ generated then goModule else "").toList := by
    rw [pathSplit, String.toList_append]
    exact List.forall_mem_append.trans (and_iff_left own)
  rw [split]
  split
  · rename_i known
    exact ⟨fun literal _ => literal, fun literal => literal known⟩
  · rename_i other
    exact ⟨fun _ known => absurd known other, fun _ => nofun⟩

theorem Package.pathOneLine (p : Package) {goModule : String}
    (oneLine : p ∈ generated → OneLine goModule) : OneLine (p.path goModule) := by
  have own : OneLine (p.path "") := by cases p <;> decide
  rw [pathSplit, oneLineAppend]
  refine ⟨?_, own⟩
  split
  · exact oneLine ‹_›
  · decide

namespace Server
open Go

theorem packageSolid : ∀ name ∈ ["models", "repository", "dto", "handlers", "routes"],
    Solid ("package " ++ name).toList := by
  have each : ∀ name ∈ ["models", "repository", "dto", "handlers", "routes"],
      OneLine ("package " ++ name) ∧ name.toList.getLast?.map isBlank = some false := by decide
  intro name known
  obtain ⟨oneLine, last⟩ := each name known
  obtain ⟨c, ends, full⟩ := Option.map_eq_some_iff.mp last
  exact solidEnd oneLine ends full

def Begins (body : List Line) : Prop :=
  body = [] ∨ ∃ l rest c, body = blank :: l :: rest ∧ (lineText l).toList.head? = some c ∧
    isBlank c = false ∧ c ≠ 'i'

theorem structBegins (comment name : String) (fields : List Line) :
    Begins (Go.struct comment name fields) :=
  .inr ⟨_, _, '/', rfl, by simp [plainText], by decide, by decide⟩

theorem functionBegins (comment : String) (head : Line) (body : List Line) :
    Begins (Go.function (some comment) head body) :=
  .inr ⟨_, _, '/', rfl, by simp [plainText], by decide, by decide⟩

theorem Begins.append {code more : List Line} (begins : Begins code) (begins' : Begins more) :
    Begins (code ++ more) := by
  rcases begins with rfl | ⟨l, rest, c, rfl, known⟩
  · exact begins'
  · exact .inr ⟨l, rest ++ more, c, rfl, known⟩

theorem Begins.head {body : List Line} (begins : Begins body) :
    (rowsOf (body.map lineText)).head? ≠ some "import (".toList := by
  rcases begins with rfl | ⟨l, rest, c, rfl, head, full, other⟩
  · exact nofun
  · obtain ⟨cs, text⟩ := List.head?_eq_some_iff.mp head
    have noFeed : '\n' ∉ [c] := by
      rw [List.mem_singleton]
      rintro rfl
      exact absurd full (by decide)
    obtain ⟨cut, more, -, own⟩ := rowsBegin noFeed rfl full cs
    have first : rowsOf ((blank :: l :: rest).map lineText) =
        (c :: cut) :: (more ++ rowsOf (rest.map lineText)) := by
      have line : rows (lineText l).toList = (c :: cut) :: more := by
        rw [text]
        exact own
      simp only [rowsOf, List.map_cons, List.flatMap_cons, line]
      rfl
    rw [first, List.head?_cons]
    intro same
    exact other (List.cons.inj (Option.some.inj same)).1

theorem dtoBegins (d : Dto) : Begins d.code := by
  have optional {fields : Option (List GoField)} {code : List GoField → List Line}
      (each : ∀ fs, Begins (code fs)) : Begins ((fields.map code).getD []) := by
    cases fields with
    | none => exact .inl rfl
    | some fs => exact each fs
  have chosen {asked : Bool} {code : List Line} (begins : Begins code) :
      Begins (if asked then code else []) := by
    cases asked with
    | false => exact .inl rfl
    | true => exact begins
  exact ((((optional fun _ => structBegins ..).append (optional fun _ => structBegins ..)).append
    (optional fun _ => structBegins ..)).append (chosen (structBegins ..))).append
    (chosen (structBegins ..))

theorem serverBegins {s : Subject} {dto : Dto} {category : Category} {g : GoFile}
    (file : Rendering.serverFile? s dto category = some g) :
    Begins g.body ∧ Solid ("package " ++ g.package).toList := by
  cases category with
  | model =>
      cases file
      exact ⟨.inr ⟨_, _, '/', rfl, by simp [plainText], by decide, by decide⟩,
        packageSolid "models" (by decide)⟩
  | repository =>
      cases file
      exact ⟨.inr ⟨_, _, 'c', rfl, by simp [line, Fragment.string], by decide, by decide⟩,
        packageSolid "repository" (by decide)⟩
  | dto =>
      cases file
      exact ⟨dtoBegins dto, packageSolid "dto" (by decide)⟩
  | handler =>
      cases file
      exact ⟨.inr ⟨_, _, '/', rfl, by simp [plainText], by decide, by decide⟩,
        packageSolid "handlers" (by decide)⟩
  | routes =>
      cases file
      exact ⟨functionBegins .., packageSolid "routes" (by decide)⟩
  | clientTypes | clientApi | index => contradiction

theorem fileImports {f : GoFile} {goModule : String} (begins : Begins f.body)
    (package : Solid ("package " ++ f.package).toList) :
    Go.imports (f.text goModule) =
        some (f.imports.flatten.map fun p => utf8 (p.path goModule).toList) ↔
      ((∃ p ∈ f.imports.flatten, p ∈ Package.generated) → GoString.Literal goModule.toList) := by
  rw [importsRead package begins.head]
  constructor
  · rintro all ⟨p, member, known⟩
    exact (p.pathLiteral goModule).mp (all p member) known
  · exact fun literal p member =>
      (p.pathLiteral goModule).mpr fun known => literal ⟨p, member, known⟩

theorem indexBegins (i : RoutesIndex) : Begins i.file.body :=
  .inr ⟨_, _, '/', rfl, by simp [plainText], by decide, by decide⟩

end Server

variable {r : Rendering} {table : TableShape} {policy : Policy} {plan : List Endpoint}
  {targets : List Target} {files : List Artifact}

def PrintsImports (goModule : String) (text : String) (g : GoFile) : Prop :=
  text = g.text goModule ∧
    (Go.imports text = some (g.imports.flatten.map fun p => utf8 (p.path goModule).toList) ↔
      ((∃ p ∈ g.imports.flatten, p ∈ Package.generated) → GoString.Literal goModule.toList))

/-- Nothing is missing from the imports of a file, and but for tables without endpoints nothing is
imported in vain. The lines that say so give the paths of the imports. -/
theorem importsFitUnlessIdle (rendered : r.tableArtifacts table policy plan targets = .ok files) :
    (∀ f ∈ files, f.target = .server → ∃ dto g, Server.Dto.of ⟨table, policy, plan⟩ = .ok dto ∧
      Rendering.serverFile? ⟨table, policy, plan⟩ dto f.category = some g ∧
      PrintsImports r.goModule f.contents g ∧ g.Closed ∧
      (g.Tight ↔ plan ≠ [] ∨ f.category ∉ [.repository, .handler])) ∧
    ∀ names, ∃ g : GoFile, PrintsImports r.goModule (r.index names .server).contents g ∧
      g = (Server.RoutesIndex.mk (names.map Naming.pascal)).file ∧ g.Tight := by
  obtain ⟨s, made, rendered⟩ := Rendering.tableArtifactsMade rendered
  obtain ⟨rfl, -, -, some⟩ := Rendering.subjectOk made
  refine ⟨fun f member server => ?_, fun names => ⟨_, ⟨rfl, ?_⟩, rfl, Server.indexTight _⟩⟩
  · cases Rendering.printed rendered member with
    | client target => cases server.symm.trans target
    | server _ made file contents =>
        obtain ⟨begins, package⟩ := Server.serverBegins file
        refine ⟨_, _, made, file, ⟨contents, ?_⟩, serverFileFits some file⟩
        rw [contents]
        exact Server.fileImports begins package
  · exact Server.fileImports (Server.indexBegins _) (Server.packageSolid "routes" (by decide))

def idleTable : TableShape where
  schema := "public"
  name := "items"
  columns := [⟨"id", "integer", false, true, none, none⟩]
  comment := none

def idleItems : Subject := ⟨idleTable, { endpoints := [] }, []⟩

theorem idleItemsRendered : ∃ files,
    Rendering.tableArtifacts ⟨"app", "/api"⟩ idleTable idleItems.policy [] [.server] = .ok files ∧
      Rendering.serverFile ⟨"app", "/api"⟩ "server/handlers/items_handler.go" .handler
        (Server.Handler.of idleItems).file ∈ files := by
  have made : Subject.of idleTable idleItems.policy [] = .ok idleItems := by decide
  have stem : idleItems.stem = "items" := by decide
  simp only [Rendering.tableArtifacts, made, Rendering.artifacts, Rendering.targetArtifacts,
    Rendering.serverArtifacts, stem]
  exact ⟨_, rfl, by simp⟩

theorem idleItemsImportInVain :
    ({ defaults := { endpoints := some [] } } : Settings).validate = .ok () ∧
      Plan.endpoints idleTable idleItems.policy = .ok [] ∧
      ∃ files, Rendering.tableArtifacts ⟨"app", "/api"⟩ idleTable idleItems.policy [] [.server] =
          .ok files ∧
        ∃ f ∈ files, f.contents = (Server.Handler.of idleItems).file.text "app" ∧
          (∃ paths, Go.imports f.contents = some paths ∧ utf8 "net/http".toList ∈ paths) ∧
          Package.http ∈ (Server.Handler.of idleItems).file.imports.flatten ∧
          Package.http ∉ (Server.Handler.of idleItems).file.packages := by
  obtain ⟨files, rendered, member⟩ := idleItemsRendered
  have imported : Package.http ∈ (Server.Handler.of idleItems).file.imports.flatten := by decide
  have file (dto : Server.Dto) : Rendering.serverFile? idleItems dto .handler =
      some (Server.Handler.of idleItems).file := rfl
  obtain ⟨begins, package⟩ := Server.serverBegins (file ⟨"items", none, none, none, false, false⟩)
  have app : GoString.Literal "app".toList := by decide
  have read := (Server.fileImports begins package).mpr fun _ => app
  exact ⟨by decide, rfl, files, rendered, _, member, rfl,
    ⟨_, read, List.mem_map_of_mem imported⟩, imported, by decide⟩

theorem idleItemsFit : ∃ files,
    Rendering.tableArtifacts ⟨"app", "/api"⟩ idleTable idleItems.policy [] [.server] = .ok files ∧
      ∃ f ∈ files, ∃ dto g, Rendering.serverFile? idleItems dto f.category = some g ∧
        PrintsImports "app" f.contents g ∧ g.Closed ∧ ¬g.Tight := by
  obtain ⟨files, rendered, member⟩ := idleItemsRendered
  obtain ⟨dto, g, -, file, prints, closed, tight⟩ :=
    (importsFitUnlessIdle rendered).1 _ member rfl
  exact ⟨files, rendered, _, member, dto, g, file, prints, closed,
    fun fits => absurd (tight.mp fits) (by decide)⟩

end RestScaffold
