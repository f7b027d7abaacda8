import RestScaffold.Artifact.Rendering
import RestScaffold.Generation.Manifest
import RestScaffold.Proofs.FileTree.Path
import RestScaffold.Proofs.Text.Lower

/-! The paths of generated files. Those of a table depend on nothing but its name in lower case.
What a file is printed from depends on its category. -/
namespace RestScaffold.Rendering

def folders : Target → List (String × String)
  | .server => [("server/models/", ".go"), ("server/repository/", "_repository.go"),
      ("server/dto/", "_dto.go"), ("server/handlers/", "_handler.go"),
      ("server/routes/", "_routes.go")]
  | .client => [("client/types/", ".ts"), ("client/api/", ".ts")]

def tablePaths (targets : List Target) (table : String) : List String :=
  targets.flatMap fun target =>
    (folders target).map fun (folder, ending) => folder ++ Text.lower table ++ ending

def indexPath : Target → String
  | .server => "server/routes/routes.go"
  | .client => "client/index.ts"

variable {r : Rendering} {targets : List Target} {table : String}

theorem indexPaths (r : Rendering) (names : List String) (targets : List Target) :
    (targets.map (r.index names)).map Artifact.path = targets.map indexPath := by
  rw [List.map_map]
  refine List.map_congr_left fun target _ => ?_
  cases target <;> rfl

theorem targetPaths {s : Subject} {target : Target} {files : List Artifact}
    (rendered : r.targetArtifacts s target = .ok files) :
    files.map Artifact.path = tablePaths [target] s.table.name := by
  cases target with
  | client =>
      cases rendered
      rfl
  | server =>
      simp only [targetArtifacts, serverArtifacts] at rendered
      cases dto : Server.Dto.of s with
      | error e =>
          rw [dto] at rendered
          cases rendered
      | ok dto' =>
          rw [dto] at rendered
          cases rendered
          rfl

theorem memArtifacts {s : Subject} {files : List Artifact}
    (rendered : r.artifacts s targets = .ok files) {f : Artifact} :
    f ∈ files ↔ ∃ target ∈ targets, ∃ own, r.targetArtifacts s target = .ok own ∧ f ∈ own := by
  induction targets generalizing files with
  | nil =>
      cases rendered
      simp
  | cons target rest ih =>
      simp only [artifacts] at rendered
      split at rendered
      · contradiction
      · contradiction
      · rename_i first more one others
        cases rendered
        simp [ih others, one]

theorem artifactPaths {s : Subject} {files : List Artifact}
    (rendered : r.artifacts s targets = .ok files) :
    files.map Artifact.path = tablePaths targets s.table.name := by
  induction targets generalizing files with
  | nil =>
      cases rendered
      rfl
  | cons target rest ih =>
      simp only [artifacts] at rendered
      split at rendered
      · contradiction
      · contradiction
      · rename_i first more one others
        cases rendered
        rw [List.map_append, targetPaths one, ih others]
        simp [tablePaths]

theorem subjectOk {shape : Catalog.TableShape} {policy : Policy} {plan : List Endpoint}
    {s : Subject} (made : Subject.of shape policy plan = .ok s) :
    s = ⟨shape, policy, plan⟩ ∧ Naming.isPlainIdentifier shape.name = true ∧
      (∀ c ∈ shape.columns, Naming.isPlainIdentifier c.name = true) ∧ shape.columns ≠ [] := by
  simp only [Subject.of] at made
  split at made
  · contradiction
  · rename_i plain
    split at made
    · contradiction
    · split at made
      · contradiction
      · rename_i odd
        split at made
        · contradiction
        · rename_i some
          cases made
          refine ⟨rfl, by simpa using plain, fun c member => ?_, by simpa using some⟩
          simpa using List.find?_eq_none.mp odd c member

theorem tableArtifactsMade {shape : Catalog.TableShape} {policy : Policy} {plan : List Endpoint}
    {files : List Artifact} (rendered : r.tableArtifacts shape policy plan targets = .ok files) :
    ∃ s, Subject.of shape policy plan = .ok s ∧ r.artifacts s targets = .ok files := by
  simp only [tableArtifacts] at rendered
  split at rendered
  · contradiction
  · exact ⟨_, ‹_›, rendered⟩

theorem filesOf {result : Except RenderError (List Artifact)} (complete : result.isOk = true) :
    ∃ files, result = .ok files := by
  cases result with
  | error e => contradiction
  | ok files => exact ⟨files, rfl⟩

theorem tableArtifactsOk {shape : Catalog.TableShape} {policy : Policy} {plan : List Endpoint}
    {files : List Artifact} (rendered : r.tableArtifacts shape policy plan targets = .ok files) :
    Naming.isPlainIdentifier shape.name = true ∧
      files.map Artifact.path = tablePaths targets shape.name := by
  obtain ⟨s, made, rendered⟩ := tableArtifactsMade rendered
  obtain ⟨same, plain, -⟩ := subjectOk made
  have paths := artifactPaths rendered
  rw [same] at paths
  exact ⟨plain, paths⟩

def serverFile? (s : Subject) (dto : Server.Dto) : Category → Option GoFile
  | .model => some (Server.Model.of s).file
  | .repository => some (Server.Repository.of s).file
  | .dto => some dto.file
  | .handler => some (Server.Handler.of s).file
  | .routes => some (Server.Routes.of s).file
  | .clientTypes | .clientApi | .index => none

def clientLines? (r : Rendering) (s : Subject) : Category → Option (List Line)
  | .clientTypes => some (Client.Types.of s).code
  | .clientApi => some (Client.Api.of r.apiBasePath s).code
  | .model | .repository | .dto | .handler | .routes | .index => none

inductive Printed (r : Rendering) (s : Subject) (f : Artifact) : Prop
  | server {dto : Server.Dto} {g : GoFile} (target : f.target = .server)
      (made : Server.Dto.of s = .ok dto) (file : serverFile? s dto f.category = some g)
      (contents : f.contents = g.text r.goModule)
  | client {lines : List Line} (target : f.target = .client)
      (file : r.clientLines? s f.category = some lines)
      (contents : f.contents = Code.fileText lines)

theorem printed {s : Subject} {files : List Artifact} {f : Artifact}
    (rendered : r.artifacts s targets = .ok files) (member : f ∈ files) : Printed r s f := by
  obtain ⟨target, -, own, one, inside⟩ := (memArtifacts rendered).mp member
  cases target with
  | client =>
      cases one
      simp only [clientArtifacts, List.mem_cons, List.not_mem_nil, or_false] at inside
      rcases inside with rfl | rfl <;> exact .client rfl rfl rfl
  | server =>
      simp only [targetArtifacts, serverArtifacts] at one
      cases dto : Server.Dto.of s with
      | error e =>
          rw [dto] at one
          cases one
      | ok dto' =>
          rw [dto] at one
          cases one
          simp only [serverFile, List.mem_cons, List.not_mem_nil, or_false] at inside
          rcases inside with rfl | rfl | rfl | rfl | rfl <;> exact .server rfl dto rfl rfl

theorem serverPrinted {s : Subject} {f : Artifact} {g : GoFile} (printed : Printed r s f)
    (same : ∀ dto, serverFile? s dto f.category = some g) : f.contents = g.text r.goModule := by
  cases printed with
  | @server dto _ _ _ file contents =>
      obtain rfl := Option.some.inj (file.symm.trans (same dto))
      exact contents
  | client _ file =>
      have made := same ⟨"", none, none, none, false, false⟩
      cases category : f.category <;> rw [category] at made file <;> contradiction

theorem repositoryPrinted {s : Subject} {f : Artifact} (printed : Printed r s f)
    (category : f.category = .repository) :
    f.contents = (Server.Repository.of s).file.text r.goModule :=
  serverPrinted printed fun _ => by rw [category]; rfl

theorem dtoPrinted {s : Subject} {f : Artifact} {dto : Server.Dto} (printed : Printed r s f)
    (category : f.category = .dto) (made : Server.Dto.of s = .ok dto) :
    f.contents = dto.file.text r.goModule := by
  cases printed with
  | server _ made' file contents =>
      rw [category] at file
      cases file
      cases made.symm.trans made'
      exact contents
  | client _ file =>
      rw [category] at file
      contradiction

theorem clientPrinted {s : Subject} {f : Artifact} {lines : List Line} (printed : Printed r s f)
    (same : r.clientLines? s f.category = some lines) : f.contents = Code.fileText lines := by
  cases printed with
  | server _ _ file => cases category : f.category <;> rw [category] at same file <;> contradiction
  | client _ file contents =>
      obtain rfl := Option.some.inj (file.symm.trans same)
      exact contents

theorem typesPrinted {s : Subject} {f : Artifact} (printed : Printed r s f)
    (category : f.category = .clientTypes) :
    f.contents = Code.fileText (Client.Types.of s).code :=
  clientPrinted printed (by rw [category]; rfl)

theorem apiPrinted {s : Subject} {f : Artifact} (printed : Printed r s f)
    (category : f.category = .clientApi) :
    f.contents = Code.fileText (Client.Api.of r.apiBasePath s).code :=
  clientPrinted printed (by rw [category]; rfl)

theorem targetRendered {s : Subject} {files : List Artifact}
    (rendered : r.artifacts s targets = .ok files) {target : Target}
    (member : target ∈ targets) : ∃ own, r.targetArtifacts s target = .ok own := by
  induction targets generalizing files with
  | nil => contradiction
  | cons first rest ih =>
      simp only [artifacts] at rendered
      split at rendered
      · contradiction
      · contradiction
      · rename_i own more one others
        rcases List.mem_cons.mp member with rfl | later
        · exact ⟨own, one⟩
        · exact ih others later

theorem serverComplete {s : Subject} {files : List Artifact} (server : .server ∈ targets)
    (rendered : r.artifacts s targets = .ok files) : ∃ dto, Server.Dto.of s = .ok dto ∧
      ∀ category g, serverFile? s dto category = some g →
        ∃ f ∈ files, f.category = category ∧ f.contents = g.text r.goModule := by
  obtain ⟨own, one⟩ := targetRendered rendered server
  have inside : ∀ f ∈ own, f ∈ files := fun f member =>
    (memArtifacts rendered).mpr ⟨.server, server, own, one, member⟩
  simp only [targetArtifacts, serverArtifacts] at one
  cases dto : Server.Dto.of s with
  | error e =>
      rw [dto] at one
      cases one
  | ok dto' =>
      rw [dto] at one
      cases one
      simp only [List.forall_mem_cons] at inside
      obtain ⟨model, repository, dto, handler, routes, -⟩ := inside
      refine ⟨dto', rfl, fun category g file => ?_⟩
      cases category with
      | model => exact ⟨_, model, rfl, by cases file; rfl⟩
      | repository => exact ⟨_, repository, rfl, by cases file; rfl⟩
      | dto => exact ⟨_, dto, rfl, by cases file; rfl⟩
      | handler => exact ⟨_, handler, rfl, by cases file; rfl⟩
      | routes => exact ⟨_, routes, rfl, by cases file; rfl⟩
      | clientTypes | clientApi | index => contradiction

theorem clientComplete {s : Subject} {files : List Artifact} (client : .client ∈ targets)
    (rendered : r.artifacts s targets = .ok files) :
    ∀ category lines, r.clientLines? s category = some lines →
      ∃ f ∈ files, f.category = category ∧ f.contents = Code.fileText lines := by
  have inside : ∀ f ∈ r.clientArtifacts s, f ∈ files := fun f member =>
    (memArtifacts rendered).mpr ⟨.client, client, _, rfl, member⟩
  simp only [clientArtifacts, List.forall_mem_cons] at inside
  obtain ⟨types, api, -⟩ := inside
  intro category lines file
  cases category with
  | clientTypes => exact ⟨_, types, rfl, by cases file; rfl⟩
  | clientApi => exact ⟨_, api, rfl, by cases file; rfl⟩
  | model | repository | dto | handler | routes | index => contradiction

theorem schemaPlain {shape : Catalog.TableShape} {policy : Policy} {plan : List Endpoint}
    {s : Subject} (made : Subject.of shape policy plan = .ok s) :
    Naming.isPlainIdentifier shape.schema = true := by
  simp only [Subject.of] at made
  split at made
  · contradiction
  · split at made
    · contradiction
    · rename_i plain
      simpa using plain

def Holds (folder ending : String) : Prop :=
  folder.toList.getLast? = some '/' ∧ Path.isAbsolute folder = false ∧
    (Path.segments folder.toList).head? ≠ some ['.'] ∧ ".." ∉ Path.names folder ∧
    '/' ∉ ending.toList ∧ 2 < ending.length

instance (folder ending : String) : Decidable (Holds folder ending) :=
  inferInstanceAs (Decidable (_ ∧ _ ∧ _ ∧ _ ∧ _ ∧ _))

theorem foldersHold (target : Target) : ∀ place ∈ folders target, Holds place.1 place.2 := by
  cases target <;> decide

def shared : List String := Manifest.fileName :: Target.all.map indexPath

theorem sharedDescend {path : String} (member : path ∈ shared) :
    Path.Descends path ∧ Path.names path ≠ [] := by
  have all : ∀ path ∈ shared, Path.isAbsolute path = false ∧ ".." ∉ Path.names path ∧
      Path.names path ≠ [] := by decide
  obtain ⟨relative, down, some⟩ := all path member
  exact ⟨⟨relative, down⟩, some⟩

theorem indexShared (target : Target) : indexPath target ∈ shared := by
  cases target <;> decide

theorem foldersApart (target : Target) : ∀ place ∈ folders target, ∀ path ∈ shared,
    (Path.names path).dropLast = Path.names place.1 →
      ((Path.names path).getLastD "").length < place.2.length := by
  cases target <;> decide

theorem memTablePaths {path : String} (member : path ∈ tablePaths targets table) :
    ∃ target, ∃ place ∈ folders target, path = place.1 ++ (Text.lower table ++ place.2) := by
  obtain ⟨target, -, inside⟩ := List.mem_flatMap.mp member
  obtain ⟨place, known, rfl⟩ := List.mem_map.mp inside
  exact ⟨target, place, known, String.append_assoc ..⟩

theorem tablePathsAll {path : String} (member : path ∈ tablePaths targets table) :
    path ∈ tablePaths Target.all table := by
  obtain ⟨target, -, inside⟩ := List.mem_flatMap.mp member
  exact List.mem_flatMap.mpr ⟨target, by cases target <;> decide, inside⟩

theorem tablePathsLower {other : String} (same : Text.lower table = Text.lower other) :
    tablePaths targets table = tablePaths targets other := by
  rw [tablePaths, same]
  rfl

theorem foldersDiffer (target other : Target) : ∀ place ∈ folders target,
    ∀ place' ∈ folders other, Path.names place.1 = Path.names place'.1 → place = place' := by
  cases target <;> cases other <;> decide

theorem foldersWhole (target : Target) : ∀ place ∈ folders target,
    (∀ s ∈ (Path.segments place.1.toList).dropLast, Path.isIdle s = false) ∧
      (Path.names place.1).length = 2 := by
  cases target <;> decide

theorem indexHoused (target : Target) : Path.Housed (indexPath target) := by
  cases target <;> exact ⟨⟨by decide, by decide⟩, by decide, by decide, by decide⟩

theorem fileNamed {stem ending : String} (long : 2 < ending.length) :
    Path.isIdle (stem ++ ending).toList = false := by
  have length : 2 < (stem ++ ending).toList.length := by
    rw [String.length_toList, String.length_append]
    omega
  simp only [Path.isIdle, Bool.or_eq_false_iff, decide_eq_false_iff_not]
  constructor <;> intro idle <;> rw [idle] at length <;> simp at length

theorem fileNames {folder ending stem : String} (holds : Holds folder ending)
    (plain : '/' ∉ stem.toList) :
    Path.names (folder ++ (stem ++ ending)) = Path.names folder ++ [stem ++ ending] := by
  obtain ⟨ends, -, -, -, whole, long⟩ := holds
  have named : Path.isIdle (stem ++ ending).toList = false := fileNamed long
  have alone : Path.names (stem ++ ending) = [stem ++ ending] :=
    Path.namesPlain (by simp [plain, whole]) named
  rw [Path.namesFolder ends, alone]

variable (plain : Naming.isPlainIdentifier table = true)
include plain

theorem tablePathNames {path : String} (member : path ∈ tablePaths targets table) :
    Path.Descends path ∧ Path.components path = Path.names path ∧ Path.names path ≠ [] ∧
      ∀ other ∈ shared, Path.names path ≠ Path.names other := by
  obtain ⟨target, ⟨folder, ending⟩, known, rfl⟩ := memTablePaths member
  have holds := foldersHold target _ known
  have names := fileNames holds (Text.lowerPlain plain (by decide) (by decide))
  obtain ⟨ends, relative, head, down, -, long⟩ := holds
  have length : ending.length ≤ (Text.lower table ++ ending).length := by
    rw [String.length_append]
    omega
  have relative' : Path.isAbsolute (folder ++ (Text.lower table ++ ending)) = false := by
    obtain ⟨before, same⟩ := List.getLast?_eq_some_iff.mp ends
    cases before with
    | nil => simp [Path.isAbsolute, same] at relative
    | cons c more => simpa [Path.isAbsolute, String.toList_append, same] using relative
  refine ⟨⟨relative', ?_⟩, ?_, ?_, fun other known' same => ?_⟩
  · rw [names, List.mem_append, List.mem_singleton, not_or]
    refine ⟨down, fun climbs => ?_⟩
    rw [← climbs] at length
    exact absurd (Nat.lt_of_lt_of_le long length) (by decide)
  · refine Path.componentsNames relative' ?_
    rwa [Path.headSegment ends]
  · simp [names]
  · have shorter := foldersApart target _ known other known'
    rw [← same, names, List.dropLast_concat, List.getLastD_concat] at shorter
    exact absurd (shorter rfl) (Nat.not_lt.mpr length)

theorem tablePathDepth {path : String} (member : path ∈ tablePaths targets table) :
    (Path.names path).length = 3 := by
  obtain ⟨target, place, known, rfl⟩ := memTablePaths member
  rw [fileNames (foldersHold target _ known) (Text.lowerPlain plain (by decide) (by decide)),
    List.length_append, (foldersWhole target _ known).2]
  rfl

theorem tablePathHoused {path : String} (member : path ∈ tablePaths targets table) :
    Path.Housed path := by
  obtain ⟨descends, -, -, -⟩ := tablePathNames plain member
  have depth := tablePathDepth plain member
  obtain ⟨target, ⟨folder, ending⟩, known, rfl⟩ := memTablePaths member
  obtain ⟨ends, -, -, -, ending', long⟩ := foldersHold target _ known
  obtain ⟨whole, -⟩ := foldersWhole target _ known
  have slashless : '/' ∉ (Text.lower table).toList := Text.lowerPlain plain (by decide) (by decide)
  obtain ⟨before, same⟩ := List.getLast?_eq_some_iff.mp ends
  rw [same, Path.segmentsAppend, Path.segments, List.dropLast_concat] at whole
  refine ⟨descends, ?_, by rw [depth]; decide, by rw [depth]; decide⟩
  have alone : Path.segments (Text.lower table ++ ending).toList =
      [(Text.lower table ++ ending).toList] := Path.segmentsPlain (by simp [slashless, ending'])
  rw [String.toList_append, same, List.append_assoc, List.singleton_append, Path.segmentsAppend,
    alone]
  exact List.forall_mem_append.mpr ⟨whole, by simpa using fileNamed long⟩

theorem tablePathsMeet {others : List Target} {other path path' : String}
    (plain' : Naming.isPlainIdentifier other = true) (member : path ∈ tablePaths targets table)
    (member' : path' ∈ tablePaths others other) (same : Path.names path = Path.names path') :
    Text.lower table = Text.lower other ∧ path = path' := by
  obtain ⟨target, place, known, rfl⟩ := memTablePaths member
  obtain ⟨target', place', known', rfl⟩ := memTablePaths member'
  have slashless : '/' ∉ (Text.lower table).toList := Text.lowerPlain plain (by decide) (by decide)
  have slashless' : '/' ∉ (Text.lower other).toList :=
    Text.lowerPlain plain' (by decide) (by decide)
  rw [fileNames (foldersHold target _ known) slashless,
    fileNames (foldersHold target' _ known') slashless'] at same
  obtain ⟨folder, file⟩ := List.append_inj' same rfl
  obtain rfl := foldersDiffer target target' _ known _ known' folder
  have stem := List.singleton_inj.mp file
  exact ⟨(String.append_left_inj _).mp stem, by rw [stem]⟩

theorem tablePathsApart {others : List Target} {other path path' : String}
    (plain' : Naming.isPlainIdentifier other = true) (member : path ∈ tablePaths targets table)
    (member' : path' ∈ tablePaths others other) (same : Path.names path = Path.names path') :
    Text.lower table = Text.lower other :=
  (tablePathsMeet plain plain' member member' same).1

end RestScaffold.Rendering
