import Mathlib.Data.List.Basic
import RestScaffold.Proofs.Artifact.Paths
import RestScaffold.Proofs.Text.Forms

/-! Where the files of tables lie, and which tables share them. Each file has a folder of its kind,
which no other kind and no file of a whole target has, and there a name that tells the table up to
the case of its letters. -/
namespace RestScaffold

namespace Naming

variable {s t : String}

theorem lowerCharPlain {c : Char} (plain : (c.isAlphanum || c == '_') = true) :
    Text.lowerChar c = [c.toLower] := by
  rcases Bool.or_eq_true_iff.mp plain with alphanum | underscore
  · exact lowerAlphanum alphanum
  · rw [beq_iff_eq.mp underscore]
    decide

theorem lowerLetters (plain : isPlainIdentifier s = true) :
    (Text.lower s).toList = s.toList.map Char.toLower := by
  have sigma : 'Σ' ∉ s.toList := fun member =>
    absurd (Text.plainCharacter plain member) (by decide)
  rw [Text.lower, String.toList_ofList, Text.lowerFromEach sigma, List.map_eq_flatMap]
  exact List.flatMap_congr fun c member => lowerCharPlain (Text.plainCharacter plain member)

theorem lowerSame (plain : isPlainIdentifier s = true) (plain' : isPlainIdentifier t = true) :
    Text.lower s = Text.lower t ↔ Text.sameLetters s t = true := by
  rw [← String.toList_inj, lowerLetters plain, lowerLetters plain', Text.sameLetters, beq_iff_eq]

end Naming

namespace Artifact

def tableFolders : Target → List String
  | .server => ["server/models/", "server/repository/", "server/dto/", "server/handlers/",
      "server/routes/"]
  | .client => ["client/types/", "client/api/"]

structure Placed (f : Artifact) : Prop where
  relative : Path.isAbsolute f.path = false
  down : ".." ∉ Path.components f.path
  inside : ∃ folder ∈ tableFolders f.target, ∃ file : String, '/' ∉ file.toList ∧
    f.path = folder ++ file
  unrecorded : Path.names f.path ≠ Path.names Manifest.fileName
  unshared : ∀ (r : Rendering) (names : List String) (target : Target),
    Path.names f.path ≠ Path.names (r.index names target).path

def pathsFor (files : List Artifact) (target : Target) : List String :=
  (files.filter (·.target = target)).map Artifact.path

end Artifact

namespace Rendering

variable {r r' : Rendering} {table table' : Catalog.TableShape} {policy policy' : Policy}
  {plan plan' : List Endpoint} {targets targets' : List Target} {files files' : List Artifact}

theorem ownTarget {s : Subject} {target : Target}
    (rendered : r.targetArtifacts s target = .ok files) : ∀ f ∈ files, f.target = target := by
  cases target with
  | client =>
      cases rendered
      simp [clientArtifacts]
  | server =>
      simp only [targetArtifacts, serverArtifacts] at rendered
      cases dto : Server.Dto.of s with
      | error e =>
          rw [dto] at rendered
          cases rendered
      | ok dto' =>
          rw [dto] at rendered
          cases rendered
          simp [serverFile]

theorem memPathsFor (rendered : r.tableArtifacts table policy plan targets = .ok files)
    {target : Target} {path : String} : path ∈ Artifact.pathsFor files target ↔
      target ∈ targets ∧ path ∈ tablePaths [target] table.name := by
  obtain ⟨s, made, rendered⟩ := tableArtifactsMade rendered
  obtain ⟨rfl, -⟩ := subjectOk made
  constructor
  · intro member
    obtain ⟨f, own, rfl⟩ := List.mem_map.mp member
    obtain ⟨inside, asked⟩ := List.mem_filter.mp own
    obtain ⟨target', known, one, made, inside⟩ := (memArtifacts rendered).mp inside
    obtain rfl : target' = target := (ownTarget made f inside).symm.trans (of_decide_eq_true asked)
    exact ⟨known, targetPaths made ▸ List.mem_map_of_mem inside⟩
  · rintro ⟨known, member⟩
    obtain ⟨one, made⟩ := targetRendered rendered known
    rw [← targetPaths made] at member
    obtain ⟨f, inside, rfl⟩ := List.mem_map.mp member
    refine List.mem_map_of_mem (List.mem_filter.mpr ⟨?_, decide_eq_true (ownTarget made f inside)⟩)
    exact (memArtifacts rendered).mpr ⟨target, known, one, made, inside⟩

theorem ownPath (rendered : r.tableArtifacts table policy plan targets = .ok files)
    {f : Artifact} (member : f ∈ files) : f.path ∈ tablePaths [f.target] table.name :=
  ((memPathsFor rendered).mp
    (List.mem_map_of_mem (List.mem_filter.mpr ⟨member, decide_eq_true rfl⟩))).2

theorem folderKnown (target : Target) : ∀ place ∈ folders target,
    place.1 ∈ Artifact.tableFolders target ∧ target.name.toList <+: place.1.toList ∧
      '/' ∉ place.2.toList := by
  cases target <;> decide

theorem foldersSome (target : Target) : ∃ place, place ∈ folders target := by
  cases target <;> exact ⟨_, List.mem_cons_self⟩

theorem memOwnPaths {target : Target} {path name : String}
    (member : path ∈ tablePaths [target] name) :
    ∃ place ∈ folders target, path = place.1 ++ (Text.lower name ++ place.2) := by
  rw [tablePaths, List.flatMap_singleton] at member
  obtain ⟨place, known, rfl⟩ := List.mem_map.mp member
  exact ⟨place, known, String.append_assoc ..⟩

theorem pathBegins {target : Target} {path name : String}
    (member : path ∈ tablePaths [target] name) : target.name.toList <+: path.toList := by
  obtain ⟨place, known, rfl⟩ := memOwnPaths member
  obtain ⟨-, begins, -⟩ := folderKnown target place known
  rw [String.toList_append]
  exact begins.trans (List.prefix_append ..)

theorem targetNamesBegin : ∀ target other : Target,
    target.name.toList <+: other.name.toList → target = other := by
  rintro (_ | _) (_ | _) <;> decide

theorem pathTarget {target other : Target} {path name name' : String}
    (member : path ∈ tablePaths [target] name) (member' : path ∈ tablePaths [other] name') :
    target = other := by
  have begins := List.prefix_or_prefix_of_prefix (pathBegins member) (pathBegins member')
  exact begins.elim (targetNamesBegin _ _) fun reversed => (targetNamesBegin _ _ reversed).symm

theorem placed (rendered : r.tableArtifacts table policy plan targets = .ok files)
    {f : Artifact} (member : f ∈ files) : f.Placed := by
  have own := ownPath rendered member
  obtain ⟨plain, -⟩ := tableArtifactsOk rendered
  obtain ⟨⟨relative, down⟩, components, -, apart⟩ := tablePathNames plain own
  refine ⟨relative, components ▸ down, ?_, apart _ List.mem_cons_self, fun r names target => ?_⟩
  · obtain ⟨place, known, path⟩ := memOwnPaths own
    obtain ⟨folder, -, whole⟩ := folderKnown _ place known
    have slashless := Text.lowerPlain plain (c := '/') (by decide) (by decide)
    exact ⟨place.1, folder, _, by simp [slashless, whole], path⟩
  · have shared : (r.index names target).path = indexPath target := by cases target <;> rfl
    rw [shared]
    exact apart _ (indexShared target)

/-- Every file of a table has a place of its own kind. Two tables have a file for a target in common
exactly if their names are the same up to case, and then all of them; files that lead to the same
place are of such tables and of one target. -/
theorem tableFilesApart (rendered : r.tableArtifacts table policy plan targets = .ok files)
    (rendered' : r'.tableArtifacts table' policy' plan' targets' = .ok files') :
    (∀ f ∈ files, f.Placed) ∧
    (∀ target ∈ targets, target ∈ targets' →
      ((∃ path ∈ Artifact.pathsFor files target, path ∈ Artifact.pathsFor files' target) ↔
        Text.sameLetters table.name table'.name = true)) ∧
    (Text.sameLetters table.name table'.name = true → ∀ target ∈ targets, target ∈ targets' →
      ∀ path, path ∈ Artifact.pathsFor files target ↔ path ∈ Artifact.pathsFor files' target) ∧
    ∀ f ∈ files, ∀ f' ∈ files', Path.names f.path = Path.names f'.path →
      f.path = f'.path ∧ f.target = f'.target ∧
        Text.sameLetters table.name table'.name = true := by
  obtain ⟨plain, -⟩ := tableArtifactsOk rendered
  obtain ⟨plain', -⟩ := tableArtifactsOk rendered'
  have lower := Naming.lowerSame plain plain'
  have all : Text.sameLetters table.name table'.name = true → ∀ target ∈ targets,
      target ∈ targets' → ∀ path, path ∈ Artifact.pathsFor files target ↔
        path ∈ Artifact.pathsFor files' target := by
    intro same target known known' path
    rw [memPathsFor rendered, memPathsFor rendered', tablePathsLower (lower.mpr same)]
    exact and_congr_left' (iff_of_true known known')
  refine ⟨fun f => placed rendered, fun target known known' => ⟨?_, fun same => ?_⟩, all, ?_⟩
  · rintro ⟨path, member, member'⟩
    obtain ⟨-, own⟩ := (memPathsFor rendered).mp member
    obtain ⟨-, own'⟩ := (memPathsFor rendered').mp member'
    exact lower.mp (tablePathsApart plain plain' own own' rfl)
  · obtain ⟨place, some⟩ := foldersSome target
    have member : place.1 ++ Text.lower table.name ++ place.2 ∈ Artifact.pathsFor files target :=
      (memPathsFor rendered).mpr ⟨known, List.mem_flatMap.mpr ⟨target, List.mem_singleton_self _,
        List.mem_map_of_mem some⟩⟩
    exact ⟨_, member, (all same target known known' _).mp member⟩
  · intro f member f' member' same
    have own := ownPath rendered member
    have own' := ownPath rendered' member'
    obtain ⟨letters, path⟩ := tablePathsMeet plain plain' own own' same
    exact ⟨path, pathTarget own (path ▸ own'), lower.mp letters⟩

def keyedTable (name : String) : Catalog.TableShape :=
  ⟨"public", name, [⟨"id", "uuid", false, true, none, none⟩], none⟩

theorem keyedTableRendered (r : Rendering) (targets : List Target) {name : String}
    (plain : Naming.isPlainIdentifier name = true) :
    ∃ files, r.tableArtifacts (keyedTable name) {} [] targets = .ok files := by
  have schema : Naming.isPlainIdentifier "public" = true := by decide
  have column : Naming.isPlainIdentifier "id" = true := by decide
  have made : Subject.of (keyedTable name) {} [] = .ok ⟨keyedTable name, {}, []⟩ := by
    simp [Subject.of, keyedTable, plain, schema, column]
  rw [tableArtifacts, made]
  change ∃ files, r.artifacts ⟨keyedTable name, {}, []⟩ targets = .ok files
  induction targets with
  | nil => exact ⟨[], rfl⟩
  | cons target rest ih =>
      obtain ⟨more, others⟩ := ih
      obtain ⟨own, one⟩ : ∃ own, r.targetArtifacts ⟨keyedTable name, {}, []⟩ target = .ok own := by
        cases target <;> exact ⟨_, rfl⟩
      exact ⟨own ++ more, by simp only [artifacts, one, others]⟩

theorem ordersFilesApart : ∃ files spelled longer,
    tableArtifacts ⟨"app", "/api"⟩ (keyedTable "Orders") {} [] Target.all = .ok files ∧
    tableArtifacts ⟨"app", "/"⟩ (keyedTable "oRDERS") {} [] [.client] = .ok spelled ∧
    tableArtifacts ⟨"app", "/"⟩ (keyedTable "orders_dto") {} [] Target.all = .ok longer ∧
    (∀ f ∈ files, f.Placed) ∧
    (∃ path ∈ Artifact.pathsFor files .client, path ∈ Artifact.pathsFor spelled .client) ∧
    ∀ f ∈ files, ∀ f' ∈ longer, f.path ≠ f'.path := by
  obtain ⟨files, rendered⟩ := keyedTableRendered ⟨"app", "/api"⟩ Target.all
    (by decide : Naming.isPlainIdentifier "Orders" = true)
  obtain ⟨spelled, rendered'⟩ := keyedTableRendered ⟨"app", "/"⟩ [.client]
    (by decide : Naming.isPlainIdentifier "oRDERS" = true)
  obtain ⟨longer, rendered''⟩ := keyedTableRendered ⟨"app", "/"⟩ Target.all
    (by decide : Naming.isPlainIdentifier "orders_dto" = true)
  obtain ⟨placed, meet, -, -⟩ := tableFilesApart rendered rendered'
  obtain ⟨-, -, -, apart⟩ := tableFilesApart rendered rendered''
  refine ⟨files, spelled, longer, rendered, rendered', rendered'', placed, ?_, ?_⟩
  · exact (meet .client (by decide) (by decide)).mpr (by decide)
  · intro f member f' member' same
    obtain ⟨-, -, letters⟩ := apart f member f' member' (congrArg Path.names same)
    exact absurd letters (by decide)

end Rendering
end RestScaffold
