import RestScaffold.Artifact.Rendering
import RestScaffold.Generation.Manifest
import RestScaffold.Generation.Report
import RestScaffold.Policy.Resolution

/-! One pass over all tables. A table that fails is reported and skipped. Files that an earlier pass
recorded are removed once their table is neither generated nor failing. -/
namespace RestScaffold
open Catalog

def Settings.rendering (s : Settings) : Rendering := ⟨s.goModule, s.apiBasePath⟩

namespace Pass

def prepare (s : Settings) (t : TableShape) :
    Except TableError (Option (List Endpoint × List Artifact)) :=
  let policy := (Resolver.ofSettings s).resolve (some t.schema) t.name
  if policy.enabled then
    match Plan.endpoints t policy with
    | .error e => .error (.policy e)
    | .ok plan =>
        match s.rendering.tableArtifacts t policy plan s.targets with
        | .error e => .error (.render e)
        | .ok artifacts => .ok (some (plan, artifacts))
  else .ok none

def fileTexts (artifacts : List Artifact) : List FileText :=
  artifacts.map fun a => ⟨a.path, a.contents⟩

def table (s : Settings) (tree : FileTree) (t : TableShape) : FileTree × Outcome :=
  match prepare s t with
  | .error e => (tree, .failed ⟨t.name, e⟩)
  | .ok none => (tree, .disabled t.name)
  | .ok (some (plan, artifacts)) =>
      match tree.writeAll s.outputRoot (fileTexts artifacts) with
      | (tree, .error e) => (tree, .failed ⟨t.name, .write e⟩)
      | (tree, .ok _) =>
          (tree, .generated ⟨t.name, t.schema, plan, artifacts.map Artifact.path⟩)

def tables (s : Settings) (tree : FileTree) : List TableShape → FileTree × List Outcome
  | [] => (tree, [])
  | t :: rest =>
      let (tree, outcome) := table s tree t
      let (tree, outcomes) := tables s tree rest
      (tree, outcome :: outcomes)

def indexTexts (s : Settings) (names : List String) : List FileText :=
  fileTexts (s.targets.map (s.rendering.index names))

/-- What the next pass finds recorded. A table that failed keeps its former record. -/
def record (previous : Manifest) (generated : List TableReport) (failures : List TableFailure) :
    Manifest :=
  let written := generated.foldl (fun m r => m.insert r.table r.files) SortedMap.empty
  failures.foldl (fun m f =>
    match previous.get? f.table with
    | some files => if m.contains f.table then m else m.insert f.table files
    | none => m) written

def stale (previous next : Manifest) : List String :=
  let live := next.values.flatten.map Path.components
  ((previous.entries.filter fun entry => !next.contains entry.1).flatMap Prod.snd).filter
    fun path => !live.contains (Path.components path)

def written (generated : List TableReport) : Nat := (generated.flatMap (·.files)).length

/-- Fails only if an index or the record cannot be written. -/
def run (s : Settings) (tree : FileTree) (shapes : List TableShape) :
    FileTree × Except WriteError Report :=
  let previous := Manifest.read tree s.outputRoot
  let (tree, outcomes) := tables s tree shapes
  let generated := outcomes.filterMap Outcome.generated?
  let failures := outcomes.filterMap Outcome.failed?
  match tree.writeAll s.outputRoot (indexTexts s (generated.map TableReport.table)) with
  | (tree, .error e) => (tree, .error e)
  | (tree, .ok _) =>
      let next := record previous generated failures
      let (tree, removed) := tree.removeAll s.outputRoot (stale previous next)
      match next.write tree s.outputRoot with
      | (tree, .error e) => (tree, .error e)
      | (tree, .ok _) =>
          (tree, .ok {
            generated := generated
            disabled := outcomes.filterMap Outcome.disabled?
            failures := failures
            filesWritten := written generated + s.targets.length
            filesRemoved := removed })

end Pass
end RestScaffold
