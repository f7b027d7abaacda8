import RestScaffold.Proofs.Generation.Manifest
import RestScaffold.Proofs.Generation.Record

/-! What one pass leaves below the output root. -/
namespace RestScaffold.Pass
open Catalog Rendering

variable {s : Settings} {tree after : FileTree} {shape : TableShape} {shapes : List TableShape}

theorem prepareSome {plan : List Endpoint} {files : List Artifact} :
    prepare s shape = .ok (some (plan, files)) ↔
      let policy := (Resolver.ofSettings s).resolve (some shape.schema) shape.name
      policy.enabled = true ∧ Plan.endpoints shape policy = .ok plan ∧
        s.rendering.tableArtifacts shape policy plan s.targets = .ok files := by
  simp only [prepare]
  split
  · split
    · rename_i failed
      simp [failed]
    · split <;> grind
  · simp [*]

theorem prepareOk {plan : List Endpoint} {files : List Artifact}
    (prepared : prepare s shape = .ok (some (plan, files))) :
    Naming.isPlainIdentifier shape.name = true ∧
      files.map Artifact.path = tablePaths s.targets shape.name := by
  obtain ⟨-, -, rendered⟩ := prepareSome.mp prepared
  exact tableArtifactsOk rendered

theorem fileTextPaths (files : List Artifact) :
    (fileTexts files).map FileText.path = files.map Artifact.path := by
  rw [fileTexts, List.map_map]
  rfl

def Unhindered (outcomes : List Outcome) : Prop :=
  ∀ f ∈ outcomes.filterMap Outcome.failed?, f.error.stage ≠ "write"

def generatedPaths (outcomes : List Outcome) : List String :=
  (outcomes.filterMap Outcome.generated?).flatMap TableReport.files

structure Writes (s : Settings) (tree after : FileTree) (outcomes : List Outcome) : Prop where
  faithful : Faithful s.targets (outcomes.filterMap Outcome.generated?)
  touched : ∃ paths, (∀ path ∈ paths, ∀ other ∈ shared, Path.names path ≠ Path.names other) ∧
    tree.Spares after s.outputRoot paths
  reaches : ∀ path ∈ generatedPaths outcomes,
    after.ReachesRoot s.outputRoot ∧ after.Reaches s.outputRoot path
  adds : Unhindered outcomes → tree.Adds after s.outputRoot (generatedPaths outcomes)

theorem writesNothing (s : Settings) (tree : FileTree) {outcomes : List Outcome}
    (nothing : outcomes.filterMap Outcome.generated? = []) : Writes s tree tree outcomes := by
  have none : generatedPaths outcomes = [] := by rw [generatedPaths, nothing]; rfl
  refine ⟨by simp [Faithful, nothing], ⟨[], nofun, (FileTree.growsSelf tree).spares _ _⟩, ?_, ?_⟩
  · simp [none]
  · rw [none]
    exact fun _ => FileTree.addsNothing _ _

theorem generatedPathsAppend (first second : List Outcome) :
    generatedPaths (first ++ second) = generatedPaths first ++ generatedPaths second := by
  rw [generatedPaths, List.filterMap_append, List.flatMap_append]
  rfl

theorem unhinderedAppend {first second : List Outcome} :
    Unhindered (first ++ second) ↔ Unhindered first ∧ Unhindered second := by
  simp only [Unhindered, List.filterMap_append, List.forall_mem_append]

theorem Writes.then {first second : List Outcome} {between : FileTree}
    (one : Writes s tree between first) (others : Writes s between after second) :
    Writes s tree after (first ++ second) := by
  obtain ⟨paths, apart, spares⟩ := one.touched
  obtain ⟨paths', apart', spares'⟩ := others.touched
  refine ⟨fun r member => ?_, ⟨paths ++ paths', ?_, spares.then spares'⟩, ?_, fun unhindered => ?_⟩
  · rw [List.filterMap_append] at member
    rcases List.mem_append.mp member with earlier | later
    · exact one.faithful r earlier
    · exact others.faithful r later
  · exact List.forall_mem_append.mpr ⟨apart, apart'⟩
  · rw [generatedPathsAppend]
    refine List.forall_mem_append.mpr ⟨fun path member => ?_, others.reaches⟩
    exact (one.reaches path member).imp (·.kept spares'.keeps) (·.kept spares'.keeps)
  · rw [generatedPathsAppend]
    obtain ⟨first, second⟩ := unhinderedAppend.mp unhindered
    exact (one.adds first).then (others.adds second)

theorem tableWrites {outcome : Outcome} (ran : table s tree shape = (after, outcome)) :
    Writes s tree after [outcome] := by
  unfold table at ran
  split at ran
  · cases ran
    exact writesNothing s tree rfl
  · cases ran
    exact writesNothing s tree rfl
  · rename_i plan files prepared
    obtain ⟨plain, paths⟩ := prepareOk prepared
    have own : ∀ path ∈ (fileTexts files).map FileText.path, Path.Descends path ∧
        Path.components path = Path.names path ∧ Path.names path ≠ [] ∧
        ∀ other ∈ shared, Path.names path ≠ Path.names other := by
      rw [fileTextPaths, paths]
      exact fun path member => tablePathNames plain member
    have writable : FileTree.Writable (fileTexts files) := by
      intro f member
      obtain ⟨descends, -, some, -⟩ := own f.path (List.mem_map_of_mem member)
      exact ⟨descends, some⟩
    have apart : ∀ path ∈ (fileTexts files).map FileText.path, ∀ other ∈ shared,
        Path.names path ≠ Path.names other :=
      fun path member => (own path member).2.2.2
    split at ran
    · rename_i written e wrote
      cases ran
      exact ⟨nofun, ⟨_, apart, FileTree.writeAllSpares writable wrote⟩, nofun,
        fun unhindered => absurd rfl (unhindered _ List.mem_cons_self)⟩
    · rename_i written result wrote
      cases ran
      have adds := FileTree.writeAllAdds writable wrote
      have generated : generatedPaths [.generated ⟨shape.name, shape.schema, plan,
          files.map Artifact.path⟩] = (fileTexts files).map FileText.path := by
        simp [generatedPaths, Outcome.generated?, fileTextPaths]
      refine ⟨fun r member => ?_, ⟨_, apart, adds.toSpares⟩, ?_, fun _ => ?_⟩
      · obtain rfl := List.mem_singleton.mp member
        exact ⟨plain, paths⟩
      · rw [generated]
        exact adds.reaches
      · rw [generated]
        exact adds

-- What happens to one table need not be looked into.
attribute [local irreducible] table in
theorem tablesCons (s : Settings) (tree : FileTree) (shape : TableShape)
    (shapes : List TableShape) :
    tables s tree (shape :: shapes) =
      ((tables s (table s tree shape).1 shapes).1,
        (table s tree shape).2 :: (tables s (table s tree shape).1 shapes).2) := rfl

theorem tablesWrite {outcomes : List Outcome} (ran : tables s tree shapes = (after, outcomes)) :
    Writes s tree after outcomes := by
  induction shapes generalizing tree outcomes with
  | nil =>
      cases ran
      exact writesNothing s _ rfl
  | cons shape rest ih =>
      rw [tablesCons, Prod.mk.injEq] at ran
      obtain ⟨later, rfl⟩ := ran
      exact (tableWrites rfl).then (ih (Prod.ext later rfl))

def enabled (s : Settings) (schema table : String) : Bool :=
  ((Resolver.ofSettings s).resolve (some schema) table).enabled

def Attempted (outcomes : List Outcome) (table : String) : Prop :=
  table ∈ (outcomes.filterMap Outcome.generated?).map TableReport.table ∨
    table ∈ (outcomes.filterMap Outcome.failed?).map TableFailure.table

theorem attemptedAppend {first second : List Outcome} {name : String} :
    Attempted (first ++ second) name ↔ Attempted first name ∨ Attempted second name := by
  simp only [Attempted, List.filterMap_append, List.map_append, List.mem_append]
  grind

theorem prepareNone : prepare s shape = .ok none ↔ enabled s shape.schema shape.name = false := by
  simp only [prepare, enabled]
  cases ((Resolver.ofSettings s).resolve (some shape.schema) shape.name).enabled with
  | false => simp
  | true =>
      simp only [if_true, Bool.true_eq_false, iff_false]
      split
      · simp
      · split <;> simp

theorem attemptedFailed (f : TableFailure) (name : String) :
    Attempted [.failed f] name ↔ f.table = name := by
  simp [Attempted, Outcome.generated?, Outcome.failed?, eq_comm (a := name)]

theorem attemptedGenerated (r : TableReport) (name : String) :
    Attempted [.generated r] name ↔ r.table = name := by
  simp [Attempted, Outcome.generated?, Outcome.failed?, eq_comm (a := name)]

theorem tableAttempted (s : Settings) (tree : FileTree) (shape : TableShape) (name : String) :
    Attempted [(table s tree shape).2] name ↔
      shape.name = name ∧ enabled s shape.schema shape.name = true := by
  have on : prepare s shape ≠ .ok none → enabled s shape.schema shape.name = true := by
    rw [← Bool.not_eq_false, ← prepareNone]
    exact id
  unfold table
  split
  · rename_i e failed
    rw [attemptedFailed, on (by simp [failed])]
    simp
  · rename_i disabled
    rw [prepareNone.mp disabled]
    simp [Attempted, Outcome.generated?, Outcome.failed?]
  · rename_i plan files prepared
    rw [on (by simp [prepared])]
    split
    · simp [attemptedFailed]
    · simp [attemptedGenerated]

theorem tablesAttempted (s : Settings) (tree : FileTree) (shapes : List TableShape)
    (name : String) : Attempted (tables s tree shapes).2 name ↔
      ∃ shape ∈ shapes, shape.name = name ∧ enabled s shape.schema shape.name = true := by
  induction shapes generalizing tree with
  | nil => simp [tables, Attempted]
  | cons shape rest ih =>
      rw [tablesCons, ← List.singleton_append, attemptedAppend, tableAttempted, ih]
      simp

def Recorded (law : Manifest → Prop) (root : String) (tree : FileTree) : Prop :=
  ∀ contents, tree.node? (Manifest.place root) = some (.file contents) →
    ∃ m : Manifest, contents = m.text ∧ law m ∧ tree.ReachesRoot root ∧
      ∀ path ∈ Manifest.fileName :: m.paths, tree.Reaches root path

section
variable {law : Manifest → Prop} {root : String}

theorem recordedMissing (law : Manifest → Prop) (missing : ¬tree.IsFile (Manifest.place root)) :
    Recorded law root tree :=
  fun contents found => absurd ⟨contents, found⟩ missing

theorem recordedWeaker (law : Manifest → Prop) {weaker : Manifest → Prop}
    (implied : ∀ m, law m → weaker m) (recorded : Recorded law root tree) :
    Recorded weaker root tree := by
  intro contents found
  obtain ⟨m, same, lawful, reaches⟩ := recorded contents found
  exact ⟨m, same, implied m lawful, reaches⟩

theorem recordedKept (recorded : Recorded law root tree) (keeps : tree.Keeps after)
    (same : ∀ contents, after.node? (Manifest.place root) = some (.file contents) →
      tree.node? (Manifest.place root) = some (.file contents)) :
    Recorded law root after := by
  intro contents found
  obtain ⟨m, rfl, lawful, atRoot, reaches⟩ := recorded contents (same contents found)
  exact ⟨m, rfl, lawful, atRoot.kept keeps, fun path member => (reaches path member).kept keeps⟩

theorem recordedRead (law : Manifest → Prop) (sorted : ∀ m, law m → m.Sorted) (empty : law ∅)
    (recorded : Recorded law root tree) :
    law (Manifest.read tree root) ∧ ∀ path ∈ (Manifest.read tree root).paths,
      tree.ReachesRoot root ∧ tree.Reaches root path := by
  by_cases there : tree.IsFile (Manifest.place root)
  · obtain ⟨contents, found⟩ := there
    obtain ⟨m, rfl, lawful, atRoot, reaches⟩ := recorded contents found
    rw [Manifest.readFound (sorted m lawful) atRoot (reaches _ List.mem_cons_self) found]
    exact ⟨lawful, fun path member => ⟨atRoot, reaches path (List.mem_cons_of_mem _ member)⟩⟩
  · rw [Manifest.readMissing there]
    exact ⟨empty, nofun⟩

end

def Trusted (targets : List Target) (root : String) (tree : FileTree) : Prop :=
  ∀ contents, tree.node? (Manifest.place root) = some (.file contents) →
    ∃ m : Manifest, contents = m.text ∧ Canonical targets m ∧ tree.ReachesRoot root ∧
      ∀ path ∈ Manifest.fileName :: m.paths, tree.Reaches root path

/-- A record that is there comes from passes, whatever their targets were. -/
def Known (root : String) (tree : FileTree) : Prop := Recorded Lawful root tree

section
variable {root : String} {targets : List Target}

theorem trustedMissing (targets : List Target) (missing : ¬tree.IsFile (Manifest.place root)) :
    Trusted targets root tree :=
  recordedMissing (Canonical targets) missing

theorem trustedRead (trusted : Trusted targets root tree) :
    Canonical targets (Manifest.read tree root) ∧ ∀ path ∈ (Manifest.read tree root).paths,
      tree.ReachesRoot root ∧ tree.Reaches root path :=
  recordedRead (Canonical targets) (fun _ canonical => canonical.sorted)
    (canonicalEmpty targets) trusted

theorem knownRead (known : Known root tree) :
    Lawful (Manifest.read tree root) ∧ ∀ path ∈ (Manifest.read tree root).paths,
      tree.ReachesRoot root ∧ tree.Reaches root path :=
  recordedRead Lawful (fun _ lawful => lawful.sorted) (canonicalEmpty []).lawful known

theorem Trusted.known (trusted : Trusted targets root tree) : Known root tree :=
  recordedWeaker (Canonical targets) (fun _ canonical => canonical.lawful) trusted

end

def nextRecord (s : Settings) (tree : FileTree) (outcomes : List Outcome) : Manifest :=
  record (Manifest.read tree s.outputRoot) (outcomes.filterMap Outcome.generated?)
    (outcomes.filterMap Outcome.failed?)

def stalePaths (s : Settings) (tree : FileTree) (outcomes : List Outcome) : List String :=
  stale (Manifest.read tree s.outputRoot) (nextRecord s tree outcomes)

def writeIndex (s : Settings) (tabled : FileTree) (outcomes : List Outcome) :
    FileTree × Except WriteError Unit :=
  tabled.writeAll s.outputRoot
    (indexTexts s ((outcomes.filterMap Outcome.generated?).map TableReport.table))

inductive Course (s : Settings) (tree : FileTree) (shapes : List TableShape)
    (outcomes : List Outcome) : FileTree → Except WriteError Report → Prop where
  | unindexed {tabled after : FileTree} {e : WriteError}
      (tables : Pass.tables s tree shapes = (tabled, outcomes))
      (index : writeIndex s tabled outcomes = (after, .error e)) :
      Course s tree shapes outcomes after (.error e)
  | unrecorded {tabled indexed after : FileTree} {e : WriteError}
      (tables : Pass.tables s tree shapes = (tabled, outcomes))
      (index : writeIndex s tabled outcomes = (indexed, .ok ()))
      (cleared : after = (indexed.removeAll s.outputRoot (stalePaths s tree outcomes)).1) :
      Course s tree shapes outcomes after (.error e)
  | done {tabled indexed after : FileTree} {report : Report}
      (tables : Pass.tables s tree shapes = (tabled, outcomes))
      (index : writeIndex s tabled outcomes = (indexed, .ok ()))
      (record : (nextRecord s tree outcomes).write
        (indexed.removeAll s.outputRoot (stalePaths s tree outcomes)).1 s.outputRoot =
          (after, .ok ()))
      (failures : report.failures = outcomes.filterMap Outcome.failed?) :
      Course s tree shapes outcomes after (.ok report)

theorem runCourse (s : Settings) (tree : FileTree) (shapes : List TableShape) :
    Course s tree shapes (tables s tree shapes).2 (run s tree shapes).1 (run s tree shapes).2 := by
  unfold run
  dsimp only
  split
  · rename_i after e index
    exact .unindexed rfl index
  · rename_i indexed made index
    split
    · rename_i after e record
      exact .unrecorded rfl index (Manifest.writeError record)
    · rename_i after made record
      exact .done rfl index record rfl

def reported (s : Settings) (outcomes : List Outcome) (removed : Nat) : Report where
  generated := outcomes.filterMap Outcome.generated?
  disabled := outcomes.filterMap Outcome.disabled?
  failures := outcomes.filterMap Outcome.failed?
  filesWritten := written (outcomes.filterMap Outcome.generated?) + s.targets.length
  filesRemoved := removed

structure Ended (s : Settings) (tree : FileTree) (shapes : List TableShape)
    (outcomes : List Outcome) (tabled indexed after : FileTree) (report : Report) : Prop where
  tables : Pass.tables s tree shapes = (tabled, outcomes)
  index : writeIndex s tabled outcomes = (indexed, .ok ())
  record : (nextRecord s tree outcomes).write
    (indexed.removeAll s.outputRoot (stalePaths s tree outcomes)).1 s.outputRoot = (after, .ok ())
  reports : report = reported s outcomes
    (indexed.removeAll s.outputRoot (stalePaths s tree outcomes)).2

theorem runEnded {report : Report} (ran : run s tree shapes = (after, .ok report)) :
    ∃ outcomes tabled indexed, Ended s tree shapes outcomes tabled indexed after report := by
  unfold run at ran
  dsimp only at ran
  split at ran
  · cases ran
  · rename_i indexed made index
    split at ran
    · cases ran
    · rename_i after made record
      cases ran
      exact ⟨_, _, indexed, rfl, index, record, rfl⟩

theorem Ended.ran {report : Report} {outcomes : List Outcome} {tabled indexed : FileTree}
    (ended : Ended s tree shapes outcomes tabled indexed after report) :
    run s tree shapes = (after, .ok report) := by
  obtain ⟨tables, index, record, rfl⟩ := ended
  rw [writeIndex] at index
  rw [stalePaths, nextRecord] at record
  unfold run
  rw [tables]
  dsimp only
  rw [index]
  dsimp only
  rw [record]
  rfl

end RestScaffold.Pass
