import RestScaffold.Proofs.Generation.Pass

/-! What a pass deletes. It deletes nothing but stale paths, however far it gets, and what it leaves
behind is a record that the next pass can go by. -/
namespace RestScaffold.Pass
open Catalog Rendering FileTree

variable {s : Settings} {targets : List Target} {tree tabled indexed cleared after : FileTree}
  {shapes : List TableShape} {outcomes : List Outcome} {table path : String} {files : List String}

def commonPaths (targets : List Target) : List String :=
  Manifest.fileName :: targets.map indexPath

theorem commonShared (member : path ∈ commonPaths targets) : path ∈ shared := by
  rcases List.mem_cons.mp member with rfl | index
  · exact List.mem_cons_self
  · obtain ⟨target, -, rfl⟩ := List.mem_map.mp index
    exact indexShared target

theorem indexTextPaths (s : Settings) (names : List String) :
    (indexTexts s names).map FileText.path = s.targets.map indexPath := by
  rw [indexTexts, fileTextPaths, indexPaths]

theorem memIndexTexts {s : Settings} {names : List String} {f : FileText} :
    f ∈ indexTexts s names ↔
      ∃ target ∈ s.targets, f = ⟨indexPath target, (s.rendering.index names target).contents⟩ := by
  have same : ∀ target, FileText.mk (s.rendering.index names target).path
      (s.rendering.index names target).contents =
        ⟨indexPath target, (s.rendering.index names target).contents⟩ := by
    intro target
    cases target <;> rfl
  simp only [indexTexts, fileTexts, List.map_map, List.mem_map, Function.comp_apply, same, eq_comm]

theorem indexWritable (s : Settings) (names : List String) : Writable (indexTexts s names) := by
  intro f member
  obtain ⟨target, -, rfl⟩ := memIndexTexts.mp member
  exact sharedDescend (indexShared target)

theorem indexAdds (wrote : writeIndex s tabled outcomes = (indexed, .ok ())) :
    tabled.Adds indexed s.outputRoot (s.targets.map indexPath) := by
  rw [← indexTextPaths s]
  exact writeAllAdds (indexWritable s _) wrote

theorem indexSpares {result : Except WriteError Unit}
    (wrote : writeIndex s tabled outcomes = (indexed, result)) :
    tabled.Spares indexed s.outputRoot (s.targets.map indexPath) := by
  rw [← indexTextPaths s]
  exact writeAllSpares (indexWritable s _) wrote

structure Cleared (s : Settings) (tree cleared : FileTree) (outcomes : List Outcome)
    (tabled indexed : FileTree) : Prop where
  tables : Writes s tree tabled outcomes
  index : tabled.Adds indexed s.outputRoot (s.targets.map indexPath)
  stale : indexed.Drops cleared s.outputRoot (stalePaths s tree outcomes)

theorem recordApart {paths : List String} {u : FileTree} {root : String}
    (spares : tree.Spares u root paths)
    (apart : ∀ path ∈ paths, Path.names path ≠ Path.names Manifest.fileName) (contents : String) :
    u.node? (Manifest.place root) = some (.file contents) ↔
      tree.node? (Manifest.place root) = some (.file contents) := by
  refine spares.others _ (fun path member same => apart path member ?_) contents
  rw [Manifest.place, ← Manifest.fileNameNames] at same
  exact (List.append_cancel_left same).symm

theorem writesRecord (writes : Writes s tree tabled outcomes) (contents : String) :
    tabled.node? (Manifest.place s.outputRoot) = some (.file contents) ↔
      tree.node? (Manifest.place s.outputRoot) = some (.file contents) := by
  obtain ⟨paths, apart, spares⟩ := writes.touched
  exact recordApart spares (fun path member => apart path member _ List.mem_cons_self) contents

theorem indexRecord (spares : tabled.Spares indexed s.outputRoot (s.targets.map indexPath))
    (contents : String) :
    indexed.node? (Manifest.place s.outputRoot) = some (.file contents) ↔
      tabled.node? (Manifest.place s.outputRoot) = some (.file contents) := by
  refine recordApart spares (fun path member => ?_) contents
  obtain ⟨target, -, rfl⟩ := List.mem_map.mp member
  cases target <;> decide

theorem clearedRecord (steps : Cleared s tree cleared outcomes tabled indexed) (contents : String)
    (found : cleared.node? (Manifest.place s.outputRoot) = some (.file contents)) :
    tree.node? (Manifest.place s.outputRoot) = some (.file contents) := by
  have kept := ((steps.stale.others _ contents).mp found).1
  have written := (indexRecord steps.index.toSpares contents).mp kept
  exact (writesRecord steps.tables contents).mp written

theorem Cleared.keeps (steps : Cleared s tree cleared outcomes tabled indexed) :
    tree.Keeps cleared := by
  obtain ⟨paths, -, spares⟩ := steps.tables.touched
  exact (spares.keeps.then steps.index.keeps).then steps.stale.keeps

theorem unrecordedIff (recorded : (Manifest.read tree s.outputRoot).get? table = some files) :
    (nextRecord s tree (tables s tree shapes).2).get? table = none ↔
      ∀ shape ∈ shapes, shape.name = table → enabled s shape.schema shape.name = false := by
  have writes : Writes s tree (tables s tree shapes).1 (tables s tree shapes).2 := tablesWrite rfl
  have attempted := tablesAttempted s tree shapes table
  have listed : (nextRecord s tree (tables s tree shapes).2).get? table = none ↔
      ¬Attempted (tables s tree shapes).2 table := by
    rw [nextRecord, recordGet writes.faithful, Attempted, recorded]
    split
    · rename_i generated
      simp only [generated, true_or, not_true_eq_false, reduceCtorEq]
    · rename_i fresh
      split
      · rename_i failed
        simp only [failed, or_true, not_true_eq_false, reduceCtorEq]
      · rename_i unfailing
        simp only [fresh, unfailing, or_self, not_false_eq_true]
  rw [listed, attempted]
  simp only [not_exists, not_and, Bool.not_eq_true]

section
variable (known : Known s.outputRoot tree)
include known

theorem staleNames (old : path ∈ stalePaths s tree outcomes) :
    Path.components path = Path.names path ∧
      ∀ other ∈ shared, Path.names path ≠ Path.names other := by
  have lawful := (knownRead known).1
  obtain ⟨-, same, -, apart⟩ := lawfulNames lawful (staleRecorded lawful.sorted old)
  exact ⟨same, apart⟩

theorem nextLawful (writes : Writes s tree tabled outcomes) :
    Lawful (nextRecord s tree outcomes) :=
  recordLawful (knownRead known).1 writes.faithful

theorem nextReaches (writes : Writes s tree tabled outcomes)
    (member : path ∈ (nextRecord s tree outcomes).paths) :
    tabled.ReachesRoot s.outputRoot ∧ tabled.Reaches s.outputRoot path := by
  obtain ⟨lawful, reaches⟩ := knownRead known
  obtain ⟨paths, -, spares⟩ := writes.touched
  rcases recordedBefore lawful writes.faithful member with earlier | written
  · exact (reaches path earlier).imp (·.kept spares.keeps) (·.kept spares.keeps)
  · exact writes.reaches path written

theorem staleReaches (tables : Pass.tables s tree shapes = (tabled, outcomes))
    (index : writeIndex s tabled outcomes = (indexed, .ok ())) :
    ∀ path ∈ stalePaths s tree outcomes,
      indexed.ReachesRoot s.outputRoot ∧ indexed.Reaches s.outputRoot path := by
  intro path old
  obtain ⟨paths, -, spares⟩ := (tablesWrite tables).touched
  obtain ⟨lawful, reaches⟩ := knownRead known
  have keeps := spares.keeps.then (indexAdds index).keeps
  exact (reaches path (staleRecorded lawful.sorted old)).imp (·.kept keeps) (·.kept keeps)

theorem clearedOf (tables : Pass.tables s tree shapes = (tabled, outcomes))
    (index : writeIndex s tabled outcomes = (indexed, .ok ())) :
    Cleared s tree (indexed.removeAll s.outputRoot (stalePaths s tree outcomes)).1 outcomes
      tabled indexed :=
  ⟨tablesWrite tables, indexAdds index, removeAllDrops (staleReaches known tables index)⟩

end

theorem runRecorded (law : Manifest → Prop) (lawful : ∀ m, law m → Lawful m) (empty : law ∅)
    (kept : ∀ previous generated failures, law previous → Faithful s.targets generated →
      law (record previous generated failures))
    (recorded : Recorded law s.outputRoot tree) (shapes : List TableShape) :
    Recorded law s.outputRoot (run s tree shapes).1 := by
  have known : Known s.outputRoot tree := recordedWeaker law lawful recorded
  have previous := (recordedRead law (fun m own => (lawful m own).sorted) empty recorded).1
  have course := runCourse s tree shapes
  generalize run s tree shapes = ran at course ⊢
  obtain ⟨after, result⟩ := ran
  cases course with
  | unindexed tables index =>
      have writes := tablesWrite tables
      have spares := indexSpares index
      obtain ⟨paths, -, spares'⟩ := writes.touched
      exact recordedKept recorded (spares'.keeps.then spares.keeps) fun contents found =>
        (writesRecord writes contents).mp ((indexRecord spares contents).mp found)
  | unrecorded tables index cleared =>
      have steps := clearedOf known tables index
      rw [cleared]
      exact recordedKept recorded steps.keeps (clearedRecord steps)
  | done tables index record failures =>
      have steps := clearedOf known tables index
      obtain ⟨adds, written⟩ := Manifest.writeAdds record
      have keeps := (steps.index.keeps.then steps.stale.keeps).then adds.keeps
      intro contents found
      rw [written] at found
      cases found
      obtain ⟨atRoot, reaches⟩ := adds.reaches _ List.mem_cons_self
      refine ⟨_, rfl, kept _ _ _ previous steps.tables.faithful, atRoot, fun path member => ?_⟩
      rcases List.mem_cons.mp member with rfl | listed
      · exact reaches
      · exact (nextReaches known steps.tables listed).2.kept keeps

theorem runKnown (known : Known s.outputRoot tree) (shapes : List TableShape) :
    Known s.outputRoot (run s tree shapes).1 :=
  runRecorded Lawful (fun _ => id) (canonicalEmpty []).lawful (fun _ _ _ => recordLawful) known
    shapes

theorem deletedUnrecorded (known : Known s.outputRoot tree) {names : List String}
    (there : tree.IsFile (base s.outputRoot ++ names))
    (gone : ¬(run s tree shapes).1.IsFile (base s.outputRoot ++ names)) :
    ¬Named (nextRecord s tree (tables s tree shapes).2).paths names := by
  have lawful := (knownRead known).1
  have course := runCourse s tree shapes
  generalize (tables s tree shapes).2 = outcomes at course ⊢
  generalize run s tree shapes = ran at course gone
  obtain ⟨after, result⟩ := ran
  have stale : ∀ {tabled indexed cleared : FileTree},
      Cleared s tree cleared outcomes tabled indexed →
      ¬cleared.IsFile (base s.outputRoot ++ names) →
      ¬Named (nextRecord s tree outcomes).paths names := by
    intro tabled indexed cleared steps missing
    obtain ⟨paths, -, spares⟩ := steps.tables.touched
    have before := steps.index.stays _ (spares.stays _ there)
    rw [steps.stale.files, not_and_not_right] at missing
    obtain ⟨path, old, same⟩ := missing before
    exact staleApart lawful steps.tables.faithful ⟨path, old, List.append_cancel_left same⟩
  cases course with
  | unindexed tables index =>
      obtain ⟨paths, -, spares⟩ := (tablesWrite tables).touched
      exact absurd ((indexSpares index).stays _ (spares.stays _ there)) gone
  | unrecorded tables index cleared =>
      exact stale (clearedOf known tables index) (cleared ▸ gone)
  | done tables index record failures =>
      obtain ⟨adds, -⟩ := Manifest.writeAdds record
      exact stale (clearedOf known tables index) fun kept => gone (adds.stays _ kept)

theorem runRecord {report : Report} (ended : (run s tree shapes).2 = .ok report) :
    Manifest.read (run s tree shapes).1 s.outputRoot =
      nextRecord s tree (tables s tree shapes).2 := by
  have course := runCourse s tree shapes
  generalize (tables s tree shapes).2 = outcomes at course ⊢
  generalize run s tree shapes = ran at course ended ⊢
  obtain ⟨after, result⟩ := ran
  cases course with
  | unindexed tables index => cases ended
  | unrecorded tables index cleared => cases ended
  | done tables index record failures => exact Manifest.writtenRead (recordSorted _ _ _) record

variable (trusted : Trusted s.targets s.outputRoot tree)
include trusted

theorem runTrusted (shapes : List TableShape) :
    Trusted s.targets s.outputRoot (run s tree shapes).1 :=
  runRecorded (Canonical s.targets) (fun _ canonical => canonical.lawful)
    (canonicalEmpty s.targets) (fun _ _ _ => recordCanonical) trusted shapes

theorem nextCanonical (writes : Writes s tree tabled outcomes) :
    Canonical s.targets (nextRecord s tree outcomes) :=
  recordCanonical (trustedRead trusted).1 writes.faithful

theorem deletedTurnedOff (recorded : (Manifest.read tree s.outputRoot).get? table = some files)
    (member : path ∈ files) (there : tree.IsFile (base s.outputRoot ++ Path.names path))
    (gone : ¬(run s tree shapes).1.IsFile (base s.outputRoot ++ Path.names path)) :
    ∀ shape ∈ shapes, shape.name = table → enabled s shape.schema shape.name = false := by
  have canonical := (trustedRead trusted).1
  have writes : Writes s tree (tables s tree shapes).1 (tables s tree shapes).2 := tablesWrite rfl
  have next := nextCanonical trusted writes
  have unrecorded := deletedUnrecorded trusted.known there gone
  rw [← unrecordedIff recorded]
  cases kept : (nextRecord s tree (tables s tree shapes).2).get? table with
  | none => rfl
  | some files' =>
      refine absurd ⟨path, (memPaths next.sorted).mpr ⟨table, files', kept, ?_⟩, rfl⟩ unrecorded
      rwa [next.whole table files' kept, ← canonical.whole table files recorded]

theorem deletedIff {report : Report} {names : List String}
    (ended : (run s tree shapes).2 = .ok report)
    (recorded : Named (Manifest.read tree s.outputRoot).paths names)
    (there : tree.IsFile (base s.outputRoot ++ names)) :
    ¬(run s tree shapes).1.IsFile (base s.outputRoot ++ names) ↔
      ¬Named (Manifest.read (run s tree shapes).1 s.outputRoot).paths names := by
  rw [runRecord ended]
  have deleted : ¬(run s tree shapes).1.IsFile (base s.outputRoot ++ names) → _ :=
    deletedUnrecorded trusted.known there
  have course := runCourse s tree shapes
  generalize (tables s tree shapes).2 = outcomes at course deleted ⊢
  generalize run s tree shapes = ran at course deleted ended ⊢
  obtain ⟨after, result⟩ := ran
  cases course with
  | unindexed tables index => cases ended
  | unrecorded tables index cleared => cases ended
  | done tables index record failures =>
      have steps := clearedOf trusted.known tables index
      refine ⟨deleted, fun unrecorded file => ?_⟩
      obtain ⟨path, stale, rfl⟩ := (keptOrStale (trustedRead trusted).1 steps.tables.faithful
        recorded).resolve_left unrecorded
      rcases ((Manifest.writeAdds record).1.files _).mp file with kept | ⟨other, member, same⟩
      · exact ((steps.stale.files _).mp kept).2 ⟨path, stale, rfl⟩
      · obtain rfl := List.mem_singleton.mp member
        exact (staleNames trusted.known stale).2 _ List.mem_cons_self (List.append_cancel_left same)

end RestScaffold.Pass
