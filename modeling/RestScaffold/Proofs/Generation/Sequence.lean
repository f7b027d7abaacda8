import RestScaffold.Proofs.Generation.Clearing

/-! Passes one after another over one output root, for the same targets. Each finds the record of
the one before it, and with it every file that is below the root. -/
namespace RestScaffold.Pass
open Catalog Rendering FileTree

variable {s : Settings} {root : String} {targets : List Target} {tree after : FileTree}
  {shapes : List TableShape} {outcomes : List Outcome}

/-- All that is recorded is there, and hardly anything else is. -/
structure Settled (targets : List Target) (root : String) (tree : FileTree) : Prop where
  trusted : Trusted targets root tree
  present : ∀ names, Named (Manifest.read tree root).paths names →
    tree.IsFile (base root ++ names)
  nothingElse : ∀ names, tree.IsFile (base root ++ names) →
    Named (Manifest.read tree root).paths names ∨ Named (commonPaths targets) names

theorem settledEmpty (targets : List Target)
    (empty : ∀ names, ¬tree.IsFile (base root ++ names)) : Settled targets root tree := by
  have missing : ¬tree.IsFile (Manifest.place root) := empty [Manifest.fileName]
  refine ⟨trustedMissing targets missing, ?_, fun names file => absurd file (empty names)⟩
  rw [Manifest.readMissing missing]
  rintro names ⟨path, member, -⟩
  contradiction

theorem namedBelow (root : String) (paths names : List String) :
    (∃ path ∈ paths, base root ++ names = base root ++ Path.names path) ↔ Named paths names := by
  simp only [List.append_cancel_left_eq, Named]

theorem clearedExact (settled : Settled s.targets s.outputRoot tree)
    {tabled indexed cleared : FileTree}
    (steps : Cleared s tree cleared outcomes tabled indexed) (unhindered : Unhindered outcomes)
    (names : List String) :
    cleared.IsFile (base s.outputRoot ++ names) ∨ Named [Manifest.fileName] names ↔
      Named (nextRecord s tree outcomes).paths names ∨ Named (commonPaths s.targets) names := by
  have kept : (Named (Manifest.read tree s.outputRoot).paths names ∨
        Named (generatedPaths outcomes) names) ∧ ¬Named (stalePaths s tree outcomes) names ↔
      Named (nextRecord s tree outcomes).paths names :=
    staleExact (trustedRead settled.trusted).1 steps.tables.faithful names
  have apart : Named (s.targets.map indexPath) names →
      ¬Named (stalePaths s tree outcomes) names := by
    rintro ⟨common, member, rfl⟩ ⟨path, old, same⟩
    exact (staleNames settled.trusted.known old).2 common
      (commonShared (List.mem_cons_of_mem _ member)) same.symm
  have common : Named (commonPaths s.targets) names ↔
      Named [Manifest.fileName] names ∨ Named (s.targets.map indexPath) names := by
    simp [Named, commonPaths]
  have present := settled.present names
  have nothingElse := settled.nothingElse names
  rw [steps.stale.files, steps.index.files, (steps.tables.adds unhindered).files]
  simp only [namedBelow, common, ← kept] at nothingElse ⊢
  grind

structure Undisturbed (root : String) (before after : FileTree) : Prop where
  atRoot : before.ReachesRoot root → after.ReachesRoot root
  below : ∀ names, after.node? (base root ++ names) = before.node? (base root ++ names)

theorem undisturbedReaches {path : String} (undisturbed : Undisturbed root tree after)
    (reaches : tree.Reaches root path) : after.Reaches root path := by
  obtain ⟨above, name, split, followed, stepped⟩ := reaches.leads
  have down : ".." ∉ above := fun climbs => reaches.descends.down (by simp [split, climbs])
  refine ⟨reaches.descends, reaches.allowed, reaches.named, above, name, split, ?_, stepped⟩
  rwa [followBelow down undisturbed.below]

theorem undisturbedRecorded (law : Manifest → Prop) (undisturbed : Undisturbed root tree after)
    (recorded : Recorded law root tree) : Recorded law root after := by
  intro contents found
  rw [Manifest.place, undisturbed.below] at found
  obtain ⟨m, rfl, lawful, atRoot, reaches⟩ := recorded contents found
  exact ⟨m, rfl, lawful, undisturbed.atRoot atRoot,
    fun path member => undisturbedReaches undisturbed (reaches path member)⟩

theorem undisturbedTrusted (undisturbed : Undisturbed root tree after)
    (trusted : Trusted targets root tree) : Trusted targets root after :=
  undisturbedRecorded (Canonical targets) undisturbed trusted

theorem undisturbedRead (undisturbed : Undisturbed root tree after) (known : Known root tree) :
    Manifest.read after root = Manifest.read tree root := by
  by_cases there : tree.IsFile (Manifest.place root)
  · obtain ⟨contents, found⟩ := there
    obtain ⟨m, rfl, lawful, atRoot, reaches⟩ := known contents found
    have reached := reaches _ List.mem_cons_self
    rw [Manifest.readFound lawful.sorted atRoot reached found]
    refine Manifest.readFound lawful.sorted (undisturbed.atRoot atRoot)
      (undisturbedReaches undisturbed reached) ?_
    rw [Manifest.place, undisturbed.below]
    exact found
  · have missing : ¬after.IsFile (Manifest.place root) := by
      rw [IsFile, Manifest.place, undisturbed.below]
      exact there
    rw [Manifest.readMissing there, Manifest.readMissing missing]

theorem undisturbedSettled (undisturbed : Undisturbed root tree after)
    (settled : Settled targets root tree) : Settled targets root after := by
  have same := undisturbedRead undisturbed settled.trusted.known
  have file : ∀ names, after.IsFile (base root ++ names) ↔ tree.IsFile (base root ++ names) :=
    fun names => by rw [IsFile, undisturbed.below, IsFile]
  refine ⟨undisturbedTrusted undisturbed settled.trusted, fun names named => ?_,
    fun names there => ?_⟩
  · rw [same] at named
    exact (file names).mpr (settled.present names named)
  · rw [same]
    exact settled.nothingElse names ((file names).mp there)

inductive Earlier (root : String) (start : FileTree) : FileTree → Prop where
  | none : Earlier root start start
  | pass {s : Settings} {before : FileTree} (earlier : Earlier root start before)
      (sameRoot : s.outputRoot = root) (shapes : List TableShape) :
      Earlier root start (run s before shapes).1
  | aside {before after : FileTree} (earlier : Earlier root start before)
      (undisturbed : Undisturbed root before after) : Earlier root start after

theorem earlierKnown {start : FileTree} (fresh : ¬start.IsFile (Manifest.place root))
    (earlier : Earlier root start tree) : Known root tree := by
  induction earlier with
  | none => exact recordedMissing Lawful fresh
  | pass earlier sameRoot shapes ih =>
      subst sameRoot
      exact runKnown ih shapes
  | aside earlier undisturbed ih => exact undisturbedRecorded Lawful undisturbed ih

def Succeeds (s : Settings) (tree : FileTree) (shapes : List TableShape) (after : FileTree) :
    Prop :=
  ∃ report, run s tree shapes = (after, .ok report) ∧
    ∀ f ∈ report.failures, f.error.stage ≠ "write"

def fine : Except WriteError Report → Bool
  | .ok report => report.failures.all (·.error.stage != "write")
  | .error _ => false

theorem fineSucceeds (done : fine (run s tree shapes).2) :
    Succeeds s tree shapes (run s tree shapes).1 := by
  cases ran : run s tree shapes with
  | mk after result =>
      rw [ran] at done
      cases result with
      | error e => contradiction
      | ok report =>
          refine ⟨report, ran, fun f member => ?_⟩
          simpa using List.all_eq_true.mp done f member

/-- One pass or several over the same root and for the same targets, with any tables and any other
settings each. -/
inductive Passes (root : String) (targets : List Target) : FileTree → FileTree → Prop where
  | one {s : Settings} {shapes : List TableShape} {start after : FileTree}
      (sameRoot : s.outputRoot = root) (sameTargets : s.targets = targets)
      (succeeds : Succeeds s start shapes after) : Passes root targets start after
  | more {s : Settings} {shapes : List TableShape} {start before between after : FileTree}
      (earlier : Passes root targets start before) (undisturbed : Undisturbed root before between)
      (sameRoot : s.outputRoot = root) (sameTargets : s.targets = targets)
      (succeeds : Succeeds s between shapes after) : Passes root targets start after

structure Left (targets : List Target) (root : String) (tree : FileTree) : Prop where
  trusted : Trusted targets root tree
  files : ∀ names, tree.IsFile (base root ++ names) ↔
    Named (Manifest.read tree root).paths names ∨ Named (commonPaths targets) names

theorem Left.settled (left : Left targets root tree) : Settled targets root tree :=
  ⟨left.trusted, fun names named => (left.files names).mpr (.inl named),
    fun names => (left.files names).mp⟩

theorem succeedsLeaves (settled : Settled s.targets s.outputRoot tree)
    (succeeds : Succeeds s tree shapes after) : Left s.targets s.outputRoot after := by
  obtain ⟨report, ran, unhindered⟩ := succeeds
  have trusted := runTrusted settled.trusted shapes
  have found := runRecord (congrArg Prod.snd ran)
  have course := runCourse s tree shapes
  rw [ran] at trusted found course
  cases course with
  | done tables index record failures =>
      rw [failures] at unhindered
      have steps := clearedOf settled.trusted.known tables index
      refine ⟨trusted, fun names => ?_⟩
      rw [found, (Manifest.writeAdds record).1.files, namedBelow]
      exact clearedExact settled steps unhindered names

theorem passesLeave {start : FileTree} (empty : ∀ names, ¬start.IsFile (base root ++ names))
    (passes : Passes root targets start after) : Left targets root after := by
  induction passes with
  | one sameRoot sameTargets succeeds =>
      subst sameRoot sameTargets
      exact succeedsLeaves (settledEmpty _ empty) succeeds
  | more earlier undisturbed sameRoot sameTargets succeeds ih =>
      subst sameRoot sameTargets
      exact succeedsLeaves (undisturbedSettled undisturbed (ih empty).settled) succeeds

/-- After each of the passes, the files below the root are those that the record lists, the file of
each target that brings its tables together, and the record itself. -/
theorem filesAreThoseRecorded {start : FileTree}
    (empty : ∀ names, ¬start.IsFile (base root ++ names))
    (passes : Passes root targets start after) (names : List String) :
    after.IsFile (base root ++ names) ↔
      (∃ path ∈ (Manifest.read after root).paths, names = Path.names path) ∨
        (∃ target ∈ targets, names = Path.names (indexPath target)) ∨
        names = Path.names Manifest.fileName := by
  rw [(passesLeave empty passes).files]
  simp only [Named, commonPaths, List.mem_cons, exists_eq_or_imp, List.mem_map,
    exists_exists_and_eq_and]
  rw [or_comm (a := names = _)]

def clientSettings : Settings := { outputRoot := "out", targets := [.client] }

def keyTable : TableShape :=
  ⟨"public", "items", [⟨"id", "integer", false, true, none, none⟩], none⟩

def droppedTree : FileTree := (run clientSettings (run clientSettings {} [keyTable]).1 []).1

theorem droppedTableLosesFiles :
    (∀ names, ¬({} : FileTree).IsFile (base "out" ++ names)) ∧
      Passes "out" [.client] {} droppedTree ∧
      droppedTree.IsFile (base "out" ++ ["client", "index.ts"]) ∧
      ¬droppedTree.IsFile (base "out" ++ ["client", "types", "items.ts"]) := by
  have empty : ∀ names, ¬({} : FileTree).IsFile (base "out" ++ names) :=
    fun names file => by simp [IsFile, node?] at file
  obtain ⟨first, second, none⟩ :
      fine (run clientSettings {} [keyTable]).2 ∧
        fine (run clientSettings (run clientSettings {} [keyTable]).1 []).2 ∧
        (Manifest.read droppedTree "out").paths = [] := by decide +kernel
  have passes : Passes "out" [.client] {} droppedTree := by
    rw [droppedTree]
    exact .more (.one rfl rfl (fineSucceeds first)) ⟨id, fun _ => rfl⟩ rfl rfl (fineSucceeds second)
  refine ⟨empty, passes, ?_, ?_⟩
  · exact (filesAreThoseRecorded empty passes _).mpr (.inr (.inl ⟨.client, by decide⟩))
  · rw [filesAreThoseRecorded empty passes, none]
    decide

end RestScaffold.Pass
