import RestScaffold.Proofs.Generation.Repetition

/-! What becomes of the files of a table that fails. They stay recorded, and none of them is
removed; what may have changed is what a table wrote before it failed. -/
namespace RestScaffold.Pass
open Catalog Rendering FileTree

variable {s : Settings} {start tree tabled indexed after : FileTree} {shapes : List TableShape}
  {outcomes : List Outcome} {report : Report} {failure : TableFailure} {files : List String}
  {path : String}

def held (s : Settings) (t : FileTree) (path : String) : Option String :=
  t.text? (base s.outputRoot ++ Path.names path)

def leftover (s : Settings) (tree : FileTree) (shapes : List TableShape) (path : String) :
    Option String :=
  lastText s.outputRoot (base s.outputRoot ++ Path.names path) (leftovers s tree shapes)

section
variable (known : Known s.outputRoot tree)
  (ended : Ended s tree shapes outcomes tabled indexed after report)
  (failed : failure ∈ report.failures)
  (recorded : (Manifest.read tree s.outputRoot).get? failure.table = some files)
  (alone : ∀ r ∈ report.generated, Text.lower r.table ≠ Text.lower failure.table)
include known ended failed recorded alone

omit known in
theorem failedRecorded : (nextRecord s tree outcomes).get? failure.table = some files := by
  have faithful := (tablesWrite ended.tables).faithful
  rw [ended.reports] at failed alone
  have ungenerated : failure.table ∉
      (outcomes.filterMap Outcome.generated?).map TableReport.table := by
    intro generated
    obtain ⟨r, reported, same⟩ := List.mem_map.mp generated
    exact alone r reported (congrArg Text.lower same)
  have among : failure.table ∈ (outcomes.filterMap Outcome.failed?).map TableFailure.table :=
    List.mem_map_of_mem failed
  rw [nextRecord, recordGet faithful, if_neg ungenerated, if_pos among]
  exact recorded

theorem failedText (member : path ∈ files) :
    held s after path = (leftover s tree shapes path).or (held s tree path) := by
  have lawful := (knownRead known).1
  have faithful := (tablesWrite ended.tables).faithful
  have plain := lawful.plain _ _ recorded
  have own := lawful.own _ _ recorded path member
  have kept : path ∈ (nextRecord s tree outcomes).paths :=
    (memPaths (recordSorted _ _ _)).mpr
      ⟨failure.table, files, failedRecorded ended failed recorded alone, member⟩
  have others : ∀ r ∈ report.generated, ∀ other ∈ r.files, Path.names path ≠ Path.names other := by
    intro r reported other inside same
    have outcome := reported
    rw [ended.reports] at outcome
    obtain ⟨plain', whole⟩ := faithful r outcome
    rw [whole] at inside
    exact alone r reported (tablePathsApart plain plain' own inside same).symm
  rw [held, recordedText known ended kept, lastLeftover ended others]
  rfl

end

/-- The files of a table that failed stay recorded unless a table with the same files was generated.
Each is as it was if and only if what was left over of it, if anything, is what it held before; so
they all are where no table with these files failed in writing. -/
theorem failedFilesStayButForLeftovers (fresh : ¬start.IsFile (Manifest.place s.outputRoot))
    (earlier : Earlier s.outputRoot start tree) (ran : run s tree shapes = (after, .ok report))
    (failed : failure ∈ report.failures)
    (recorded : (Manifest.read tree s.outputRoot).get? failure.table = some files)
    (alone : ∀ r ∈ report.generated, Text.lower r.table ≠ Text.lower failure.table) :
    (Manifest.read after s.outputRoot).get? failure.table = some files ∧
      (∀ path ∈ files, held s after path = held s tree path ↔
        ∀ contents, leftover s tree shapes path = some contents →
          held s tree path = some contents) ∧
      ((∀ other ∈ report.failures, Text.lower other.table = Text.lower failure.table →
          other.error.stage ≠ "write") →
        ∀ path ∈ files, held s after path = held s tree path) := by
  have known := earlierKnown fresh earlier
  obtain ⟨outcomes, tabled, indexed, ended⟩ := runEnded ran
  have lawful := (knownRead known).1
  have texts := fun path (member : path ∈ files) =>
    failedText known ended failed recorded alone member
  refine ⟨?_, fun path member => ?_, fun unhindered path member => ?_⟩
  · rw [endedRecord ended]
    exact failedRecorded ended failed recorded alone
  · rw [texts path member]
    cases leftover s tree shapes path with
    | none => simp
    | some contents => simp [eq_comm]
  · have nothing : leftover s tree shapes path = none := by
      refine lastTextNone.mpr fun f left same => ?_
      obtain ⟨other, among, stage, plain, own⟩ := leftoversFailed ran f left
      refine unhindered other among ?_ stage
      exact tablePathsApart plain (lawful.plain _ _ recorded) own
        (lawful.own _ _ recorded path member) (List.append_cancel_left same).symm
    rw [texts path member, nothing]
    exact Option.none_or

def bareTable (name : String) : TableShape := ⟨"public", name, [], none⟩

def clientOnly : Settings := getSettings [.client]

def itemsTree : FileTree := (run clientOnly blockedTree [idTable "items"]).1

theorem itemsEarlier : Earlier "out" blockedTree itemsTree := by
  have earlier : Earlier clientOnly.outputRoot blockedTree itemsTree := by
    rw [itemsTree]
    exact .pass .none rfl _
  exact earlier

def attempts (report : Report) : List TableReport × List (String × String) :=
  (report.generated, report.failures.map fun f => (f.table, f.error.stage))

theorem bareItems :
    (run clientOnly itemsTree [bareTable "items"]).2.toOption.map attempts =
        some ([], [("items", "emit")]) ∧
      (Manifest.read itemsTree "out").get? "items" =
        some ["client/types/items.ts", "client/api/items.ts"] := by decide +kernel

def bareTree : FileTree := (run clientOnly itemsTree [bareTable "items"]).1

theorem bareItemsStay :
    ¬blockedTree.IsFile (Manifest.place "out") ∧ Earlier "out" blockedTree itemsTree ∧
      ∃ report failure, run clientOnly itemsTree [bareTable "items"] = (bareTree, .ok report) ∧
        failure ∈ report.failures ∧ failure.table = "items" ∧
        (Manifest.read bareTree "out").get? "items" =
          some ["client/types/items.ts", "client/api/items.ts"] ∧
        held clientOnly bareTree "client/api/items.ts" =
          held clientOnly itemsTree "client/api/items.ts" := by
  have fresh : ¬blockedTree.IsFile (Manifest.place clientOnly.outputRoot) := by decide
  have earlier : Earlier clientOnly.outputRoot blockedTree itemsTree := itemsEarlier
  obtain ⟨done, recorded⟩ := bareItems
  obtain ⟨report, ran, seen⟩ := okRan done
  obtain ⟨ungenerated, failures⟩ := Prod.mk.inj seen
  obtain ⟨failure, only, same⟩ := List.map_eq_singleton_iff.mp failures
  obtain ⟨table, stage⟩ := Prod.mk.inj same
  have failed : failure ∈ report.failures := by simp [only]
  have alone : ∀ r ∈ report.generated, Text.lower r.table ≠ Text.lower failure.table := by
    simp [ungenerated]
  have unhindered : ∀ other ∈ report.failures, Text.lower other.table = Text.lower failure.table →
      other.error.stage ≠ "write" := by
    simp [only, stage]
  obtain ⟨kept, -, stay⟩ := failedFilesStayButForLeftovers fresh earlier ran failed
    (table ▸ recorded) alone
  have root : clientOnly.outputRoot = "out" := rfl
  rw [root, table] at kept
  rw [bareTree]
  exact ⟨fresh, earlier, report, failure, ran, failed, table, kept,
    stay unhindered _ (by simp)⟩

def retypedTable (name : String) : TableShape :=
  ⟨"public", name, [⟨"id", "text", false, true, none, none⟩], none⟩

def retypedTree : FileTree := (run bothSettings itemsTree [retypedTable "items"]).1

theorem retypedItems :
    (run bothSettings itemsTree [retypedTable "items"]).2.toOption.map attempts =
        some ([], [("items", "write")]) ∧
      (Manifest.read itemsTree "out").get? "items" =
        some ["client/types/items.ts", "client/api/items.ts"] ∧
      held bothSettings retypedTree "client/types/items.ts" ≠
        held bothSettings itemsTree "client/types/items.ts" := by decide +kernel

theorem failedTableReplacesFiles :
    ¬blockedTree.IsFile (Manifest.place "out") ∧ Earlier "out" blockedTree itemsTree ∧
      ∃ report failure files, run bothSettings itemsTree [retypedTable "items"] =
          (retypedTree, .ok report) ∧
        failure ∈ report.failures ∧ report.generated = [] ∧
        (Manifest.read itemsTree bothSettings.outputRoot).get? failure.table = some files ∧
        ∃ path ∈ files, held bothSettings retypedTree path ≠ held bothSettings itemsTree path := by
  obtain ⟨done, recorded, replaced⟩ := retypedItems
  obtain ⟨report, ran, seen⟩ := okRan done
  obtain ⟨ungenerated, failures⟩ := Prod.mk.inj seen
  obtain ⟨failure, only, same⟩ := List.map_eq_singleton_iff.mp failures
  obtain ⟨table, -⟩ := Prod.mk.inj same
  rw [retypedTree] at replaced ⊢
  exact ⟨by decide, itemsEarlier, report, failure, _, ran, by simp [only], ungenerated,
    table ▸ recorded, _, by simp, replaced⟩

end RestScaffold.Pass
