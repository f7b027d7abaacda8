import RestScaffold.Proofs.Generation.Replay
import RestScaffold.Proofs.Generation.Sequence

/-! A pass over the same tables once more. It reports what it reported before, and files come out as
they are. Only what a table wrote before it failed is in no record, so that a pass may have removed
it as a file of some other table, and then it comes back. -/
namespace RestScaffold.Pass
open Catalog Rendering FileTree

variable {s : Settings} {start tree tabled indexed after done v : FileTree} {shape : TableShape}
  {shapes : List TableShape} {outcomes : List Outcome} {report : Report} {paths : List String}
  {here : FileTree.Location}

def texts (s : Settings) (shape : TableShape) : List FileText :=
  match prepare s shape with
  | .ok (some (_, artifacts)) => fileTexts artifacts
  | _ => []

def outcomeOf (s : Settings) (shape : TableShape) (result : Except WriteError Unit) : Outcome :=
  match prepare s shape with
  | .error e => .failed ⟨shape.name, e⟩
  | .ok none => .disabled shape.name
  | .ok (some (plan, artifacts)) =>
      match result with
      | .error e => .failed ⟨shape.name, .write e⟩
      | .ok _ => .generated ⟨shape.name, shape.schema, plan, artifacts.map Artifact.path⟩

theorem tableSteps (s : Settings) (tree : FileTree) (shape : TableShape) :
    table s tree shape =
      ((tree.writeAll s.outputRoot (texts s shape)).1,
        outcomeOf s shape (tree.writeAll s.outputRoot (texts s shape)).2) := by
  unfold table texts outcomeOf
  cases prepare s shape with
  | error e => rfl
  | ok prepared =>
      cases prepared with
      | none => rfl
      | some files =>
          dsimp only
          split
          all_goals
            rename_i wrote
            rw [wrote]

theorem textsPaths {plan : List Endpoint} {files : List Artifact}
    (prepared : prepare s shape = .ok (some (plan, files))) :
    (texts s shape).map FileText.path = tablePaths s.targets shape.name := by
  rw [texts, prepared, fileTextPaths, (prepareOk prepared).2]

theorem textsOwn {f : FileText} (member : f ∈ texts s shape) :
    Naming.isPlainIdentifier shape.name = true ∧ f.path ∈ tablePaths s.targets shape.name := by
  have inside := List.mem_map_of_mem (f := FileText.path) member
  unfold texts at member
  split at member
  · rename_i plan files prepared
    rw [textsPaths prepared] at inside
    exact ⟨(prepareOk prepared).1, inside⟩
  · contradiction

theorem textsHoused (s : Settings) (shape : TableShape) : AllHoused (texts s shape) :=
  fun _ member => tablePathHoused (textsOwn member).1 (textsOwn member).2

theorem indexTextsHoused (s : Settings) (names : List String) : AllHoused (indexTexts s names) := by
  intro f member
  obtain ⟨target, -, rfl⟩ := memIndexTexts.mp member
  exact indexHoused target

theorem indexElsewhere (s : Settings) (names : List String) {path : String}
    (own : ∀ other ∈ shared, Path.names path ≠ Path.names other) :
    lastText s.outputRoot (base s.outputRoot ++ Path.names path) (indexTexts s names) = none := by
  refine lastTextNone.mpr fun f member same => ?_
  obtain ⟨target, -, rfl⟩ := memIndexTexts.mp member
  exact own _ (indexShared target) (List.append_cancel_left same)

theorem tableText (s : Settings) (tree : FileTree) (shape : TableShape) (here : FileTree.Location) :
    (table s tree shape).1.text? here =
      (lastText s.outputRoot here (tree.written s.outputRoot (texts s shape))).or
        (tree.text? here) := by
  rw [tableSteps]
  exact writeAllText (textsHoused s shape).writable rfl here

theorem tableAgain {outcome : Outcome} (ran : table s tree shape = (after, outcome))
    (later : after.Spares done s.outputRoot paths) (ready : Ready s.outputRoot done v) :
    ∃ w, table s v shape = (w, outcome) ∧
      v.written s.outputRoot (texts s shape) = tree.written s.outputRoot (texts s shape) ∧
      Ready s.outputRoot done w := by
  rw [tableSteps, Prod.mk.injEq] at ran
  obtain ⟨rfl, rfl⟩ := ran
  obtain ⟨w, again, written, ready'⟩ := writeAllAgain (textsHoused s shape) rfl later ready
  exact ⟨w, by rw [tableSteps, again], written, ready'⟩

def tablesWritten (s : Settings) (tree : FileTree) : List TableShape → List FileText
  | [] => []
  | shape :: rest =>
      tree.written s.outputRoot (texts s shape) ++ tablesWritten s (table s tree shape).1 rest

def leftovers (s : Settings) (tree : FileTree) : List TableShape → List FileText
  | [] => []
  | shape :: rest =>
      (if (table s tree shape).2.failed?.isSome then tree.written s.outputRoot (texts s shape)
        else []) ++
        leftovers s (table s tree shape).1 rest

theorem tablesText (s : Settings) (tree : FileTree) (shapes : List TableShape)
    (here : FileTree.Location) :
    (tables s tree shapes).1.text? here =
      (lastText s.outputRoot here (tablesWritten s tree shapes)).or (tree.text? here) := by
  induction shapes generalizing tree with
  | nil => rfl
  | cons shape rest ih =>
      rw [tablesCons, ih, tableText, tablesWritten, lastTextAppend, Option.or_assoc]

theorem tablesAgain (ran : tables s tree shapes = (after, outcomes))
    (later : after.Spares done s.outputRoot paths) (ready : Ready s.outputRoot done v) :
    ∃ w, tables s v shapes = (w, outcomes) ∧
      tablesWritten s v shapes = tablesWritten s tree shapes ∧ Ready s.outputRoot done w := by
  induction shapes generalizing tree v outcomes with
  | nil =>
      cases ran
      exact ⟨v, rfl, rfl, ready⟩
  | cons shape rest ih =>
      rw [tablesCons, Prod.mk.injEq] at ran
      obtain ⟨further, rfl⟩ := ran
      have ran' : tables s (table s tree shape).1 rest =
          (after, (tables s (table s tree shape).1 rest).2) := Prod.ext further rfl
      obtain ⟨own, -, spares⟩ := (tablesWrite ran').touched
      have step : table s tree shape = ((table s tree shape).1, (table s tree shape).2) := rfl
      obtain ⟨w, again, written, ready'⟩ := tableAgain step (spares.then later) ready
      obtain ⟨w', again', written', ready''⟩ := ih ran' ready'
      refine ⟨w', ?_, ?_, ready''⟩
      · rw [tablesCons, again, again']
      · rw [tablesWritten, tablesWritten, written, again, written']

theorem memTablesWritten {f : FileText} (member : f ∈ tablesWritten s tree shapes) :
    ∃ shape ∈ shapes, f ∈ texts s shape := by
  induction shapes generalizing tree with
  | nil => contradiction
  | cons shape rest ih =>
      rcases List.mem_append.mp member with first | later
      · exact ⟨shape, List.mem_cons_self, (writtenPrefix tree _ _).subset first⟩
      · obtain ⟨shape', inside, own⟩ := ih later
        exact ⟨shape', List.mem_cons_of_mem _ inside, own⟩

theorem leftoversWritten (s : Settings) (tree : FileTree) (shapes : List TableShape) :
    ∀ f ∈ leftovers s tree shapes, f ∈ tablesWritten s tree shapes := by
  induction shapes generalizing tree with
  | nil => nofun
  | cons shape rest ih =>
      intro f member
      rw [tablesWritten]
      rcases List.mem_append.mp member with own | later
      · split at own
        · exact List.mem_append_left _ own
        · contradiction
      · exact List.mem_append_right _ (ih _ f later)

theorem textsReported {f : FileText} (unfailed : (table s tree shape).2.failed?.isSome = false)
    (member : f ∈ texts s shape) :
    ∃ r, (table s tree shape).2.generated? = some r ∧ r.table = shape.name ∧ f.path ∈ r.files := by
  rw [tableSteps] at unfailed ⊢
  unfold texts at member
  unfold outcomeOf at unfailed ⊢
  split at member
  · rename_i plan files prepared
    rw [prepared] at unfailed ⊢
    dsimp only at unfailed ⊢
    split at unfailed
    · contradiction
    · refine ⟨_, rfl, rfl, ?_⟩
      rw [← fileTextPaths]
      exact List.mem_map_of_mem member
  · contradiction

theorem leftoversLast (s : Settings) (tree : FileTree) (shapes : List TableShape)
    (apart : ∀ path ∈ generatedPaths (tables s tree shapes).2,
      here ≠ base s.outputRoot ++ Path.names path) :
    lastText s.outputRoot here (tablesWritten s tree shapes) =
      lastText s.outputRoot here (leftovers s tree shapes) := by
  induction shapes generalizing tree with
  | nil => rfl
  | cons shape rest ih =>
      rw [tablesCons, ← List.singleton_append, generatedPathsAppend] at apart
      obtain ⟨own, others⟩ := List.forall_mem_append.mp apart
      rw [tablesWritten, leftovers, lastTextAppend, lastTextAppend, ih _ others]
      congr 1
      split
      · rfl
      · rename_i unfailed
        refine lastTextNone.mpr fun f member => ?_
        obtain ⟨r, generated, -, inside⟩ := textsReported (Bool.eq_false_iff.mpr unfailed)
          ((writtenPrefix tree _ _).subset member)
        exact own f.path (List.mem_flatMap.mpr
          ⟨r, List.mem_filterMap.mpr ⟨_, List.mem_singleton_self _, generated⟩, inside⟩)

theorem failedWriting {failure : TableFailure} {f : FileText}
    (failed : (table s tree shape).2.failed? = some failure) (member : f ∈ texts s shape) :
    failure.table = shape.name ∧ failure.error.stage = "write" := by
  rw [tableSteps] at failed
  unfold texts at member
  unfold outcomeOf at failed
  split at member
  · rename_i plan files prepared
    rw [prepared] at failed
    dsimp only at failed
    split at failed
    · cases failed
      exact ⟨rfl, rfl⟩
    · cases failed
  · contradiction

theorem leftoversOwn (s : Settings) (tree : FileTree) (shapes : List TableShape) :
    ∀ f ∈ leftovers s tree shapes,
      ∃ failure ∈ (tables s tree shapes).2.filterMap Outcome.failed?,
        failure.error.stage = "write" ∧ Naming.isPlainIdentifier failure.table = true ∧
          f.path ∈ tablePaths s.targets failure.table := by
  induction shapes generalizing tree with
  | nil => nofun
  | cons shape rest ih =>
      intro f member
      rw [tablesCons]
      rcases List.mem_append.mp member with own | later
      · split at own
        · rename_i some
          obtain ⟨failure, failed⟩ := Option.isSome_iff_exists.mp some
          have inside := (writtenPrefix tree _ _).subset own
          obtain ⟨named, stage⟩ := failedWriting failed inside
          obtain ⟨plain, path⟩ := textsOwn inside
          rw [← named] at plain path
          exact ⟨failure, List.mem_filterMap.mpr ⟨_, List.mem_cons_self, failed⟩, stage, plain,
            path⟩
        · contradiction
      · obtain ⟨failure, among, own⟩ := ih _ f later
        obtain ⟨outcome, inside, failed⟩ := List.mem_filterMap.mp among
        exact ⟨failure,
          List.mem_filterMap.mpr ⟨outcome, List.mem_cons_of_mem _ inside, failed⟩, own⟩

theorem leftoversFailed (ran : run s tree shapes = (after, .ok report)) :
    ∀ f ∈ leftovers s tree shapes, ∃ failure ∈ report.failures,
      failure.error.stage = "write" ∧ Naming.isPlainIdentifier failure.table = true ∧
        f.path ∈ tablePaths s.targets failure.table := by
  obtain ⟨outcomes, tabled, indexed, ended⟩ := runEnded ran
  have own := leftoversOwn s tree shapes
  rw [ended.tables] at own
  rw [ended.reports]
  exact own

theorem recordAgain {targets : List Target} {previous : Manifest} {generated : List TableReport}
    (faithful : Faithful targets generated) (failures : List TableFailure) :
    record (record previous generated failures) generated failures =
      record previous generated failures := by
  refine SortedMap.extGet (recordSorted _ _ _) (recordSorted _ _ _) fun table => ?_
  rw [recordGet faithful, recordGet faithful]
  split
  · rfl
  · split <;> rfl

theorem staleSame {m : Manifest} (sorted : m.Sorted) : stale m m = [] := by
  refine List.eq_nil_iff_forall_not_mem.mpr fun path member => ?_
  obtain ⟨⟨table, files, found, -, unrecorded⟩, -⟩ := (staleIff sorted).mp member
  rw [found] at unrecorded
  cases unrecorded

theorem recordPut {m : Manifest} {t u : FileTree} {root : String}
    (wrote : m.write t root = (u, .ok ())) :
    ¬t.IsDirectory (Manifest.place root) ∧ u = t.put (Manifest.place root) (.file m.text) := by
  have some : Path.names Manifest.fileName ≠ [] := by decide
  obtain ⟨-, -, free, same⟩ :=
    writeReaches Manifest.fileNameDescends some (Manifest.writeOk wrote)
  rw [Manifest.fileNameNames] at free same
  exact ⟨free, same⟩

theorem recordText {m : Manifest} {t u : FileTree} {root : String}
    (wrote : m.write t root = (u, .ok ())) (here : FileTree.Location) :
    u.text? here = if here = Manifest.place root then some m.text else t.text? here := by
  obtain ⟨free, rfl⟩ := recordPut wrote
  exact putText free here

theorem recordWriteAgain {m : Manifest} {t u v : FileTree} {root : String}
    (wrote : m.write t root = (u, .ok ())) (keeps : u.Keeps v)
    (free : ¬v.IsDirectory (Manifest.place root)) : ∃ w, m.write v root = (w, .ok ()) := by
  rw [Manifest.place, ← Manifest.fileNameNames, ← placeBelow root Manifest.fileNameDescends] at free
  rw [Manifest.write, writeAgain (Manifest.writeOk wrote) keeps free]
  exact ⟨_, rfl⟩

/-- Each recorded path stays below the root and is written in the one way that passes write it. It
need not belong to the table for which it is recorded. -/
def PlainRecord (root : String) (tree : FileTree) : Prop :=
  ∀ path ∈ (Manifest.read tree root).paths,
    Path.Descends path ∧ Path.components path = Path.names path

theorem knownPlain {root : String} (known : Known root tree) : PlainRecord root tree := by
  intro path recorded
  obtain ⟨descends, whole, -⟩ := lawfulNames (knownRead known).1 recorded
  exact ⟨descends, whole⟩

theorem keptText {path : String} (plain : PlainRecord s.outputRoot tree)
    (ended : Ended s tree shapes outcomes tabled indexed after report)
    (kept : path ∈ (nextRecord s tree outcomes).paths)
    (whole : Path.components path = Path.names path)
    (own : ∀ other ∈ shared, Path.names path ≠ Path.names other) :
    after.text? (base s.outputRoot ++ Path.names path) =
      (lastText s.outputRoot (base s.outputRoot ++ Path.names path)
        (tablesWritten s tree shapes)).or (tree.text? (base s.outputRoot ++ Path.names path)) := by
  have unrecorded : base s.outputRoot ++ Path.names path ≠ Manifest.place s.outputRoot := by
    rw [Manifest.place, ← Manifest.fileNameNames]
    exact fun there => own _ List.mem_cons_self (List.append_cancel_left there)
  have fresh : ∀ old ∈ stalePaths s tree outcomes, base s.outputRoot ++ Path.names path ≠
      place [] (Path.names (Path.join s.outputRoot old)) := by
    intro old stale there
    have sorted := Manifest.readSorted tree s.outputRoot
    obtain ⟨descends, whole'⟩ := plain old (staleRecorded sorted stale)
    rw [placeBelow s.outputRoot descends] at there
    refine ((staleIff sorted).mp stale).2 path kept ?_
    rw [whole, whole', List.append_cancel_left there]
  have tables := tablesText s tree shapes (base s.outputRoot ++ Path.names path)
  have index := writeAllText (indexWritable s _) ended.index (base s.outputRoot ++ Path.names path)
  rw [ended.tables] at tables
  rw [writtenAll ended.index, indexElsewhere s _ own, Option.none_or, tables] at index
  rw [recordText ended.record, if_neg unrecorded, text?, removeAllOthers _ _ _ fresh]
  exact index

section
variable (known : Known s.outputRoot tree)
  (ended : Ended s tree shapes outcomes tabled indexed after report)
include known ended

theorem endedText (here : FileTree.Location) :
    after.text? here =
      if here = Manifest.place s.outputRoot then some (nextRecord s tree outcomes).text
      else if ∃ path ∈ stalePaths s tree outcomes,
          here = base s.outputRoot ++ Path.names path then none
      else (lastText s.outputRoot here (tablesWritten s tree shapes ++
          indexTexts s ((outcomes.filterMap Outcome.generated?).map TableReport.table))).or
        (tree.text? here) := by
  have cleared := clearedOf known ended.tables ended.index
  have tables := tablesText s tree shapes here
  rw [ended.tables] at tables
  rw [recordText ended.record, dropsText cleared.stale,
    writeAllText (indexWritable s _) ended.index, writtenAll ended.index, tables, lastTextAppend,
    Option.or_assoc]

omit known in
theorem endedRecord : Manifest.read after s.outputRoot = nextRecord s tree outcomes :=
  Manifest.writtenRead (recordSorted _ _ _) ended.record

theorem endedKnown : Known s.outputRoot after := by
  have known' := runKnown known shapes
  rwa [ended.ran] at known'

omit known in
theorem nextAgain : nextRecord s after outcomes = nextRecord s tree outcomes := by
  have faithful := (tablesWrite ended.tables).faithful
  rw [nextRecord, endedRecord ended]
  exact recordAgain faithful _

omit known in
theorem staleAgain : stalePaths s after outcomes = [] := by
  rw [stalePaths, nextAgain ended, endedRecord ended]
  exact staleSame (recordSorted _ _ _)

theorem endedReady : Ready s.outputRoot indexed after := by
  have lawful := (knownRead known).1
  have ready := removeAllReady (staleReaches known ended.tables ended.index) fun path old => by
    obtain ⟨table, plain, own⟩ := lawfulPath lawful (staleRecorded lawful.sorted old)
    exact tablePathDepth plain own
  obtain ⟨free, same⟩ := recordPut ended.record
  rw [same]
  exact readyPut ready (mt (ready.directories _).mpr free) _

theorem endedAgain : ∃ tabled' indexed' again,
    Ended s after shapes outcomes tabled' indexed' again { report with filesRemoved := 0 } ∧
      tablesWritten s after shapes = tablesWritten s tree shapes := by
  have ready := endedReady known ended
  obtain ⟨tabled', tables, written, ready'⟩ :=
    tablesAgain ended.tables (indexSpares ended.index) ready
  obtain ⟨indexed', index, -, ready''⟩ := writeAllAgain (indexTextsHoused s _) ended.index
    ((growsSelf indexed).spares s.outputRoot []) ready'
  have keeps : after.Keeps indexed' := fun here directory =>
    (ready''.directories here).mpr ((ready.directories here).mp directory)
  have free : ¬indexed'.IsDirectory (Manifest.place s.outputRoot) := by
    rw [ready''.directories, ← ready.directories]
    exact fileNoDirectory ⟨_, (Manifest.writeAdds ended.record).2⟩
  obtain ⟨again, record⟩ := recordWriteAgain ended.record keeps free
  refine ⟨tabled', indexed', again, ⟨tables, index, ?_, ?_⟩, written⟩
  · rw [staleAgain ended, nextAgain ended]
    exact record
  · rw [staleAgain ended, ended.reports]
    rfl

theorem recordedText {path : String} (kept : path ∈ (nextRecord s tree outcomes).paths) :
    after.text? (base s.outputRoot ++ Path.names path) =
      (lastText s.outputRoot (base s.outputRoot ++ Path.names path)
        (tablesWritten s tree shapes)).or (tree.text? (base s.outputRoot ++ Path.names path)) := by
  obtain ⟨-, whole, -, own⟩ := lawfulNames (nextLawful known (tablesWrite ended.tables)) kept
  exact keptText (knownPlain known) ended kept whole own

omit known in
theorem lastLeftover {path : String}
    (apart : ∀ r ∈ report.generated, ∀ other ∈ r.files, Path.names path ≠ Path.names other) :
    lastText s.outputRoot (base s.outputRoot ++ Path.names path) (tablesWritten s tree shapes) =
      lastText s.outputRoot (base s.outputRoot ++ Path.names path) (leftovers s tree shapes) := by
  refine leftoversLast s tree shapes fun other generated same => ?_
  rw [ended.tables] at generated
  obtain ⟨r, reported, inside⟩ := List.mem_flatMap.mp generated
  rw [ended.reports] at apart
  exact apart r reported other inside (List.append_cancel_left same)

theorem staleLeftover {path : String} (old : path ∈ stalePaths s tree outcomes) :
    lastText s.outputRoot (base s.outputRoot ++ Path.names path) (tablesWritten s tree shapes ++
        indexTexts s ((outcomes.filterMap Outcome.generated?).map TableReport.table)) =
      lastText s.outputRoot (base s.outputRoot ++ Path.names path) (leftovers s tree shapes) := by
  have faithful := (tablesWrite ended.tables).faithful
  rw [lastTextAppend, indexElsewhere s _ (staleNames known old).2, Option.none_or]
  refine lastLeftover ended fun r reported other inside same => ?_
  rw [ended.reports] at reported
  refine staleApart (knownRead known).1 faithful ⟨path, old, rfl⟩ ⟨other, ?_, same⟩
  exact generatedRecorded faithful (List.mem_flatMap.mpr ⟨r, reported, inside⟩)

theorem endedTwice {tabled' indexed' again : FileTree} {report' : Report}
    (ended' : Ended s after shapes outcomes tabled' indexed' again report')
    (written : tablesWritten s after shapes = tablesWritten s tree shapes)
    (here : FileTree.Location) :
    again.text? here =
      (after.text? here).or (lastText s.outputRoot here (leftovers s tree shapes)) := by
  have first := endedText known ended here
  have second := endedText (endedKnown known ended) ended' here
  rw [nextAgain ended, staleAgain ended, written] at second
  rw [second]
  by_cases record : here = Manifest.place s.outputRoot
  · rw [if_pos record] at first ⊢
    rw [first]
    rfl
  rw [if_neg record] at first ⊢
  rw [if_neg (by simp), first]
  split
  · rename_i old
    obtain ⟨path, old, rfl⟩ := old
    rw [staleLeftover known ended old, Option.or_none]
    exact Option.none_or.symm
  · -- What has been left over at a place that is not stale is still there.
    have covered : lastText s.outputRoot here (tablesWritten s tree shapes ++
          indexTexts s ((outcomes.filterMap Outcome.generated?).map TableReport.table)) = none →
        lastText s.outputRoot here (leftovers s tree shapes) = none := by
      simp only [lastTextNone]
      exact fun none f member =>
        none f (List.mem_append_left _ (leftoversWritten s tree shapes f member))
    cases all : lastText s.outputRoot here (tablesWritten s tree shapes ++
        indexTexts s ((outcomes.filterMap Outcome.generated?).map TableReport.table)) with
    | some contents => rfl
    | none =>
        rw [covered all, Option.or_none]
        exact Option.none_or

end

theorem sameTextsIff (root : String) (after : FileTree) (files : List FileText) :
    (∀ here, (after.text? here).or (lastText root here files) = after.text? here) ↔
      ∀ f ∈ files, after.IsFile (base root ++ Path.names f.path) := by
  constructor
  · intro same f member
    rw [fileText]
    intro missing
    have unwritten := same (base root ++ Path.names f.path)
    rw [missing, Option.none_or] at unwritten
    exact lastTextNone.mp unwritten f member rfl
  · intro there here
    cases found : after.text? here with
    | some contents => rfl
    | none =>
        rw [Option.none_or]
        refine lastTextNone.mpr fun f member same => ?_
        exact fileText.mp (same ▸ there f member) found

theorem runAgain (known : Known s.outputRoot tree) (ran : run s tree shapes = (after, .ok report)) :
    ∃ again, run s after shapes = (again, .ok { report with filesRemoved := 0 }) ∧
      ∀ here, again.text? here =
        (after.text? here).or (lastText s.outputRoot here (leftovers s tree shapes)) := by
  obtain ⟨outcomes, tabled, indexed, ended⟩ := runEnded ran
  obtain ⟨tabled', indexed', again, ended', written⟩ := endedAgain known ended
  exact ⟨again, ended'.ran, endedTwice known ended ended' written⟩

theorem repeatedPass (known : Known s.outputRoot tree)
    (succeeds : Succeeds s tree shapes after) :
    ∃ again, Succeeds s after shapes again ∧ ∀ here, again.text? here = after.text? here := by
  obtain ⟨report, ran, unhindered⟩ := succeeds
  obtain ⟨again, ran', texts⟩ := runAgain known ran
  refine ⟨again, ⟨_, ran', unhindered⟩, fun here => ?_⟩
  have nothing : leftovers s tree shapes = [] := by
    refine List.eq_nil_iff_forall_not_mem.mpr fun f member => ?_
    obtain ⟨failure, among, stage, -⟩ := leftoversFailed ran f member
    exact unhindered failure among stage
  rw [texts, nothing]
  exact Option.or_none

/-- A pass that ended well ends well again over the same tables, with the same report but that it
removes nothing. Each file is as it was, save that the files come back which a failed table wrote
and which then were removed for another; so the files are all the same if and only if there is none
of these. -/
theorem repeatsButForLeftovers (fresh : ¬start.IsFile (Manifest.place s.outputRoot))
    (earlier : Earlier s.outputRoot start tree)
    (ran : run s tree shapes = (after, .ok report)) :
    ∃ again, run s after shapes = (again, .ok { report with filesRemoved := 0 }) ∧
      (∀ here, again.text? here =
        (after.text? here).or (lastText s.outputRoot here (leftovers s tree shapes))) ∧
      ((∀ here, again.text? here = after.text? here) ↔
        ∀ f ∈ leftovers s tree shapes, after.IsFile (base s.outputRoot ++ Path.names f.path)) := by
  obtain ⟨again, ran', texts⟩ := runAgain (earlierKnown fresh earlier) ran
  refine ⟨again, ran', texts, ?_⟩
  simp only [texts]
  exact sameTextsIff s.outputRoot after (leftovers s tree shapes)

def getSettings (targets : List Target) : Settings where
  outputRoot := "out"
  targets := targets
  defaults := { endpoints := some ["get"] }

def idTable (name : String) : TableShape :=
  ⟨"public", name, [⟨"id", "integer", false, true, none, none⟩], none⟩

def blockedTree : FileTree where
  nodes := [(["out", "server", "models", "items.go"], .directory),
    (["out", "server", "models"], .directory), (["out", "server"], .directory),
    (["out"], .directory)]

def bothSettings : Settings := getSettings [.client, .server]

theorem okRan {α : Type} {look : Report → α} {seen : α}
    (done : (run s tree shapes).2.toOption.map look = some seen) :
    ∃ report, run s tree shapes = ((run s tree shapes).1, .ok report) ∧ look report = seen := by
  cases ran : run s tree shapes with
  | mk after result =>
      rw [ran] at done
      cases result with
      | error e => contradiction
      | ok report => exact ⟨report, rfl, Option.some.inj done⟩

def stages (report : Report) : List String := report.failures.map fun f => f.error.stage

def failedTree : FileTree := (run bothSettings blockedTree [idTable "items"]).1

theorem failedItems :
    (run bothSettings blockedTree [idTable "items"]).2.toOption.map stages = some ["write"] ∧
      leftovers bothSettings blockedTree [idTable "items"] ≠ [] ∧
      ∀ f ∈ leftovers bothSettings blockedTree [idTable "items"],
        failedTree.IsFile (base "out" ++ Path.names f.path) := by decide +kernel

theorem failedItemsRepeat :
    ¬blockedTree.IsFile (Manifest.place "out") ∧
      leftovers bothSettings blockedTree [idTable "items"] ≠ [] ∧
      ∃ report again, run bothSettings blockedTree [idTable "items"] = (failedTree, .ok report) ∧
        run bothSettings failedTree [idTable "items"] =
          (again, .ok { report with filesRemoved := 0 }) ∧
        ∀ here, again.text? here = failedTree.text? here := by
  have fresh : ¬blockedTree.IsFile (Manifest.place bothSettings.outputRoot) := by decide
  have earlier : Earlier bothSettings.outputRoot blockedTree blockedTree := .none
  obtain ⟨done, some, there⟩ := failedItems
  obtain ⟨report, ran, -⟩ := okRan done
  obtain ⟨again, ran', -, same⟩ := repeatsButForLeftovers fresh earlier ran
  rw [failedTree] at there ⊢
  exact ⟨fresh, some, report, again, ran, ran', same.mpr there⟩

def namesakeTree : FileTree := (run (getSettings [.client]) blockedTree [idTable "Items"]).1

def clearedTree : FileTree := (run bothSettings namesakeTree [idTable "items"]).1

theorem clearedItems :
    (run bothSettings namesakeTree [idTable "items"]).2.toOption.map stages = some ["write"] ∧
      clearedTree.text? ["out", "client", "types", "items.ts"] = none ∧
      lastText "out" ["out", "client", "types", "items.ts"]
        (leftovers bothSettings namesakeTree [idTable "items"]) ≠ none := by decide +kernel

theorem leftoversComeBack :
    ¬blockedTree.IsFile (Manifest.place "out") ∧ Earlier "out" blockedTree namesakeTree ∧
      ∃ report, run bothSettings namesakeTree [idTable "items"] = (clearedTree, .ok report) ∧
        ∀ again result, run bothSettings clearedTree [idTable "items"] = (again, result) →
          again.text? ["out", "client", "types", "items.ts"] ≠
            clearedTree.text? ["out", "client", "types", "items.ts"] := by
  have fresh : ¬blockedTree.IsFile (Manifest.place "out") := by decide
  have earlier : Earlier (getSettings [.client]).outputRoot blockedTree namesakeTree := by
    rw [namesakeTree]
    exact .pass .none rfl _
  have known : Known bothSettings.outputRoot namesakeTree := earlierKnown fresh earlier
  obtain ⟨done, removed, back⟩ := clearedItems
  obtain ⟨report, ran, -⟩ := okRan done
  obtain ⟨again, ran', texts⟩ := runAgain known ran
  rw [clearedTree] at removed ⊢
  refine ⟨fresh, earlier, report, ran, fun again' result same => ?_⟩
  obtain ⟨rfl, -⟩ := Prod.mk.inj (same.symm.trans ran')
  rw [texts, removed, Option.none_or]
  exact back

end RestScaffold.Pass
