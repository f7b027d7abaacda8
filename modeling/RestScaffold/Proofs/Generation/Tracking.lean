import RestScaffold.Proofs.Generation.Failure

/-! Which files later passes keep track of. A file that a pass has written is no burden if it is
recorded, since a later pass removes it once its table is gone; nor is one that is no longer there.
-/
namespace RestScaffold.Pass
open Catalog Rendering FileTree

variable {s : Settings} {start tree tabled indexed after : FileTree} {shapes : List TableShape}
  {outcomes : List Outcome} {report : Report} {previous : Manifest} {targets : List Target}
  {generated : List TableReport} {failures : List TableFailure} {table path : String}

def Present (root : String) (t : FileTree) (path : String) : Prop :=
  t.IsFile (base root ++ Path.names path)

def Tracked (root : String) (t : FileTree) (path : String) : Prop :=
  path ∈ (Manifest.read t root).paths ∨ ¬Present root t path

instance (root : String) (t : FileTree) (path : String) : Decidable (Present root t path) :=
  inferInstanceAs (Decidable (t.IsFile _))

instance (root : String) (t : FileTree) (path : String) : Decidable (Tracked root t path) :=
  inferInstanceAs (Decidable (_ ∨ _))

theorem writtenOwn {f : FileText} (member : f ∈ tablesWritten s tree shapes) :
    ∃ table, Naming.isPlainIdentifier table = true ∧ f.path ∈ tablePaths s.targets table :=
  (memTablesWritten member).elim fun shape inside => ⟨shape.name, textsOwn inside.2⟩

section
variable (lawful : Lawful previous) (faithful : Faithful targets generated)
include lawful faithful

theorem staleLists :
    path ∈ stale previous (record previous generated failures) ↔
      (∃ other, previous.Lists other path ∧
        (record previous generated failures).get? other = none) ∧
      path ∉ (record previous generated failures).paths := by
  have next : Lawful (record previous generated failures) := recordLawful lawful faithful
  rw [staleIff lawful.sorted]
  constructor
  · rintro ⟨⟨other, files, found, inside, dropped⟩, apart⟩
    exact ⟨⟨other, ⟨files, found, inside⟩, dropped⟩, fun kept => apart path kept rfl⟩
  · rintro ⟨⟨other, ⟨files, found, inside⟩, dropped⟩, unrecorded⟩
    have before : path ∈ previous.paths :=
      (memPaths lawful.sorted).mpr ⟨other, files, found, inside⟩
    refine ⟨⟨other, files, found, inside, dropped⟩, fun path' recorded same => unrecorded ?_⟩
    rw [(lawfulNames next recorded).2.1, (lawfulNames lawful before).2.1] at same
    exact lawfulMeet next lawful recorded before same ▸ recorded

theorem forgottenIff (lists : previous.Lists table path) :
    path ∉ (record previous generated failures).paths ∧
        path ∉ stale previous (record previous generated failures) ↔
      path ∉ tablePaths targets table ∧
        ∀ other, previous.Lists other path → other ∈ generated.map TableReport.table := by
  have recorded : path ∈ (record previous generated failures).paths ↔
      ∃ other, (record previous generated failures).Lists other path :=
    memPaths (recordSorted _ _ _)
  rw [staleLists lawful faithful, recorded]
  simp only [recordLists faithful]
  constructor
  · rintro ⟨unrecorded, fresh⟩
    have anew : ∀ other, previous.Lists other path → other ∈ generated.map TableReport.table := by
      intro other lists'
      refine Classical.by_contradiction fun ungenerated => fresh ⟨⟨other, lists', ?_⟩, unrecorded⟩
      rw [recordGet faithful, if_neg ungenerated, if_neg]
      exact fun failed => unrecorded ⟨other, .inr ⟨ungenerated, failed, lists'⟩⟩
    exact ⟨fun kept => unrecorded ⟨table, .inl ⟨anew table lists, kept⟩⟩, anew⟩
  · rintro ⟨dropped, anew⟩
    refine ⟨?_, ?_⟩
    · rintro ⟨other, ⟨written, own⟩ | ⟨unwritten, -, lists'⟩⟩
      · obtain ⟨files, found, inside⟩ := lists
        obtain ⟨r, known, rfl⟩ := List.mem_map.mp written
        have lower := (tablePathsMeet (lawful.plain _ _ found) (faithful r known).1
          (lawful.own _ _ found path inside) own rfl).1
        exact dropped (tablePathsLower lower ▸ own)
      · exact unwritten (anew other lists')
    · rintro ⟨⟨other, lists', unrecorded⟩, -⟩
      rw [recordGet faithful, if_pos (anew other lists')] at unrecorded
      cases unrecorded

end

section
variable (known : Known s.outputRoot tree)
  (ended : Ended s tree shapes outcomes tabled indexed after report)
include known ended

theorem recordedPresent (recorded : path ∈ (Manifest.read tree s.outputRoot).paths) :
    Present s.outputRoot after path ↔ path ∉ stalePaths s tree outcomes ∧
      (Present s.outputRoot tree path ∨
        path ∈ (tablesWritten s tree shapes).map FileText.path) := by
  have lawful := (knownRead known).1
  obtain ⟨-, -, -, own⟩ := lawfulNames lawful recorded
  have unrecorded : base s.outputRoot ++ Path.names path ≠ Manifest.place s.outputRoot := by
    rw [Manifest.place, ← Manifest.fileNameNames]
    exact fun same => own _ List.mem_cons_self (List.append_cancel_left same)
  have old : (∃ other ∈ stalePaths s tree outcomes,
      base s.outputRoot ++ Path.names path = base s.outputRoot ++ Path.names other) ↔
        path ∈ stalePaths s tree outcomes := by
    constructor
    · rintro ⟨other, stale, same⟩
      exact lawfulMeet lawful lawful recorded (staleRecorded lawful.sorted stale)
        (List.append_cancel_left same) ▸ stale
    · exact fun stale => ⟨path, stale, rfl⟩
  obtain ⟨holder, plain, place⟩ := lawfulPath lawful recorded
  have unwritten : lastText s.outputRoot (base s.outputRoot ++ Path.names path)
      (tablesWritten s tree shapes) = none ↔
        path ∉ (tablesWritten s tree shapes).map FileText.path := by
    rw [lastTextNone, List.mem_map, not_exists]
    simp only [not_and]
    refine forall₂_congr fun f member => not_congr ⟨fun same => ?_, fun same => same ▸ rfl⟩
    obtain ⟨other, plain', place'⟩ := writtenOwn member
    exact (tablePathsMeet plain plain' place place' (List.append_cancel_left same)).2.symm
  rw [Present, Present, fileText, fileText, endedText known ended, if_neg unrecorded]
  split
  · rename_i stale
    simp only [old.mp stale, ne_eq, not_true_eq_false, false_and]
  · rename_i kept
    rw [lastTextAppend, indexElsewhere s _ own, Option.none_or, ne_eq, Option.or_eq_none_iff,
      unwritten, not_and_or, not_not, or_comm, ← old]
    exact (and_iff_right kept).symm

end

/-- After a pass a recorded file is recorded again or gone, unless it was there and every table that
had it has been generated for targets that do not have it. -/
theorem forgetsFilesOfOtherTargets (fresh : ¬start.IsFile (Manifest.place s.outputRoot))
    (earlier : Earlier s.outputRoot start tree) (ran : run s tree shapes = (after, .ok report))
    (recorded : (Manifest.read tree s.outputRoot).Lists table path) :
    Tracked s.outputRoot after path ↔
      path ∈ tablePaths s.targets table ∨ ¬Present s.outputRoot tree path ∨
        ∃ other, (Manifest.read tree s.outputRoot).Lists other path ∧
          other ∉ report.tableNames := by
  have known := earlierKnown fresh earlier
  obtain ⟨outcomes, tabled, indexed, ended⟩ := runEnded ran
  have lawful := (knownRead known).1
  have faithful := (tablesWrite ended.tables).faithful
  have before : path ∈ (Manifest.read tree s.outputRoot).paths :=
    (memPaths lawful.sorted).mpr ⟨table, recorded⟩
  have names : report.tableNames =
      (outcomes.filterMap Outcome.generated?).map TableReport.table := by
    rw [ended.reports]
    rfl
  have forgotten : path ∉ (nextRecord s tree outcomes).paths ∧
      path ∉ stalePaths s tree outcomes ↔ path ∉ tablePaths s.targets table ∧
        ∀ other, (Manifest.read tree s.outputRoot).Lists other path →
          other ∈ (outcomes.filterMap Outcome.generated?).map TableReport.table :=
    forgottenIff lawful faithful recorded
  have written : path ∈ (tablesWritten s tree shapes).map FileText.path →
      path ∈ tablePaths s.targets table := by
    intro wrote
    obtain ⟨f, member, rfl⟩ := List.mem_map.mp wrote
    obtain ⟨other, plain, own⟩ := writtenOwn member
    obtain ⟨files, found, among⟩ := recorded
    have lower := (tablePathsMeet (lawful.plain _ _ found) plain (lawful.own _ _ found _ among)
      own rfl).1
    rwa [tablePathsLower lower]
  rw [Tracked, endedRecord ended, recordedPresent known ended before, names]
  refine not_iff_not.mp ?_
  simp only [not_or, not_not, not_exists, not_and_not_right]
  constructor
  · rintro ⟨unrecorded, kept, there⟩
    obtain ⟨dropped, anew⟩ := forgotten.mp ⟨unrecorded, kept⟩
    exact ⟨dropped, there.resolve_right (mt written dropped), anew⟩
  · rintro ⟨dropped, there, anew⟩
    obtain ⟨unrecorded, kept⟩ := forgotten.mpr ⟨dropped, anew⟩
    exact ⟨unrecorded, kept, .inl there⟩

def clientTree : FileTree := (run clientOnly {} [idTable "items"]).1

theorem clientEarlier :
    ¬({} : FileTree).IsFile (Manifest.place "out") ∧ Earlier "out" {} clientTree := by
  refine ⟨by decide, ?_⟩
  rw [clientTree]
  exact .pass .none (by rfl) _

theorem clientItems :
    (Manifest.read clientTree "out").get? "items" = some (tablePaths [.client] "items") ∧
      (run clientOnly clientTree []).2.toOption.map Report.tableNames = some [] := by
  decide +kernel

theorem departedItemsTracked :
    ¬({} : FileTree).IsFile (Manifest.place "out") ∧ Earlier "out" {} clientTree ∧
      ∃ after report, run clientOnly clientTree [] = (after, .ok report) ∧
        (Manifest.read clientTree "out").Lists "items" "client/types/items.ts" ∧
        Tracked "out" after "client/types/items.ts" := by
  obtain ⟨fresh, earlier⟩ : ¬({} : FileTree).IsFile (Manifest.place clientOnly.outputRoot) ∧
    Earlier clientOnly.outputRoot {} clientTree := clientEarlier
  obtain ⟨recorded, done⟩ := clientItems
  obtain ⟨report, ran, nobody⟩ := okRan done
  have lists : (Manifest.read clientTree clientOnly.outputRoot).Lists "items"
      "client/types/items.ts" := ⟨_, recorded, by decide⟩
  refine ⟨fresh, earlier, _, report, ran, lists, ?_⟩
  refine (forgetsFilesOfOtherTargets fresh earlier ran lists).mpr (.inr (.inr ⟨_, lists, ?_⟩))
  rw [nobody]
  exact List.not_mem_nil

def bareServer : Settings where
  outputRoot := "out"
  targets := [.server]
  defaults := { endpoints := some [] }

theorem retargetedItems :
    (run bareServer clientTree [idTable "items"]).2.toOption.map stages = some [] ∧
      "client/types/items.ts" ∉ (nextRecord bareServer clientTree
        (tables bareServer clientTree [idTable "items"]).2).paths ∧
      Present "out" (run bareServer clientTree [idTable "items"]).1 "client/types/items.ts" := by
  decide +kernel

theorem otherTargetsForgetFiles :
    ¬({} : FileTree).IsFile (Manifest.place "out") ∧ Earlier "out" {} clientTree ∧
      ∃ after report, run bareServer clientTree [idTable "items"] = (after, .ok report) ∧
        report.failures = [] ∧
        (Manifest.read clientTree "out").Lists "items" "client/types/items.ts" ∧
        ¬Tracked "out" after "client/types/items.ts" := by
  obtain ⟨fresh, earlier⟩ := clientEarlier
  obtain ⟨recorded, -⟩ := clientItems
  obtain ⟨done, unrecorded, present⟩ := retargetedItems
  obtain ⟨report, ran, unfailing⟩ := okRan done
  have record := runRecord (congrArg Prod.snd ran)
  refine ⟨fresh, earlier, _, report, ran, List.map_eq_nil_iff.mp unfailing,
    ⟨_, recorded, by decide⟩, ?_⟩
  rintro (tracked | gone)
  · exact unrecorded (record ▸ tracked)
  · exact gone present

theorem tablesAdds (s : Settings) (tree : FileTree) (shapes : List TableShape) :
    tree.Adds (tables s tree shapes).1 s.outputRoot
      ((tablesWritten s tree shapes).map FileText.path) := by
  induction shapes generalizing tree with
  | nil => exact addsNothing tree _
  | cons shape rest ih =>
      have first : tree.Adds (table s tree shape).1 s.outputRoot
          ((tree.written s.outputRoot (texts s shape)).map FileText.path) := by
        rw [tableSteps]
        exact writeAllWritten (textsHoused s shape).writable rfl
      rw [tablesCons, tablesWritten, List.map_append]
      exact first.then (ih _)

theorem writtenOrLeft (s : Settings) (tree : FileTree) (shapes : List TableShape) :
    ∀ f ∈ tablesWritten s tree shapes, f ∈ leftovers s tree shapes ∨
      ∃ r ∈ (tables s tree shapes).2.filterMap Outcome.generated?, f.path ∈ r.files := by
  induction shapes generalizing tree with
  | nil => simp [tablesWritten]
  | cons shape rest ih =>
      intro f member
      rw [tablesCons, leftovers]
      rcases List.mem_append.mp member with own | later
      · cases failed : (table s tree shape).2.failed?.isSome with
        | true => exact .inl (List.mem_append_left _ (by simpa using own))
        | false =>
            obtain ⟨r, generated, -, inside⟩ :=
              textsReported failed ((writtenPrefix tree _ _).subset own)
            exact .inr ⟨r, List.mem_filterMap.mpr ⟨_, List.mem_cons_self, generated⟩, inside⟩
      · rcases ih _ f later with left | ⟨r, reported, inside⟩
        · exact .inl (List.mem_append_right _ left)
        · obtain ⟨outcome, among, generated⟩ := List.mem_filterMap.mp reported
          exact .inr ⟨r, List.mem_filterMap.mpr ⟨outcome, List.mem_cons_of_mem _ among, generated⟩,
            inside⟩

theorem recordRewritten {root contents : String} {m : Manifest} {t : FileTree}
    (found : tree.read (Manifest.path root) = .ok contents) (keeps : tree.Keeps t)
    (free : ¬t.IsDirectory (Manifest.place root)) : ∃ u, m.write t root = (u, .ok ()) := by
  rw [Manifest.place, ← Manifest.fileNameNames, ← placeBelow root Manifest.fileNameDescends] at free
  rw [Manifest.write, writeRead found keeps free]
  exact ⟨_, rfl⟩

theorem runFailed {e : WriteError} (ran : run s tree shapes = (after, .error e)) :
    ∃ result, writeIndex s (tables s tree shapes).1 (tables s tree shapes).2 = (after, result) := by
  unfold run at ran
  dsimp only at ran
  split at ran
  · rename_i indexed e' index
    cases ran
    exact ⟨_, index⟩
  · rename_i indexed made index
    split at ran
    · rename_i cleared e' unwritten
      cases ran
      have same := Manifest.writeError unwritten
      have none : Manifest.read tree s.outputRoot = ∅ := by
        unfold Manifest.read
        split
        · rename_i contents found
          have tabled := tablesAdds s tree shapes
          have adds := writeAllWritten (indexWritable s _) index
          have file := adds.stays _ (tabled.stays _ (Manifest.readFile found))
          obtain ⟨u, wrote⟩ := recordRewritten found
            ((tabled.keeps.then adds.keeps).then (removeAllKeeps indexed s.outputRoot _))
            fun directory => fileNoDirectory file (removeAllNodes _ _ _ directory)
          rw [wrote] at unwritten
          cases unwritten
        · rfl
      rw [same, none]
      exact ⟨_, index⟩
    · cases ran

def laidDown (root : String) (t : FileTree) : Manifest :=
  if (refusal? (Manifest.path root)).isNone then
    ((t.text? (Manifest.place root)).bind Manifest.parse?).getD ∅
  else ∅

theorem recordReaches {root : String} (allowed : refusal? (Manifest.path root) = none)
    (t : FileTree) : t.Reaches root Manifest.fileName := by
  obtain ⟨before, joined, -⟩ := Path.segmentsJoin root Manifest.fileNameDescends.relative
  have segments : Path.segments Manifest.fileName.toList = [Manifest.fileName.toList] := by decide
  refine ⟨Manifest.fileNameDescends, allowed, ?_, [], Manifest.fileName, Manifest.fileNameNames,
    ?_, ?_⟩
  · rw [Path.endsInDirectory, joined, segments, List.getLast?_concat]
    decide
  · rw [List.append_nil]
    rfl
  · rw [List.append_nil, next, if_neg (by decide), if_pos (by decide)]

theorem readLaid {root : String} (atRoot : tree.ReachesRoot root) :
    Manifest.read tree root = laidDown root tree := by
  unfold laidDown
  cases allowed : refusal? (Manifest.path root) with
  | none =>
      have found := findReached atRoot (recordReaches allowed tree)
      rw [Manifest.fileNameNames] at found
      simp only [Manifest.read, FileTree.read, Manifest.path, found, text?, Manifest.place]
      cases tree.node? (base root ++ [Manifest.fileName]) with
      | none => rfl
      | some node => cases node <;> rfl
  | some e => simp only [Manifest.read, FileTree.read, find, allowed]; rfl

theorem failedTracks {e : WriteError} (ran : run s tree shapes = (after, .error e)) :
    ∀ f ∈ tablesWritten s tree shapes, Present s.outputRoot after f.path ∧
      (Tracked s.outputRoot after f.path ↔ f.path ∈ (laidDown s.outputRoot tree).paths) := by
  intro f member
  obtain ⟨result, index⟩ := runFailed ran
  have tabled := tablesAdds s tree shapes
  have spares := indexSpares index
  have written := List.mem_map_of_mem (f := FileText.path) member
  have present : Present s.outputRoot after f.path := spares.stays _ (tabled.written _ written)
  have record : after.text? (Manifest.place s.outputRoot) =
      tree.text? (Manifest.place s.outputRoot) := textSame fun contents =>
    (indexRecord spares contents).trans (writesRecord (tablesWrite rfl) contents)
  have atRoot := (tabled.reaches _ written).1.kept spares.keeps
  refine ⟨present, ?_⟩
  rw [Tracked, readLaid atRoot, laidDown, laidDown, record]
  simp only [present, not_true_eq_false, or_false]

def Covered (previous : Manifest) (report : Report) (path : String) : Prop :=
  (∃ r ∈ report.generated, path ∈ r.files) ∨
    ∃ failure ∈ report.failures, failure.table ∉ report.tableNames ∧
      previous.Lists failure.table path

theorem endedCovers (ended : Ended s tree shapes outcomes tabled indexed after report) :
    path ∈ (Manifest.read after s.outputRoot).paths ↔
      Covered (Manifest.read tree s.outputRoot) report path := by
  rw [endedRecord ended, nextRecord, recordPaths (tablesWrite ended.tables).faithful, Covered,
    ended.reports]
  rfl

theorem endedTracks (ended : Ended s tree shapes outcomes tabled indexed after report) :
    (∀ f ∈ tablesWritten s tree shapes, Tracked s.outputRoot after f.path) ↔
      ∀ f ∈ leftovers s tree shapes, Present s.outputRoot after f.path →
        Covered (Manifest.read tree s.outputRoot) report f.path := by
  constructor
  · intro tracked f left present
    have kept := tracked f (leftoversWritten s tree shapes f left)
    exact (endedCovers ended).mp (kept.resolve_right (not_not_intro present))
  · intro covered f member
    rcases writtenOrLeft s tree shapes f member with left | ⟨r, reported, inside⟩
    · refine Classical.or_iff_not_imp_right.mpr fun there => ?_
      exact (endedCovers ended).mpr (covered f left (not_not.mp there))
    · rw [ended.tables] at reported
      refine .inl ((endedCovers ended).mpr (.inl ⟨r, ?_, inside⟩))
      rw [ended.reports]
      exact reported

theorem indexedFile {result : Except WriteError Unit} {here : FileTree.Location}
    (tables : Pass.tables s tree shapes = (tabled, outcomes))
    (index : writeIndex s tabled outcomes = (indexed, result)) (file : indexed.IsFile here) :
    tree.IsFile here ∨
      (∃ path ∈ commonPaths s.targets, here = base s.outputRoot ++ Path.names path) ∨
        ∃ f ∈ tablesWritten s tree shapes, here = base s.outputRoot ++ Path.names f.path := by
  have adds := tablesAdds s tree shapes
  rw [tables] at adds
  by_cases common : ∃ path ∈ s.targets.map indexPath, here = base s.outputRoot ++ Path.names path
  · obtain ⟨path, member, there⟩ := common
    exact .inr (.inl ⟨path, List.mem_cons_of_mem _ member, there⟩)
  · obtain ⟨contents, found⟩ := file
    have before := ((indexSpares index).others here
      (fun path member there => common ⟨path, member, there⟩) contents).mp found
    rcases (adds.files here).mp ⟨contents, before⟩ with earlier | ⟨path, member, there⟩
    · exact .inl earlier
    · obtain ⟨f, written, rfl⟩ := List.mem_map.mp member
      exact .inr (.inr ⟨f, written, there⟩)

theorem runFiles {here : FileTree.Location} (file : (run s tree shapes).1.IsFile here) :
    tree.IsFile here ∨
      (∃ path ∈ commonPaths s.targets, here = base s.outputRoot ++ Path.names path) ∨
        ∃ f ∈ tablesWritten s tree shapes, here = base s.outputRoot ++ Path.names f.path := by
  have removed {indexed : FileTree} {paths : List String}
      (file : (indexed.removeAll s.outputRoot paths).1.IsFile here) : indexed.IsFile here :=
    file.imp fun _ => removeAllNodes _ _ _
  have course := runCourse s tree shapes
  generalize run s tree shapes = ran at course file
  obtain ⟨after, result⟩ := ran
  cases course with
  | unindexed tables index => exact indexedFile tables index file
  | unrecorded tables index cleared =>
      rw [cleared] at file
      exact indexedFile tables index (removed file)
  | done tables index record failures =>
      rcases ((Manifest.writeAdds record).1.files here).mp file with earlier | ⟨path, own, there⟩
      · exact indexedFile tables index (removed earlier)
      · obtain rfl := List.mem_singleton.mp own
        exact .inr (.inl ⟨_, List.mem_cons_self, there⟩)

/-- Whatever tree a pass finds and wherever writing fails, the files that it leaves are old ones,
those that all tables share, and those of single tables. A pass that ends well keeps track of the
latter if and only if what is left over of failed tables and still there is in the record anyway. A
pass that fails leaves all of them, and of these only what the record named that it found. -/
theorem tracksFilesButForLeftovers {result : Except WriteError Report}
    (ran : run s tree shapes = (after, result)) :
    (∀ here, after.IsFile here → tree.IsFile here ∨
      (∃ path ∈ commonPaths s.targets, here = base s.outputRoot ++ Path.names path) ∨
        ∃ f ∈ tablesWritten s tree shapes, here = base s.outputRoot ++ Path.names f.path) ∧
      (∀ report, result = .ok report →
        ((∀ f ∈ tablesWritten s tree shapes, Tracked s.outputRoot after f.path) ↔
          ∀ f ∈ leftovers s tree shapes, Present s.outputRoot after f.path →
            Covered (Manifest.read tree s.outputRoot) report f.path) ∧
          ((∀ failure ∈ report.failures, failure.error.stage ≠ "write") →
            ∀ f ∈ tablesWritten s tree shapes, Tracked s.outputRoot after f.path)) ∧
      ∀ e, result = .error e → ∀ f ∈ tablesWritten s tree shapes,
        Present s.outputRoot after f.path ∧
          (Tracked s.outputRoot after f.path ↔
            f.path ∈ (laidDown s.outputRoot tree).paths) := by
  refine ⟨fun here file => ?_, ?_, ?_⟩
  · exact runFiles (congrArg Prod.fst ran ▸ file)
  · rintro report rfl
    obtain ⟨outcomes, tabled, indexed, ended⟩ := runEnded ran
    refine ⟨endedTracks ended, fun unhindered => (endedTracks ended).mpr fun f left => ?_⟩
    obtain ⟨failure, among, stage, -⟩ := leftoversFailed ran f left
    exact absurd stage (unhindered failure among)
  · rintro e rfl
    exact failedTracks ran

theorem itemsWritten :
    (run clientOnly {} [idTable "items"]).2.toOption.map stages = some [] ∧
      (tablesWritten clientOnly {} [idTable "items"]).map FileText.path =
        tablePaths [.client] "items" := by
  decide +kernel

theorem itemsTracked :
    ∃ after report, run clientOnly {} [idTable "items"] = (after, .ok report) ∧
      (tablesWritten clientOnly {} [idTable "items"]).map FileText.path =
        tablePaths [.client] "items" ∧
      ∀ f ∈ tablesWritten clientOnly {} [idTable "items"],
        Tracked clientOnly.outputRoot after f.path := by
  obtain ⟨done, written⟩ := itemsWritten
  obtain ⟨report, ran, unfailing⟩ := okRan done
  obtain ⟨-, ended, -⟩ := tracksFilesButForLeftovers ran
  refine ⟨_, report, ran, written, (ended report rfl).2 ?_⟩
  rw [List.map_eq_nil_iff.mp unfailing]
  exact nofun

def unindexableTree : FileTree where
  nodes := [(["out", "client", "index.ts"], .directory), (["out", "client"], .directory),
    (["out"], .directory)]

theorem unindexedItems :
    (run clientOnly unindexableTree [idTable "items"]).2.toOption.isNone = true ∧
      ¬Present "out" unindexableTree "client/types/items.ts" ∧
      ¬Tracked "out" (run clientOnly unindexableTree [idTable "items"]).1
        "client/types/items.ts" := by
  decide +kernel

theorem errorRan (undone : (run s tree shapes).2.toOption.isNone = true) :
    ∃ e, run s tree shapes = ((run s tree shapes).1, .error e) := by
  cases ran : run s tree shapes with
  | mk after result =>
      rw [ran] at undone
      cases result with
      | error e => exact ⟨e, rfl⟩
      | ok report => cases undone

theorem failedPassLosesTrack :
    ¬unindexableTree.IsFile (Manifest.place "out") ∧
      ∃ after e, run clientOnly unindexableTree [idTable "items"] = (after, .error e) ∧
        ¬Present "out" unindexableTree "client/types/items.ts" ∧
        ¬Tracked "out" after "client/types/items.ts" := by
  obtain ⟨undone, missing, untracked⟩ := unindexedItems
  obtain ⟨e, ran⟩ := errorRan undone
  exact ⟨by decide, _, e, ran, missing, untracked⟩

end RestScaffold.Pass
