import Mathlib.Data.List.Forall2
import RestScaffold.Proofs.Client.Exports
import RestScaffold.Proofs.Generation.Binding
import RestScaffold.Proofs.Generation.Confinement
import RestScaffold.Proofs.Generation.Isolation

/-! What a pass reports adds up: every table is in one of its lists, as often as it came, the lists
keep the order of the tables, and the files of all tables name those that were generated. -/
namespace RestScaffold

namespace Pass
open Catalog Rendering FileTree

variable {s : Settings} {tree tabled indexed after : FileTree} {shape : TableShape}
  {shapes : List TableShape} {outcome : Outcome} {outcomes : List Outcome} {report : Report}

inductive Fate (s : Settings) (shape : TableShape) : Outcome → Prop where
  | disabled (off : enabled s shape.schema shape.name = false) : Fate s shape (.disabled shape.name)
  | unprepared {e : TableError} (on : enabled s shape.schema shape.name = true)
      (failed : prepare s shape = .error e) : Fate s shape (.failed ⟨shape.name, e⟩)
  | unwritten {plan : List Endpoint} {files : List Artifact} {e : WriteError}
      (on : enabled s shape.schema shape.name = true)
      (prepared : prepare s shape = .ok (some (plan, files))) :
      Fate s shape (.failed ⟨shape.name, .write e⟩)
  | generated {plan : List Endpoint} {files : List Artifact}
      (on : enabled s shape.schema shape.name = true)
      (prepared : prepare s shape = .ok (some (plan, files))) :
      Fate s shape (.generated ⟨shape.name, shape.schema, plan, files.map Artifact.path⟩)

theorem tableFate (s : Settings) (tree : FileTree) (shape : TableShape) :
    Fate s shape (table s tree shape).2 := by
  have on : prepare s shape ≠ .ok none → enabled s shape.schema shape.name = true := by
    rw [← Bool.not_eq_false, ← prepareNone]
    exact id
  unfold table
  split
  · rename_i e failed
    exact .unprepared (on (by simp [failed])) failed
  · rename_i off
    exact .disabled (prepareNone.mp off)
  · rename_i plan files prepared
    have on := on (by simp [prepared])
    split
    · exact .unwritten on prepared
    · exact .generated on prepared

theorem tablesFates (s : Settings) (tree : FileTree) (shapes : List TableShape) :
    List.Forall₂ (Fate s) shapes (tables s tree shapes).2 := by
  induction shapes generalizing tree with
  | nil => exact .nil
  | cons shape rest ih =>
      rw [tablesCons]
      exact .cons (tableFate s tree shape) (ih _)

theorem Fate.named (fate : Fate s shape outcome) : outcome.table = shape.name := by
  cases fate <;> rfl

theorem Fate.off (fate : Fate s shape outcome) :
    outcome.disabled? = if enabled s shape.schema shape.name then none else some shape.name := by
  cases fate with
  | disabled off => rw [off]; rfl
  | unprepared on => rw [on]; rfl
  | unwritten on => rw [on]; rfl
  | generated on => rw [on]; rfl

theorem fatesNamed (fates : List.Forall₂ (Fate s) shapes outcomes) :
    outcomes.map Outcome.table = shapes.map TableShape.name := by
  induction fates with
  | nil => rfl
  | cons first rest ih => rw [List.map_cons, first.named, ih, List.map_cons]

theorem fatesOff (fates : List.Forall₂ (Fate s) shapes outcomes) :
    outcomes.filterMap Outcome.disabled? =
      (shapes.filter fun t => !enabled s t.schema t.name).map TableShape.name := by
  induction fates with
  | nil => rfl
  | @cons shape outcome rest more first others ih =>
      rw [List.filterMap_cons, first.off, ih, List.filter_cons]
      cases enabled s shape.schema shape.name <;> rfl

theorem pickedOrder {α : Type} {pick : Outcome → Option α} {name : α → String}
    (named : ∀ o a, pick o = some a → name a = o.table) (outcomes : List Outcome) :
    ((outcomes.filterMap pick).map name).Sublist (outcomes.map Outcome.table) := by
  induction outcomes with
  | nil => exact .slnil
  | cons o rest ih =>
      cases picked : pick o with
      | none => rw [List.filterMap_cons_none picked]; exact ih.cons _
      | some a =>
          rw [List.filterMap_cons_some picked, List.map_cons, named o a picked]
          exact ih.cons_cons _

theorem outcomesParted (outcomes : List Outcome) :
    (((outcomes.filterMap Outcome.generated?).map TableReport.table ++
      outcomes.filterMap Outcome.disabled? ++
      (outcomes.filterMap Outcome.failed?).map TableFailure.table)).Perm
        (outcomes.map Outcome.table) := by
  induction outcomes with
  | nil => exact .nil
  | cons o rest ih =>
      cases o with
      | generated r => exact ih.cons _
      | disabled t =>
          refine List.Perm.trans ?_ (ih.cons t)
          simp only [List.append_assoc]
          exact List.perm_middle
      | failed f => exact List.perm_middle.trans (ih.cons f.table)

structure Accounting (s : Settings) (shapes : List TableShape) (report : Report) : Prop where
  fates : ∃ outcomes, List.Forall₂ (Fate s) shapes outcomes ∧
    report.generated = outcomes.filterMap Outcome.generated? ∧
    report.disabled = outcomes.filterMap Outcome.disabled? ∧
    report.failures = outcomes.filterMap Outcome.failed?
  total : (report.tableNames ++ report.disabled ++ report.failures.map TableFailure.table).Perm
    (shapes.map TableShape.name)
  generatedOrder : report.tableNames.Sublist (shapes.map TableShape.name)
  failuresOrder : (report.failures.map TableFailure.table).Sublist (shapes.map TableShape.name)
  disabled : report.disabled =
    (shapes.filter fun t => !enabled s t.schema t.name).map TableShape.name
  filesWritten : report.filesWritten =
    (report.generated.map (·.files.length)).sum + s.targets.length

theorem endedAccounts (ended : Ended s tree shapes outcomes tabled indexed after report) :
    Accounting s shapes report := by
  have fates := tablesFates s tree shapes
  rw [ended.tables] at fates
  have names := fatesNamed fates
  rw [ended.reports]
  exact {
    fates := ⟨outcomes, fates, rfl, rfl, rfl⟩
    total := names ▸ outcomesParted outcomes
    generatedOrder := names ▸
      pickedOrder (fun o r picked => by cases o <;> cases picked; rfl) outcomes
    failuresOrder := names ▸
      pickedOrder (fun o f picked => by cases o <;> cases picked; rfl) outcomes
    disabled := fatesOff fates
    filesWritten := congrArg (· + s.targets.length) (List.length_flatMap ..) }

def NamesTables (names : List String) (text : String) : Target → Prop
  | .server => Go.calls text = names.map fun name => Server.registerName (Naming.pascal name)
  | .client => Client.exports text =
      names.flatMap fun name => ["./types/" ++ Text.lower name, "./api/" ++ Text.lower name]

theorem indexNames (s : Settings) {names : List String}
    (plain : ∀ name ∈ names, Naming.isPlainIdentifier name = true) (target : Target) :
    NamesTables names (s.rendering.index names target).contents target := by
  cases target with
  | server =>
      have wordly : ∀ t ∈ names.map Naming.pascal, Naming.Wordly t.toList :=
        List.forall_mem_map.mpr fun name member => Naming.pascalWordly (plain name member)
      have read := Server.indexRead s.goModule wordly
      rwa [List.map_map] at read
  | client =>
      have wordly : ∀ stem ∈ names.map Text.lower, Naming.Wordly stem.toList :=
        List.forall_mem_map.mpr fun name member => Naming.lowerWordly (plain name member)
      have read := Client.indexExports wordly
      rwa [List.flatMap_map] at read

def indexPlace (s : Settings) (target : Target) : FileTree.Location :=
  base s.outputRoot ++ Path.names (indexPath target)

theorem indexPlaces : Function.Injective (indexPlace s) := by
  intro target other same
  have names := List.append_cancel_left same
  cases target <;> cases other <;> first | rfl | exact absurd names (by decide)

theorem indexText (names : List String) {target : Target} (known : target ∈ s.targets) :
    lastText s.outputRoot (indexPlace s target) (indexTexts s names) =
      some (s.rendering.index names target).contents := by
  refine lastTextOnly ⟨_, memIndexTexts.mpr ⟨target, known, rfl⟩, rfl⟩ fun f member there => ?_
  obtain ⟨other, -, rfl⟩ := memIndexTexts.mp member
  rw [indexPlaces there]

theorem indexUnrecorded (target : Target) : indexPlace s target ≠ Manifest.place s.outputRoot := by
  intro same
  have names := List.append_cancel_left same
  cases target <;> exact absurd names (by decide)

theorem endedIndexText (ended : Ended s tree shapes outcomes tabled indexed after report)
    {target : Target} (known : target ∈ s.targets) (contents : String) :
    after.text? (indexPlace s target) = some contents ↔
      contents = (s.rendering.index report.tableNames target).contents ∧
        ¬Removes s tree shapes (indexPlace s target) := by
  have written := writeAllText (indexWritable s _) ended.index (indexPlace s target)
  rw [writtenAll ended.index, indexText _ known, Option.some_or] at written
  have removes : Removes s tree shapes (indexPlace s target) ↔
      ∃ path ∈ stalePaths s tree outcomes,
        indexed.Leads s.outputRoot path (indexPlace s target) := by
    simp [Removes, ended.tables, ended.index]
  rw [recordText ended.record, if_neg (indexUnrecorded target), removeAllLed, written, removes,
    ended.reports, Option.some.injEq, eq_comm]
  rfl

theorem knownIndex (known : Known s.outputRoot tree) (target : Target) :
    ¬Removes s tree shapes (indexPlace s target) := by
  rintro ⟨indexed, -, path, stale, leads⟩
  have descends := ((knownRead known).2 path
    (staleRecorded (Manifest.readSorted tree s.outputRoot) stale)).2.descends
  have there := leadsPlace leads
  rw [placeBelow s.outputRoot descends] at there
  exact (staleNames known stale).2 _ (indexShared target) (List.append_cancel_left there).symm

/-- A pass that ends well accounts for every table, and its files of all tables name those that were
generated, in their order. Such a file is there afterwards unless a path in the record led there
that no pass has recorded. -/
theorem passAddsUp (ran : run s tree shapes = (after, .ok report)) :
    Accounting s shapes report ∧
    (∀ target ∈ s.targets, ∃ contents, NamesTables report.tableNames contents target ∧
      ∀ text, after.text? (indexPlace s target) = some text ↔
        text = contents ∧ ¬Removes s tree shapes (indexPlace s target)) ∧
    (Known s.outputRoot tree → ∀ target, ¬Removes s tree shapes (indexPlace s target)) := by
  obtain ⟨outcomes, tabled, indexed, ended⟩ := runEnded ran
  have plain : ∀ name ∈ report.tableNames, Naming.isPlainIdentifier name = true := by
    have faithful := (tablesWrite ended.tables).faithful
    rw [ended.reports]
    exact List.forall_mem_map.mpr fun r member => (faithful r member).1
  exact ⟨endedAccounts ended, fun target known => ⟨_, indexNames s plain target,
    endedIndexText ended known⟩, knownIndex⟩

theorem mixedTablesAddUp :
    ∃ after report, run unlabelled tagsTree mixedTables = (after, .ok report) ∧
      census report = mixedCensus ∧ Accounting unlabelled mixedTables report ∧
      Known unlabelled.outputRoot tagsTree ∧
      ∃ text, after.text? (indexPlace unlabelled .client) = some text ∧
        Client.exports text = ["./types/items", "./api/items"] := by
  have fresh : ¬({} : FileTree).IsFile (Manifest.place unlabelled.outputRoot) := by decide
  have known : Known unlabelled.outputRoot tagsTree := by
    refine earlierKnown fresh ?_
    rw [tagsTree]
    exact .pass .none rfl _
  obtain ⟨report, ran, seen⟩ := okRan itemsServed.2
  obtain ⟨accounts, index, unremoved⟩ := passAddsUp ran
  obtain ⟨text, named, there⟩ := index .client (by decide)
  have generated : report.tableNames = ["items"] := congrArg Census.generated seen
  refine ⟨_, report, ran, seen, accounts, known, text,
    (there text).mpr ⟨rfl, unremoved known .client⟩, ?_⟩
  rw [show Client.exports text = _ from named, generated]
  decide +kernel

end Pass
end RestScaffold
