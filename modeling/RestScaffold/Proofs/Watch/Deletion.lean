import RestScaffold.Proofs.Catalog.Discovery
import RestScaffold.Proofs.Generation.Clearing
import RestScaffold.Proofs.Watch.Exclusion

/-! Which recorded files a watcher deletes. A table whose columns cannot be read is left out of what
is discovered, and a pass takes it for one that has been dropped. -/
namespace RestScaffold
open Catalog FileTree

variable {w entered assessed : Watcher} {kind : RunKind} {reading : Reading} {tables : List Table}

theorem enteredKeeps (h : w.enter kind = .ok entered) :
    entered.settings = w.settings ∧ entered.timer = w.timer := by
  obtain ⟨gate, -, rfl⟩ := enterOk h
  exact ⟨rfl, rfl⟩

theorem assessedKeeps (h : w.assess kind reading = .ok (assessed, tables)) :
    reading = .ok tables ∧ assessed.settings = w.settings ∧ assessed.timer = w.timer := by
  obtain ⟨read, gate, rfl, -⟩ := assessOk h
  exact ⟨read, rfl, rfl⟩

theorem assessedNot {result : RunResult} (h : w.assess kind reading = .error result)
    (summary : RunSummary) : result ≠ .regenerated summary := by
  rintro rfl
  cases reading with
  | error e => cases kind <;> simp [Watcher.assess] at h
  | ok read =>
      cases kind with
      | trigger => simp [Watcher.assess] at h
      | check =>
          simp only [Watcher.assess] at h
          split at h
          · cases h
          · split at h <;> cases h

theorem regenerateRuns (w : Watcher) (tree : FileTree) (now : Nat) (tables : List Table) :
    (w.regenerate tree now tables).1.settings = w.settings ∧
      (w.regenerate tree now tables).1.timer = w.timer ∧
      (w.regenerate tree now tables).2.1 =
        (Pass.run w.settings tree (tables.map Table.shape)).1 ∧
      ∀ summary, (w.regenerate tree now tables).2.2 = .regenerated summary →
        ∃ report, (Pass.run w.settings tree (tables.map Table.shape)).2 = .ok report := by
  unfold Watcher.regenerate
  generalize Pass.run w.settings tree (tables.map Table.shape) = ran
  obtain ⟨after, result⟩ := ran
  cases result with
  | error e => exact ⟨rfl, rfl, rfl, nofun⟩
  | ok report => exact ⟨rfl, rfl, rfl, fun _ _ => ⟨report, rfl⟩⟩

namespace Session

variable {s : Session}

structure Quiet (s : Session) : Prop where
  runs : s.runs = []
  timer : s.watcher.timer = none
  holding : s.holding = false

theorem timerTurnQuiet (timer : s.watcher.timer = none) : s.timerTurn = s := by
  have turn : s.watcher.timerTurn = (s.watcher, false) := by simp [Watcher.timerTurn, timer]
  simp only [timerTurn, turn, Bool.false_eq_true, if_false]

theorem turnsQuiet (runs : s.runs = []) (turn : Session → Run → Session) : s.turns turn = s := by
  rw [turns, runs, List.foldl_nil, ← runs]

theorem settleQuiet (quiet : s.Quiet) : s.settle = s := by
  rw [settle, timerTurnQuiet quiet.timer, turnsQuiet quiet.runs, turnsQuiet quiet.runs]

theorem awaitQuiet (quiet : s.Quiet) : s.awaitTables = s := by
  have listing : s.listing = (s, false) := by simp [Session.listing, quiet.holding]
  simp only [awaitTables, listing, settleQuiet quiet, ite_self]

theorem runPasses (quiet : s.Quiet) (kind : RunKind) :
    (s.run kind).1.Quiet ∧ (s.run kind).1.watcher.settings = s.watcher.settings ∧
      ((s.run kind).1.tree = s.tree ∧ (∀ summary, (s.run kind).2 ≠ .regenerated summary) ∨
        ∃ tables, s.source.discover s.watcher.scope = .ok tables ∧
          (s.run kind).1.tree =
            (Pass.run s.watcher.settings s.tree (tables.map Table.shape)).1 ∧
          ∀ summary, (s.run kind).2 = .regenerated summary →
            ∃ report, (Pass.run s.watcher.settings s.tree (tables.map Table.shape)).2 =
              .ok report) := by
  unfold run
  split
  · rename_i seen refused
    refine ⟨quiet, rfl, .inl ⟨rfl, fun summary => ?_⟩⟩
    cases kind
    · simp [RunKind.refusal]
    · simp only [RunKind.refusal]
      split <;> simp
  · rename_i watcher entered
    obtain ⟨settings, timer⟩ := enteredKeeps entered
    have quiet' : ({ s with watcher } : Session).Quiet :=
      ⟨quiet.runs, timer.trans quiet.timer, quiet.holding⟩
    simp only [awaitQuiet quiet']
    split
    · rename_i result assessed
      exact ⟨⟨quiet.runs, timer.trans quiet.timer, quiet.holding⟩, settings,
        .inl ⟨rfl, assessedNot assessed⟩⟩
    · rename_i assessed tables found
      obtain ⟨read, settings', timer'⟩ := assessedKeeps found
      have quiet'' : ({ s with watcher := assessed } : Session).Quiet :=
        ⟨quiet.runs, timer'.trans quiet'.timer, quiet.holding⟩
      rw [settleQuiet quiet'']
      obtain ⟨kept, timer'', tree, ended⟩ := regenerateRuns assessed s.tree s.now tables
      have same : assessed.settings = s.watcher.settings := settings'.trans settings
      rw [same] at kept tree ended
      refine ⟨⟨quiet.runs, timer''.trans quiet''.timer, quiet.holding⟩, kept,
        .inr ⟨tables, ?_, tree, ended⟩⟩
      simpa only [reading, source, Watcher.scope, settings] using read

end Session

def Action.Direct : Action → Prop
  | .change _ | .prime | .run _ | .stop => True
  | _ => False

namespace Session

variable {s start : Session} {action : Action}

theorem stepDirect (quiet : s.Quiet) (direct : action.Direct) :
    (s.step action).1.Quiet ∧ (s.step action).1.watcher.settings = s.watcher.settings ∧
      ((s.step action).1.tree = s.tree ∨
        ∃ shapes, (s.step action).1.tree = (Pass.run s.watcher.settings s.tree shapes).1) := by
  cases action with
  | change change => exact ⟨⟨quiet.runs, quiet.timer, quiet.holding⟩, rfl, .inl rfl⟩
  | stop => exact ⟨⟨quiet.runs, rfl, quiet.holding⟩, rfl, .inl rfl⟩
  | prime =>
      simp only [step, prime, awaitQuiet quiet]
      cases s.reading with
      | error e => exact ⟨⟨quiet.runs, quiet.timer, quiet.holding⟩, rfl, .inl trivial⟩
      | ok tables => exact ⟨⟨quiet.runs, quiet.timer, quiet.holding⟩, rfl, .inl trivial⟩
  | run kind =>
      obtain ⟨quiet', settings, ⟨tree, -⟩ | ⟨tables, -, tree, -⟩⟩ := runPasses quiet kind
      · exact ⟨quiet', settings, .inl tree⟩
      · exact ⟨quiet', settings, .inr ⟨_, tree⟩⟩
  | files | hold | background | letGo | join | abort | start | advance => contradiction

def Trusted (s : Session) : Prop :=
  Pass.Trusted s.watcher.settings.targets s.watcher.settings.outputRoot s.tree

theorem stepTrusted (quiet : s.Quiet) (trusted : s.Trusted) (direct : action.Direct) :
    (s.step action).1.Trusted := by
  obtain ⟨-, settings, tree⟩ := stepDirect quiet direct
  rw [Trusted, settings]
  rcases tree with same | ⟨shapes, passed⟩
  · rw [same]
    exact trusted
  · rw [passed]
    exact Pass.runTrusted trusted shapes

theorem runTrusted (quiet : s.Quiet) (trusted : s.Trusted) (kind : RunKind) :
    (s.run kind).1.Trusted := by
  have stepped : (s.step (.run kind)).1.Trusted := stepTrusted quiet trusted trivial
  exact stepped

theorem afterDirect (quiet : start.Quiet) (trusted : start.Trusted) (actions : List Action)
    (direct : ∀ action ∈ actions, action.Direct) :
    (start.after actions).Quiet ∧ (start.after actions).Trusted := by
  induction actions generalizing start with
  | nil => exact ⟨quiet, trusted⟩
  | cons action rest ih =>
      have first := direct action List.mem_cons_self
      exact ih (stepDirect quiet first).1 (stepTrusted quiet trusted first)
        fun other member => direct other (List.mem_cons_of_mem _ member)

/-- The catalog lists the table in one of the schemas, it is not left out by name, and its policy
does not turn it off. -/
def Wants (s : Session) (ref : TableRef) : Prop :=
  ∃ refs, s.source.tables s.watcher.settings.schemas = .ok refs ∧ ref ∈ refs ∧
    s.watcher.scope.excludes ref.name = false ∧
    Pass.enabled s.watcher.settings ref.schema ref.name = true

def Unreadable (s : Session) (ref : TableRef) : Prop := ∃ e, s.source.columns ref = .error e

theorem shapesWanted {tables : List Table} (found : s.source.discover s.watcher.scope = .ok tables)
    (name : String) :
    (∀ shape ∈ tables.map Table.shape, shape.name = name →
        Pass.enabled s.watcher.settings shape.schema shape.name = false) ↔
      ∀ ref, s.Wants ref → ref.name = name → s.Unreadable ref := by
  obtain ⟨listed, listing, discovered⟩ := memDiscover found
  obtain ⟨refs, tables', known⟩ := memListed listing
  constructor
  · rintro off ref ⟨refs', same, member, kept, on⟩ rfl
    obtain rfl : refs = refs' := Except.ok.inj (tables'.symm.trans same)
    cases columns : s.source.columns ref with
    | error e => exact ⟨e, columns⟩
    | ok read =>
        obtain ⟨t, table⟩ := (readTableIff s.source ref).mpr ⟨read, columns⟩
        obtain ⟨schema, name⟩ := readTableSome table
        have inside : t ∈ tables := (discovered t).mpr ⟨ref, (known ref).mpr ⟨member, kept⟩, table⟩
        have disabled := off t.shape (List.mem_map_of_mem inside) name
        rw [Table.shape, schema, name, on] at disabled
        contradiction
  · intro unreadable shape member same
    obtain ⟨t, inside, rfl⟩ := List.mem_map.mp member
    obtain ⟨ref, listed', table⟩ := (discovered t).mp inside
    obtain ⟨schema, name⟩ := readTableSome table
    obtain ⟨member', kept⟩ := (known ref).mp listed'
    obtain ⟨columns, read⟩ := (readTableIff s.source ref).mp ⟨t, table⟩
    simp only [Table.shape] at same ⊢
    rw [schema, name]
    refine Bool.eq_false_iff.mpr fun on => ?_
    obtain ⟨e, failed⟩ := unreadable ref ⟨refs, tables', member', kept, on⟩ (name.symm.trans same)
    rw [read] at failed
    contradiction

def placeOf (s : Session) (path : String) : FileTree.Location :=
  base s.watcher.settings.outputRoot ++ Path.names path

def recorded (s : Session) : Manifest := Manifest.read s.tree s.watcher.settings.outputRoot

theorem runDeletes {table path : String} {files : List String} (quiet : s.Quiet)
    (trusted : s.Trusted) (kind : RunKind) (known : s.recorded.get? table = some files)
    (member : path ∈ files) (there : s.tree.IsFile (s.placeOf path))
    (gone : ¬(s.run kind).1.tree.IsFile (s.placeOf path)) :
    ∀ ref, s.Wants ref → ref.name = table → s.Unreadable ref := by
  obtain ⟨-, -, ⟨tree, -⟩ | ⟨tables, found, tree, -⟩⟩ := runPasses quiet kind
  · rw [tree] at gone
    exact absurd there gone
  · rw [tree] at gone
    exact (shapesWanted found table).mp (Pass.deletedTurnedOff trusted known member there gone)

section
variable {summary : RunSummary} (quiet : s.Quiet) (trusted : s.Trusted) (kind : RunKind)
  (ended : (s.run kind).2 = .regenerated summary)
include quiet trusted ended

theorem runDeletesIff {table path : String} {files : List String}
    (known : s.recorded.get? table = some files) (member : path ∈ files)
    (there : s.tree.IsFile (s.placeOf path)) :
    ¬(s.run kind).1.tree.IsFile (s.placeOf path) ↔
      ¬Pass.Named (s.run kind).1.recorded.paths (Path.names path) := by
  obtain ⟨-, settings, ⟨-, unended⟩ | ⟨tables, -, tree, passed⟩⟩ := runPasses quiet kind
  · exact absurd ended (unended summary)
  · obtain ⟨report, passed⟩ := passed summary ended
    have canonical := (Pass.trustedRead trusted).1
    have named : Pass.Named s.recorded.paths (Path.names path) :=
      ⟨path, (Pass.memPaths canonical.sorted).mpr ⟨table, files, known, member⟩, rfl⟩
    rw [recorded, settings, tree]
    exact Pass.deletedIff trusted passed named there

omit trusted in
theorem runUnrecorded {table : String} {files : List String}
    (known : s.recorded.get? table = some files) :
    (s.run kind).1.recorded.get? table = none ↔
      ∀ ref, s.Wants ref → ref.name = table → s.Unreadable ref := by
  obtain ⟨-, settings, ⟨-, unended⟩ | ⟨tables, found, tree, passed⟩⟩ := runPasses quiet kind
  · exact absurd ended (unended summary)
  · obtain ⟨report, passed⟩ := passed summary ended
    rw [recorded, settings, tree, Pass.runRecord passed,
      Pass.unrecordedIff known]
    exact shapesWanted found table

theorem runDeletesExactly {table path : String} {files : List String}
    (known : s.recorded.get? table = some files) (member : path ∈ files)
    (there : s.tree.IsFile (s.placeOf path)) :
    ¬(s.run kind).1.tree.IsFile (s.placeOf path) ↔
      (∀ ref, s.Wants ref → ref.name = table → s.Unreadable ref) ∧
        ∀ other files', other ≠ table → (s.run kind).1.recorded.get? other = some files' →
          ∀ path' ∈ files', Path.names path' ≠ Path.names path := by
  have exact' := runDeletesIff quiet trusted kind ended known member there
  have unrecorded := runUnrecorded quiet kind ended known
  have sorted := (Pass.trustedRead (runTrusted quiet trusted kind)).1.sorted
  constructor
  · intro gone
    refine ⟨runDeletes quiet trusted kind known member there gone, ?_⟩
    intro other files' _ found path' inside same
    exact exact'.mp gone
      ⟨path', (Pass.memPaths sorted).mpr ⟨other, files', found, inside⟩, same.symm⟩
  · rintro ⟨unreadable, others⟩
    refine exact'.mpr fun ⟨path', listed, same⟩ => ?_
    obtain ⟨other, files', found, inside⟩ := (Pass.memPaths sorted).mp listed
    by_cases own : other = table
    · subst own
      cases found.symm.trans (unrecorded.mpr unreadable)
    · exact others other files' own found path' inside same.symm

end

end Session

/-- A run deletes a recorded file of a table only if no table of that name that it should generate
can be read. If the run ends well, it deletes the file then, unless another table has it recorded.
-/
theorem deletesOnlyFilesOfUnreadableTables {start : Session} (quiet : start.Quiet)
    (trusted : start.Trusted) (actions : List Action)
    (direct : ∀ action ∈ actions, action.Direct) (kind : RunKind) :
    let s := start.after actions
    let after := (s.run kind).1
    ∀ table files path, s.recorded.get? table = some files → path ∈ files →
      s.tree.IsFile (s.placeOf path) →
      (¬after.tree.IsFile (s.placeOf path) →
        ∀ ref, s.Wants ref → ref.name = table → s.Unreadable ref) ∧
      (∀ summary, (s.run kind).2 = .regenerated summary →
        (¬after.tree.IsFile (s.placeOf path) ↔
          (∀ ref, s.Wants ref → ref.name = table → s.Unreadable ref) ∧
            ∀ other files', other ≠ table → after.recorded.get? other = some files' →
              ∀ path' ∈ files', Path.names path' ≠ Path.names path)) := by
  intro s after table files path known member there
  obtain ⟨quiet', trusted'⟩ := Session.afterDirect quiet trusted actions direct
  exact ⟨Session.runDeletes quiet' trusted' kind known member there, fun summary ended =>
    Session.runDeletesExactly quiet' trusted' kind ended known member there⟩

def itemsTable : Table where
  schema := "public"
  name := "items"
  columns := [{ name := "id", dataType := "integer", nullable := false, isPrimaryKey := true }]

def itemsSession : Session where
  watcher := ⟨{ outputRoot := "out", targets := [.client] }, fun _ _ => .ok (), {}, {}, none⟩
  catalog := { tables := [itemsTable] }
  tree := {}

def unreadableItems : Session :=
  itemsSession.after [.run .trigger, .change (.failColumns "items")]

def itemsFiles : List String := ["client/types/items.ts", "client/api/items.ts"]

theorem unreadableItemsLost :
    unreadableItems.recorded.get? "items" = some itemsFiles ∧
      unreadableItems.watcher.scope.excludes "items" = false ∧
      Pass.enabled unreadableItems.watcher.settings "public" "items" = true ∧
      ∀ path ∈ itemsFiles, unreadableItems.tree.IsFile (unreadableItems.placeOf path) ∧
        ¬(unreadableItems.run .trigger).1.tree.IsFile (unreadableItems.placeOf path) := by
  decide +kernel

theorem unreadableTableLosesFiles :
    unreadableItems.recorded.get? "items" = some itemsFiles ∧
      unreadableItems.Wants ⟨"public", "items", none⟩ ∧
      ∀ path ∈ itemsFiles, unreadableItems.tree.IsFile (unreadableItems.placeOf path) ∧
        ¬(unreadableItems.run .trigger).1.tree.IsFile (unreadableItems.placeOf path) := by
  obtain ⟨known, named, enabled, lost⟩ := unreadableItemsLost
  exact ⟨known, ⟨_, rfl, by decide +kernel, named, enabled⟩, lost⟩

theorem deletedItemsCannotBeRead :
    itemsSession.Quiet ∧ itemsSession.Trusted ∧
      ¬(unreadableItems.run .trigger).1.tree.IsFile
        (unreadableItems.placeOf "client/types/items.ts") ∧
      ∀ ref, unreadableItems.Wants ref → ref.name = "items" → unreadableItems.Unreadable ref := by
  have quiet : itemsSession.Quiet := ⟨rfl, rfl, rfl⟩
  have trusted : itemsSession.Trusted := Pass.trustedMissing _ (by decide +kernel)
  obtain ⟨known, -, -, lost⟩ := unreadableItemsLost
  obtain ⟨there, gone⟩ := lost "client/types/items.ts" (by decide)
  have direct : ∀ action ∈ [Action.run .trigger, .change (.failColumns "items")],
      action.Direct := by simp [Action.Direct]
  have exact' := deletesOnlyFilesOfUnreadableTables quiet trusted _ direct .trigger "items"
    itemsFiles "client/types/items.ts" known (by decide) there
  exact ⟨quiet, trusted, gone, exact'.1 gone⟩

end RestScaffold
