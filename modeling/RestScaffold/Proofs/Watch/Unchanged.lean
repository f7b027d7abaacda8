import RestScaffold.Proofs.Catalog.Fingerprint
import RestScaffold.Proofs.Client.Interfaces
import RestScaffold.Proofs.Generation.Repetition
import RestScaffold.Proofs.Watch.Deletion

/-! What a tick misses that finds the fingerprint unchanged. Planning and rendering read more of a
table than its fingerprint covers: which columns are keys, whether a default is there at all, where
the schema ends and the name begins, and the comment. -/
namespace RestScaffold.Catalog

variable {ts us : List Table}

theorem mapBoth {α β γ δ : Type} {f : α → β} {g : α → γ} {h : α → δ}
    (both : ∀ a b, h a = h b ↔ f a = f b ∧ g a = g b) (as bs : List α) :
    as.map h = bs.map h ↔ as.map f = bs.map f ∧ as.map g = bs.map g := by
  induction as generalizing bs with
  | nil => cases bs <;> simp
  | cons a as ih =>
      cases bs with
      | nil => simp
      | cons b bs =>
          simp only [List.map_cons, List.cons.injEq, both, ih]
          grind

structure HiddenColumn where
  isPrimaryKey : Bool
  hasDefault : Bool
  deriving DecidableEq, Repr

structure HiddenTable where
  schema : String
  comment : Option String
  columns : List HiddenColumn
  deriving DecidableEq, Repr

def Column.hidden (c : Column) : HiddenColumn := ⟨c.isPrimaryKey, c.default.isSome⟩

def Table.hidden (t : Table) : HiddenTable := ⟨t.schema, t.comment, t.columns.map Column.hidden⟩

theorem columnShapeIff (c d : Column) :
    c.shape = d.shape ↔ c.traits = d.traits ∧ c.hidden = d.hidden := by
  have default : c.default = d.default ↔
      c.default.getD "" = d.default.getD "" ∧ c.default.isSome = d.default.isSome := by
    cases c.default <;> cases d.default <;> simp
  simp only [Column.shape, Column.traits, Column.hidden, ColumnShape.mk.injEq,
    ColumnTraits.mk.injEq, HiddenColumn.mk.injEq, default]
  grind

theorem tableShapeIff (t u : Table) :
    t.shape = u.shape ↔ t.traits = u.traits ∧ t.hidden = u.hidden := by
  simp only [Table.shape, Table.traits, Table.hidden, Table.qualifiedName, TableShape.mk.injEq,
    TableTraits.mk.injEq, HiddenTable.mk.injEq, mapBoth columnShapeIff]
  constructor
  · rintro ⟨schema, name, ⟨traits, hidden⟩, comment⟩
    simp [schema, name, traits, hidden, comment]
  · rintro ⟨⟨name, traits⟩, schema, comment, hidden⟩
    rw [schema, String.append_right_inj] at name
    exact ⟨schema, name, ⟨traits, hidden⟩, comment⟩

theorem shapesIff :
    ts.map Table.shape = us.map Table.shape ↔
      fingerprintText ts = fingerprintText us ∧ ts.map Table.hidden = us.map Table.hidden := by
  rw [fingerprintTextShows, mapBoth tableShapeIff]

end RestScaffold.Catalog

namespace RestScaffold
open Catalog FileTree

variable {w : Watcher} {ts us : List Table}

theorem assessUnchanged {reading : List Table}
    (unchanged : w.assess .check (.ok reading) = .error .unchanged) :
    w.registry.fingerprint = some (fingerprint reading) := by
  simp only [Watcher.assess] at unchanged
  split at unchanged
  · assumption
  · split at unchanged <;> cases unchanged

/-- Tables that agree in what a fingerprint leaves out are planned and rendered alike if the texts
under their fingerprints are the same. A tick that finds the fingerprint of a pass unchanged, all of
whose files could be written, leaves no file that a regeneration would change. -/
theorem unchangedTablesGenerateAlike (hidden : ts.map Table.hidden = us.map Table.hidden)
    (collisionFree : fingerprint ts = fingerprint us → fingerprintText ts = fingerprintText us) :
    (fingerprintText ts = fingerprintText us → ∀ s,
      (ts.map fun t => Pass.prepare s t.shape) = us.map (fun t => Pass.prepare s t.shape) ∧
      ∀ tree, Pass.run s tree (ts.map Table.shape) = Pass.run s tree (us.map Table.shape)) ∧
    ∀ (w : Watcher) (tree left : FileTree),
      Pass.Known w.settings.outputRoot tree →
      Pass.Succeeds w.settings tree (ts.map Table.shape) left →
      w.registry.fingerprint = some (fingerprint ts) →
      w.assess .check (.ok us) = .error .unchanged →
      ∀ now here, (w.regenerate left now us).2.1.text? here = left.text? here := by
  have alike : fingerprintText ts = fingerprintText us →
      ts.map Table.shape = us.map Table.shape := fun same => shapesIff.mpr ⟨same, hidden⟩
  constructor
  · intro same s
    have prepared := congrArg (List.map (Pass.prepare s)) (alike same)
    rw [List.map_map, List.map_map] at prepared
    exact ⟨prepared, fun tree => by rw [alike same]⟩
  · intro w tree left known succeeds recorded unchanged now here
    rw [assessUnchanged unchanged, Option.some.injEq] at recorded
    obtain ⟨again, ⟨report, ran, -⟩, same⟩ := Pass.repeatedPass known succeeds
    obtain ⟨-, -, tree', -⟩ := regenerateRuns w left now us
    rw [tree', ← alike (collisionFree recorded.symm), ran]
    exact same here

def plainTable : Table where
  schema := "public"
  name := "items"
  columns := [{ name := "id", dataType := "integer", nullable := false, isPrimaryKey := true },
    { name := "code", dataType := "text", nullable := false }]

def indexedTable : Table where
  schema := "public"
  name := "items"
  columns := [{ name := "id", dataType := "integer", nullable := false, isPrimaryKey := true },
    { name := "code", dataType := "text", nullable := false, comment := some "unique" }]
  indexes := [⟨"items_code", ["code"], true, false⟩]

def clientWatcher (known : List Table) : Watcher where
  settings := { outputRoot := "out", targets := [.client] }
  binder := fun _ _ => .ok ()
  registry := { fingerprint := some (fingerprint known) }

def plainTree : FileTree :=
  (Pass.run (clientWatcher [plainTable]).settings {} [plainTable.shape]).1

theorem plainTreeServes :
    Pass.fine (Pass.run (clientWatcher [plainTable]).settings {} [plainTable.shape]).2 ∧
      plainTree.IsFile ["out", "client", "api", "items.ts"] := by decide +kernel

theorem indexLeavesFilesAlone :
    [plainTable].map Table.hidden = [indexedTable].map Table.hidden ∧
      fingerprintText [plainTable] = fingerprintText [indexedTable] ∧
      (clientWatcher [plainTable]).assess .check (.ok [indexedTable]) = .error .unchanged ∧
      plainTree.IsFile ["out", "client", "api", "items.ts"] ∧
      ∀ now here, ((clientWatcher [plainTable]).regenerate plainTree now [indexedTable]).2.1.text?
        here = plainTree.text? here := by
  have hidden : [plainTable].map Table.hidden = [indexedTable].map Table.hidden := by decide
  have text : fingerprintText [plainTable] = fingerprintText [indexedTable] := by decide +kernel
  obtain ⟨done, there⟩ := plainTreeServes
  have unchanged : (clientWatcher [plainTable]).assess .check (.ok [indexedTable]) =
      .error .unchanged :=
    if_pos (congrArg (fun text => some (Digest.ofText text)) text)
  rw [plainTree] at there ⊢
  exact ⟨hidden, text, unchanged, there,
    (unchangedTablesGenerateAlike hidden fun _ => text).2 _ {} _
    (Pass.recordedMissing Pass.Lawful (by decide +kernel)) (Pass.fineSucceeds done) rfl unchanged⟩

def rekeyedTable : Table where
  schema := "public"
  name := "items"
  columns := [{ name := "id", dataType := "integer", nullable := false },
    { name := "code", dataType := "text", nullable := false, isPrimaryKey := true }]

def createSettings : Settings where
  targets := [.client]
  defaults := { endpoints := some ["create"] }

def codeTable (default : Option String) : Table where
  schema := "s"
  name := "t"
  columns := [{ name := "c", dataType := "text", nullable := false, default }]

def codeSubject : Subject :=
  let policy := (Resolver.ofSettings createSettings).resolve (some "s") "t"
  ⟨(codeTable none).shape, policy, [Plan.endpoint (codeTable none).shape policy .create]⟩

theorem codePrepared : Pass.prepare createSettings (codeTable none).shape =
    .ok (some (codeSubject.plan, createSettings.rendering.clientArtifacts codeSubject)) := by
  have made : Subject.of (codeTable none).shape codeSubject.policy codeSubject.plan =
      .ok codeSubject := by decide +kernel
  refine Pass.prepareSome.mpr ⟨by decide +kernel, by decide +kernel, ?_⟩
  change Rendering.tableArtifacts _ _ codeSubject.policy _ [.client] = _
  rw [Rendering.tableArtifacts, made]
  rfl

theorem renderedTypes {r : Rendering} {table : TableShape} {policy : Policy}
    {plan : List Endpoint} {targets : List Target} {files : List Artifact}
    (rendered : r.tableArtifacts table policy plan targets = .ok files) {f : Artifact}
    (member : f ∈ files) (category : f.category = .clientTypes) :
    Client.interfaces f.contents = some (Client.Types.of ⟨table, policy, plan⟩).interfaces := by
  obtain ⟨s, made, rendered⟩ := Rendering.tableArtifactsMade rendered
  have starless : Server.Spelled (fun name => '*' ∉ name.toList) table :=
    Server.spelled made fun wordly => wordly.without (by decide)
  obtain ⟨rfl, plain, columns, -⟩ := Rendering.subjectOk made
  rw [Rendering.typesPrinted (Rendering.printed rendered member) category]
  exact Client.typesRead plain starless columns

theorem defaultTold : Pass.prepare createSettings (codeTable none).shape ≠
    Pass.prepare createSettings (codeTable (some "")).shape := by
  intro same
  obtain ⟨f, member, category⟩ : ∃ f ∈ createSettings.rendering.clientArtifacts codeSubject,
      f.category = .clientTypes := ⟨_, List.mem_cons_self, rfl⟩
  obtain ⟨-, -, rendered⟩ := Pass.prepareSome.mp codePrepared
  obtain ⟨-, -, rendered'⟩ := Pass.prepareSome.mp (same.symm.trans codePrepared)
  -- A column with a default may be left out of a request.
  have alike := (renderedTypes rendered member category).symm.trans
    (renderedTypes rendered' member category)
  exact absurd alike (by decide +kernel)

def dottedTable (schema name : String) : Table := { schema, name, columns := [] }

theorem unchangedTablesGenerateApart :
    (fingerprintText [plainTable] = fingerprintText [rekeyedTable] ∧
      plainTable.comment = rekeyedTable.comment ∧
      Pass.prepare (clientWatcher []).settings plainTable.shape ≠
        Pass.prepare (clientWatcher []).settings rekeyedTable.shape) ∧
    (fingerprintText [codeTable none] = fingerprintText [codeTable (some "")] ∧
      (codeTable none).comment = (codeTable (some "")).comment ∧
      Pass.prepare createSettings (codeTable none).shape ≠
        Pass.prepare createSettings (codeTable (some "")).shape) ∧
    (fingerprintText [dottedTable "a.b" "c"] = fingerprintText [dottedTable "a" "b.c"] ∧
      (dottedTable "a.b" "c").comment = (dottedTable "a" "b.c").comment ∧
      Plan.endpoints (dottedTable "a.b" "c").shape {} ≠
        Plan.endpoints (dottedTable "a" "b.c").shape {}) ∧
    let primed := ((clientWatcher [plainTable]).prime (.ok [])).1
    primed.assess .check (.ok []) = .error .unchanged ∧
      plainTree.IsFile ["out", "client", "api", "items.ts"] ∧
      ¬(primed.regenerate plainTree 0 []).2.1.IsFile ["out", "client", "api", "items.ts"] := by
  have deleted : ¬(((clientWatcher [plainTable]).prime (.ok [])).1.regenerate plainTree 0
      []).2.1.IsFile ["out", "client", "api", "items.ts"] := by decide +kernel
  exact ⟨by decide +kernel, ⟨by decide +kernel, rfl, defaultTold⟩, by decide +kernel, if_pos rfl,
    plainTreeServes.2, deleted⟩

end RestScaffold
