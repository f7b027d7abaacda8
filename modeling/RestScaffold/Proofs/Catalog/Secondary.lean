import RestScaffold.Catalog.Fingerprint
import RestScaffold.Proofs.Catalog.Discovery

/-! Metadata of tables that nothing is generated from: indexes, keys other than the primary one,
constraints, comments on columns and the precision of numbers. What is discovered without it is what
is discovered, less the metadata. -/
namespace RestScaffold.Catalog

def Column.primary (c : Column) : Column where
  name := c.name
  dataType := c.dataType
  nullable := c.nullable
  isPrimaryKey := c.isPrimaryKey
  default := c.default
  maxLength := c.maxLength

def Table.primary (t : Table) : Table where
  schema := t.schema
  name := t.name
  columns := t.columns.map Column.primary
  comment := t.comment

def Source.primary (s : Source) : Source where
  tables := s.tables
  columns ref := (s.columns ref).map (List.map Column.primary)
  indexes _ := .ok []
  foreignKeys _ := .ok []
  constraints _ := .ok []

def Memory.primary (m : Memory) : Memory :=
  { m with tables := m.tables.map Table.primary, failingSecondary := [] }

@[simp] theorem Column.primaryTwice (c : Column) : c.primary.primary = c.primary := rfl

@[simp] theorem Column.shapePrimary (c : Column) : c.primary.shape = c.shape := rfl

@[simp] theorem Column.contributionPrimary (c : Column) :
    c.primary.contribution = c.contribution := rfl

@[simp] theorem Table.columnsPrimary (t : Table) :
    t.primary.columns = t.columns.map Column.primary := rfl

@[simp] theorem Table.shapePrimary (t : Table) : t.primary.shape = t.shape := by
  simp [Table.shape, Table.primary]

@[simp]
theorem Table.contributionPrimary (t : Table) : t.primary.contribution = t.contribution := by
  simp [Table.contribution, Table.primary, Table.qualifiedName, Function.comp_def]

theorem shapesPrimary (ts : List Table) :
    (ts.map Table.primary).map Table.shape = ts.map Table.shape := by
  simp

theorem fingerprintTextPrimary (ts : List Table) :
    fingerprintText (ts.map Table.primary) = fingerprintText ts := by
  simp [fingerprintText, Function.comp_def]

theorem fingerprintPrimary (ts : List Table) :
    fingerprint (ts.map Table.primary) = fingerprint ts := by
  rw [fingerprint, fingerprintTextPrimary, fingerprint]

theorem linkColumnPrimary (key : ForeignKey) (columns : List Column) :
    (linkColumn key columns).map Column.primary = columns.map Column.primary := by
  induction columns with
  | nil => rfl
  | cons c rest ih =>
      rw [linkColumn]
      split
      · rfl
      · rw [List.map_cons, ih, List.map_cons]

theorem linkForeignKeysPrimary (t : Table) : t.linkForeignKeys.primary = t.primary := by
  have linked (keys : List ForeignKey) (columns : List Column) :
      (keys.foldl (fun columns key => linkColumn key columns) columns).map Column.primary =
        columns.map Column.primary := by
    induction keys generalizing columns with
    | nil => rfl
    | cons key rest ih => rw [List.foldl_cons, ih, linkColumnPrimary]
  simp only [Table.primary, Table.linkForeignKeys, linked]

theorem readTablePrimary (s : Source) (ref : TableRef) :
    s.primary.readTable ref = (s.readTable ref).map Table.primary := by
  simp only [Source.readTable, Source.primary]
  cases s.columns ref with
  | error e => rfl
  | ok columns =>
      simp only [Except.map, Option.map_some, linkForeignKeysPrimary]
      rfl

theorem collectPrimary (arrived : List (Nat × Option Table)) :
    collect (arrived.map (Prod.map id (Option.map Table.primary))) =
      (collect arrived).map Table.primary := by
  have collected (reads : List (Nat × Option Table)) :
      collect reads = ((reads.filterMap fun a => a.2.map (a.1, ·)).mergeSort
        fun a b => a.1 ≤ b.1).map Prod.snd := rfl
  have kept : (arrived.map (Prod.map id (Option.map Table.primary))).filterMap
      (fun a => a.2.map (a.1, ·)) =
      (arrived.filterMap fun a => a.2.map (a.1, ·)).map (Prod.map id Table.primary) := by
    rw [List.filterMap_map, List.map_filterMap]
    refine congrFun (congrArg _ (funext fun a => ?_)) _
    rw [Function.comp_apply, Prod.map_snd, Option.map_map, Option.map_map]
    rfl
  have sorted (places : List (Nat × Table)) :
      (places.map (Prod.map id Table.primary)).mergeSort (fun a b => a.1 ≤ b.1) =
        (places.mergeSort fun a b => a.1 ≤ b.1).map (Prod.map id Table.primary) :=
    (List.map_mergeSort (f := Prod.map id Table.primary) fun _ _ _ _ => rfl).symm
  rw [collected, collected, kept, sorted, List.map_map, List.map_map]
  rfl

theorem discoverPrimary (s : Source) (scope : Scope) :
    s.primary.discover scope = (s.discover scope).map (List.map Table.primary) := by
  have listed : s.primary.listed scope = s.listed scope := rfl
  simp only [Source.discover, listed]
  cases s.listed scope with
  | error e => rfl
  | ok refs =>
      have reads : s.primary.reads refs =
          (s.reads refs).map (Prod.map id (Option.map Table.primary)) := by
        simp only [Source.reads, readTablePrimary, List.map_map]
        rfl
      simp only [Except.map, bind, Except.bind, reads, collectPrimary]

theorem lookupPrimary (m : Memory) (ref : TableRef) :
    (m.primary.lookup "columns" m.failingColumns ref Table.columns).map (List.map Column.primary) =
      (m.lookup "columns" m.failingColumns ref Table.columns).map (List.map Column.primary) := by
  have found : m.primary.tables.find? (fun s => s.schema = ref.schema ∧ s.name = ref.name) =
      (m.tables.find? fun s => s.schema = ref.schema ∧ s.name = ref.name).map Table.primary := by
    simp only [Memory.primary, List.find?_map]
    rfl
  have unavailable : m.primary.unavailable = m.unavailable := rfl
  simp only [Memory.lookup, found, unavailable]
  cases m.tables.find? fun s => s.schema = ref.schema ∧ s.name = ref.name with
  | none => rfl
  | some t =>
      split
      · rfl
      · split
        · rfl
        · simp [Except.map]

theorem sourcePrimary (m : Memory) : m.primary.source.primary = m.source.primary := by
  have listed : m.primary.list = m.list := by
    funext schemas
    simp only [Memory.list, Memory.primary, List.filter_map, List.map_map]
    rfl
  simp only [Source.primary, Memory.source, listed, Source.mk.injEq, and_self, and_true, true_and]
  funext ref
  exact lookupPrimary m ref

end RestScaffold.Catalog
