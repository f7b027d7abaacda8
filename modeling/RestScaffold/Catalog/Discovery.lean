import RestScaffold.Catalog.Source
import RestScaffold.Text.CaseMap

/-! Reading all tables of a source. Tables are read independently and may arrive in any order; they
end up in the order in which they were listed. -/
namespace RestScaffold.Catalog

def internalTables : List String :=
  ["schema_migrations", "_sqlx_migrations", "migrations", "audit_log", "audit_logs",
    "schema_version", "schema_versions", "goose_db_version", "flyway_schema_history",
    "__diesel_schema_migrations"]

structure Scope where
  schemas : List String
  excluded : List String := []
  deriving DecidableEq, Repr

def Scope.excludes (s : Scope) (table : String) : Bool :=
  (internalTables ++ s.excluded).any (Text.sameLetters · table)

def orEmpty : Except CatalogError (List α) → List α
  | .ok rows => rows
  | .error _ => []

def Source.readTable (s : Source) (t : TableRef) : Option Table :=
  match s.columns t with
  | .error _ => none
  | .ok columns =>
      some (Table.linkForeignKeys {
        schema := t.schema
        name := t.name
        columns := columns
        indexes := orEmpty (s.indexes t)
        foreignKeys := orEmpty (s.foreignKeys t)
        constraints := orEmpty (s.constraints t)
        comment := t.comment })

def collect (arrived : List (Nat × Option Table)) : List Table :=
  ((arrived.filterMap fun (place, read) => read.map (place, ·)).mergeSort
    fun a b => a.1 ≤ b.1).map Prod.snd

def Source.listed (s : Source) (scope : Scope) : Except CatalogError (List TableRef) :=
  (s.tables scope.schemas).map fun listed => listed.filter (!scope.excludes ·.name)

def Source.reads (s : Source) (listed : List TableRef) : List (Nat × Option Table) :=
  listed.zipIdx.map fun (t, place) => (place, s.readTable t)

def Source.discover (s : Source) (scope : Scope) : Except CatalogError (List Table) := do
  let listed ← s.listed scope
  .ok (collect (s.reads listed))

end RestScaffold.Catalog
