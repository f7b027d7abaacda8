import RestScaffold.Catalog.Snapshot

/-! Where table metadata comes from: one query to list the tables, and one for each kind of
metadata of a table. -/
namespace RestScaffold.Catalog

inductive CatalogError where
  | connection (detail : String)
  | query (subject table detail : String)
  | dump (detail : String)
  deriving DecidableEq, Repr

def CatalogError.message : CatalogError → String
  | .connection detail => s!"catalog connection: {detail}"
  | .query subject table detail => s!"catalog query '{subject}' on {table}: {detail}"
  | .dump detail => s!"catalog snapshot: {detail}"

structure TableRef where
  schema : String
  name : String
  comment : Option String := none
  deriving DecidableEq, Repr

structure Source where
  tables : (schemas : List String) → Except CatalogError (List TableRef)
  columns : TableRef → Except CatalogError (List Column)
  indexes : TableRef → Except CatalogError (List Index)
  foreignKeys : TableRef → Except CatalogError (List ForeignKey)
  constraints : TableRef → Except CatalogError (List Constraint)

def Source.closed (detail : String) : Source where
  tables _ := .error (.connection detail)
  columns _ := .error (.connection detail)
  indexes _ := .error (.connection detail)
  foreignKeys _ := .error (.connection detail)
  constraints _ := .error (.connection detail)

structure Memory where
  tables : List Table
  unavailable : Bool := false
  failingColumns : List String := []
  failingSecondary : List String := []
  deriving DecidableEq, Repr

namespace Memory

def list (m : Memory) (schemas : List String) : Except CatalogError (List TableRef) :=
  if m.unavailable then .error (.connection "catalog unavailable")
  else .ok ((m.tables.filter (·.schema ∈ schemas)).map fun t => ⟨t.schema, t.name, t.comment⟩)

def lookup (m : Memory) (subject : String) (failing : List String) (t : TableRef)
    (get : Table → α) : Except CatalogError α :=
  if m.unavailable then .error (.connection "catalog unavailable")
  else if t.name ∈ failing then .error (.query subject t.name "injected failure")
  else match m.tables.find? fun s => s.schema = t.schema ∧ s.name = t.name with
    | some s => .ok (get s)
    | none => .error (.query subject t.name "relation does not exist")

def source (m : Memory) : Source where
  tables := m.list
  columns t := m.lookup "columns" m.failingColumns t Table.columns
  indexes t := m.lookup "indexes" m.failingSecondary t Table.indexes
  foreignKeys t := m.lookup "foreign_keys" m.failingSecondary t Table.foreignKeys
  constraints t := m.lookup "constraints" m.failingSecondary t Table.constraints

inductive Change where
  | replace (tables : List Table)
  | unavailable (value : Bool)
  | failColumns (table : String)
  | failSecondary (table : String)
  | alter (table : String) (add : Option Column) (drop comment rename : Option String)
  deriving DecidableEq, Repr

def altered (add : Option Column) (drop comment rename : Option String) (t : Table) : Table :=
  { t with
    columns := (t.columns ++ add.toList).filter fun c => drop ≠ some c.name
    comment := comment.or t.comment
    name := rename.getD t.name }

def alterFirst (name : String) (f : Table → Table) : List Table → Option (List Table)
  | [] => none
  | t :: rest => if t.name = name then some (f t :: rest) else (alterFirst name f rest).map (t :: ·)

def apply (m : Memory) : Change → Memory × Bool
  | .replace tables => ({ m with tables }, true)
  | .unavailable value => ({ m with unavailable := value }, true)
  | .failColumns table => ({ m with failingColumns := table :: m.failingColumns }, true)
  | .failSecondary table => ({ m with failingSecondary := table :: m.failingSecondary }, true)
  | .alter table add drop comment rename =>
      match alterFirst table (altered add drop comment rename) m.tables with
      | some tables => ({ m with tables }, true)
      | none => (m, false)

end Memory
end RestScaffold.Catalog
