import RestScaffold.Artifact.Error
import RestScaffold.Endpoint.Plan
import RestScaffold.Text.Lines

/-! What all files of one table are rendered from: its shape, its policy and its plan, and the
questions that several files ask of them. -/
namespace RestScaffold
open Catalog

structure Subject where
  table : TableShape
  policy : Policy
  plan : List Endpoint
  deriving DecidableEq, Repr

namespace Subject

def of (table : TableShape) (policy : Policy) (plan : List Endpoint) :
    Except RenderError Subject :=
  if !Naming.isPlainIdentifier table.name then .error ⟨.table, table.name, .tableName⟩
  else if !Naming.isPlainIdentifier table.schema then .error ⟨.table, table.name, .schemaName⟩
  else match table.columns.find? (!Naming.isPlainIdentifier ·.name) with
    | some c => .error ⟨.model, table.name, .columnName c.name⟩
    | none =>
        if table.columns.isEmpty then .error ⟨.model, table.name, .noColumns⟩
        else .ok ⟨table, policy, plan⟩

def typeName (s : Subject) : String := Naming.pascal s.table.name

def stem (s : Subject) : String := Text.lower s.table.name

def ident (s : Subject) : String := Naming.camel s.table.name

def has (s : Subject) (k : EndpointKind) : Bool := s.plan.any (·.kind == k)

def hasSingular (s : Subject) : Bool := s.plan.any (·.kind.isSingular)

def listsRows (s : Subject) : Bool := s.has .list || s.has .search || s.has .export

def needsListParams (s : Subject) : Bool := s.listsRows || s.has .stats

def needsPageShape (s : Subject) : Bool := s.has .list || s.has .search

def needsCreateShape (s : Subject) : Bool := s.has .create || s.has .bulk

def softDeletes (s : Subject) : Bool := Plan.softDeletes s.table s.policy

def touchesUpdatedAt (s : Subject) : Bool :=
  s.policy.security.timestamps && s.table.hasColumn updatedAt

def key? (s : Subject) : Option ColumnShape := s.table.primaryKey?

def keyName (s : Subject) : String := (s.key?.map ColumnShape.name).getD "id"

def numericKey? (s : Subject) : Option ColumnShape :=
  s.key?.filter fun c => (StorageType.ofText c.dataType).isNumeric

def writable (s : Subject) : List ColumnShape := s.table.writableColumns

def requires (s : Subject) (c : ColumnShape) : Bool :=
  s.policy.validation.required.contains c.name || (!c.nullable && c.default.isNone)

def filterColumns (s : Subject) : List ColumnShape := Plan.filterColumns s.table s.policy

def searchColumns (s : Subject) : List ColumnShape := Plan.searchColumns s.table s.policy

def searches (s : Subject) : Bool := s.has .search && !s.searchColumns.isEmpty

def sortColumns (s : Subject) : List ColumnShape :=
  if (Plan.sortColumns s.table s.policy).isEmpty then s.table.columns
  else Plan.sortColumns s.table s.policy

def defaultSort (s : Subject) : String :=
  (Plan.defaultSortColumn s.table s.policy).getD s.keyName

end Subject

def commentLine? (comment : Option String) : Option String :=
  comment.bind fun c => (Text.lines c.toList).head?.map fun l =>
    String.ofList (Text.trimEnd (Text.trimStart l))

end RestScaffold
