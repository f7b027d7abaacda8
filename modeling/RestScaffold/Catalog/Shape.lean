import RestScaffold.Catalog.Snapshot

/-! What planning and rendering read of a table. Keys other than the primary one, indexes and
constraints have no part in it. -/
namespace RestScaffold.Catalog

structure ColumnShape where
  name : String
  dataType : String
  nullable : Bool
  isPrimaryKey : Bool
  default : Option String
  maxLength : Option Int
  deriving DecidableEq, Repr

structure TableShape where
  schema : String
  name : String
  columns : List ColumnShape
  comment : Option String
  deriving DecidableEq, Repr

def Column.shape (c : Column) : ColumnShape :=
  ⟨c.name, c.dataType, c.nullable, c.isPrimaryKey, c.default, c.maxLength⟩

def Table.shape (t : Table) : TableShape :=
  ⟨t.schema, t.name, t.columns.map Column.shape, t.comment⟩

def createdAt : String := "created_at"
def updatedAt : String := "updated_at"
def deletedAt : String := "deleted_at"

def ColumnShape.isTimestamp (c : ColumnShape) : Bool := c.name == createdAt || c.name == updatedAt

namespace TableShape

def qualifiedName (t : TableShape) : String := t.schema ++ "." ++ t.name

def column? (t : TableShape) (name : String) : Option ColumnShape :=
  t.columns.find? (·.name = name)

def hasColumn (t : TableShape) (name : String) : Bool := (t.column? name).isSome

def primaryKey? (t : TableShape) : Option ColumnShape :=
  (t.columns.find? (·.isPrimaryKey)).or (t.column? "id")

def writableColumns (t : TableShape) : List ColumnShape :=
  t.columns.filter fun c =>
    !c.isPrimaryKey && some c.name != (t.primaryKey?).map ColumnShape.name && !c.isTimestamp

def namedColumns (t : TableShape) (names : List String) : List ColumnShape :=
  names.filterMap t.column?

end TableShape
end RestScaffold.Catalog
