import RestScaffold.Artifact.Subject
import RestScaffold.Code.GoFile
import RestScaffold.Sql

/-! The row type of a table on the server. -/
namespace RestScaffold.Server
open Catalog Code

structure Model where
  typeName : String
  doc : String
  fields : List GoField
  table : Sql.TableName
  columns : List String
  deriving DecidableEq, Repr

def typeImports (types : List GoType) : List Package :=
  [Package.json, Package.time].filter fun p => types.any (·.package? == some p)

def columnType (c : ColumnShape) : GoType :=
  .ofColumn (StorageType.ofText c.dataType) c.nullable

def optionalType (c : ColumnShape) : GoType := .optional (StorageType.ofText c.dataType)

def fieldName (c : ColumnShape) : String := Naming.exported c.name

def jsonName (c : ColumnShape) : String := Naming.camel c.name

def tableName (s : Subject) : Sql.TableName := ⟨s.table.schema, s.table.name⟩

def columnNames (s : Subject) : List String := s.table.columns.map ColumnShape.name

def tableConstantName (typeName : String) : String := typeName ++ "Table"
def columnsName (typeName : String) : String := typeName ++ "Columns"

namespace Model

def field (c : ColumnShape) : GoField where
  name := fieldName c
  type := columnType c
  tag := [("json", jsonName c), ("db", c.name)]

def docOf (s : Subject) : String :=
  match commentLine? s.table.comment with
  | some comment => s.typeName ++ " is a row of " ++ s.table.qualifiedName ++ ": " ++ comment
  | none => s.typeName ++ " is a row of " ++ s.table.qualifiedName ++ "."

def of (s : Subject) : Model where
  typeName := s.typeName
  doc := docOf s
  fields := s.table.columns.map field
  table := tableName s
  columns := columnNames s

def code (m : Model) : List Line :=
  Go.struct m.doc m.typeName (m.fields.map GoField.code) ++
  [blank,
    plain ("// " ++ tableConstantName m.typeName ++ " is the qualified table name."),
    line ["const ", declared (tableConstantName m.typeName), " = ", Go.raw m.table.text],
    blank,
    plain ("// " ++ columnsName m.typeName ++ " lists every column in catalog order."),
    line ["var ", declared (columnsName m.typeName), " = ", Go.strings m.columns]]

def file (m : Model) : GoFile where
  package := "models"
  imports := [typeImports (m.fields.map GoField.type)]
  body := m.code

end Model
end RestScaffold.Server
