import RestScaffold.Artifact.Names
import RestScaffold.Artifact.Subject
import RestScaffold.Code.Line
import RestScaffold.ScriptType

/-! Types of a table's rows, requests and responses in the client. -/
namespace RestScaffold.Client
open Catalog Code

structure Property where
  name : String
  optional : Bool
  type : ScriptType
  deriving DecidableEq, Repr

structure Types where
  typeName : String
  doc : String
  row : List Property
  create : Option (List Property)
  update : Option (List Property)
  listParams : Option (List Property)
  paged : Bool
  stats : Bool
  deriving DecidableEq, Repr

def valueType (s : Subject) (c : ColumnShape) (nullable : Bool) : ScriptType :=
  match (s.policy.validation.enums.get? c.name).filter (!·.isEmpty) with
  | some values => if nullable then .orNull (.oneOf values) else .oneOf values
  | none => .ofColumn (StorageType.ofText c.dataType) nullable

def keyType (s : Subject) : ScriptType :=
  if s.numericKey?.isSome then .number else .string

def interfaceCode (name : String) (properties : List Line) : List Line :=
  Code.block "  " (line ["export interface ", declared name]) properties

namespace Property

def ofColumn (s : Subject) (c : ColumnShape) (optional : Bool) : Property :=
  ⟨Naming.camel c.name, optional, valueType s c c.nullable⟩

def filter (s : Subject) (c : ColumnShape) : Property := ⟨c.name, true, valueType s c false⟩

def code (p : Property) : Line :=
  line [p.name, if p.optional then "?" else "", ": ", p.type.text, ";"]

end Property

namespace Types

def withoutCommentEnds : List Char → List Char
  | '*' :: '/' :: rest => '*' :: ' ' :: '/' :: withoutCommentEnds rest
  | c :: rest => c :: withoutCommentEnds rest
  | [] => []

def docOf (s : Subject) : String :=
  match commentLine? s.table.comment with
  | some comment =>
      "Row of " ++ s.table.qualifiedName ++ ": " ++
        String.ofList (withoutCommentEnds comment.toList)
  | none => "Row of " ++ s.table.qualifiedName ++ "."

def paramProperties (s : Subject) : List Property :=
  [⟨"page", true, .number⟩, ⟨"limit", true, .number⟩,
    ⟨"sort", true, .oneOf (s.sortColumns.map ColumnShape.name)⟩,
    ⟨"order", true, .oneOf ["asc", "desc"]⟩] ++
  (if s.searches then [⟨"q", true, .string⟩] else []) ++
  s.filterColumns.map (Property.filter s)

def of (s : Subject) : Types where
  typeName := s.typeName
  doc := docOf s
  row := s.table.columns.map fun c => Property.ofColumn s c false
  create :=
    if s.needsCreateShape then
      some (s.writable.map fun c => Property.ofColumn s c (!s.requires c))
    else none
  update :=
    if s.has .update then some (s.writable.map fun c => Property.ofColumn s c true) else none
  listParams := if s.needsListParams then some (paramProperties s) else none
  paged := s.needsPageShape
  stats := s.has .stats

variable (t : Types)

def shapeCode (name : String) (properties : List Property) : List Line :=
  blank :: interfaceCode name (properties.map Property.code)

def pageCode : List Line :=
  blank :: interfaceCode (Names.page t.typeName)
    [line ["data: ", own t.typeName, "[];"], plain "page: number;", plain "limit: number;",
      plain "total: number;"]

def statsCode : List Line :=
  blank :: interfaceCode (Names.stats t.typeName) [plain "total: number;"]

def code : List Line :=
  [plain generatedNotice, blank, plain ("/** " ++ t.doc ++ " */")] ++
  interfaceCode t.typeName (t.row.map Property.code) ++
  (t.create.map (shapeCode (Names.createRequest t.typeName))).getD [] ++
  (t.update.map (shapeCode (Names.updateRequest t.typeName))).getD [] ++
  (t.listParams.map (shapeCode (Names.listParams t.typeName))).getD [] ++
  (if t.paged then t.pageCode else []) ++
  (if t.stats then t.statsCode else [])

end Types
end RestScaffold.Client
