import RestScaffold.Artifact.Names
import RestScaffold.Server.Model

/-! Request and response shapes of a table's endpoints on the server. -/
namespace RestScaffold.Server
open Catalog Code

structure Dto where
  typeName : String
  create : Option (List GoField)
  update : Option (List GoField)
  listParams : Option (List GoField)
  paged : Bool
  stats : Bool
  deriving DecidableEq, Repr

def fixedParamFields : List String := ["Page", "Limit", "Sort", "Order", "Q", "Format"]

/-- A filter gives way to a fixed parameter of the same name. -/
def filterFieldName (c : ColumnShape) : String :=
  if fixedParamFields.contains (fieldName c) then fieldName c ++ "Filter" else fieldName c

namespace Dto

def isSingleWord (s : String) : Bool :=
  !s.isEmpty && s.toList.all fun c => !Text.isBlank c && c != ',' && c != '"'

def lengthLimit (v : ValidationRules) (c : ColumnShape) : Option Nat :=
  (v.maxLength.get? c.name).or ((c.maxLength.filter fun n => n > 0).map Int.toNat)

def lengthRules (v : ValidationRules) (c : ColumnShape) : List String :=
  if (StorageType.ofText c.dataType).isTextual then
    ((v.minLength.get? c.name).map fun n => "min=" ++ toString n).toList ++
      ((lengthLimit v c).map fun n => "max=" ++ toString n).toList
  else []

def valueRules (v : ValidationRules) (c : ColumnShape) : List String :=
  if (StorageType.ofText c.dataType).isNumeric then
    ((v.minValue.get? c.name).map fun d => "gte=" ++ d.text).toList ++
      ((v.maxValue.get? c.name).map fun d => "lte=" ++ d.text).toList
  else []

def formatRules (v : ValidationRules) (c : ColumnShape) : List String :=
  (if v.emailFields.contains c.name then ["email"] else []) ++
  (if v.urlFields.contains c.name then ["url"] else []) ++
  (if v.uuidFields.contains c.name then ["uuid"] else [])

def enumRules (v : ValidationRules) (c : ColumnShape) : List String :=
  match v.enums.get? c.name with
  | some values => if values.isEmpty then [] else ["oneof=" ++ " ".intercalate values]
  | none => []

def rules (v : ValidationRules) (c : ColumnShape) : List String :=
  lengthRules v c ++ valueRules v c ++ formatRules v c ++ enumRules v c

def binding (v : ValidationRules) (c : ColumnShape) (required : Bool) : Option String :=
  if required then some (",".intercalate ("required" :: rules v c))
  else if (rules v c).isEmpty then none
  else some (",".intercalate ("omitempty" :: rules v c))

def requestField (v : ValidationRules) (c : ColumnShape) (type : GoType) (required omits : Bool) :
    GoField where
  name := fieldName c
  type := type
  tag :=
    ("json", if omits then jsonName c ++ ",omitempty" else jsonName c) ::
      ((binding v c required).map fun b => ("binding", b)).toList

def createField (s : Subject) (c : ColumnShape) : GoField :=
  requestField s.policy.validation c (columnType c) (s.requires c) (!s.requires c)

def updateField (s : Subject) (c : ColumnShape) : GoField :=
  requestField s.policy.validation c (optionalType c) false true

def pageFields : List GoField :=
  [⟨"Page", .int 0, [("form", "page")]⟩, ⟨"Limit", .int 0, [("form", "limit")]⟩,
    ⟨"Sort", .string, [("form", "sort")]⟩, ⟨"Order", .string, [("form", "order")]⟩]

def filterField (c : ColumnShape) : GoField where
  name := filterFieldName c
  type := optionalType c
  tag := [("form", c.name)]

def paramFields (s : Subject) : List GoField :=
  pageFields ++
  (if s.searches then [⟨"Q", .string, [("form", "q")]⟩] else []) ++
  (if s.has .export then [⟨"Format", .string, [("form", "format")]⟩] else []) ++
  s.filterColumns.map filterField

def badEnum? (s : Subject) : Option ColumnShape :=
  s.writable.find? fun c =>
    !((s.policy.validation.enums.get? c.name).getD []).all isSingleWord

def of (s : Subject) : Except RenderError Dto :=
  match if s.needsCreateShape || s.has .update then badEnum? s else none with
  | some c => .error ⟨.dto, s.table.name, .enumValues c.name⟩
  | none => .ok {
      typeName := s.typeName
      create := if s.needsCreateShape then some (s.writable.map (createField s)) else none
      update := if s.has .update then some (s.writable.map (updateField s)) else none
      listParams := if s.needsListParams then some (paramFields s) else none
      paged := s.needsPageShape
      stats := s.has .stats }

def createCode (d : Dto) (fields : List GoField) : List Line :=
  Go.struct (Names.createRequest d.typeName ++ " is the body accepted when creating a row.")
    (Names.createRequest d.typeName) (fields.map GoField.code)

def updateCode (d : Dto) (fields : List GoField) : List Line :=
  Go.struct
    (Names.updateRequest d.typeName ++ " carries the fields to change; absent fields are kept.")
    (Names.updateRequest d.typeName) (fields.map GoField.code)

def paramsCode (d : Dto) (fields : List GoField) : List Line :=
  Go.struct
    (Names.listParams d.typeName ++ " carries query parameters for list, search, export and stats.")
    (Names.listParams d.typeName) (fields.map GoField.code)

def pageCode (d : Dto) : List Line :=
  Go.struct (Names.page d.typeName ++ " is one page of rows.") (Names.page d.typeName)
    [line ["Data []", imported .models d.typeName, " `json:\"data\"`"],
      plain "Page int `json:\"page\"`", plain "Limit int `json:\"limit\"`",
      plain "Total int64 `json:\"total\"`"]

def statsCode (d : Dto) : List Line :=
  Go.struct (Names.stats d.typeName ++ " holds aggregate counts.") (Names.stats d.typeName)
    [plain "Total int64 `json:\"total\"`"]

def code (d : Dto) : List Line :=
  (d.create.map d.createCode).getD [] ++
  (d.update.map d.updateCode).getD [] ++
  (d.listParams.map d.paramsCode).getD [] ++
  (if d.paged then d.pageCode else []) ++
  (if d.stats then d.statsCode else [])

def fields (d : Dto) : List GoField :=
  d.create.getD [] ++ d.update.getD [] ++ d.listParams.getD []

def file (d : Dto) : GoFile where
  package := "dto"
  imports := [typeImports (d.fields.map GoField.type), if d.paged then [.models] else []]
  body := d.code

end Dto
end RestScaffold.Server
