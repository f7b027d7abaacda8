import RestScaffold.Catalog.Snapshot
import RestScaffold.Json.Record
import RestScaffold.Json.Reader

/-! Tables as JSON documents. Writing gives every field; reading takes a field that may be unset as
unset when it is left out. -/
namespace RestScaffold.Catalog
open Json

def ColumnRef.toJson (r : ColumnRef) : Json :=
  record [("table", text r.table), ("column", text r.column)]

def ColumnRef.ofJson : Reader ColumnRef := fun j => do
  let fields ← fields? ["table", "column"] j
  let table ← fields.required "table" readText
  let column ← fields.required "column" readText
  some ⟨table, column⟩

def readLength : Reader Int := readInt (-2147483648) 2147483647

def Column.fieldNames : List String :=
  ["name", "data_type", "nullable", "is_primary_key", "is_unique", "is_foreign_key", "default",
    "max_length", "numeric_precision", "numeric_scale", "references", "comment"]

def Column.toJson (c : Column) : Json :=
  record [("name", text c.name), ("data_type", text c.dataType), ("nullable", .bool c.nullable),
    ("is_primary_key", .bool c.isPrimaryKey), ("is_unique", .bool c.isUnique),
    ("is_foreign_key", .bool c.isForeignKey), ("default", ofOption text c.default),
    ("max_length", ofOption int c.maxLength),
    ("numeric_precision", ofOption int c.numericPrecision),
    ("numeric_scale", ofOption int c.numericScale),
    ("references", ofOption ColumnRef.toJson c.references), ("comment", ofOption text c.comment)]

def Column.ofJson : Reader Column := fun j => do
  let fields ← fields? Column.fieldNames j
  let name ← fields.required "name" readText
  let dataType ← fields.required "data_type" readText
  let nullable ← fields.required "nullable" readBool
  let isPrimaryKey ← fields.withDefault "is_primary_key" false readBool
  let isUnique ← fields.withDefault "is_unique" false readBool
  let isForeignKey ← fields.withDefault "is_foreign_key" false readBool
  let default ← fields.optional "default" readText
  let maxLength ← fields.optional "max_length" readLength
  let numericPrecision ← fields.optional "numeric_precision" readLength
  let numericScale ← fields.optional "numeric_scale" readLength
  let references ← fields.optional "references" ColumnRef.ofJson
  let comment ← fields.optional "comment" readText
  some ⟨name, dataType, nullable, isPrimaryKey, isUnique, isForeignKey, default, maxLength,
    numericPrecision, numericScale, references, comment⟩

def Index.toJson (i : Index) : Json :=
  record [("name", text i.name), ("columns", texts i.columns), ("is_unique", .bool i.isUnique),
    ("is_primary", .bool i.isPrimary)]

def Index.ofJson : Reader Index := fun j => do
  let fields ← fields? ["name", "columns", "is_unique", "is_primary"] j
  let name ← fields.required "name" readText
  let columns ← fields.required "columns" (readList readText)
  let isUnique ← fields.required "is_unique" readBool
  let isPrimary ← fields.required "is_primary" readBool
  some ⟨name, columns, isUnique, isPrimary⟩

def ForeignKey.toJson (k : ForeignKey) : Json :=
  record [("name", text k.name), ("column", text k.column), ("references", k.references.toJson),
    ("on_update", ofOption text k.onUpdate), ("on_delete", ofOption text k.onDelete)]

def ForeignKey.ofJson : Reader ForeignKey := fun j => do
  let fields ← fields? ["name", "column", "references", "on_update", "on_delete"] j
  let name ← fields.required "name" readText
  let column ← fields.required "column" readText
  let references ← fields.required "references" ColumnRef.ofJson
  let onUpdate ← fields.optional "on_update" readText
  let onDelete ← fields.optional "on_delete" readText
  some ⟨name, column, references, onUpdate, onDelete⟩

def ConstraintKind.toJson : ConstraintKind → Json
  | .primaryKey => text "PrimaryKey"
  | .unique => text "Unique"
  | .foreignKey => text "ForeignKey"
  | .check => text "Check"
  | .other s => record [("Other", text s)]

def ConstraintKind.named? : String → Option ConstraintKind
  | "PrimaryKey" => some .primaryKey
  | "Unique" => some .unique
  | "ForeignKey" => some .foreignKey
  | "Check" => some .check
  | _ => none

def ConstraintKind.ofJson : Reader ConstraintKind
  | .object [(some "Other", j)] => (readText j).map .other
  | j => readVariant ConstraintKind.named? j

def Constraint.toJson (c : Constraint) : Json :=
  record [("name", text c.name), ("kind", c.kind.toJson), ("columns", texts c.columns),
    ("definition", ofOption text c.definition)]

def Constraint.ofJson : Reader Constraint := fun j => do
  let fields ← fields? ["name", "kind", "columns", "definition"] j
  let name ← fields.required "name" readText
  let kind ← fields.required "kind" ConstraintKind.ofJson
  let columns ← fields.required "columns" (readList readText)
  let definition ← fields.optional "definition" readText
  some ⟨name, kind, columns, definition⟩

def Table.fieldNames : List String :=
  ["schema", "name", "columns", "indexes", "foreign_keys", "constraints", "comment"]

def Table.toJson (t : Table) : Json :=
  record [("schema", text t.schema), ("name", text t.name),
    ("columns", .array (t.columns.map Column.toJson)),
    ("indexes", .array (t.indexes.map Index.toJson)),
    ("foreign_keys", .array (t.foreignKeys.map ForeignKey.toJson)),
    ("constraints", .array (t.constraints.map Constraint.toJson)),
    ("comment", ofOption text t.comment)]

def Table.ofJson : Reader Table := fun j => do
  let fields ← fields? Table.fieldNames j
  let schema ← fields.required "schema" readText
  let name ← fields.required "name" readText
  let columns ← fields.required "columns" (readList Column.ofJson)
  let indexes ← fields.withDefault "indexes" [] (readList Index.ofJson)
  let foreignKeys ← fields.withDefault "foreign_keys" [] (readList ForeignKey.ofJson)
  let constraints ← fields.withDefault "constraints" [] (readList Constraint.ofJson)
  let comment ← fields.optional "comment" readText
  some ⟨schema, name, columns, indexes, foreignKeys, constraints, comment⟩

def dump (tables : List Table) : Json := .array (tables.map Table.toJson)

def readDump (s : String) : Option (List Table) := (parse s).bind (readList Table.ofJson)

end RestScaffold.Catalog
