import RestScaffold.Catalog.Shape
import RestScaffold.Digest

/-! A digest over the structure of a list of tables, to tell whether it has changed. Each field is
written with its length in bytes before it, so that neighbours do not run together. -/
namespace RestScaffold.Catalog

def field (value : String) : String :=
  toString value.utf8ByteSize ++ ":" ++ value ++ "|"

def Column.contribution (c : Column) : String :=
  field c.name ++ field c.dataType ++ field (if c.nullable then "null" else "not null") ++
    field (c.default.getD "") ++ field ((c.maxLength.map toString).getD "")

def Table.contribution (t : Table) : String :=
  field t.qualifiedName ++ String.join (t.columns.map Column.contribution) ++ ";"

def fingerprintText (tables : List Table) : String :=
  String.join (tables.map Table.contribution)

def fingerprint (tables : List Table) : String := Digest.ofText (fingerprintText tables)

end RestScaffold.Catalog
