/-! Tables as a catalog describes them at one moment. -/
namespace RestScaffold.Catalog

structure ColumnRef where
  table : String
  column : String
  deriving DecidableEq, Repr

structure Column where
  name : String
  dataType : String
  nullable : Bool
  isPrimaryKey : Bool := false
  isUnique : Bool := false
  isForeignKey : Bool := false
  default : Option String := none
  maxLength : Option Int := none
  numericPrecision : Option Int := none
  numericScale : Option Int := none
  references : Option ColumnRef := none
  comment : Option String := none
  deriving DecidableEq, Repr

structure Index where
  name : String
  columns : List String
  isUnique : Bool
  isPrimary : Bool
  deriving DecidableEq, Repr

structure ForeignKey where
  name : String
  column : String
  references : ColumnRef
  onUpdate : Option String := none
  onDelete : Option String := none
  deriving DecidableEq, Repr

inductive ConstraintKind where
  | primaryKey
  | unique
  | foreignKey
  | check
  | other (text : String)
  deriving DecidableEq, Repr

structure Constraint where
  name : String
  kind : ConstraintKind
  columns : List String
  definition : Option String := none
  deriving DecidableEq, Repr

structure Table where
  schema : String
  name : String
  columns : List Column
  indexes : List Index := []
  foreignKeys : List ForeignKey := []
  constraints : List Constraint := []
  comment : Option String := none
  deriving DecidableEq, Repr

namespace Column

def asPrimaryKey (c : Column) : Column := { c with isPrimaryKey := true, nullable := false }

def withDefault (c : Column) (text : String) : Column := { c with default := some text }

def withMaxLength (c : Column) (length : Int) : Column := { c with maxLength := some length }

end Column

def Table.qualifiedName (t : Table) : String := t.schema ++ "." ++ t.name

def linkColumn (key : ForeignKey) : List Column → List Column
  | [] => []
  | c :: rest =>
      if c.name = key.column then
        { c with isForeignKey := true, references := some key.references } :: rest
      else c :: linkColumn key rest

def Table.linkForeignKeys (t : Table) : Table :=
  { t with columns := t.foreignKeys.foldl (fun columns key => linkColumn key columns) t.columns }

end RestScaffold.Catalog
