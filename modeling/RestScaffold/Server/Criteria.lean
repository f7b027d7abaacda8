import RestScaffold.Server.Dto

/-! Which rows a listing takes, and in which order. Both depend on the request, so the generated
code puts the clauses together when it runs. -/
namespace RestScaffold.Server
open Catalog Code

structure Filter where
  field : String
  pointer : Bool
  column : String
  deriving DecidableEq, Repr

structure SearchedColumn where
  column : String
  textual : Bool
  deriving DecidableEq, Repr

structure Criteria where
  typeName : String
  ident : String
  always : List Sql.Condition
  filters : List Filter
  searched : List SearchedColumn
  deriving DecidableEq, Repr

structure Ordering where
  typeName : String
  ident : String
  columns : List String
  default : String
  order : SortOrder
  deriving DecidableEq, Repr

def whereName (ident : String) : String := ident ++ "Where"
def sortableName (ident : String) : String := ident ++ "Sortable"
def orderName (ident : String) : String := ident ++ "OrderBy"

def liveConditions (s : Subject) : List Sql.Condition :=
  if s.softDeletes then [.isNull deletedAt] else []

def keyConditions (s : Subject) (placeholder : Nat) : List Sql.Condition :=
  .equals s.keyName placeholder :: liveConditions s

namespace SearchedColumn

def of (c : ColumnShape) : SearchedColumn := ⟨c.name, (StorageType.ofText c.dataType).isTextual⟩

def text (c : SearchedColumn) : String :=
  Sql.quoted c.column ++ (if c.textual then "" else "::text") ++ " ILIKE $%[1]d"

end SearchedColumn

namespace Criteria

def filter (c : ColumnShape) : Filter := ⟨filterFieldName c, (optionalType c).isPointer, c.name⟩

def of (s : Subject) : Criteria where
  typeName := s.typeName
  ident := s.ident
  always := liveConditions s
  filters := s.filterColumns.map filter
  searched := if s.searches then s.searchColumns.map .of else []

def fixedClause (c : Sql.Condition) : Line :=
  line ["clauses = append(clauses, ", Go.raw c.text, ")"]

def numberedClause (format : String) : Line :=
  line ["clauses = append(clauses, ", imported .fmt "Sprintf", "(", Go.raw format, ", len(args)))"]

def filterCode (f : Filter) : List Line :=
  Go.ifBlock (line ["p.", f.field, " != nil"])
    [line ["args = append(args, ", if f.pointer then "*" else "", "p.", f.field, ")"],
      numberedClause (Sql.quoted f.column ++ " = $%d")]

def searchCode (columns : List SearchedColumn) : List Line :=
  if columns.isEmpty then []
  else
    Go.ifBlock "search && p.Q != \"\""
      [plain "args = append(args, \"%\"+p.Q+\"%\")",
        numberedClause ("(" ++ " OR ".intercalate (columns.map SearchedColumn.text) ++ ")")]

def code (c : Criteria) : List Line :=
  Go.function none
    (line [declared (whereName c.ident), "(p ", imported .dto (Names.listParams c.typeName),
      ", search bool) (string, []any)"])
    ([plain "clauses := []string\x7b\x7d", plain "args := []any\x7b\x7d"] ++
      c.always.map fixedClause ++ c.filters.flatMap filterCode ++ searchCode c.searched ++
      Go.ifBlock "len(clauses) == 0" [plain "return \"\", args"] ++
      [line ["return \" WHERE \" + ", imported .strings "Join", "(clauses, \" AND \"), args"]])

end Criteria

namespace Ordering

def of (s : Subject) : Ordering where
  typeName := s.typeName
  ident := s.ident
  columns := s.sortColumns.map ColumnShape.name
  default := s.defaultSort
  order := s.policy.sorting.defaultOrder

def sortableCode (o : Ordering) : List Line :=
  [blank, line ["var ", declared (sortableName o.ident), " = map[string]bool\x7b"]] ++
  indented "\t" (o.columns.map fun c => plain (Text.GoString.quote c ++ ": true,")) ++
  [plain "\x7d"]

def orderCode (o : Ordering) : List Line :=
  Go.function none
    (line [declared (orderName o.ident), "(p ", imported .dto (Names.listParams o.typeName),
      ") string"])
    ([line ["col := ", Text.GoString.quote o.default]] ++
      Go.ifBlock (line [own (sortableName o.ident), "[p.Sort]"]) [plain "col = p.Sort"] ++
      [line ["dir := ", Text.GoString.quote o.order.sql],
        line ["if ", imported .strings "EqualFold", "(p.Order, \"desc\") \x7b"],
        plain "\tdir = \"DESC\"",
        line ["\x7d else if ", imported .strings "EqualFold", "(p.Order, \"asc\") \x7b"],
        plain "\tdir = \"ASC\"",
        plain "\x7d",
        line ["return ", imported .fmt "Sprintf", "(", Go.raw " ORDER BY \"%s\" %s",
          ", col, dir)"]])

def code (o : Ordering) : List Line := o.sortableCode ++ o.orderCode

end Ordering
end RestScaffold.Server
