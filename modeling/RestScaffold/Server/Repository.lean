import RestScaffold.Server.Criteria

/-! The repository of a table on the server: one method for each planned endpoint, and the
statements that these methods run. -/
namespace RestScaffold.Server
open Catalog Code

structure Writing where
  statement : Sql.Statement
  fields : List String
  deriving DecidableEq, Repr

inductive Access where
  | list
  | search (matching : Bool)
  | export
  | stats (count : Sql.Statement)
  | get (conditions : List Sql.Condition)
  | create
  | bulk
  | update (writing : Writing)
  | delete (statement : Sql.Statement)
  deriving DecidableEq, Repr

structure Repository where
  typeName : String
  ident : String
  qualifiedName : String
  table : Sql.TableName
  columns : List String
  scanned : List String
  keyType : GoType
  criteria : Option Criteria
  ordering : Option Ordering
  insertion : Option Writing
  accesses : List Access
  deriving DecidableEq, Repr

def repositoryName (typeName : String) : String := typeName ++ "Repository"
def newRepositoryName (typeName : String) : String := "New" ++ repositoryName typeName
def selectName (ident : String) : String := ident ++ "Select"
def insertName (ident : String) : String := ident ++ "Insert"
def scannerName (ident : String) : String := ident ++ "Scanner"
def queryerName (ident : String) : String := ident ++ "Queryer"
def scanName (typeName : String) : String := "scan" ++ typeName
def insertRowName (typeName : String) : String := "insert" ++ typeName

def accessName : EndpointKind → String
  | .list => "List"
  | .create => "Create"
  | .get => "Get"
  | .update => "Update"
  | .delete => "Delete"
  | .bulk => "BulkCreate"
  | .search => "Search"
  | .stats => "Stats"
  | .export => "Export"

def Access.kind : Access → EndpointKind
  | .list => .list
  | .search _ => .search
  | .export => .export
  | .stats _ => .stats
  | .get _ => .get
  | .create => .create
  | .bulk => .bulk
  | .update _ => .update
  | .delete _ => .delete

def keyType (s : Subject) : GoType :=
  match s.numericKey? with
  | some c => .ofStorage (StorageType.ofText c.dataType)
  | none => .string

namespace Repository

def writableFields (s : Subject) : List String := s.writable.map fieldName

def numbered (s : Subject) : List (String × Nat) := (s.writable.map ColumnShape.name).zipIdx 1

def inserting (s : Subject) : Writing where
  statement := .insert (tableName s) (numbered s) (columnNames s)
  fields := writableFields s

def assignments (s : Subject) : List Sql.Assignment :=
  let changed := (numbered s).map (fun (column, n) => Sql.Assignment.given column n) ++
    (if s.touchesUpdatedAt then [Sql.Assignment.now updatedAt] else [])
  if changed.isEmpty then [.kept s.keyName] else changed

def updating (s : Subject) : Writing where
  statement := .update (tableName s) (assignments s) (keyConditions s (s.writable.length + 1))
    (columnNames s)
  fields := writableFields s

def deletion (s : Subject) : Sql.Statement :=
  if s.softDeletes then .update (tableName s) [.now deletedAt] (keyConditions s 1) []
  else .delete (tableName s) (keyConditions s 1)

def access (s : Subject) : EndpointKind → Access
  | .list => .list
  | .search => .search s.searches
  | .export => .export
  | .stats => .stats (.count (tableName s) [])
  | .get => .get (keyConditions s 1)
  | .create => .create
  | .bulk => .bulk
  | .update => .update (updating s)
  | .delete => .delete (deletion s)

def of (s : Subject) : Repository where
  typeName := s.typeName
  ident := s.ident
  qualifiedName := s.table.qualifiedName
  table := tableName s
  columns := columnNames s
  scanned := s.table.columns.map fieldName
  keyType := Server.keyType s
  criteria := if s.needsListParams then some (.of s) else none
  ordering := if s.listsRows then some (.of s) else none
  insertion := if s.needsCreateShape then some (inserting s) else none
  accesses := s.plan.map fun e => access s e.kind

variable (r : Repository)

def selection : Sql.Statement := .select r.columns r.table []

def counting : Sql.Statement := .count r.table []

def row : Line := imported .models r.typeName

def context : Line := line ["ctx ", imported .context "Context"]

def params : Line := line ["p ", imported .dto (Names.listParams r.typeName)]

def key : Line := line ["id ", r.keyType.line]

def createRequest : Line := imported .dto (Names.createRequest r.typeName)

def updateRequest : Line := imported .dto (Names.updateRequest r.typeName)

def method (comment : Option String) (name : String) (arguments : List Line) (results : Line)
    (body : List Line) : List Line :=
  Go.function comment
    (line ["(r *", own (repositoryName r.typeName), ") ", declared name, "(",
      separated ", " (context :: arguments), ") ", results])
    body

def failed (values : String) : List Line :=
  Go.ifBlock "err != nil" [plain ("return " ++ values ++ "err")]

def typeCode : List Line :=
  [blank, line ["const ", declared (selectName r.ident), " = ", Go.raw r.selection.text]] ++
  Go.struct (repositoryName r.typeName ++ " reads and writes " ++ r.qualifiedName ++ ".")
    (repositoryName r.typeName) [line ["db *", imported .sql "DB"]] ++
  Go.function none
    (line [declared (newRepositoryName r.typeName), "(db *", imported .sql "DB", ") *",
      own (repositoryName r.typeName)])
    [line ["return &", own (repositoryName r.typeName), "\x7bdb: db\x7d"]]

def scanCode : List Line :=
  blank :: Go.block (line ["type ", declared (scannerName r.ident), " interface"])
    [plain "Scan(dest ...any) error"] ++
  Go.function none
    (line [declared (scanName r.typeName), "(row ", own (scannerName r.ident), ") (", r.row,
      ", error)"])
    [line ["var m ", r.row],
      plain ("err := row.Scan(" ++ ", ".intercalate (r.scanned.map ("&m." ++ ·)) ++ ")"),
      plain "return m, err"]

def findCode : List Line :=
  r.method none "find" [r.params, "search, paginate bool"] (line ["([]", r.row, ", int64, error)"])
    ([line ["where, args := ", own (whereName r.ident), "(p, search)"], plain "var total int64"] ++
      Go.ifBlock
        (line ["err := r.db.QueryRowContext(ctx, ", Go.raw r.counting.text,
          "+where, args...).Scan(&total); err != nil"])
        [plain "return nil, 0, err"] ++
      [line ["query := ", own (selectName r.ident), " + where + ", own (orderName r.ident),
        "(p)"]] ++
      Go.ifBlock "paginate"
        [line ["query += ", imported .fmt "Sprintf",
          "(\" LIMIT %d OFFSET %d\", p.Limit, (p.Page-1)*p.Limit)"]] ++
      [plain "rows, err := r.db.QueryContext(ctx, query, args...)"] ++ failed "nil, 0, " ++
      [plain "defer rows.Close()", line ["out := []", r.row, "\x7b\x7d"]] ++
      Go.block "for rows.Next()"
        ([line ["m, err := ", own (scanName r.typeName), "(rows)"]] ++ failed "nil, 0, " ++
          [plain "out = append(out, m)"]) ++
      [plain "return out, total, rows.Err()"])

def arguments (w : Writing) : String := String.join (w.fields.map (", req." ++ ·))

def insertCode (w : Writing) : List Line :=
  [blank, line ["const ", declared (insertName r.ident), " = ", Go.raw w.statement.text], blank] ++
  Go.block (line ["type ", declared (queryerName r.ident), " interface"])
    [line ["QueryRowContext(ctx ", imported .context "Context", ", query string, args ...any) *",
      imported .sql "Row"]] ++
  Go.function none
    (line [declared (insertRowName r.typeName), "(", context, ", q ", own (queryerName r.ident),
      ", req ", r.createRequest, ") (", r.row, ", error)"])
    [line ["return ", own (scanName r.typeName), "(q.QueryRowContext(ctx, ",
      own (insertName r.ident), arguments w, "))"]]

def pageResults : Line := line ["([]", r.row, ", int64, error)"]

def rowResults : Line := line ["(", r.row, ", error)"]

def bulkCode : List Line :=
  [plain "tx, err := r.db.BeginTx(ctx, nil)"] ++ failed "nil, " ++
  [plain "defer tx.Rollback()", line ["out := make([]", r.row, ", 0, len(reqs))"]] ++
  Go.block "for _, req := range reqs"
    ([line ["m, err := ", own (insertRowName r.typeName), "(ctx, tx, req)"]] ++ failed "nil, " ++
      [plain "out = append(out, m)"]) ++
  [plain "return out, tx.Commit()"]

def comment? : EndpointKind → Option String
  | .list => some "List returns one page of rows and the total match count."
  | .search => some "Search matches the q parameter against the configured text columns."
  | .export => some "Export returns one page of matching rows, ordered like List."
  | .get => some "Get returns the row with the given key, or sql.ErrNoRows."
  | .bulk =>
      some "BulkCreate inserts every row in one transaction; any failure rolls back all of them."
  | .update => some "Update changes the given fields; sql.ErrNoRows when no row has the key."
  | .delete => some "Delete reports whether a row was removed."
  | .stats | .create => none

def accessArguments : EndpointKind → List Line
  | .list | .search | .export | .stats => [r.params]
  | .get | .delete => [r.key]
  | .create => [line ["req ", r.createRequest]]
  | .bulk => [line ["reqs []", r.createRequest]]
  | .update => [r.key, line ["req ", r.updateRequest]]

def accessResults : EndpointKind → Line
  | .list | .search => r.pageResults
  | .export | .bulk => line ["([]", r.row, ", error)"]
  | .stats => line ["(", imported .dto (Names.stats r.typeName), ", error)"]
  | .get | .create | .update => r.rowResults
  | .delete => plain "(bool, error)"

def accessBody : Access → List Line
  | .list => [plain "return r.find(ctx, p, false, true)"]
  | .search true => [plain "return r.find(ctx, p, true, true)"]
  | .search false => [line ["return []", r.row, "\x7b\x7d, 0, nil"]]
  | .export => [plain "rows, _, err := r.find(ctx, p, false, true)", plain "return rows, err"]
  | .stats count =>
      [line ["where, args := ", own (whereName r.ident), "(p, false)"],
        line ["var s ", imported .dto (Names.stats r.typeName)],
        line ["err := r.db.QueryRowContext(ctx, ", Go.raw count.text,
          "+where, args...).Scan(&s.Total)"],
        plain "return s, err"]
  | .get conditions =>
      [line ["return ", own (scanName r.typeName), "(r.db.QueryRowContext(ctx, ",
        own (selectName r.ident), "+", Go.raw (Sql.whereText conditions), ", id))"]]
  | .create => [line ["return ", own (insertRowName r.typeName), "(ctx, r.db, req)"]]
  | .bulk => r.bulkCode
  | .update w =>
      [line ["return ", own (scanName r.typeName), "(r.db.QueryRowContext(ctx, ",
        Go.raw w.statement.text, arguments w, ", id))"]]
  | .delete statement =>
      [line ["res, err := r.db.ExecContext(ctx, ", Go.raw statement.text, ", id)"]] ++
        failed "false, " ++
        [plain "n, err := res.RowsAffected()", plain "return n > 0, err"]

def accessCode (a : Access) : List Line :=
  r.method (comment? a.kind) (accessName a.kind) (r.accessArguments a.kind) (r.accessResults a.kind)
    (r.accessBody a)

def code : List Line :=
  r.typeCode ++ r.scanCode ++
  (r.criteria.map Criteria.code).getD [] ++
  (r.ordering.map fun o => o.code ++ r.findCode).getD [] ++
  (r.insertion.map r.insertCode).getD [] ++
  r.accesses.flatMap r.accessCode

def formats : Bool :=
  r.ordering.isSome ||
    (r.criteria.map fun c => !c.filters.isEmpty || !c.searched.isEmpty).getD false

def hasUpdate : Bool := r.accesses.any (·.kind == .update)

def file : GoFile where
  package := "repository"
  imports :=
    [[.context, .sql] ++ (if r.formats then [.fmt] else []) ++
      (if r.criteria.isSome then [.strings] else []),
      (if r.criteria.isSome || r.insertion.isSome || r.hasUpdate then [.dto] else []) ++ [.models]]
  body := r.code

end Repository
end RestScaffold.Server
