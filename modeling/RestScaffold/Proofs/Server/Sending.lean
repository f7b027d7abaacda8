import RestScaffold.Proofs.Server.OrderBy
import RestScaffold.Proofs.Server.WhereClause
import RestScaffold.Proofs.Server.Wording

/-! The functions of a generated repository as programs, by the statements that they send. They
print to the lines of the repository. What a method sends is put together from raw strings and from
what the functions return that restrict and order a listing. -/
namespace RestScaffold.Server
open Code

namespace Sending

inductive Part where
  | raw (text : String)
  | selection
  | insertion
  | restriction
  | order
  | query
  deriving DecidableEq, Repr

inductive Step where
  | restrict (search : Option Bool)
  | compose (parts : List Part)
  | page
  | send (before : Line) (parts : List Part) (after : Line)
  | other (code : List Line)

inductive Helper where
  | find (search paginate : Bool)
  | insert
  deriving DecidableEq, Repr

inductive Body where
  | own (steps : List Step)
  | left (helper : Helper) (before : List Line) (call : Line) (after : List Line)

variable (r : Repository)

def Part.line : Part → Line
  | .raw text => Go.raw text
  | .selection => Code.own (selectName r.ident)
  | .insertion => Code.own (insertName r.ident)
  | .restriction => "where"
  | .order => Code.line [Code.own (orderName r.ident), "(p)"]
  | .query => "query"

def Step.code : Step → List Line
  | .restrict search =>
      [Code.line ["where, args := ", Code.own (whereName r.ident), "(p, ",
        ((search.map toString).getD "search" : String), ")"]]
  | .compose parts => [Code.line ["query := ", separated " + " (parts.map (Part.line r))]]
  | .page =>
      Go.ifBlock "paginate"
        [Code.line ["query += ", imported .fmt "Sprintf",
          "(\" LIMIT %d OFFSET %d\", p.Limit, (p.Page-1)*p.Limit)"]]
  | .send before parts after =>
      [Code.line [before, separated "+" (parts.map (Part.line r)), after]]
  | .other code => code

def Body.code : Body → List Line
  | .own steps => steps.flatMap (Step.code r)
  | .left _ before call after => before ++ call :: after

structure Call where
  listing : Where.Request
  fold : String → String → Bool
  paginate : Bool
  limit : Int
  offset : Int

def pageText (limit offset : Int) : String :=
  " LIMIT " ++ toString limit ++ " OFFSET " ++ toString offset

structure State where
  restriction : Option String := none
  query : Option String := none
  sent : List (Option String) := []

variable (q : Call)

def Part.value (st : State) : Part → Option String
  | .raw text => some text
  | .selection => some r.selection.text
  | .insertion => r.insertion.map (·.statement.text)
  | .restriction => st.restriction
  | .order => r.ordering.map fun o => o.program.clause q.fold q.listing.text
  | .query => st.query

def joined (st : State) (parts : List Part) : Option String :=
  (parts.mapM (Part.value r q st)).map String.join

def Step.run (st : State) : Step → State
  | .restrict search =>
      { st with restriction := r.criteria.map fun c =>
          c.program.clause { q.listing with search := search.getD q.listing.search } }
  | .compose parts => { st with query := joined r q st parts }
  | .page =>
      if q.paginate then { st with query := st.query.map (· ++ pageText q.limit q.offset) } else st
  | .send _ parts _ => { st with sent := st.sent ++ [joined r q st parts] }
  | .other _ => st

def stepsSent (steps : List Step) : List (Option String) :=
  (steps.foldl (Step.run r q) {}).sent

end Sending

namespace Repository
open Sending

variable (r : Repository)

def findSteps : List Step :=
  [.restrict none, .other [plain "var total int64"],
    .send "if err := r.db.QueryRowContext(ctx, " [.raw r.counting.text, .restriction]
      ", args...).Scan(&total); err != nil \x7b",
    .other [plain "\treturn nil, 0, err", plain "\x7d"],
    .compose [.selection, .restriction, .order], .page,
    .send "rows, err := r.db.QueryContext(ctx, " [.query] ", args...)",
    .other (failed "nil, 0, " ++
      [plain "defer rows.Close()", line ["out := []", r.row, "\x7b\x7d"]] ++
      Go.block "for rows.Next()"
        ([line ["m, err := ", own (scanName r.typeName), "(rows)"]] ++ failed "nil, 0, " ++
          [plain "out = append(out, m)"]) ++
      [plain "return out, total, rows.Err()"])]

def insertSteps (w : Writing) : List Step :=
  [.send (line ["return ", own (scanName r.typeName), "(q.QueryRowContext(ctx, "]) [.insertion]
    (arguments w ++ "))")]

def body : Access → Body
  | .list => .left (.find false true) [] "return r.find(ctx, p, false, true)" []
  | .search true => .left (.find true true) [] "return r.find(ctx, p, true, true)" []
  | .search false => .own [.other [line ["return []", r.row, "\x7b\x7d, 0, nil"]]]
  | .export => .left (.find false true) [] "rows, _, err := r.find(ctx, p, false, true)"
      [plain "return rows, err"]
  | .stats count => .own
      [.restrict (some false), .other [line ["var s ", imported .dto (Names.stats r.typeName)]],
        .send "err := r.db.QueryRowContext(ctx, " [.raw count.text, .restriction]
          ", args...).Scan(&s.Total)",
        .other [plain "return s, err"]]
  | .get conditions => .own
      [.send (line ["return ", own (scanName r.typeName), "(r.db.QueryRowContext(ctx, "])
        [.selection, .raw (Sql.whereText conditions)] ", id))"]
  | .create => .left .insert []
      (line ["return ", own (insertRowName r.typeName), "(ctx, r.db, req)"]) []
  | .bulk => .left .insert
      ([plain "tx, err := r.db.BeginTx(ctx, nil)"] ++ failed "nil, " ++
        [plain "defer tx.Rollback()", line ["out := make([]", r.row, ", 0, len(reqs))"],
          plain "for _, req := range reqs \x7b"])
      (line ["\tm, err := ", own (insertRowName r.typeName), "(ctx, tx, req)"])
      (indented "\t" (failed "nil, " ++ [plain "out = append(out, m)"]) ++
        [plain "\x7d", plain "return out, tx.Commit()"])
  | .update w => .own
      [.send (line ["return ", own (scanName r.typeName), "(r.db.QueryRowContext(ctx, "])
        [.raw w.statement.text] (arguments w ++ ", id))")]
  | .delete statement => .own
      [.send "res, err := r.db.ExecContext(ctx, " [.raw statement.text] ", id)",
        .other (failed "false, " ++
          [plain "n, err := res.RowsAffected()", plain "return n > 0, err"])]

def findProgram : List Line :=
  r.method none "find" [r.params, "search, paginate bool"] (line ["([]", r.row, ", int64, error)"])
    (r.findSteps.flatMap (Step.code r))

def insertProgram (w : Writing) : List Line :=
  [blank, line ["const ", declared (insertName r.ident), " = ", Go.raw w.statement.text], blank] ++
  Go.block (line ["type ", declared (queryerName r.ident), " interface"])
    [line ["QueryRowContext(ctx ", imported .context "Context", ", query string, args ...any) *",
      imported .sql "Row"]] ++
  Go.function none
    (line [declared (insertRowName r.typeName), "(", context, ", q ", own (queryerName r.ident),
      ", req ", r.createRequest, ") (", r.row, ", error)"])
    ((r.insertSteps w).flatMap (Step.code r))

def accessProgram (a : Access) : List Line :=
  r.method (comment? a.kind) (accessName a.kind) (r.accessArguments a.kind) (r.accessResults a.kind)
    ((r.body a).code r)

def program : List Line :=
  r.typeCode ++ r.scanCode ++
  (r.criteria.map fun c => c.program.code).getD [] ++
  (r.ordering.map fun o => o.program.code ++ r.findProgram).getD [] ++
  (r.insertion.map r.insertProgram).getD [] ++
  r.accesses.flatMap r.accessProgram

variable {r}

theorem findPrinted : r.findProgram.map lineText = r.findCode.map lineText := by
  refine functionTexts rfl ?_
  simp [← String.toList_inj, findSteps, Step.code, Part.line, separated, line, own, plain,
    Go.ifBlock, Go.block, block, indented, Go.raw, Fragment.string]

theorem insertPrinted (w : Writing) :
    (r.insertProgram w).map lineText = (r.insertCode w).map lineText := by
  have sent : ((r.insertSteps w).flatMap (Step.code r)).map lineText =
      [line ["return ", own (scanName r.typeName), "(q.QueryRowContext(ctx, ",
        own (insertName r.ident), arguments w, "))"]].map lineText := by
    simp [insertSteps, Step.code, Part.line, separated, line, own, Fragment.string]
  simp only [insertProgram, insertCode, List.map_append]
  rw [functionTexts rfl sent]

theorem bodyPrinted (a : Access) :
    ((r.body a).code r).map lineText = (r.accessBody a).map lineText := by
  cases a with
  | search matching =>
      cases matching <;> simp [body, Body.code, accessBody, Step.code, plain]
  | stats count =>
      have off : toString false = "false" := rfl
      simp [body, Body.code, accessBody, Step.code, Part.line, separated, line, own, Go.raw, plain,
        Fragment.string, off]
  | _ =>
      simp [← String.toList_inj, body, Body.code, accessBody, bulkCode, Step.code, Part.line,
        separated, line, own, plain, Go.block, block, indented, Go.raw, Fragment.string]

theorem programPrinted : r.program.map lineText = r.code.map lineText := by
  have accesses : (r.accesses.flatMap r.accessProgram).map lineText =
      (r.accesses.flatMap r.accessCode).map lineText := by
    simp only [List.map_flatMap]
    exact congrArg (List.flatMap · _) (funext fun a => functionTexts rfl (bodyPrinted a))
  have criteria : ((r.criteria.map fun c => c.program.code).getD []).map lineText =
      ((r.criteria.map Criteria.code).getD []).map lineText := by
    cases r.criteria with
    | none => rfl
    | some c => exact c.programPrinted
  have ordering : ((r.ordering.map fun o => o.program.code ++ r.findProgram).getD []).map lineText =
      ((r.ordering.map fun o => o.code ++ r.findCode).getD []).map lineText := by
    cases r.ordering with
    | none => rfl
    | some o =>
        simp only [Option.map_some, Option.getD_some, List.map_append]
        rw [o.programPrinted, findPrinted]
  have insertion : ((r.insertion.map r.insertProgram).getD []).map lineText =
      ((r.insertion.map r.insertCode).getD []).map lineText := by
    cases r.insertion with
    | none => rfl
    | some w => exact insertPrinted w
  simp only [program, code, List.map_append, criteria, ordering, insertion, accesses]

variable (r) (q : Call)

def helperSent : Helper → List (Option String)
  | .find search paginate =>
      if r.ordering.isSome then
        stepsSent r { q with listing := { q.listing with search }, paginate } r.findSteps
      else [none]
  | .insert => (r.insertion.map fun w => stepsSent r q (r.insertSteps w)).getD [none]

def bodySent : Body → List (Option String)
  | .own steps => stepsSent r q steps
  | .left helper _ _ _ => r.helperSent q helper

def accessSent (a : Access) : List (Option String) := r.bodySent q (r.body a)

end Repository

namespace Sending

inductive Sent where
  | whole (statement : Sql.Statement)
  | listing (head : Sql.Statement) (bare : head.conditions = []) (clauses : List Where.Clause)
      (order : Option (String × SortOrder)) (page : Option (Int × Int))

def clauseText (clauses : List Where.Clause) : String :=
  if clauses.isEmpty then "" else " WHERE " ++ " AND ".intercalate (clauses.map Where.Clause.text)

def orderText (column : String) (order : SortOrder) : String :=
  " ORDER BY " ++ Sql.quoted column ++ " " ++ order.sql

namespace Sent

def text : Sent → String
  | .whole statement => statement.text
  | .listing head _ clauses order page =>
      head.text ++ clauseText clauses ++ (order.map fun o => orderText o.1 o.2).getD "" ++
        (page.map fun p => pageText p.1 p.2).getD ""

def clauses : Sent → List Where.Clause
  | .whole statement => statement.conditions.map .condition
  | .listing _ _ clauses _ _ => clauses

def inserts : Sent → Bool
  | .whole (.insert ..) => true
  | _ => false

end Sent

variable (s : Subject) (q : Call)

def listed (search : Bool) : List Where.Clause :=
  (Criteria.of s).clauses { q.listing with search }

def counted (search : Bool) : Sent :=
  .listing (.count (tableName s) []) rfl (listed s q search) none none

def found (search : Bool) : Sent :=
  .listing (.select (columnNames s) (tableName s) []) rfl (listed s q search)
    (some ((Ordering.of s).sorted q.listing.text, (Ordering.of s).direction q.fold q.listing.text))
    (some (q.limit, q.offset))

def sent : EndpointKind → List Sent
  | .list | .export => [counted s q false, found s q false]
  | .search => if s.searches then [counted s q true, found s q true] else []
  | .stats => [counted s q false]
  | .get => [.whole (.select (columnNames s) (tableName s) (keyConditions s 1))]
  | .create | .bulk => [.whole (Repository.inserting s).statement]
  | .update => [.whole (Repository.updating s).statement]
  | .delete => [.whole (Repository.deletion s)]

variable {s}

theorem clauseSent {c : Criteria} (plain : c.Formattable) (request : Where.Request) :
    c.program.clause request = clauseText (c.clauses request) := by
  rw [Where.Program.clause, c.programRun request plain, clauseText, List.isEmpty_map]

theorem joinedRaw (r : Repository) (st : State) (text : String) :
    joined r q st [.raw text] = some text := by
  simp [joined, Part.value]

theorem selectionText (conditions : List Sql.Condition) :
    (Sql.Statement.select (columnNames s) (tableName s) conditions).text =
      (Repository.of s).selection.text ++ Sql.whereText conditions := by
  have bare : (Repository.of s).selection.text =
      "SELECT " ++ Sql.columnList (columnNames s) ++ " FROM " ++ (tableName s).text :=
    String.append_empty
  rw [bare]
  rfl

theorem findSent (plain : (Criteria.of s).Formattable) (lists : s.listsRows = true)
    (search : Bool) : (Repository.of s).helperSent q (.find search true) =
      [counted s q search, found s q search].map fun x => some x.text := by
  have ordering : (Repository.of s).ordering = some (.of s) := if_pos lists
  have criteria : (Repository.of s).criteria = some (.of s) :=
    if_pos (Bool.or_eq_true_iff.mpr (.inl lists))
  simp [Repository.helperSent, Repository.findSteps, stepsSent, Step.run, joined, Part.value,
    ordering, criteria, clauseSent plain, counted, found, listed, Sent.text,
    Ordering.programClause, orderText, String.append_assoc]
  exact ⟨rfl, rfl⟩

theorem insertSent (creates : s.needsCreateShape = true) :
    (Repository.of s).helperSent q .insert =
      [some (Repository.inserting s).statement.text] := by
  have insertion : (Repository.of s).insertion = some (Repository.inserting s) := if_pos creates
  simp [Repository.helperSent, Repository.insertSteps, stepsSent, Step.run, joined, Part.value,
    insertion]

theorem kindSent (plain : (Criteria.of s).Formattable) {k : EndpointKind} (known : s.has k = true) :
    (Repository.of s).accessSent q (Repository.access s k) =
      (sent s q k).map fun x => some x.text := by
  cases k with
  | list => exact findSent q plain (by simp [Subject.listsRows, known]) false
  | «export» => exact findSent q plain (by simp [Subject.listsRows, known]) false
  | search =>
      have lists : s.listsRows = true := by simp [Subject.listsRows, known]
      rw [Repository.access, sent]
      cases s.searches with
      | true => exact findSent q plain lists true
      | false => rfl
  | stats =>
      have criteria : (Repository.of s).criteria = some (.of s) :=
        if_pos (by simp [Subject.needsListParams, known])
      simp [Repository.access, Repository.accessSent, Repository.body, Repository.bodySent,
        stepsSent, Step.run, joined, Part.value, criteria, clauseSent plain, sent, counted, listed,
        Sent.text]
  | get =>
      have selected : joined (Repository.of s) q {}
          [.selection, .raw (Sql.whereText (keyConditions s 1))] =
            some (Sql.Statement.select (columnNames s) (tableName s) (keyConditions s 1)).text := by
        rw [selectionText]
        simp [joined, Part.value]
      exact congrArg (fun text => [text]) selected
  | create | bulk => exact insertSent q (by simp [Subject.needsCreateShape, known])
  | update => exact congrArg (fun text => [text]) (joinedRaw q _ _ _)
  | delete => exact congrArg (fun text => [text]) (joinedRaw q _ _ _)

end Sending
end RestScaffold.Server
