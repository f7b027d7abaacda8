import RestScaffold.Server.Repository

/-! The handlers of a table on the server: they read requests, call the repository and write
answers. -/
namespace RestScaffold.Server
open Catalog Code

structure RecordField where
  name : String
  pointer : Bool
  deriving DecidableEq, Repr

structure Action where
  kind : EndpointKind
  name : String
  method : Method
  path : String
  deriving DecidableEq, Repr

structure Handler where
  typeName : String
  ident : String
  stem : String
  pagination : Option Pagination
  key : Option GoType
  record : Option (List RecordField)
  searches : Bool
  writes : Bool
  actions : List Action
  deriving DecidableEq, Repr

def handlerName (typeName : String) : String := typeName ++ "Handler"
def newHandlerName (typeName : String) : String := "New" ++ handlerName typeName
def readParamsName (ident : String) : String := ident ++ "ListParams"
def readKeyName (ident : String) : String := ident ++ "ID"
def recordName (ident : String) : String := ident ++ "Record"

namespace Handler

def recordField (c : ColumnShape) : RecordField := ⟨fieldName c, (columnType c).isPointer⟩

def of (s : Subject) : Handler where
  typeName := s.typeName
  ident := s.ident
  stem := s.stem
  pagination := if s.needsListParams then some s.policy.pagination else none
  key := if s.hasSingular then some (keyType s) else none
  record := if s.has .export then some (s.table.columns.map recordField) else none
  searches := s.searches
  writes := s.needsCreateShape || s.has .update
  actions := s.plan.map fun e => ⟨e.kind, e.handler, e.method, e.path⟩

variable (h : Handler)

def context : Line := line ["c *", imported .gin "Context"]

def answer (status : String) (body : Line) : Line :=
  line ["c.JSON(", imported .http status, ", ", body, ")"]

def refuse (condition : Line) (status : String) (message : Line) : List Line :=
  Go.ifBlock condition
    [answer status (line [imported .gin "H", braced (line ["\"error\": ", message])]),
      plain "return"]

def refuseErrors (status : String) : List Line := refuse "err != nil" status "err.Error()"

def repositoryType : Line := line ["*", imported .repository (repositoryName h.typeName)]

def typeCode : List Line :=
  Go.struct (handlerName h.typeName ++ " serves the " ++ h.stem ++ " endpoints.")
    (handlerName h.typeName) [line ["repo ", h.repositoryType]] ++
  Go.function none
    (line [declared (newHandlerName h.typeName), "(repo ", h.repositoryType, ") *",
      own (handlerName h.typeName)])
    [line ["return &", own (handlerName h.typeName), "\x7brepo: repo\x7d"]]

def paramsCode (limits : Pagination) : List Line :=
  Go.function none
    (line [declared (readParamsName h.ident), "(", context, ") (",
      imported .dto (Names.listParams h.typeName), ", error)"])
    ([line ["var p ", imported .dto (Names.listParams h.typeName)]] ++
      Go.ifBlock "err := c.ShouldBindQuery(&p); err != nil" [plain "return p, err"] ++
      Go.ifBlock "p.Page < 1" [plain "p.Page = 1"] ++
      Go.ifBlock "p.Limit < 1" [plain ("p.Limit = " ++ toString limits.defaultLimit)] ++
      Go.ifBlock (plain ("p.Limit > " ++ toString limits.maxLimit))
        [plain ("p.Limit = " ++ toString limits.maxLimit)] ++
      [plain "return p, nil"])

def keyBody (key : GoType) : List Line :=
  match key with
  | .float bits =>
      [line ["n, err := ", imported .strconv "ParseFloat",
          "(c.Param(\"id\"), " ++ toString bits ++ ")"],
        line ["return ", key.line, "(n), err"]]
  | .int bits =>
      [line ["n, err := ", imported .strconv "ParseInt",
          "(c.Param(\"id\"), 10, " ++ toString bits ++ ")"],
        line ["return ", key.line, "(n), err"]]
  | _ => [plain "return c.Param(\"id\"), nil"]

def keyCode (key : GoType) : List Line :=
  Go.function none
    (line [declared (readKeyName h.ident), "(", context, ") (", key.line, ", error)"])
    (keyBody key)

def recordFieldCode (f : RecordField) : List Line :=
  if f.pointer then
    Go.ifElse (line ["m.", f.name, " != nil"])
      [line ["rec = append(rec, ", imported .fmt "Sprint", "(*m.", f.name, "))"]]
      [plain "rec = append(rec, \"\")"]
  else [line ["rec = append(rec, ", imported .fmt "Sprint", "(m.", f.name, "))"]]

def recordCode (fields : List RecordField) : List Line :=
  Go.function none
    (line [declared (recordName h.ident), "(m ", imported .models h.typeName, ") []string"])
    ([plain ("rec := make([]string, 0, " ++ toString fields.length ++ ")")] ++
      fields.flatMap recordFieldCode ++ [plain "return rec"])

def readParams : List Line :=
  line ["p, err := ", own (readParamsName h.ident), "(c)"] :: refuseErrors "StatusBadRequest"

def readKey : List Line :=
  line ["id, err := ", own (readKeyName h.ident), "(c)"] ::
    refuse "err != nil" "StatusBadRequest" "\"invalid id\""

def readBody (name : String) (type : Line) : List Line :=
  line ["var ", name, " ", type] ::
    refuse (plain ("err := c.ShouldBindJSON(&" ++ name ++ "); err != nil"))
      "StatusUnprocessableEntity" "err.Error()"

def call (results : String) (k : EndpointKind) (arguments : String) (refusals : List Line) :
    List Line :=
  plain (results ++ ", err := h.repo." ++ accessName k ++ "(c.Request.Context(), " ++ arguments ++
    ")") :: refusals ++ refuseErrors "StatusInternalServerError"

def refuseMissing : List Line :=
  refuse (line [imported .errors "Is", "(err, ", imported .sql "ErrNoRows", ")"])
    "StatusNotFound" "\"not found\""

def answerPage : Line :=
  answer "StatusOK" (line [imported .dto (Names.page h.typeName),
    "\x7bData: rows, Page: p.Page, Limit: p.Limit, Total: total\x7d"])

def answerCsv : List Line :=
  Go.ifBlock "p.Format == \"csv\""
    ([plain "c.Header(\"Content-Type\", \"text/csv\")",
      line ["c.Header(\"Content-Disposition\", ",
        Go.raw ("attachment; filename=\"" ++ h.stem ++ ".csv\""), ")"],
      line ["out := ", imported .csv "NewWriter", "(c.Writer)"],
      line ["_ = out.Write(", imported .models (columnsName h.typeName), ")"]] ++
    Go.block "for _, m := range rows"
      [line ["_ = out.Write(", own (recordName h.ident), "(m))"]] ++
    [plain "out.Flush()", plain "return"])

def body (k : EndpointKind) : List Line :=
  match k with
  | .list => h.readParams ++ call "rows, total" k "p" [] ++ [h.answerPage]
  | .search =>
      h.readParams ++
      (if h.searches then refuse "p.Q == \"\"" "StatusBadRequest" "\"q is required\"" else []) ++
      call "rows, total" k "p" [] ++ [h.answerPage]
  | .export =>
      h.readParams ++ call "rows" k "p" [] ++ h.answerCsv ++ [answer "StatusOK" "rows"]
  | .stats => h.readParams ++ call "stats" k "p" [] ++ [answer "StatusOK" "stats"]
  | .get => h.readKey ++ call "m" k "id" refuseMissing ++ [answer "StatusOK" "m"]
  | .create =>
      readBody "req" (imported .dto (Names.createRequest h.typeName)) ++
      call "m" k "req" [] ++ [answer "StatusCreated" "m"]
  | .bulk =>
      readBody "reqs" (line ["[]", imported .dto (Names.createRequest h.typeName)]) ++
      refuse "len(reqs) == 0" "StatusBadRequest" "\"empty batch\"" ++
      call "rows" k "reqs" [] ++ [answer "StatusCreated" "rows"]
  | .update =>
      h.readKey ++ readBody "req" (imported .dto (Names.updateRequest h.typeName)) ++
      call "m" k "id, req" refuseMissing ++ [answer "StatusOK" "m"]
  | .delete =>
      h.readKey ++ call "deleted" k "id" [] ++
      refuse "!deleted" "StatusNotFound" "\"not found\"" ++
      [line ["c.Status(", imported .http "StatusNoContent", ")"]]

def actionCode (a : Action) : List Line :=
  Go.function (some (a.name ++ " handles " ++ a.method.name ++ " " ++ a.path ++ "."))
    (line ["(h *", own (handlerName h.typeName), ") ", declared a.name, "(", context, ")"])
    (h.body a.kind)

def code : List Line :=
  h.typeCode ++
  (h.pagination.map h.paramsCode).getD [] ++
  (h.key.map h.keyCode).getD [] ++
  (h.record.map h.recordCode).getD [] ++
  h.actions.flatMap h.actionCode

def looksUp : Bool := h.actions.any fun a => a.kind == .get || a.kind == .update

def readsNumber : Bool := (h.key.map (· != .string)).getD false

def file : GoFile where
  package := "handlers"
  imports :=
    [(if h.looksUp then [.sql] else []) ++
      (if h.record.isSome then [.csv] else []) ++
      (if h.looksUp then [.errors] else []) ++
      (if h.record.isSome then [.fmt] else []) ++
      [.http] ++
      (if h.readsNumber then [.strconv] else []),
      [.gin],
      (if h.pagination.isSome || h.writes then [.dto] else []) ++
      (if h.record.isSome then [.models] else []) ++ [.repository]]
  body := h.code

end Handler
end RestScaffold.Server
