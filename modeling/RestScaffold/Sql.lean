/-! SQL statements of generated repositories. Identifiers are quoted; values stand as numbered
placeholders. -/
namespace RestScaffold.Sql

def quoted (name : String) : String := "\"" ++ name ++ "\""

def columnList (columns : List String) : String := ", ".intercalate (columns.map quoted)

def placeholder (n : Nat) : String := "$" ++ toString n

structure TableName where
  schema : String
  name : String
  deriving DecidableEq, Repr

def TableName.text (t : TableName) : String := quoted t.schema ++ "." ++ quoted t.name

inductive Condition where
  | equals (column : String) (value : Nat)
  | isNull (column : String)
  deriving DecidableEq, Repr

def Condition.text : Condition → String
  | .equals column value => quoted column ++ " = " ++ placeholder value
  | .isNull column => quoted column ++ " IS NULL"

def whereText (conditions : List Condition) : String :=
  if conditions.isEmpty then ""
  else " WHERE " ++ " AND ".intercalate (conditions.map Condition.text)

inductive Assignment where
  | given (column : String) (value : Nat)
  | now (column : String)
  | kept (column : String)
  deriving DecidableEq, Repr

def Assignment.column : Assignment → String
  | .given column _ => column
  | .now column => column
  | .kept column => column

def Assignment.text : Assignment → String
  | .given column value =>
      quoted column ++ " = COALESCE(" ++ placeholder value ++ ", " ++ quoted column ++ ")"
  | .now column => quoted column ++ " = NOW()"
  | .kept column => quoted column ++ " = " ++ quoted column

inductive Statement where
  | select (columns : List String) (table : TableName) (conditions : List Condition)
  | count (table : TableName) (conditions : List Condition)
  | insert (table : TableName) (values : List (String × Nat)) (returning : List String)
  | update (table : TableName) (assignments : List Assignment) (conditions : List Condition)
      (returning : List String)
  | delete (table : TableName) (conditions : List Condition)
  deriving DecidableEq, Repr

def returningText (columns : List String) : String :=
  if columns.isEmpty then "" else " RETURNING " ++ columnList columns

def valuesText (values : List (String × Nat)) : String :=
  if values.isEmpty then " DEFAULT VALUES"
  else " (" ++ columnList (values.map Prod.fst) ++ ") VALUES (" ++
    ", ".intercalate (values.map fun v => placeholder v.2) ++ ")"

def Statement.text : Statement → String
  | .select columns table conditions =>
      "SELECT " ++ columnList columns ++ " FROM " ++ table.text ++ whereText conditions
  | .count table conditions => "SELECT COUNT(*) FROM " ++ table.text ++ whereText conditions
  | .insert table values returning =>
      "INSERT INTO " ++ table.text ++ valuesText values ++ returningText returning
  | .update table assignments conditions returning =>
      "UPDATE " ++ table.text ++ " SET " ++
        ", ".intercalate (assignments.map Assignment.text) ++ whereText conditions ++
        returningText returning
  | .delete table conditions => "DELETE FROM " ++ table.text ++ whereText conditions

end RestScaffold.Sql
