import RestScaffold.Text.Spelled

/-! Why a table cannot be rendered. -/
namespace RestScaffold

inductive Template where
  | table
  | model
  | dto
  deriving DecidableEq, Repr

def Template.name : Template → String
  | .table => "table"
  | .model => "model"
  | .dto => "dto"

inductive RenderFault where
  | tableName
  | schemaName
  | columnName (column : String)
  | noColumns
  | enumValues (column : String)
  | reported (detail : String)
  deriving DecidableEq, Repr

def RenderFault.message : RenderFault → String
  | .tableName => "table name is not a plain identifier"
  | .schemaName => "schema name is not a plain identifier"
  | .columnName column => s!"column {Text.spelled column} is not a plain identifier"
  | .noColumns => "table has no columns"
  | .enumValues column => s!"enum values for {column} must be single words"
  | .reported detail => detail

structure RenderError where
  template : Template
  table : String
  fault : RenderFault
  deriving DecidableEq, Repr

def RenderError.message (e : RenderError) : String :=
  s!"rendering {e.template.name} for table {e.table}: {e.fault.message}"

end RestScaffold
