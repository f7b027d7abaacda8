import RestScaffold.Endpoint.Descriptor
import RestScaffold.Generation.Error

/-! What a pass did with each table. -/
namespace RestScaffold

structure TableReport where
  table : String
  schema : String
  endpoints : List Endpoint
  files : List String
  deriving DecidableEq, Repr

structure TableFailure where
  table : String
  error : TableError
  deriving DecidableEq, Repr

inductive Outcome where
  | generated (report : TableReport)
  | disabled (table : String)
  | failed (failure : TableFailure)
  deriving DecidableEq, Repr

namespace Outcome

def generated? : Outcome → Option TableReport
  | .generated report => some report
  | _ => none

def disabled? : Outcome → Option String
  | .disabled table => some table
  | _ => none

def failed? : Outcome → Option TableFailure
  | .failed failure => some failure
  | _ => none

end Outcome

structure Report where
  generated : List TableReport
  disabled : List String
  failures : List TableFailure
  filesWritten : Nat
  filesRemoved : Nat
  deriving DecidableEq, Repr

def Report.tableNames (r : Report) : List String := r.generated.map TableReport.table

end RestScaffold
