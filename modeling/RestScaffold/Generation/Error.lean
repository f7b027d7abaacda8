import RestScaffold.Artifact.Error
import RestScaffold.FileTree.Basic
import RestScaffold.Policy.Resolved

/-! Why files are not generated. -/
namespace RestScaffold

structure WriteError where
  path : String
  cause : FileError
  deriving DecidableEq, Repr

def WriteError.message (e : WriteError) : String := s!"writing {e.path}: {e.cause.message}"

inductive EmissionError where
  | render (error : RenderError)
  | write (error : WriteError)
  deriving DecidableEq, Repr

def EmissionError.message : EmissionError → String
  | .render e => e.message
  | .write e => e.message

inductive TableError where
  | policy (error : PolicyError)
  | render (error : RenderError)
  | write (error : WriteError)
  deriving DecidableEq, Repr

namespace TableError

def message : TableError → String
  | .policy e => e.message
  | .render e => e.message
  | .write e => e.message

def stage : TableError → String
  | .policy _ => "plan"
  | .render _ => "emit"
  | .write _ => "write"

end TableError
end RestScaffold
