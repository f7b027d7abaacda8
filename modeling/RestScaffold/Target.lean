/-! The two sides that code is generated for. -/
namespace RestScaffold

inductive Target where
  | server
  | client
  deriving DecidableEq, Repr

namespace Target

def all : List Target := [.server, .client]

def name : Target → String
  | .server => "server"
  | .client => "client"

def named? (s : String) : Option Target := all.find? (·.name = s)

end Target
end RestScaffold
