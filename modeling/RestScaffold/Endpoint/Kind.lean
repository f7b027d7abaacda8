import RestScaffold.Text.Blank
import RestScaffold.Text.CaseMap

/-! The operations that can be generated for a table. -/
namespace RestScaffold

inductive EndpointKind where
  | list
  | create
  | get
  | update
  | delete
  | bulk
  | search
  | stats
  | export
  deriving DecidableEq, Repr

namespace EndpointKind

def all : List EndpointKind :=
  [.list, .create, .get, .update, .delete, .bulk, .search, .stats, .export]

def name : EndpointKind → String
  | .list => "list"
  | .create => "create"
  | .get => "get"
  | .update => "update"
  | .delete => "delete"
  | .bulk => "bulk"
  | .search => "search"
  | .stats => "stats"
  | .export => "export"

def parse? (s : String) : Option EndpointKind :=
  all.find? fun k => Text.sameLetters k.name (Text.trim s)

def isSingular : EndpointKind → Bool
  | .get | .update | .delete => true
  | _ => false

def isMutating : EndpointKind → Bool
  | .create | .update | .delete | .bulk => true
  | _ => false

def isValidated : EndpointKind → Bool
  | .create | .update | .bulk => true
  | _ => false

def isPaginated : EndpointKind → Bool
  | .list | .search | .export => true
  | _ => false

def isCacheable : EndpointKind → Bool
  | .list | .get | .search => true
  | _ => false

def parseAll : List String → (seen : List EndpointKind) → Except String (List EndpointKind)
  | [], _ => .ok []
  | name :: rest, seen =>
      match parse? name with
      | none => .error name
      | some k =>
          if k ∈ seen then parseAll rest seen
          else (parseAll rest (k :: seen)).map (k :: ·)

end EndpointKind
end RestScaffold
