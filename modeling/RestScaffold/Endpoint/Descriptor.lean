import RestScaffold.Endpoint.Kind
import RestScaffold.Naming
import RestScaffold.StorageType

/-! Descriptors of endpoints: what is rendered for a table and what a server binds. -/
namespace RestScaffold

inductive Method where
  | get
  | post
  | put
  | delete
  deriving DecidableEq, Repr

def Method.name : Method → String
  | .get => "GET"
  | .post => "POST"
  | .put => "PUT"
  | .delete => "DELETE"

inductive Middleware where
  | requestLogger
  | recovery
  | cors
  | securityHeaders
  | authorize
  | rateLimit
  | audit
  | validation
  | cache
  deriving DecidableEq, Repr

namespace Middleware

def base : List Middleware := [.requestLogger, .recovery, .cors, .securityHeaders]

def name : Middleware → String
  | .requestLogger => "RequestLogger"
  | .recovery => "Recovery"
  | .cors => "CORS"
  | .securityHeaders => "SecurityHeaders"
  | .authorize => "Authorize"
  | .rateLimit => "RateLimit"
  | .audit => "Audit"
  | .validation => "Validation"
  | .cache => "Cache"

end Middleware

inductive Location where
  | path
  | query
  | body
  | header
  deriving DecidableEq, Repr

structure Parameter where
  name : String
  type : SchemaType
  required : Bool
  location : Location
  description : Option String := none
  default : Option String := none
  deriving DecidableEq, Repr

structure Response where
  status : Nat
  description : String
  schema : Option String
  deriving DecidableEq, Repr

structure Endpoint where
  kind : EndpointKind
  method : Method
  path : String
  handler : String
  middleware : List Middleware
  parameters : List Parameter
  responses : List Response
  description : String
  tag : String
  deriving DecidableEq, Repr

namespace Endpoint

def routeKey (e : Endpoint) : Method × String := (e.method, e.path)

def parametersIn (e : Endpoint) (location : Location) : List Parameter :=
  e.parameters.filter (·.location = location)

def summary (e : Endpoint) : String := e.method.name ++ " " ++ e.path ++ " " ++ e.handler

end Endpoint

namespace EndpointKind

def method : EndpointKind → Method
  | .list | .get | .search | .stats | .export => .get
  | .create | .bulk => .post
  | .update => .put
  | .delete => .delete

def collectionPath (table : String) : String := "/" ++ Text.lower table

def path (k : EndpointKind) (table : String) : String :=
  match k with
  | .list | .create => collectionPath table
  | .get | .update | .delete => collectionPath table ++ "/:id"
  | .bulk => collectionPath table ++ "/bulk"
  | .search => collectionPath table ++ "/search"
  | .stats => collectionPath table ++ "/stats"
  | .export => collectionPath table ++ "/export"

def handler (k : EndpointKind) (table : String) : String :=
  let p := Naming.pascal table
  match k with
  | .list => "List" ++ p
  | .create => "Create" ++ p
  | .get => "Get" ++ p
  | .update => "Update" ++ p
  | .delete => "Delete" ++ p
  | .bulk => "BulkCreate" ++ p
  | .search => "Search" ++ p
  | .stats => "Get" ++ p ++ "Stats"
  | .export => "Export" ++ p

end EndpointKind
end RestScaffold
