import RestScaffold.Endpoint.Descriptor
import RestScaffold.Json.Basic

/-! Descriptors of endpoints as JSON documents. -/
namespace RestScaffold
open Json

def Middleware.documentName : Middleware → String
  | .cors => "Cors"
  | m => m.name

def Location.name : Location → String
  | .path => "path"
  | .query => "query"
  | .body => "body"
  | .header => "header"

def Parameter.toJson (p : Parameter) : Json :=
  recordOf [("name", some (text p.name)), ("schema_type", some (text p.type.name)),
    ("required", some (.bool p.required)), ("location", some (text p.location.name)),
    ("description", p.description.map text), ("default", p.default.map text)]

def Response.toJson (r : Response) : Json :=
  recordOf [("description", some (text r.description)), ("schema", r.schema.map text)]

def Endpoint.toJson (e : Endpoint) : Json :=
  record [("kind", text e.kind.name), ("method", text e.method.name), ("path", text e.path),
    ("handler", text e.handler), ("middleware", texts (e.middleware.map Middleware.documentName)),
    ("parameters", .array (e.parameters.map Parameter.toJson)),
    ("responses", record (e.responses.map fun r => (toString r.status, r.toJson))),
    ("description", text e.description), ("tag", text e.tag)]

end RestScaffold
