import RestScaffold.Endpoint.Document
import RestScaffold.Http.Error
import RestScaffold.Http.Route
import RestScaffold.Watch.Document
import RestScaffold.Watch.Session

/-! The service over a session: what it answers to a request. -/
namespace RestScaffold
open Json

def productName : String := "tablegen-sdk"
def productVersion : String := "0.1.0"

structure Service where
  session : Session
  database : Option Bool := none

namespace Service

variable (s : Service)

def watcher : Watcher := s.session.watcher

def data (body : Json) : Reply := .json 200 (record [("data", body)])

def listing (items : List Json) (fingerprint : Option String) : Reply :=
  .json 200 (record [("data", .array items),
    ("meta", recordOf [("count", some (int items.length)), ("fingerprint", fingerprint.map text)])])

def lastFingerprint (r : Registry) : Option String := r.lastRun.map RunSummary.fingerprint

/-- Looks at the registry twice, and a run may end in between: first for the fingerprint, then for
the names. -/
def artifacts (first second : Registry) : Reply :=
  listing (second.registered.map text) (lastFingerprint first)

def endpoints (first second : Registry) (table : String) : Reply :=
  match first.endpoints.get? table with
  | some endpoints => listing (endpoints.map Endpoint.toJson) (lastFingerprint second)
  | none => (ServiceError.notFound ("table not registered: " ++ table)).reply

def ready : Reply :=
  let degraded := s.database = some false || s.watcher.state = .stopped
  .json (if degraded then 503 else 200)
    (recordOf [("status", some (text (if degraded then "degraded" else "ok"))),
      ("watcher", some (text s.watcher.state.name)),
      ("database", s.database.map fun reachable =>
        text (if reachable then "ok" else "unavailable"))])

def version : Reply :=
  .json 200 (record [("name", text productName), ("version", text productVersion),
    ("targets", texts (s.watcher.settings.targets.map Target.name)),
    ("go_module", text s.watcher.settings.goModule)])

def lastRun : Reply :=
  match s.watcher.registry.lastRun with
  | some summary => data summary.toJson
  | none => (ServiceError.notFound "no regeneration has completed").reply

def tableEndpoints (encoded : String) : Reply :=
  match Percent.decode? encoded with
  | none => ⟨400, none⟩
  | some table => endpoints s.watcher.registry s.watcher.registry table

def regenerated : RunResult → Reply
  | .regenerated summary => data summary.toJson
  | .failed e => (ServiceError.watcher e).reply
  | .unchanged | .skipped _ => ⟨500, none⟩

def regenerate : Service × Reply :=
  let (session, result) := s.session.run .trigger
  ({ s with session }, regenerated result)

def serve : Route → Service × Reply
  | .health => (s, .json 200 (record [("status", text "ok")]))
  | .ready => (s, s.ready)
  | .version => (s, s.version)
  | .status => (s, data s.watcher.status)
  | .artifacts => (s, artifacts s.watcher.registry s.watcher.registry)
  | .regenerate => s.regenerate
  | .lastRun => (s, s.lastRun)
  | .tableEndpoints table => (s, s.tableEndpoints table)

def respond (method target : String) : Service × Reply :=
  match Route.find? target with
  | none => (s, ⟨404, none⟩)
  | some route =>
      if method ∈ route.methods then
        let (s, reply) := s.serve route
        (s, if method = "HEAD" then { reply with body := none } else reply)
      else (s, ⟨405, none⟩)

end Service
end RestScaffold
