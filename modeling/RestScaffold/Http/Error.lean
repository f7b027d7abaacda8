import RestScaffold.Json.Basic
import RestScaffold.Policy.Validation
import RestScaffold.Watch.Watcher

/-! Errors as answers of the service. -/
namespace RestScaffold

structure Reply where
  status : Nat
  body : Option Json
  deriving Repr

def Reply.json (status : Nat) (body : Json) : Reply := ⟨status, some body⟩

inductive ServiceError where
  | settings (error : SettingsError)
  | watcher (error : WatcherError)
  | notFound (what : String)
  deriving DecidableEq, Repr

namespace ServiceError

def message : ServiceError → String
  | .settings e => e.message
  | .watcher e => e.message
  | .notFound what => "not found: " ++ what

def status : ServiceError → Nat
  | .settings _ => 500
  | .watcher .busy => 409
  | .watcher .stopped => 503
  | .watcher (.catalog _) => 502
  | .watcher (.emission _) => 500
  | .notFound _ => 404

def code : ServiceError → String
  | .settings _ => "config_error"
  | .watcher .busy => "regeneration_in_progress"
  | .watcher .stopped => "watcher_stopped"
  | .watcher (.catalog _) => "catalog_error"
  | .watcher (.emission _) => "emission_error"
  | .notFound _ => "not_found"

def reply (e : ServiceError) : Reply :=
  .json e.status (Json.record [("error",
    Json.record [("code", Json.text e.code), ("message", Json.text e.message)])])

end ServiceError
end RestScaffold
