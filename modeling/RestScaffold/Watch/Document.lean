import RestScaffold.Json.Basic
import RestScaffold.Watch.Watcher

/-! What a watcher tells about itself, as JSON documents. -/
namespace RestScaffold
open Json

def TableFailure.toJson (f : TableFailure) : Json :=
  record [("table", text f.table), ("stage", text f.error.stage),
    ("message", text f.error.message)]

def RunSummary.toJson (s : RunSummary) : Json :=
  record [("run_id", int s.runId), ("fingerprint", text s.fingerprint),
    ("registered", texts s.registered), ("disabled", texts s.disabled),
    ("failures", .array (s.failures.map TableFailure.toJson)),
    ("registration_errors", texts (s.registrationErrors.map RegistrationError.message)),
    ("files_written", int s.filesWritten), ("files_removed", int s.filesRemoved),
    ("finished_at", int s.finishedAt)]

def Watcher.status (w : Watcher) : Json :=
  record [("count", int w.registry.registered.length), ("names", texts w.registry.registered),
    ("watcher_running", .bool w.running),
    ("last_fingerprint", ofOption text w.registry.fingerprint),
    ("state", text w.state.name), ("regenerations", int w.registry.regenerations),
    ("last_regenerated_at", ofOption (fun t => int t) w.registry.lastRegeneratedAt)]

end RestScaffold
