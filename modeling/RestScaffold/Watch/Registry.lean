import RestScaffold.Watch.Registration

/-! What a watcher remembers from run to run. -/
namespace RestScaffold

structure RunSummary where
  runId : Nat
  fingerprint : String
  registered : List String
  disabled : List String
  failures : List TableFailure
  registrationErrors : List RegistrationError
  filesWritten : Nat
  filesRemoved : Nat
  finishedAt : Nat
  deriving DecidableEq, Repr

structure Registry where
  registered : List String := []
  endpoints : SortedMap (List Endpoint) := {}
  fingerprint : Option String := none
  regenerations : Nat := 0
  lastRun : Option RunSummary := none
  lastRegeneratedAt : Option Nat := none
  deriving DecidableEq, Repr

namespace Registry

def withFingerprint (r : Registry) (fingerprint : String) : Registry :=
  { r with fingerprint := some fingerprint }

def recordFailure (r : Registry) (fingerprint : String) : Registry :=
  { r with fingerprint := some fingerprint, regenerations := r.regenerations + 1 }

def commit (r : Registry) (fingerprint : String) (bound : SortedMap (List Endpoint))
    (summary : RunSummary) : Registry where
  registered := bound.keys
  endpoints := bound
  fingerprint := some fingerprint
  regenerations := r.regenerations + 1
  lastRun := some summary
  lastRegeneratedAt := some summary.finishedAt

end Registry
end RestScaffold
