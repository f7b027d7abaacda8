import RestScaffold.Generation.Report
import RestScaffold.SortedMap

/-! Registration of generated tables with the application that serves them. -/
namespace RestScaffold

inductive RegistrationError where
  | collision (table method path existing : String)
  | missingHandler (table handler : String)
  deriving DecidableEq, Repr

def RegistrationError.message : RegistrationError → String
  | .collision table method path existing =>
      s!"table {table}: {method} {path} already registered by {existing}"
  | .missingHandler table handler => s!"table {table}: missing handler {handler}"

abbrev Binder := String → List Endpoint → Except RegistrationError Unit

structure Registration where
  owners : List ((Method × String) × String) := []
  bound : SortedMap (List Endpoint) := {}
  errors : List RegistrationError := []

namespace Registration

def clash? (r : Registration) (endpoints : List Endpoint) : Option (Endpoint × String) :=
  endpoints.findSome? fun e => (r.owners.lookup e.routeKey).map (e, ·)

def reject (r : Registration) (e : RegistrationError) : Registration :=
  { r with errors := r.errors ++ [e] }

def accept (r : Registration) (t : TableReport) : Registration :=
  { r with
    owners := t.endpoints.map (fun e => (e.routeKey, t.table)) ++ r.owners
    bound := r.bound.insert t.table t.endpoints }

def add (binder : Binder) (r : Registration) (t : TableReport) : Registration :=
  match r.clash? t.endpoints with
  | some (e, existing) => r.reject (.collision t.table e.method.name e.path existing)
  | none =>
      match binder t.table t.endpoints with
      | .error e => r.reject e
      | .ok _ => r.accept t

def ofTables (binder : Binder) (generated : List TableReport) : Registration :=
  generated.foldl (add binder) {}

end Registration
end RestScaffold
