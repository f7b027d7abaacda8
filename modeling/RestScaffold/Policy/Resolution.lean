import RestScaffold.Policy.Resolved
import RestScaffold.Policy.Settings
import RestScaffold.Text.CaseMap

/-! The policy of a table: built-in values, the record for all tables over them, and the table's own
record on top. A record for the schema and table hides one for the bare table name. -/
namespace RestScaffold

structure Resolver where
  masterEnabled : Bool
  global : Policy
  records : SortedMap PolicyRecord
  deriving DecidableEq, Repr

namespace Resolver

def ofSettings (s : Settings) : Resolver where
  masterEnabled := s.enabled
  global := ({} : Policy).overlay s.defaults
  records := .ofList (s.tables.entries.map fun (key, record) => (Text.lower key, record))

def record? (r : Resolver) (schema : Option String) (table : String) : Option PolicyRecord :=
  let bare := r.records.get? (Text.lower table)
  match schema with
  | none => bare
  | some s => (r.records.get? (Text.lower s ++ "." ++ Text.lower table)).or bare

/-- Each of the three switches can turn a table off, and none turns it on again. -/
def resolve (r : Resolver) (schema : Option String) (table : String) : Policy :=
  match r.record? schema table with
  | none => { r.global with enabled := r.masterEnabled && r.global.enabled }
  | some record =>
      { r.global.overlay record with
        enabled := r.masterEnabled && r.global.enabled && record.enabled.getD true }

end Resolver
end RestScaffold
