import RestScaffold.Policy.Record
import RestScaffold.Target

/-! The settings of a generator: where it writes, what it reads, for which targets, and the policy
records for all tables and for single ones. -/
namespace RestScaffold

structure Settings where
  outputRoot : String := "generated"
  enabled : Bool := true
  schemas : List String := ["public"]
  excludeTables : List String := []
  targets : List Target := Target.all
  goModule : String := "generated"
  apiBasePath : String := ""
  watchIntervalSecs : Nat := 30
  defaults : PolicyRecord := {}
  tables : SortedMap PolicyRecord := {}
  deriving DecidableEq, Repr

end RestScaffold
