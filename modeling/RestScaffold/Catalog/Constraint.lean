import RestScaffold.Catalog.Snapshot
import RestScaffold.Text.CaseMap

/-! Constraint kinds by the name that a database gives them. -/
namespace RestScaffold.Catalog

def ConstraintKind.ofCatalog (s : String) : ConstraintKind :=
  match Text.upper s with
  | "PRIMARY KEY" => .primaryKey
  | "UNIQUE" => .unique
  | "FOREIGN KEY" => .foreignKey
  | "CHECK" => .check
  | _ => .other s

end RestScaffold.Catalog
