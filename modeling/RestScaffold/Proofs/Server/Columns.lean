import RestScaffold.Server.Repository

/-! The columns that generated statements name. All of them are columns of the table, but that the
rows of a table without a key are addressed by `id`. -/
namespace RestScaffold
open Catalog

namespace Catalog.TableShape

variable {t : TableShape} {c : ColumnShape} {name : String} {names : List String}

theorem hasColumnIff : t.hasColumn name = true ↔ ∃ c ∈ t.columns, c.name = name := by
  rw [hasColumn, column?, List.find?_isSome]
  exact exists_congr fun c => and_congr_right fun _ => decide_eq_true_iff

theorem hasOwn (member : c ∈ t.columns) : t.hasColumn c.name = true :=
  hasColumnIff.mpr ⟨c, member, rfl⟩

theorem columnMember (found : t.column? name = some c) : c ∈ t.columns :=
  List.mem_of_find?_eq_some found

theorem namedMember (member : c ∈ t.namedColumns names) : c ∈ t.columns := by
  obtain ⟨name, -, found⟩ := List.mem_filterMap.mp member
  exact columnMember found

theorem writableMember (member : c ∈ t.writableColumns) : c ∈ t.columns :=
  (List.mem_filter.mp member).1

theorem keyMember (found : t.primaryKey? = some c) : c ∈ t.columns := by
  rcases Option.or_eq_some_iff.mp found with own | ⟨-, named⟩
  · exact List.mem_of_find?_eq_some own
  · exact columnMember named

theorem defaultSortMember (some : t.columns ≠ []) (p : Policy) :
    ∃ c ∈ t.columns, Plan.defaultSortColumn t p = Option.some c.name := by
  obtain ⟨first, rest, columns⟩ := List.exists_cons_of_ne_nil some
  cases configured : p.sorting.defaultSort.filter t.hasColumn with
  | some name =>
      obtain ⟨c, member, rfl⟩ := hasColumnIff.mp (Option.filter_eq_some_iff.mp configured).2
      exact ⟨c, member, by rw [Plan.defaultSortColumn, configured]; rfl⟩
  | none =>
      cases key : t.primaryKey? with
      | some c => exact ⟨c, keyMember key, by rw [Plan.defaultSortColumn, configured, key]; rfl⟩
      | none =>
          refine ⟨first, columns ▸ List.mem_cons_self, ?_⟩
          rw [Plan.defaultSortColumn, configured, key, columns]
          rfl

end Catalog.TableShape

namespace Sql

def Condition.column : Condition → String
  | .equals column _ => column
  | .isNull column => column

def Statement.columns : Statement → List String
  | .select columns _ conditions => columns ++ conditions.map Condition.column
  | .count _ conditions => conditions.map Condition.column
  | .insert _ values returning => values.map Prod.fst ++ returning
  | .update _ assignments conditions returning =>
      assignments.map Assignment.column ++ conditions.map Condition.column ++ returning
  | .delete _ conditions => conditions.map Condition.column

end Sql

namespace Server

def Criteria.columns (c : Criteria) : List String :=
  c.always.map Sql.Condition.column ++ c.filters.map Filter.column ++
    c.searched.map SearchedColumn.column

def Access.columns : Access → List String
  | .stats count => count.columns
  | .get conditions => conditions.map Sql.Condition.column
  | .update writing => writing.statement.columns
  | .delete statement => statement.columns
  | .list | .search _ | .export | .create | .bulk => []

def Repository.named (r : Repository) : List String :=
  r.columns ++ (r.criteria.map Criteria.columns).getD [] ++
    (r.ordering.map fun o => o.default :: o.columns).getD [] ++
    (r.insertion.map (·.statement.columns)).getD [] ++ r.accesses.flatMap Access.columns

def Named (s : Subject) (name : String) : Prop :=
  s.table.hasColumn name = true ∨ s.key? = none ∧ name = "id"

variable {s : Subject}

theorem namedColumns {columns : List ColumnShape} (known : ∀ c ∈ columns, c ∈ s.table.columns) :
    ∀ name ∈ columns.map ColumnShape.name, Named s name :=
  List.forall_mem_map.mpr fun c member => .inl (TableShape.hasOwn (known c member))

theorem keyNamed : Named s s.keyName := by
  rw [Subject.keyName]
  cases key : s.key? with
  | none => exact .inr ⟨key, rfl⟩
  | some c => exact .inl (TableShape.hasOwn (TableShape.keyMember key))

theorem liveNamed : ∀ name ∈ (liveConditions s).map Sql.Condition.column, Named s name := by
  rw [liveConditions]
  split
  · rename_i marked
    have deleted : s.table.hasColumn deletedAt = true := (Bool.and_eq_true_iff.mp marked).2
    exact List.forall_mem_singleton.mpr (.inl deleted)
  · nofun

theorem keyConditionsNamed (placeholder : Nat) :
    ∀ name ∈ (keyConditions s placeholder).map Sql.Condition.column, Named s name :=
  List.forall_mem_cons.mpr ⟨keyNamed, liveNamed⟩

theorem allNamed : ∀ name ∈ columnNames s, Named s name := namedColumns fun _ member => member

theorem writableNamed : ∀ name ∈ s.writable.map ColumnShape.name, Named s name :=
  namedColumns fun _ => TableShape.writableMember

theorem numberedColumns (s : Subject) :
    (Repository.numbered s).map Prod.fst = s.writable.map ColumnShape.name := by
  rw [Repository.numbered, List.zipIdx_map_fst]

theorem assignmentsNamed :
    ∀ name ∈ (Repository.assignments s).map Sql.Assignment.column, Named s name := by
  have given : ((Repository.numbered s).map fun entry => Sql.Assignment.given entry.1 entry.2).map
      Sql.Assignment.column = s.writable.map ColumnShape.name := by
    rw [List.map_map, ← numberedColumns]
    rfl
  have touched : ∀ name ∈ (if s.touchesUpdatedAt then [Sql.Assignment.now updatedAt] else []).map
      Sql.Assignment.column, Named s name := by
    split
    · rename_i touched
      have updated : s.table.hasColumn updatedAt = true := (Bool.and_eq_true_iff.mp touched).2
      exact List.forall_mem_singleton.mpr (.inl updated)
    · exact fun _ none => absurd none List.not_mem_nil
  rw [Repository.assignments, apply_ite (List.map Sql.Assignment.column), List.map_append, given]
  generalize (if s.touchesUpdatedAt then [Sql.Assignment.now updatedAt] else []) = more at touched ⊢
  split
  · exact List.forall_mem_singleton.mpr keyNamed
  · exact List.forall_mem_append.mpr ⟨writableNamed, touched⟩

theorem criteriaNamed : ∀ name ∈ (Criteria.of s).columns, Named s name := by
  have filters : ((Criteria.of s).filters).map Filter.column =
      s.filterColumns.map ColumnShape.name := by
    rw [Criteria.of, List.map_map]
    rfl
  have searched : ∀ name ∈ ((Criteria.of s).searched).map SearchedColumn.column, Named s name := by
    rw [Criteria.of]
    dsimp only
    split
    · rw [List.map_map]
      exact namedColumns fun _ => TableShape.namedMember
    · nofun
  rw [Criteria.columns, filters]
  exact List.forall_mem_append.mpr ⟨List.forall_mem_append.mpr
    ⟨liveNamed, namedColumns fun _ => TableShape.namedMember⟩, searched⟩

theorem accessNamed (k : EndpointKind) :
    ∀ name ∈ (Repository.access s k).columns, Named s name := by
  cases k with
  | get => exact keyConditionsNamed 1
  | update =>
      exact List.forall_mem_append.mpr ⟨List.forall_mem_append.mpr
        ⟨assignmentsNamed, keyConditionsNamed _⟩, allNamed⟩
  | delete =>
      simp only [Repository.access, Repository.deletion]
      split
      · rename_i marked
        have deleted : s.table.hasColumn deletedAt = true := (Bool.and_eq_true_iff.mp marked).2
        simp only [Access.columns, Sql.Statement.columns, List.append_nil]
        exact List.forall_mem_append.mpr
          ⟨List.forall_mem_singleton.mpr (.inl deleted), keyConditionsNamed 1⟩
      · exact keyConditionsNamed 1
  | list | search | «export» | stats | create | bulk => nofun

theorem orderingNamed (some : s.table.columns ≠ []) :
    ∀ name ∈ (Ordering.of s).default :: (Ordering.of s).columns, Named s name := by
  obtain ⟨c, member, default⟩ := TableShape.defaultSortMember some s.policy
  have fallback : s.defaultSort = c.name := by rw [Subject.defaultSort, default, Option.getD_some]
  refine List.forall_mem_cons.mpr ⟨.inl ?_, namedColumns fun d inside => ?_⟩
  · rw [Ordering.of, fallback]
    exact TableShape.hasOwn member
  · rw [Subject.sortColumns] at inside
    split at inside
    · exact inside
    · exact TableShape.namedMember inside

theorem repositoryNamed (some : s.table.columns ≠ []) :
    ∀ name ∈ (Repository.of s).named, Named s name := by
  have optional : ∀ {c : Bool} {names : List String}, (∀ name ∈ names, Named s name) →
      ∀ name ∈ (if c then Option.some names else none).getD [], Named s name := by
    intro c names known
    cases c
    · nofun
    · exact known
  simp only [Repository.named, Repository.of, apply_ite (Option.map _), Option.map_some,
    Option.map_none, List.flatMap_map]
  refine List.forall_mem_append.mpr ⟨List.forall_mem_append.mpr ⟨List.forall_mem_append.mpr
    ⟨List.forall_mem_append.mpr ⟨allNamed, optional criteriaNamed⟩,
      optional (orderingNamed some)⟩, optional ?_⟩, fun name member => ?_⟩
  · rw [Repository.inserting, Sql.Statement.columns, numberedColumns]
    exact List.forall_mem_append.mpr ⟨writableNamed, allNamed⟩
  · obtain ⟨e, -, inside⟩ := List.mem_flatMap.mp member
    exact accessNamed e.kind name inside

end Server

theorem orderingOf {s : Subject} {o : Server.Ordering}
    (made : (Server.Repository.of s).ordering = some o) :
    s.listsRows = true ∧ o = .of s := by
  simp only [Server.Repository.of] at made
  split at made
  · rename_i lists
    exact ⟨lists, (Option.some.inj made).symm⟩
  · contradiction

theorem orderingCode {repository : Server.Repository} {o : Server.Ordering}
    (made : repository.ordering = some o) : o.code <:+: repository.code := by
  have first : o.code <:+: o.code ++ repository.findCode := (List.prefix_append ..).isInfix
  rw [Server.Repository.code, made]
  exact ((first.trans (List.suffix_append ..).isInfix).trans (List.prefix_append ..).isInfix).trans
    (List.prefix_append ..).isInfix

end RestScaffold
