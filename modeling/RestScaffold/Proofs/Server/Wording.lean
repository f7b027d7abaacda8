import RestScaffold.Proofs.Artifact.Paths
import RestScaffold.Proofs.Server.Columns
import RestScaffold.Proofs.Text.Identifier
import RestScaffold.Proofs.Text.Layout

/-! The wording of statements. A property that texts keep when they are put together holds of a
statement where it holds of the names in it and of the words around them. -/
namespace RestScaffold

namespace Text

class Joins (P : String → Prop) : Prop where
  empty : P ""
  append {s t : String} : P s → P t → P (s ++ t)

instance : Joins OneLine := ⟨by decide, fun one other => oneLineAppend.mpr ⟨one, other⟩⟩

variable {P : String → Prop} [Joins P] {separator lead first : String} {parts : List String}

theorem joinsIntercalate (between : P separator) (each : ∀ s ∈ parts, P s) :
    P (separator.intercalate parts) := by
  induction parts with
  | nil => exact Joins.empty
  | cons s rest ih =>
      obtain ⟨first, others⟩ := List.forall_mem_cons.mp each
      cases rest with
      | nil => simpa using first
      | cons t more =>
          rw [String.intercalate_cons_cons]
          exact Joins.append (Joins.append first between) (ih others)

theorem joinsJoin (each : ∀ s ∈ parts, P s) : P (String.join parts) := by
  induction parts with
  | nil => exact Joins.empty
  | cons s rest ih =>
      obtain ⟨first, others⟩ := List.forall_mem_cons.mp each
      rw [String.join_cons]
      exact Joins.append first (ih others)

theorem joinsLed (led : P (lead ++ first)) (between : P separator) (each : ∀ s ∈ parts, P s) :
    P (lead ++ separator.intercalate (first :: parts)) := by
  rw [← String.intercalate_cons_append]
  exact joinsIntercalate between (List.forall_mem_cons.mpr ⟨led, each⟩)

end Text

namespace Sql
open Text

def Statement.table : Statement → TableName
  | .select _ table _ | .count table _ | .insert table _ _ | .update table _ _ _
  | .delete table _ => table

def Statement.conditions : Statement → List Condition
  | .select _ _ conditions | .count _ conditions | .update _ _ conditions _
  | .delete _ conditions => conditions
  | .insert .. => []

def words : List String :=
  ["\"", ", ", ".", "$", "SELECT ", "\" FROM ", "SELECT COUNT(*) FROM ", "INSERT INTO ",
    " DEFAULT VALUES", " (", ") VALUES (", ")", " RETURNING ", "UPDATE \"", " SET ", " = COALESCE(",
    " = NOW()", " = ", " WHERE \"", " AND "]

structure Words (P : String → Prop) : Prop where
  fixed : ∀ s ∈ words, P s
  numbers : ∀ n : Nat, P (toString n)

variable {P : String → Prop} [Joins P] {lead name : String} {names : List String}

section
variable (w : Words P)
include w

theorem quotedLed (led : P (lead ++ "\"")) (holds : P name) : P (lead ++ quoted name) := by
  rw [quoted, String.append_assoc, ← String.append_assoc]
  exact Joins.append led (Joins.append holds (w.fixed _ (by decide)))

theorem quotedHolds (holds : P name) : P (quoted name) := by
  have led : P ("" ++ "\"") := w.fixed "\"" (by decide)
  simpa using quotedLed w led holds

theorem placeholderHolds (n : Nat) : P (placeholder n) :=
  Joins.append (w.fixed _ (by decide)) (w.numbers n)

theorem tableLed {t : TableName} (led : P (lead ++ "\"")) (schema : P t.schema)
    (holds : P t.name) : P (lead ++ t.text) := by
  have dot : P "." := w.fixed _ (by decide)
  rw [TableName.text, ← String.append_assoc, ← String.append_assoc]
  exact Joins.append (Joins.append (quotedLed w led schema) dot) (quotedHolds w holds)

theorem columnListHolds (holds : ∀ name ∈ names, P name) : P (columnList names) :=
  joinsIntercalate (w.fixed _ (by decide)) (List.forall_mem_map.mpr fun name member =>
    quotedHolds w (holds name member))

theorem columnListFrom (some : names ≠ []) (holds : ∀ name ∈ names, P name) :
    P (columnList names ++ " FROM ") := by
  induction names with
  | nil => contradiction
  | cons name rest ih =>
      obtain ⟨first, others⟩ := List.forall_mem_cons.mp holds
      cases rest with
      | nil =>
          have alone : columnList [name] ++ " FROM " = "\"" ++ (name ++ "\" FROM ") := by
            simp [columnList, quoted, String.append_assoc]
          rw [alone]
          exact Joins.append (w.fixed _ (by decide))
            (Joins.append first (w.fixed _ (by decide)))
      | cons other more =>
          have split : columnList (name :: other :: more) ++ " FROM " =
              quoted name ++ (", " ++ (columnList (other :: more) ++ " FROM ")) := by
            simp [columnList, String.intercalate_cons_cons, String.append_assoc]
          rw [split]
          exact Joins.append (quotedHolds w first)
            (Joins.append (w.fixed _ (by decide)) (ih (List.cons_ne_nil _ _) others))

theorem returningHolds (holds : ∀ name ∈ names, P name) : P (returningText names) := by
  unfold returningText
  split
  · exact Joins.empty
  · exact Joins.append (w.fixed _ (by decide)) (columnListHolds w holds)

theorem valuesHold {values : List (String × Nat)} (holds : ∀ name ∈ values.map Prod.fst, P name) :
    P (valuesText values) := by
  have opening : P " (" := w.fixed _ (by decide)
  have middle : P ") VALUES (" := w.fixed _ (by decide)
  have closing : P ")" := w.fixed _ (by decide)
  have numbers : P (", ".intercalate (values.map fun v => placeholder v.2)) :=
    joinsIntercalate (w.fixed _ (by decide))
      (List.forall_mem_map.mpr fun v _ => placeholderHolds w v.2)
  unfold valuesText
  split
  · exact w.fixed _ (by decide)
  · exact Joins.append (Joins.append (Joins.append (Joins.append opening
      (columnListHolds w holds)) middle) numbers) closing

theorem assignmentHolds {a : Assignment} (holds : P a.column) : P a.text := by
  have own := quotedHolds w holds
  have comma : P ", " := w.fixed _ (by decide)
  have closing : P ")" := w.fixed _ (by decide)
  cases a with
  | given column value =>
      exact Joins.append (Joins.append (Joins.append (Joins.append (Joins.append own
        (w.fixed _ (by decide))) (placeholderHolds w value)) comma) own) closing
  | now column => exact Joins.append own (w.fixed _ (by decide))
  | kept column => exact Joins.append (Joins.append own (w.fixed _ (by decide))) own

theorem conditionLed {c : Condition} (led : P (lead ++ "\"")) (holds : P c.column)
    (nulls : ∀ column, c = .isNull column → P " IS NULL") : P (lead ++ c.text) := by
  have own := quotedLed w led holds
  cases c with
  | equals column value =>
      rw [Condition.text, ← String.append_assoc, ← String.append_assoc]
      exact Joins.append (Joins.append own (w.fixed _ (by decide))) (placeholderHolds w value)
  | isNull column =>
      rw [Condition.text, ← String.append_assoc]
      exact Joins.append own (nulls column rfl)

theorem whereHolds {conditions : List Condition}
    (holds : ∀ name ∈ conditions.map Condition.column, P name)
    (nulls : ∀ column, .isNull column ∈ conditions → P " IS NULL") : P (whereText conditions) := by
  cases conditions with
  | nil => exact Joins.empty
  | cons first rest =>
      have led : P (" WHERE " ++ first.text) :=
        conditionLed w (w.fixed " WHERE \"" (by decide)) (holds _ List.mem_cons_self)
          fun column same => nulls column (same ▸ List.mem_cons_self)
      refine joinsLed led (w.fixed _ (by decide)) (List.forall_mem_map.mpr fun c member => ?_)
      have known := List.mem_cons_of_mem first member
      have own : P ("" ++ c.text) :=
        conditionLed w (w.fixed "\"" (by decide)) (holds _ (List.mem_map_of_mem known))
          fun column same => nulls column (same ▸ known)
      simpa using own

theorem tableHolds {t : TableName} (schema : P t.schema) (holds : P t.name) : P t.text := by
  have led : P ("" ++ "\"") := w.fixed "\"" (by decide)
  simpa using tableLed w led schema holds

theorem statementHolds {st : Statement} (schema : P st.table.schema) (named : P st.table.name)
    (holds : ∀ name ∈ st.columns, P name)
    (selects : ∀ columns t conditions, st = .select columns t conditions → columns ≠ [])
    (deletes : ∀ t conditions, st = .delete t conditions → P "DELETE FROM ")
    (nulls : ∀ column, .isNull column ∈ st.conditions → P " IS NULL") : P st.text := by
  have table := tableHolds w schema named
  cases st with
  | select columns t conditions =>
      obtain ⟨listed, compared⟩ := List.forall_mem_append.mp holds
      have front := columnListFrom w (selects columns t conditions rfl) listed
      show P ("SELECT " ++ columnList columns ++ " FROM " ++ t.text ++ whereText conditions)
      rw [@String.append_assoc "SELECT "]
      exact Joins.append (Joins.append (Joins.append (w.fixed _ (by decide)) front) table)
        (whereHolds w compared nulls)
  | count t conditions =>
      exact Joins.append (Joins.append (w.fixed _ (by decide)) table) (whereHolds w holds nulls)
  | insert t values returning =>
      obtain ⟨taken, returned⟩ := List.forall_mem_append.mp holds
      exact Joins.append (Joins.append (Joins.append (w.fixed _ (by decide)) table)
        (valuesHold w taken)) (returningHolds w returned)
  | update t assignments conditions returning =>
      obtain ⟨both, returned⟩ := List.forall_mem_append.mp holds
      obtain ⟨assigned, compared⟩ := List.forall_mem_append.mp both
      have front : P ("UPDATE " ++ t.text) :=
        tableLed w (w.fixed "UPDATE \"" (by decide)) schema named
      have set : P (", ".intercalate (assignments.map Assignment.text)) :=
        joinsIntercalate (w.fixed _ (by decide)) (List.forall_mem_map.mpr fun a member =>
          assignmentHolds w (assigned _ (List.mem_map_of_mem member)))
      exact Joins.append (Joins.append (Joins.append (Joins.append front (w.fixed _ (by decide)))
        set) (whereHolds w compared nulls)) (returningHolds w returned)
  | delete t conditions =>
      exact Joins.append (Joins.append (deletes t conditions rfl) table)
        (whereHolds w holds nulls)

end
end Sql
namespace Server
open Catalog

structure Spelled (P : String → Prop) (t : TableShape) : Prop where
  schema : P t.schema
  name : P t.name
  type : P (Naming.pascal t.name)
  ident : P (Naming.camel t.name)
  columns : ∀ c ∈ t.columns, P c.name ∧ P (fieldName c)
  key : P "id"
  some : t.columns ≠ []

variable {P : String → Prop} {s : Subject}

theorem spelled {table : TableShape} {policy : Policy} {plan : List Endpoint}
    (made : Subject.of table policy plan = .ok s)
    (holds : ∀ {name : String}, Naming.Wordly name.toList → P name) : Spelled P table := by
  obtain ⟨-, plain, columns, some⟩ := Rendering.subjectOk made
  have key : Naming.Wordly "id".toList := List.all_eq_true.mp (by decide)
  exact ⟨holds (Naming.plainWordly (Rendering.schemaPlain made)), holds (Naming.plainWordly plain),
    holds (Naming.pascalWordly plain), holds (Naming.camelWordly plain),
    fun c member => ⟨holds (Naming.plainWordly (columns c member)),
      holds (Naming.exportedWordly (columns c member))⟩, holds key, some⟩

theorem namedHolds (spelled : Spelled P s.table) {name : String} (named : Named s name) :
    P name := by
  rcases named with known | ⟨-, rfl⟩
  · obtain ⟨c, member, rfl⟩ := TableShape.hasColumnIff.mp known
    exact (spelled.columns c member).1
  · exact spelled.key

theorem subjectStatement [Text.Joins P] (w : Sql.Words P) (spelled : Spelled P s.table)
    {st : Sql.Statement} (table : st.table = tableName s)
    (named : ∀ name ∈ st.columns, Named s name)
    (selects : ∀ columns t conditions, st = .select columns t conditions → columns ≠ [])
    (deletes : ∀ t conditions, st = .delete t conditions → P "DELETE FROM ")
    (nulls : ∀ column, .isNull column ∈ st.conditions → P " IS NULL") : P st.text :=
  Sql.statementHolds w (table ▸ spelled.schema) (table ▸ spelled.name)
    (fun name member => namedHolds spelled (named name member)) selects deletes nulls

end Server
end RestScaffold
