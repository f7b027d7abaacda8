import RestScaffold.Proofs.Artifact.Paths
import RestScaffold.Proofs.Code.Rows
import RestScaffold.Proofs.Server.Wording

/-! Positions in the generated code. What a statement gives back, what it is read to and what is
listed of a row stand in the order of the columns, and a placeholder has the number of the argument
that is passed for its column. -/
namespace RestScaffold
open Catalog Code

namespace Sql

namespace Statement

def taken : Statement → List (String × Nat)
  | .insert _ values _ => values
  | .update _ assignments _ _ => assignments.filterMap fun
      | .given column value => some (column, value)
      | .now _ | .kept _ => none
  | .select .. | .count .. | .delete .. => []

def assigned : Statement → List String
  | .insert _ values _ => values.map Prod.fst
  | .update _ assignments _ _ => assignments.map Assignment.column
  | .select .. | .count .. | .delete .. => []

def compared : Statement → List (String × Nat)
  | .select _ _ conditions | .count _ conditions
  | .update _ _ conditions _ | .delete _ conditions =>
      conditions.filterMap fun
        | .equals column value => some (column, value)
        | .isNull _ => none
  | .insert .. => []

def returned : Statement → List String
  | .select columns .. => columns
  | .insert _ _ returning | .update _ _ _ returning => returning
  | .count .. | .delete .. => []

end Statement

def argument? (arguments : List String) : Nat → Option String
  | 0 => none
  | n + 1 => arguments[n]?

theorem argumentsInOrder {α : Type} (columns : List α) (name field : α → String)
    (more : List String) :
    ((columns.map name).zipIdx 1).map (fun (column, n) =>
        (column, argument? (columns.map field ++ more) n)) =
      columns.map fun c => (name c, some (field c)) := by
  refine List.ext_getElem (by simp) fun i low _ => ?_
  have inside : i < (columns.map field).length := by simpa using low
  have number : 1 + i = i + 1 := Nat.add_comm 1 i
  simp only [List.getElem_map, List.getElem_zipIdx, number, argument?,
    List.getElem?_append_left inside, List.getElem?_eq_getElem inside]

end Sql

namespace Server

/-- A statement that takes the fields of a request, whatever arguments follow them. -/
structure Writing.Fits (columns writable : List ColumnShape) (w : Writing) : Prop where
  numbered : w.statement.taken = (writable.map ColumnShape.name).zipIdx 1
  fields : w.fields = writable.map fieldName
  passed : ∀ more, w.statement.taken.map (fun (column, n) =>
      (column, Sql.argument? (w.fields ++ more) n)) =
    writable.map fun c => (c.name, some (fieldName c))
  once : w.statement.assigned.Nodup
  unowned : ∀ taken ∈ w.statement.taken, taken.1 ≠ createdAt ∧ taken.1 ≠ updatedAt ∧
    ∀ c ∈ columns, c.name = taken.1 → c.isPrimaryKey = false
  returned : w.statement.returned = columns.map ColumnShape.name

structure LinedUp (s : Subject) (m : Model) (r : Repository) (h : Handler) : Prop where
  fields : m.fields.map GoField.name = s.table.columns.map fieldName
  tags : m.fields.map (·.tag.lookup "db") = s.table.columns.map fun c => some c.name
  listed : m.columns = s.table.columns.map ColumnShape.name
  recorded : ∀ record, h.record = some record →
    record.map RecordField.name = s.table.columns.map fieldName
  selected : r.selection.returned = s.table.columns.map ColumnShape.name
  scanned : r.scanned = s.table.columns.map fieldName
  inserts : ∀ w, r.insertion = some w → w.Fits s.table.columns s.writable ∧
    w.statement.compared = [] ∧ (s.writable = [] → w.fields = [] ∧ w.statement.text =
      "INSERT INTO " ++ r.table.text ++ " DEFAULT VALUES" ++ Sql.returningText r.columns)
  updates : ∀ w, .update w ∈ r.accesses → w.Fits s.table.columns s.writable ∧
    w.statement.compared = [(s.keyName, s.writable.length + 1)] ∧
    Sql.argument? (w.fields ++ ["id"]) (s.writable.length + 1) = some "id" ∧
    s.keyName ∉ w.statement.taken.map Prod.fst

variable {s : Subject}

theorem keyNotWritable {c : ColumnShape} (member : c ∈ s.writable) : c.name ≠ s.keyName := by
  obtain ⟨known, free⟩ := List.mem_filter.mp member
  simp only [Bool.and_eq_true, bne_iff_ne] at free
  obtain ⟨⟨-, other⟩, -⟩ := free
  intro same
  rw [Subject.keyName, Subject.key?] at same
  cases key : s.table.primaryKey? with
  | some k =>
      rw [key] at same other
      exact other (congrArg some same)
  | none =>
      rw [key] at same
      have absent := (Option.or_eq_none_iff.mp key).2
      have present := TableShape.hasOwn known
      rw [TableShape.hasColumn, same, Option.map_none, Option.getD_none, absent] at present
      contradiction

theorem writableUnowned (distinct : (s.table.columns.map ColumnShape.name).Nodup)
    {c : ColumnShape} (member : c ∈ s.writable) : c.name ≠ createdAt ∧ c.name ≠ updatedAt ∧
      ∀ d ∈ s.table.columns, d.name = c.name → d.isPrimaryKey = false := by
  obtain ⟨known, free⟩ := List.mem_filter.mp member
  simp only [Bool.and_eq_true, Bool.not_eq_true', ColumnShape.isTimestamp, Bool.or_eq_false_iff,
    beq_eq_false_iff_ne] at free
  obtain ⟨⟨keyless, -⟩, created, updated⟩ := free
  refine ⟨created, updated, fun d inside same => ?_⟩
  rw [List.inj_on_of_nodup_map distinct inside known same]
  exact keyless

theorem fits (distinct : (s.table.columns.map ColumnShape.name).Nodup) {w : Writing}
    (taken : w.statement.taken = Repository.numbered s)
    (fields : w.fields = Repository.writableFields s) (once : w.statement.assigned.Nodup)
    (returned : w.statement.returned = columnNames s) : w.Fits s.table.columns s.writable where
  numbered := taken
  fields := fields
  passed := fun more => by
    rw [taken, fields]
    exact Sql.argumentsInOrder s.writable ColumnShape.name fieldName more
  once := once
  unowned := by
    rw [taken]
    intro value member
    have named := List.mem_map_of_mem (f := Prod.fst) member
    rw [numberedColumns] at named
    obtain ⟨c, known, same⟩ := List.mem_map.mp named
    rw [← same]
    exact writableUnowned distinct known
  returned := returned

theorem writableDistinct (distinct : (s.table.columns.map ColumnShape.name).Nodup) :
    (s.writable.map ColumnShape.name).Nodup :=
  distinct.sublist (List.filter_sublist.map _)

theorem insertingFits (distinct : (s.table.columns.map ColumnShape.name).Nodup) :
    (Repository.inserting s).Fits s.table.columns s.writable := by
  refine fits distinct rfl rfl ?_ rfl
  show ((Repository.numbered s).map Prod.fst).Nodup
  rw [numberedColumns]
  exact writableDistinct distinct

theorem assignmentsSplit (s : Subject) : ∃ own : List Sql.Assignment,
    Repository.assignments s =
      (Repository.numbered s).map (fun (column, n) => Sql.Assignment.given column n) ++ own ∧
    (own = [] ∨ own = [.now updatedAt] ∨ s.writable = [] ∧ own = [.kept s.keyName]) := by
  have numbered : Repository.numbered s = [] ↔ s.writable = [] := by simp [Repository.numbered]
  rw [Repository.assignments]
  by_cases touches : s.touchesUpdatedAt = true
  · exact ⟨[.now updatedAt], by simp [touches], .inr (.inl rfl)⟩
  · by_cases none : s.writable = []
    · exact ⟨[.kept s.keyName], by simp [touches, numbered.mpr none], .inr (.inr ⟨none, rfl⟩)⟩
    · exact ⟨[], by simp [touches, mt numbered.mp none], .inl rfl⟩

theorem updatingFits (distinct : (s.table.columns.map ColumnShape.name).Nodup) :
    (Repository.updating s).Fits s.table.columns s.writable := by
  obtain ⟨own, split, cases⟩ := assignmentsSplit s
  have names : (Repository.assignments s).map Sql.Assignment.column =
      s.writable.map ColumnShape.name ++ own.map Sql.Assignment.column := by
    rw [split, List.map_append, List.map_map, ← numberedColumns]
    rfl
  refine fits distinct ?_ rfl ?_ rfl
  · show (Repository.assignments s).filterMap _ = Repository.numbered s
    have none : own.filterMap (fun
        | .given column value => some (column, value)
        | .now _ | .kept _ => none) = ([] : List (String × Nat)) := by
      rcases cases with rfl | rfl | ⟨-, rfl⟩ <;> rfl
    rw [split, List.filterMap_append, none, List.append_nil, List.filterMap_map]
    exact List.filterMap_some
  · show ((Repository.assignments s).map Sql.Assignment.column).Nodup
    have given := writableDistinct distinct
    rw [names]
    rcases cases with rfl | rfl | ⟨none, rfl⟩
    · simpa using given
    · refine List.nodup_append.mpr ⟨given, List.nodup_singleton _, ?_⟩
      rintro name member _ (_ | ⟨_, ⟨⟩⟩) rfl
      obtain ⟨c, known, same⟩ := List.mem_map.mp member
      exact (writableUnowned distinct known).2.1 same
    · rw [none]
      exact List.nodup_singleton _

theorem keyCompared (s : Subject) (placeholder : Nat) :
    (keyConditions s placeholder).filterMap (fun
      | .equals column value => some (column, value)
      | .isNull _ => none) = [(s.keyName, placeholder)] := by
  rw [keyConditions, liveConditions]
  split <;> rfl

theorem insertionOf {w : Writing} (made : (Repository.of s).insertion = some w) :
    s.needsCreateShape = true ∧ w = Repository.inserting s := by
  simp only [Repository.of] at made
  split at made
  · rename_i creates
    exact ⟨creates, (Option.some.inj made).symm⟩
  · contradiction

theorem updateOf {w : Writing} (member : .update w ∈ (Repository.of s).accesses) :
    s.has .update = true ∧ w = Repository.updating s := by
  obtain ⟨e, known, made⟩ := List.mem_map.mp member
  cases kind : e.kind <;> rw [kind] at made
  case update =>
    exact ⟨List.any_eq_true.mpr ⟨e, known, by simp [kind]⟩, (Access.update.inj made).symm⟩
  all_goals contradiction

theorem recordOf {record : List RecordField} (made : (Handler.of s).record = some record) :
    s.has .export = true ∧ record = s.table.columns.map Handler.recordField := by
  simp only [Handler.of] at made
  split at made
  · rename_i exports
    exact ⟨exports, (Option.some.inj made).symm⟩
  · contradiction

theorem linedUp (distinct : (s.table.columns.map ColumnShape.name).Nodup) :
    LinedUp s (Model.of s) (Repository.of s) (Handler.of s) where
  fields := List.map_map
  tags := List.map_map
  listed := rfl
  recorded := fun record made => by
    obtain ⟨-, rfl⟩ := recordOf made
    exact List.map_map
  selected := rfl
  scanned := rfl
  inserts := fun w made => by
    obtain ⟨-, rfl⟩ := insertionOf made
    refine ⟨insertingFits distinct, rfl, fun none => ⟨?_, ?_⟩⟩
    · exact congrArg (List.map fieldName) none
    · have numbered : Repository.numbered s = [] := by
        rw [Repository.numbered, none]
        rfl
      show Sql.Statement.text (.insert (tableName s) (Repository.numbered s) (columnNames s)) = _
      rw [numbered]
      rfl
  updates := fun w member => by
    obtain ⟨-, rfl⟩ := updateOf member
    have passed : (Repository.writableFields s).length = s.writable.length := List.length_map ..
    refine ⟨updatingFits distinct, keyCompared s _, ?_, fun assigned => ?_⟩
    · show ((Repository.writableFields s) ++ ["id"])[s.writable.length]? = some "id"
      rw [← passed, List.getElem?_concat_length]
    · rw [(updatingFits distinct).numbered, List.zipIdx_map_fst] at assigned
      obtain ⟨c, known, same⟩ := List.mem_map.mp assigned
      exact keyNotWritable known same

open Text

theorem Repository.memCode {r : Repository} {l : Line} : l ∈ r.code ↔
    l ∈ r.typeCode ∨ l ∈ r.scanCode ∨ (∃ c, r.criteria = some c ∧ l ∈ c.code) ∨
      (∃ o, r.ordering = some o ∧ (l ∈ o.code ∨ l ∈ r.findCode)) ∨
      (∃ w, r.insertion = some w ∧ l ∈ r.insertCode w) ∨ ∃ a ∈ r.accesses, l ∈ r.accessCode a := by
  have optional : ∀ {α : Type} (item : Option α) (code : α → List Line),
      l ∈ (item.map code).getD [] ↔ ∃ a, item = some a ∧ l ∈ code a := by
    intro α item code
    cases item <;> simp
  simp only [code, List.mem_append, optional, List.mem_flatMap, or_assoc]

def passed (columns : List ColumnShape) : String :=
  String.join (columns.map fun c => ", req." ++ fieldName c)

structure Calls (s : Subject) (r : Repository) (text : String) : Prop where
  selection : HasRow text ("const " ++ selectName s.ident ++ " = `" ++ r.selection.text ++ "`")
  scan : HasRow text ("\terr := row.Scan(" ++
    ", ".intercalate (s.table.columns.map fun c => "&m." ++ fieldName c) ++ ")")
  insertion : ∀ w, r.insertion = some w →
    HasRow text ("const " ++ insertName s.ident ++ " = `" ++ w.statement.text ++ "`") ∧
    HasRow text ("\treturn " ++ scanName s.typeName ++ "(q.QueryRowContext(ctx, " ++
      insertName s.ident ++ passed s.writable ++ "))")
  update : ∀ w, .update w ∈ r.accesses →
    HasRow text ("\treturn " ++ scanName s.typeName ++ "(r.db.QueryRowContext(ctx, `" ++
      w.statement.text ++ "`" ++ passed s.writable ++ ", id))")

theorem oneLineWords : Sql.Words OneLine := ⟨by decide, decimalOneLine⟩

variable (flat : Spelled OneLine s.table)
include flat

theorem statementOneLine {st : Sql.Statement} (table : st.table = tableName s)
    (named : ∀ name ∈ st.columns, Named s name)
    (selects : ∀ columns t conditions, st = .select columns t conditions → columns ≠ []) :
    OneLine st.text :=
  subjectStatement oneLineWords flat table named selects (fun _ _ _ => by decide)
    fun _ _ => by decide

theorem passedOneLine : OneLine (passed s.writable) := by
  have start : OneLine ", req." := by decide
  refine joinsJoin (List.forall_mem_map.mpr fun c member => oneLineAppend.mpr ⟨start, ?_⟩)
  exact (flat.columns c (TableShape.writableMember member)).2

theorem calls (goModule : String) :
    Calls s (Repository.of s) ((Repository.of s).file.text goModule) where
  selection := by
    have fixed : ∀ s ∈ ["const ", "Select", " = `", "`"], OneLine s := by decide
    have ident : OneLine s.ident := flat.ident
    have statement : OneLine (Repository.of s).selection.text := by
      refine statementOneLine flat rfl ?_ ?_
      · simp only [Repository.selection, Sql.Statement.columns, List.map_nil, List.append_nil]
        exact allNamed
      · rintro columns _ _ ⟨⟩
        exact fun none => flat.some (List.map_eq_nil_iff.mp none)
    have member : line ["const ", declared (selectName s.ident), " = ",
        Go.raw (Repository.of s).selection.text] ∈ (Repository.of s).typeCode :=
      List.mem_append_left _ (List.mem_append_left _ (List.mem_cons_of_mem _ List.mem_cons_self))
    refine goRow goModule (Repository.memCode.mpr (.inl member)) ?_ (solidEnd ?_ rfl rfl)
    · simp [← String.toList_inj, line, declared, Go.raw, plain, Fragment.string]
    · simp [selectName, fixed, statement, ident]
  scan := by
    have fixed : ∀ s ∈ ["\terr := row.Scan(", ")", "&m."], OneLine s := by decide
    have listed : OneLine (", ".intercalate (s.table.columns.map fun c => "&m." ++ fieldName c)) :=
      joinsIntercalate (by decide) (List.forall_mem_map.mpr fun c member =>
        oneLineAppend.mpr ⟨fixed _ (by decide), (flat.columns c member).2⟩)
    have same : (Repository.of s).scanned.map ("&m." ++ ·) =
        s.table.columns.map fun c => "&m." ++ fieldName c := List.map_map
    have member : (.text "\t" :: plain ("err := row.Scan(" ++
        ", ".intercalate ((Repository.of s).scanned.map ("&m." ++ ·)) ++ ")") : Line) ∈
          (Repository.of s).scanCode := List.mem_append_right _ (functionMember (by simp))
    refine goRow goModule (Repository.memCode.mpr (.inr (.inl member))) ?_ (solidEnd ?_ rfl rfl)
    · simp [← String.toList_inj, same, plain, Fragment.string]
    · simp [fixed, listed]
  insertion := by
    intro w made
    have fixed : ∀ s ∈ ["const ", "Insert", " = `", "`", "\treturn ", "scan",
        "(q.QueryRowContext(ctx, ", "))"], OneLine s := by decide
    have ident : OneLine s.ident := flat.ident
    have type : OneLine s.typeName := flat.type
    have statement : OneLine w.statement.text := by
      obtain ⟨-, rfl⟩ := insertionOf made
      refine statementOneLine flat rfl ?_ fun _ _ _ other => by cases other
      rw [Repository.inserting, Sql.Statement.columns, numberedColumns]
      exact List.forall_mem_append.mpr ⟨writableNamed, allNamed⟩
    have arguments : Repository.arguments w = passed s.writable := by
      obtain ⟨-, rfl⟩ := insertionOf made
      exact congrArg String.join List.map_map
    have held {l : Line} (member : l ∈ (Repository.of s).insertCode w) :
        l ∈ (Repository.of s).code :=
      Repository.memCode.mpr (.inr (.inr (.inr (.inr (.inl ⟨w, made, member⟩)))))
    constructor
    · refine goRow goModule (l := line ["const ", declared (insertName s.ident), " = ",
        Go.raw w.statement.text]) (held (by simp [Repository.insertCode, Repository.of])) ?_
        (solidEnd ?_ rfl rfl)
      · simp [← String.toList_inj, line, declared, Go.raw, plain, Fragment.string]
      · simp [insertName, fixed, statement, ident]
    · have member : (.text "\t" :: line ["return ", own (scanName s.typeName),
          "(q.QueryRowContext(ctx, ", own (insertName s.ident), Repository.arguments w,
          "))"] : Line) ∈ (Repository.of s).insertCode w :=
        List.mem_append_right _ (functionMember (List.mem_singleton_self _))
      refine goRow goModule (held member) ?_ (solidEnd ?_ rfl rfl)
      · simp [← String.toList_inj, line, own, Fragment.string, arguments]
      · simp [scanName, insertName, fixed, passedOneLine flat, ident, type]
  update := by
    intro w known
    have fixed : ∀ s ∈ ["`", "\treturn ", "scan", "(r.db.QueryRowContext(ctx, `", ", id))"],
        OneLine s := by decide
    have type : OneLine s.typeName := flat.type
    have statement : OneLine w.statement.text := by
      obtain ⟨-, rfl⟩ := updateOf known
      exact statementOneLine flat rfl (accessNamed .update) fun _ _ _ other => by cases other
    have arguments : Repository.arguments w = passed s.writable := by
      obtain ⟨-, rfl⟩ := updateOf known
      exact congrArg String.join List.map_map
    have member : (.text "\t" :: line ["return ", own (scanName s.typeName),
        "(r.db.QueryRowContext(ctx, ", Go.raw w.statement.text, Repository.arguments w, ", id))"] :
          Line) ∈ (Repository.of s).accessCode (.update w) :=
      functionMember (List.mem_singleton_self _)
    refine goRow goModule (Repository.memCode.mpr (.inr (.inr (.inr (.inr (.inr
      ⟨_, known, member⟩)))))) ?_ (solidEnd ?_ rfl rfl)
    · simp [← String.toList_inj, line, own, Go.raw, plain, Fragment.string, arguments]
    · simp [scanName, fixed, passedOneLine flat, statement, type]

end Server

end RestScaffold
