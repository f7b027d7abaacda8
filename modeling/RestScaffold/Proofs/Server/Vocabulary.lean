import RestScaffold.Proofs.Server.Imports
import RestScaffold.Proofs.Server.Positions
import RestScaffold.Proofs.Text.Occurrence

/-! What a repository is worded in. A property that texts keep when they are put together holds of
every line if it holds of the names of the table and of words that tell no statement. -/
namespace RestScaffold
open Catalog Code Text

namespace Code

variable {P : String → Prop} {l : Line} {ls more : List Line}

def Holds (P : String → Prop) (ls : List Line) : Prop := ∀ l ∈ ls, ∀ f ∈ l, P f.string

@[simp]
theorem holdsNil : Holds P [] := fun _ none => absurd none List.not_mem_nil

@[simp]
theorem holdsCons : Holds P (l :: ls) ↔ (∀ f ∈ l, P f.string) ∧ Holds P ls := List.forall_mem_cons

@[simp]
theorem holdsAppend : Holds P (ls ++ more) ↔ Holds P ls ∧ Holds P more := List.forall_mem_append

theorem holdsFlatMap {α : Type} {items : List α} {code : α → List Line}
    (each : ∀ a ∈ items, Holds P (code a)) : Holds P (items.flatMap code) := by
  intro l member
  obtain ⟨a, known, own⟩ := List.mem_flatMap.mp member
  exact each a known l own

theorem holdsText [Joins P] (holds : Holds P ls) (member : l ∈ ls) : P (lineText l) :=
  joinsJoin (List.forall_mem_map.mpr (holds l member))

end Code

namespace Server

structure Phrasing (P : String → Prop) (s : Subject) : Prop where
  words : Sql.Words P
  spelled : Spelled P s.table
  deletes : s.softDeletes = false → P "DELETE FROM "
  nulls : s.softDeletes = true → P " IS NULL"

namespace Phrasing

variable {P : String → Prop} {s : Subject} (q : Phrasing P s)
include q

variable [Joins P]

omit [Joins P] in
theorem named {names : List String} (known : ∀ name ∈ names, Named s name) :
    ∀ name ∈ names, P name := fun name member => namedHolds q.spelled (known name member)

theorem statement {st : Sql.Statement} (table : st.table = tableName s)
    (named : ∀ name ∈ st.columns, Named s name)
    (selects : ∀ columns t conditions, st = .select columns t conditions → columns ≠ [])
    (deletes : ∀ t conditions, st = .delete t conditions → s.softDeletes = false)
    (nulls : ∀ column, .isNull column ∈ st.conditions → s.softDeletes = true) : P st.text :=
  subjectStatement q.words q.spelled table named selects
    (fun t conditions same => q.deletes (deletes t conditions same))
    fun column member => q.nulls (nulls column member)

omit q in
theorem marked {column : String} {n : Nat} (member : .isNull column ∈ keyConditions s n) :
    s.softDeletes = true := by
  rw [keyConditions, liveConditions] at member
  cases marks : s.softDeletes with
  | true => rfl
  | false => simp [marks] at member

theorem keyed (n : Nat) : P (Sql.whereText (keyConditions s n)) :=
  Sql.whereHolds q.words (q.named (keyConditionsNamed n)) fun _ member => q.nulls (marked member)

theorem selection : P (Repository.of s).selection.text := by
  refine q.statement rfl ?_ ?_ (fun _ _ other => by cases other)
    fun _ member => absurd member List.not_mem_nil
  · simp only [Repository.selection, Sql.Statement.columns, List.map_nil, List.append_nil]
    exact allNamed
  · rintro columns _ _ ⟨⟩
    exact fun none => q.spelled.some (List.map_eq_nil_iff.mp none)

theorem counting : P (Repository.of s).counting.text :=
  q.statement rfl (fun _ member => absurd member List.not_mem_nil)
    (fun _ _ _ other => by cases other) (fun _ _ other => by cases other)
    fun _ member => absurd member List.not_mem_nil

theorem inserting : P (Repository.inserting s).statement.text := by
  refine q.statement rfl ?_ (fun _ _ _ other => by cases other) (fun _ _ other => by cases other)
    fun _ member => absurd member List.not_mem_nil
  rw [Repository.inserting, Sql.Statement.columns, numberedColumns]
  exact List.forall_mem_append.mpr ⟨writableNamed, allNamed⟩

theorem updating : P (Repository.updating s).statement.text :=
  q.statement rfl (accessNamed .update) (fun _ _ _ other => by cases other)
    (fun _ _ other => by cases other) fun _ member => marked member

theorem deletion : P (Repository.deletion s).text := by
  have named := accessNamed (s := s) .delete
  rw [Repository.access, Access.columns] at named
  refine q.statement ?_ named ?_ ?_ ?_
  · unfold Repository.deletion
    split <;> rfl
  · unfold Repository.deletion
    split <;> exact fun _ _ _ other => by cases other
  · intro t conditions same
    cases marks : s.softDeletes with
    | false => rfl
    | true => simp [Repository.deletion, marks] at same
  · unfold Repository.deletion
    split <;> exact fun _ member => marked member

end Phrasing

def Mute (cs : List Char) : Prop := '\n' ∉ cs ∧ Apart 'E' 'F' cs ∧ Apart 'S' 'N' cs

instance (cs : List Char) : Decidable (Mute cs) := inferInstanceAs (Decidable (_ ∧ _ ∧ _))

theorem muteUnblank {cs : List Char} (oneLine : '\n' ∉ cs) (free : ' ' ∉ cs) : Mute cs :=
  ⟨oneLine, apartUnblank free, apartUnblank free⟩

structure Vocabulary (P : String → Prop) (s : Subject) : Prop where
  mute : ∀ {t : String}, Mute t.toList → P t
  spelled : Spelled P s.table
  quoted : ∀ {name : String}, Named s name → P (GoString.quote name)
  deletes : s.softDeletes = false → P "DELETE FROM "
  nulls : s.softDeletes = true → P " IS NULL"

namespace Vocabulary

variable {P : String → Prop} {s : Subject} (v : Vocabulary P s) {ls : List Line} {head : Line}
include v

theorem word {cs : List Char} (mute : Mute cs) : P (String.ofList cs) :=
  v.mute (String.toList_ofList.symm ▸ mute)

theorem also {cs : List Char} {more : List String} (mute : Mute cs) (others : ∀ t ∈ more, P t) :
    ∀ t ∈ String.ofList cs :: more, P t := List.forall_mem_cons.mpr ⟨v.word mute, others⟩

theorem words : Sql.Words P where
  fixed := by
    unfold Sql.words
    repeat refine v.also (by decide) ?_
    exact List.forall_mem_nil P
  numbers n := by
    refine v.mute (muteUnblank (decimalOneLine n) fun blank => ?_)
    have digit := Nat.isDigit_of_mem_toDigits (by decide) (by decide) (Nat.toList_repr ▸ blank)
    exact absurd digit (by decide)

theorem indented : Holds P (Code.indented "\t" ls) ↔ Holds P ls := by
  have tab : P "\t" := v.word (by decide)
  simp [Holds, Code.indented, tab]

theorem block : Holds P (Go.block head ls) ↔ (∀ f ∈ head, P f.string) ∧ Holds P ls := by
  have opening : P " \x7b" := v.word (by decide)
  have closing : P "\x7d" := v.word (by decide)
  simp [Go.block, Code.block, v.indented, line, plain, or_imp, forall_and, opening,
    closing]

theorem ifBlock : Holds P (Go.ifBlock head ls) ↔ (∀ f ∈ head, P f.string) ∧ Holds P ls := by
  have opening : P "if " := v.word (by decide)
  simp [Go.ifBlock, v.block, line, opening]

theorem function {comment : Option String} (told : ∀ c ∈ comment, P ("// " ++ c)) :
    Holds P (Go.function comment head ls) ↔ (∀ f ∈ head, P f.string) ∧ Holds P ls := by
  have opening : P "func " := v.word (by decide)
  cases comment with
  | none => simp [Go.function, v.block, line, blank, opening]
  | some c =>
      have own := told c rfl
      simp [Go.function, v.block, line, blank, plain, opening, own]

variable [Joins P]

omit v in
theorem join {t u : String} (one : P t) (other : P u) : P (t ++ u) := Joins.append one other

omit [Joins P] in
theorem phrasing : Phrasing P s := ⟨v.words, v.spelled, v.deletes, v.nulls⟩

theorem arguments {w : Writing} (fields : w.fields = Repository.writableFields s) :
    P (Repository.arguments w) := by
  rw [Repository.arguments, fields]
  refine joinsJoin (List.forall_mem_map.mpr (List.forall_mem_map.mpr fun c member => ?_))
  exact join (v.word (by decide))
    (v.spelled.columns c (TableShape.writableMember member)).2

theorem raw {t : String} (holds : P t) : P ("`" ++ t ++ "`") :=
  join (join (v.word (by decide)) holds) (v.word (by decide))

theorem typeCode : Holds P (Repository.of s).typeCode := by
  have fixed : ∀ t ∈ ["const ", " = ", "`", "type ", " struct", "db *", "sql.DB", "New", "(db *",
       ") *", "return &", "\x7bdb: db\x7d"], P t := by
    repeat refine v.also (by decide) ?_
    exact List.forall_mem_nil P
  simp only [List.forall_mem_cons] at fixed
  have repository : P (repositoryName (Repository.of s).typeName) :=
    join v.spelled.type (v.word (by decide))
  have told : P ("// " ++ (repositoryName (Repository.of s).typeName ++ " reads and writes " ++
      (Repository.of s).qualifiedName ++ ".")) := by
    have table : P (Repository.of s).qualifiedName :=
      join (join v.spelled.schema (v.word (by decide))) v.spelled.name
    have front : P (repositoryName (Repository.of s).typeName ++ " reads and writes ") :=
      join repository (v.word (by decide))
    exact join (v.word (by decide)) (join (join front table) (v.word (by decide)))
  have select : P (selectName (Repository.of s).ident) :=
    join v.spelled.ident (v.word (by decide))
  simp [Repository.typeCode, Go.struct, v.block, v.function, line, own, declared, imported, plain,
    blank, Go.raw, Package.name, newRepositoryName, fixed, join, repository, select, told,
    v.phrasing.selection]

theorem scanCode : Holds P (Repository.of s).scanCode := by
  have fixed : ∀ t ∈ ["type ", "Scanner", " interface", "Scan(dest ...any) error", "scan",
       "(row ", ") (", "models.", ", error)", "var m ", "err := row.Scan(", ", ", "&m.", ")",
       "return m, err"], P t := by
    repeat refine v.also (by decide) ?_
    exact List.forall_mem_nil P
  simp only [List.forall_mem_cons] at fixed
  have type : P (Repository.of s).typeName := v.spelled.type
  have ident : P (Repository.of s).ident := v.spelled.ident
  have scanned : P (", ".intercalate ((Repository.of s).scanned.map ("&m." ++ ·))) := by
    refine joinsIntercalate (v.word (by decide)) (List.forall_mem_map.mpr ?_)
    refine List.forall_mem_map.mpr fun c member => ?_
    exact join (v.word (by decide)) (v.spelled.columns c member).2
  simp [Repository.scanCode, v.block, v.function, line, own, declared, imported, plain, blank,
    Package.name, scannerName, scanName, Repository.row, fixed, join, type, ident,
    scanned]

theorem filterCode {c : ColumnShape} (member : c ∈ s.table.columns) :
    Holds P (Criteria.filterCode (Criteria.filter c)) := by
  have fixed : ∀ t ∈ ["p.", " != nil", "args = append(args, ", "", ")",
       "clauses = append(clauses, ", "fmt.Sprintf", "(", ", len(args)))", "*"], P t := by
    repeat refine v.also (by decide) ?_
    exact List.forall_mem_nil P
  simp only [List.forall_mem_cons] at fixed
  have field : P (filterFieldName c) := by
    rw [filterFieldName]
    split
    · exact join (v.spelled.columns c member).2 (v.word (by decide))
    · exact (v.spelled.columns c member).2
  have column : P (Sql.quoted c.name) := Sql.quotedHolds v.words (v.spelled.columns c member).1
  have format := v.raw (join column (v.word (by decide) : P " = $%d"))
  cases pointer : (optionalType c).isPointer <;>
    simp [Criteria.filterCode, Criteria.numberedClause, Criteria.filter, v.ifBlock, line, imported,
      Go.raw, plain, Package.name, pointer, fixed, field, format]

theorem searchCode : Holds P (Criteria.searchCode (Criteria.of s).searched) := by
  have fixed : ∀ t ∈ ["search && p.Q != \"\"", "args = append(args, \"%\"+p.Q+\"%\")",
       "clauses = append(clauses, ", "fmt.Sprintf", "(", ", len(args)))"], P t := by
    repeat refine v.also (by decide) ?_
    exact List.forall_mem_nil P
  simp only [List.forall_mem_cons] at fixed
  have texts : P (" OR ".intercalate ((Criteria.of s).searched.map SearchedColumn.text)) := by
    refine joinsIntercalate (v.word (by decide)) ?_
    refine List.forall_mem_map.mpr fun d member => ?_
    have name : P d.column := by
      refine namedHolds v.spelled (criteriaNamed _ ?_)
      exact List.mem_append_right _ (List.mem_map_of_mem member)
    have cast : P (if d.textual then "" else "::text") := by
      split
      · exact Joins.empty
      · exact v.word (by decide)
    exact join (join (Sql.quotedHolds v.words name) cast) (v.word (by decide))
  have format := v.raw (join (join (v.word (by decide) : P "(") texts)
    (v.word (by decide) : P ")"))
  rw [Criteria.searchCode]
  split
  · exact holdsNil
  · simp [v.ifBlock, Criteria.numberedClause, line, imported, plain, Go.raw,
      Package.name, fixed, format]

theorem alwaysCode : Holds P ((Criteria.of s).always.map Criteria.fixedClause) := by
  have always : (Criteria.of s).always = if s.softDeletes then [.isNull deletedAt] else [] := rfl
  have opening : P "clauses = append(clauses, " := v.word (by decide)
  have closing : P ")" := v.word (by decide)
  have column : P (Sql.quoted deletedAt) := Sql.quotedHolds v.words (v.word (by decide))
  rw [always]
  cases marked : s.softDeletes with
  | false => exact holdsNil
  | true =>
      have condition := v.raw (join column (v.nulls marked))
      simp [Criteria.fixedClause, Sql.Condition.text, line, plain, Go.raw, opening, closing,
        condition]

theorem criteriaCode : Holds P (Criteria.of s).code := by
  have fixed : ∀ t ∈ ["Where", "(p ", "dto.", "ListParams", ", search bool) (string, []any)",
       "clauses := []string\x7b\x7d", "args := []any\x7b\x7d", "len(clauses) == 0",
       "return \"\", args", "return \" WHERE \" + ", "strings.Join", "(clauses, \" AND \"), args"],
      P t := by
    repeat refine v.also (by decide) ?_
    exact List.forall_mem_nil P
  simp only [List.forall_mem_cons] at fixed
  have filters : Holds P ((Criteria.of s).filters.flatMap Criteria.filterCode) :=
    holdsFlatMap (List.forall_mem_map.mpr fun c member =>
      v.filterCode (TableShape.namedMember member))
  have type : P (Criteria.of s).typeName := v.spelled.type
  have ident : P (Criteria.of s).ident := v.spelled.ident
  simp [Criteria.code, v.function, v.ifBlock, line, imported, declared, plain,
    Package.name, whereName, Names.listParams, fixed, join, type, ident, v.alwaysCode, filters,
    v.searchCode]

theorem orderingCode : Holds P (Ordering.of s).code := by
  have fixed : ∀ t ∈ ["var ", "Sortable", " = map[string]bool\x7b", "\x7d", "OrderBy", "(p ",
       "dto.", "ListParams", ") string", "col := ", "[p.Sort]", "col = p.Sort", "dir := ", "if ",
       "strings.EqualFold", "(p.Order, \"desc\") \x7b", "\tdir = \"DESC\"", "\x7d else if ",
       "(p.Order, \"asc\") \x7b", "\tdir = \"ASC\"", "return ", "fmt.Sprintf", "(",
       "` ORDER BY \"%s\" %s`", ", col, dir)"], P t := by
    repeat refine v.also (by decide) ?_
    exact List.forall_mem_nil P
  simp only [List.forall_mem_cons] at fixed
  have type : P (Ordering.of s).typeName := v.spelled.type
  have ident : P (Ordering.of s).ident := v.spelled.ident
  have quoted : ∀ name ∈ (Ordering.of s).default :: (Ordering.of s).columns,
      P (GoString.quote name) :=
    fun name member => v.quoted (orderingNamed v.spelled.some name member)
  obtain ⟨default, columns⟩ := List.forall_mem_cons.mp quoted
  have members : Holds P
      ((Ordering.of s).columns.map fun c => [.text (GoString.quote c ++ ": true,")]) := by
    refine List.forall_mem_map.mpr fun c member => List.forall_mem_singleton.mpr ?_
    exact join (columns c member) (v.word (by decide))
  have order : P (GoString.quote (Ordering.of s).order.sql) := by
    cases (Ordering.of s).order <;> exact v.word (by decide)
  simp [Ordering.code, Ordering.sortableCode, Ordering.orderCode, v.function, v.ifBlock, v.indented,
    line, imported, declared, own, blank, plain, Go.raw, Package.name, sortableName,
    orderName, Names.listParams, fixed, join, type, ident, default, members, order]

theorem findCode : Holds P (Repository.of s).findCode := by
  have fixed : ∀ t ∈ ["(r *", "Repository", ") ", "find", "(", "ctx ", "context.Context", ", ",
       "p ", "dto.", "ListParams", "search, paginate bool", "([]", "models.", ", int64, error)",
       "where, args := ", "Where", "(p, search)", "var total int64",
       "err := r.db.QueryRowContext(ctx, ", "`", "+where, args...).Scan(&total); err != nil",
       "return nil, 0, err", "query := ", "Select", " + where + ", "OrderBy", "(p)", "paginate",
       "query += ", "fmt.Sprintf", "(\" LIMIT %d OFFSET %d\", p.Limit, (p.Page-1)*p.Limit)",
       "rows, err := r.db.QueryContext(ctx, query, args...)", "err != nil", "defer rows.Close()",
       "out := []", "\x7b\x7d", "for rows.Next()", "m, err := ", "scan", "(rows)",
       "out = append(out, m)", "return out, total, rows.Err()"], P t := by
    repeat refine v.also (by decide) ?_
    exact List.forall_mem_nil P
  simp only [List.forall_mem_cons] at fixed
  have type : P (Repository.of s).typeName := v.spelled.type
  have ident : P (Repository.of s).ident := v.spelled.ident
  simp [Repository.findCode, Repository.method, Repository.failed, Repository.params,
    Repository.context, Repository.row, v.function, v.block, v.ifBlock, line, own, declared,
    imported, plain, Go.raw, separated, Package.name, Names.listParams, repositoryName,
    selectName, scanName, whereName, orderName, fixed, join, type, ident, v.phrasing.counting]

theorem insertCode :
    Holds P ((Repository.of s).insertCode (Repository.inserting s)) := by
  have fixed : ∀ t ∈ ["const ", "Insert", " = ", "`", "type ", "Queryer", " interface",
       "QueryRowContext(ctx ", "context.Context", ", query string, args ...any) *", "sql.Row",
       "insert", "(", "ctx ", ", q ", ", req ", "dto.", ") (", "models.", ", error)", "return ",
       "scan", "(q.QueryRowContext(ctx, ", "))"], P t := by
    repeat refine v.also (by decide) ?_
    exact List.forall_mem_nil P
  simp only [List.forall_mem_cons] at fixed
  have type : P (Repository.of s).typeName := v.spelled.type
  have ident : P (Repository.of s).ident := v.spelled.ident
  have request : P (Names.createRequest (Repository.of s).typeName) :=
    join (join (v.word (by decide)) type) (v.word (by decide))
  have passed := v.arguments (w := Repository.inserting s) rfl
  simp [Repository.insertCode, Repository.context, Repository.createRequest, Repository.row,
    v.function, v.block, line, own, declared, imported, plain, blank, Go.raw,
    Package.name, insertName, queryerName, insertRowName, scanName, fixed, join, type, ident,
    request, v.phrasing.inserting, passed]

theorem typeLine (t : GoType) : ∀ f ∈ t.line, P f.string := by
  induction t with
  | int bits =>
      refine List.forall_mem_singleton.mpr ?_
      cases bits with
      | zero => exact v.word (by decide)
      | succ n => exact join (v.word (by decide) : P "int") (v.words.numbers (n + 1))
  | float bits =>
      exact List.forall_mem_singleton.mpr
        (join (v.word (by decide) : P "float") (v.words.numbers bits))
  | slice element ih => exact List.forall_mem_cons.mpr ⟨v.word (by decide), ih⟩
  | pointer target ih => exact List.forall_mem_cons.mpr ⟨v.word (by decide), ih⟩
  | time =>
      have name : P ("time" ++ "." ++ "Time") :=
        join (join (v.word (by decide)) (v.word (by decide))) (v.word (by decide))
      exact List.forall_mem_singleton.mpr name
  | rawJson =>
      have name : P ("json" ++ "." ++ "RawMessage") :=
        join (join (v.word (by decide)) (v.word (by decide))) (v.word (by decide))
      exact List.forall_mem_singleton.mpr name
  | _ => exact List.forall_mem_singleton.mpr (v.word (by decide))

theorem method (k : EndpointKind) {body : List Line} (holds : Holds P body) :
    Holds P ((Repository.of s).method (Repository.comment? k) (accessName k)
      ((Repository.of s).accessArguments k) ((Repository.of s).accessResults k) body) := by
  have fixed : ∀ t ∈ ["(r *", "Repository", ") ", "(", "ctx ", "context.Context", ", ", "p ",
       "dto.", "ListParams", "([]", "models.", ", int64, error)", "req ", ", error)", "id ",
       "(bool, error)", "reqs []", "Stats"], P t := by
    repeat refine v.also (by decide) ?_
    exact List.forall_mem_nil P
  simp only [List.forall_mem_cons] at fixed
  have told : ∀ c ∈ Repository.comment? k, P ("// " ++ c) := by
    cases k <;> rintro c ⟨⟩ <;> exact join (v.word (by decide)) (v.word (by decide))
  have name : P (accessName k) := by cases k <;> exact v.word (by decide)
  have type : P (Repository.of s).typeName := v.spelled.type
  have key := eq_true (v.typeLine (Repository.of s).keyType)
  have create : P (Names.createRequest (Repository.of s).typeName) :=
    join (join (v.word (by decide)) type) (v.word (by decide))
  have update : P (Names.updateRequest (Repository.of s).typeName) :=
    join (join (v.word (by decide)) type) (v.word (by decide))
  rw [Repository.method, v.function told]
  refine ⟨?_, holds⟩
  cases k <;>
    simp [Repository.accessArguments, Repository.accessResults, Repository.context, Repository.row,
      Repository.key, Repository.params, Repository.createRequest, Repository.updateRequest,
      Repository.pageResults, Repository.rowResults, line, own, declared, imported, plain,
      separated, Package.name, Names.listParams, Names.stats, repositoryName, or_imp, forall_and,
      fixed, join, name, type, key, create, update]

theorem accessBody (k : EndpointKind) :
    Holds P ((Repository.of s).accessBody (Repository.access s k)) := by
  have fixed : ∀ t ∈ ["return []", "models.", "\x7b\x7d, 0, nil",
       "return r.find(ctx, p, true, true)", "where, args := ", "Where", "(p, false)", "var s ",
       "dto.", "Stats", "err := r.db.QueryRowContext(ctx, ", "`",
       "+where, args...).Scan(&s.Total)", "return s, err", "return ", "scan",
       "(r.db.QueryRowContext(ctx, ", "Select", "+", ", id))",
       "res, err := r.db.ExecContext(ctx, ", ", id)", "err != nil", "return false, err",
       "n, err := res.RowsAffected()", "return n > 0, err", "return r.find(ctx, p, false, true)",
       "rows, _, err := r.find(ctx, p, false, true)", "return rows, err", "insert",
       "(ctx, r.db, req)", "tx, err := r.db.BeginTx(ctx, nil)", "return nil, err",
       "defer tx.Rollback()", "out := make([]", ", 0, len(reqs))", "for _, req := range reqs",
       "m, err := ", "(ctx, tx, req)", "out = append(out, m)", "return out, tx.Commit()"], P t := by
    repeat refine v.also (by decide) ?_
    exact List.forall_mem_nil P
  simp only [List.forall_mem_cons] at fixed
  have type : P (Repository.of s).typeName := v.spelled.type
  have ident : P (Repository.of s).ident := v.spelled.ident
  cases k with
  | search =>
      rw [Repository.access]
      cases s.searches <;>
        simp [Repository.accessBody, Repository.row, line, imported, plain,
          Package.name, fixed, join, type]
  | stats =>
      have counting : P (Sql.Statement.count (tableName s) []).text := v.phrasing.counting
      simp [Repository.access, Repository.accessBody, line, own, imported, plain, Go.raw,
        Package.name, whereName, Names.stats, fixed, join, type, ident, counting]
  | get =>
      simp [Repository.access, Repository.accessBody, line, own, plain, Go.raw, selectName,
        scanName, fixed, join, type, ident, v.phrasing.keyed]
  | update =>
      have passed := v.arguments (w := Repository.updating s) rfl
      simp [Repository.access, Repository.accessBody, line, own, plain, Go.raw, scanName, fixed,
        join, type, v.phrasing.updating, passed]
  | delete =>
      simp [Repository.access, Repository.accessBody, Repository.failed, v.ifBlock, line, plain,
        Go.raw, fixed, join, v.phrasing.deletion]
  | _ =>
      simp [Repository.access, Repository.accessBody, Repository.bulkCode, Repository.failed,
        v.block, v.ifBlock, Repository.row, line, own, imported, plain, Package.name, insertRowName,
        fixed, join, type]

theorem accessCode (k : EndpointKind) :
    Holds P ((Repository.of s).accessCode (Repository.access s k)) := by
  rw [Repository.accessCode, Repository.accessKind]
  exact v.method k (v.accessBody k)

theorem code : Holds P (Repository.of s).code := by
  have given {α : Type} {c : Bool} {a : α} {print : α → List Line} (holds : Holds P (print a)) :
      Holds P (((if c then some a else none).map print).getD []) := by
    cases c with
    | true => exact holds
    | false => exact holdsNil
  rw [Repository.code]
  simp only [holdsAppend]
  exact ⟨⟨⟨⟨⟨v.typeCode, v.scanCode⟩, given v.criteriaCode⟩,
    given (holdsAppend.mpr ⟨v.orderingCode, v.findCode⟩)⟩, given v.insertCode⟩,
    holdsFlatMap (List.forall_mem_map.mpr fun e _ => v.accessCode e.kind)⟩

end Vocabulary

variable {s : Subject} {table : TableShape} {policy : Policy} {plan : List Endpoint}

section
variable (made : Subject.of table policy plan = .ok s)
include made

theorem namedWordly {name : String} (named : Named s name) : Naming.Wordly name.toList := by
  have spelled : Spelled (fun name => Naming.Wordly name.toList) table :=
    Server.spelled made fun wordly => wordly
  obtain ⟨rfl, -, -, -⟩ := Rendering.subjectOk made
  exact namedHolds spelled named

theorem vocabulary {P : String → Prop} (mute : ∀ {t : String}, Mute t.toList → P t)
    (deletes : s.softDeletes = false → P "DELETE FROM ")
    (nulls : s.softDeletes = true → P " IS NULL") : Vocabulary P s where
  mute := mute
  spelled := by
    have spelled : Spelled P table := Server.spelled made fun wordly =>
      mute (muteUnblank (wordly.without (by decide)) (wordly.without (by decide)))
    obtain ⟨rfl, -, -, -⟩ := Rendering.subjectOk made
    exact spelled
  quoted named := by
    have wordly := namedWordly made named
    have free : ' ' ∉ _ := wordly.without (by decide)
    refine mute (muteUnblank (quoteOneLine _) ?_)
    rw [(Naming.wordlyUnescaped wordly).quoted]
    simpa using free
  deletes := deletes
  nulls := nulls

end

end Server
end RestScaffold
