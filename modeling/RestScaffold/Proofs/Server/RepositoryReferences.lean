import RestScaffold.Proofs.Server.References

/-! What the code of a repository refers to. -/
namespace RestScaffold.Server
open Catalog Code Go Naming Text Word

section
variable {t : String} (wordly : Wordly t.toList)
include wordly

theorem repositoryWordly : Wordly (repositoryName t).toList := wordlyBefore wordly (by decide)

theorem newRepositoryWordly : Wordly (newRepositoryName t).toList :=
  wordlyAfter (by decide) (repositoryWordly wordly)

theorem selectWordly : Wordly (selectName t).toList := wordlyBefore wordly (by decide)

theorem insertWordly : Wordly (insertName t).toList := wordlyBefore wordly (by decide)

theorem scannerWordly : Wordly (scannerName t).toList := wordlyBefore wordly (by decide)

theorem queryerWordly : Wordly (queryerName t).toList := wordlyBefore wordly (by decide)

theorem scanWordly : Wordly (scanName t).toList := wordlyAfter (by decide) wordly

theorem insertRowWordly : Wordly (insertRowName t).toList := wordlyAfter (by decide) wordly

theorem whereWordly : Wordly (whereName t).toList := wordlyBefore wordly (by decide)

theorem sortableWordly : Wordly (sortableName t).toList := wordlyBefore wordly (by decide)

theorem orderWordly : Wordly (orderName t).toList := wordlyBefore wordly (by decide)

theorem paramsWordly : Wordly (Names.listParams t).toList := wordlyBefore wordly (by decide)

theorem createWordly : Wordly (Names.createRequest t).toList :=
  wordlyBefore (wordlyAfter (by decide) wordly) (by decide)

theorem updateWordly : Wordly (Names.updateRequest t).toList :=
  wordlyBefore (wordlyAfter (by decide) wordly) (by decide)

theorem statsWordly : Wordly (Names.stats t).toList := wordlyBefore wordly (by decide)

end

variable {D : Reference → Prop}

theorem numberedFits {format : String} (raw : Raw format) :
    Fits (Settled D) '\n' (lineText (Criteria.numberedClause format)) := by
  simp only [Criteria.numberedClause, line, imported, Go.raw, plain, List.flatten_cons,
    List.flatten_nil, List.cons_append, List.nil_append]
  apply spelledLine free
  -- Each fragment has one rule; what the rules ask of the fragments remains.
  repeat' with_reducible constructor
  all_goals with_reducible first
    | decide
    | exact raw
    | exact fitsForeign (by decide) (by decide) (by decide)

theorem filterFits {f : Filter} (wordly : Wordly f.field.toList) (known : D (.param f.field))
    (raw : Raw (Sql.quoted f.column)) : AllFit (Settled D) (Criteria.filterCode f) := by
  have field {n} := fitsParam (n := n) wordly known
  have format : Raw (Sql.quoted f.column ++ " = $%d") := Joins.append raw (by decide)
  simp only [Criteria.filterCode, allFitIf, allFitCons, allFitNil, and_true]
  refine ⟨?_, ?_, numberedFits format⟩
  · refine spelledLine free (.fixed (.parts (.fixed (.fixed .nil ?_) ?_) (field ?_)) ?_) <;>
      decide
  · split
    · refine spelledLine free (.fixed (.fixed (.parts (.fixed .nil ?_) (field ?_)) ?_) ?_) <;>
        decide
    · refine spelledLine free (.fixed (.empty (.parts (.fixed .nil ?_) (field ?_))) ?_) <;>
        decide

theorem searchFits {columns : List SearchedColumn} (searched : columns ≠ [] → D (.param "Q"))
    (raw : ∀ d ∈ columns, Raw d.text) : AllFit (Settled D) (Criteria.searchCode columns) := by
  have opening : Raw "(" := by decide
  have closing : Raw ")" := by decide
  have listed : Raw (" OR ".intercalate (columns.map SearchedColumn.text)) :=
    joinsIntercalate (by decide) (List.forall_mem_map.mpr raw)
  have format : Raw ("(" ++ " OR ".intercalate (columns.map SearchedColumn.text) ++ ")") :=
    Joins.append (Joins.append opening listed) closing
  rw [Criteria.searchCode]
  split
  · exact allFitNil
  · rename_i some
    have query : ∀ ref ∈ [Reference.param "Q"], D ref :=
      List.forall_mem_singleton.mpr (searched (by simpa using some))
    have sound := fun w => withinSettled (w := w) query
    simp only [allFitIf, allFitCons, allFitNil, and_true]
    refine ⟨spelledLine sound (.fixed (.fixed (.fixed .nil ?_) ?_) ?_),
      spelledLine sound (.fixed .nil ?_), numberedFits format⟩ <;> decide

theorem criteriaFits {c : Criteria} (type : Wordly c.typeName.toList)
    (ident : Wordly c.ident.toList) (params : D (.imported .dto (Names.listParams c.typeName)))
    (where' : D (.function (whereName c.ident)))
    (always : ∀ condition ∈ c.always, Raw condition.text)
    (filters : ∀ f ∈ c.filters,
      Wordly f.field.toList ∧ D (.param f.field) ∧ Raw (Sql.quoted f.column))
    (searched : c.searched ≠ [] → D (.param "Q")) (texts : ∀ d ∈ c.searched, Raw d.text) :
    AllFit (Settled D) c.code := by
  have params {n} := fitsImported (n := n) (paramsWordly type) fun _ => params
  have where' {n} := fitsFunction (n := n) (whereWordly ident) where'
  have fixed : ∀ condition ∈ c.always,
      Fits (Settled D) '\n' (lineText (Criteria.fixedClause condition)) := by
    intro condition member
    refine spelledLine free (.fixed (.raw (.fixed .nil ?_) (always condition member)) ?_)
      <;> decide
  have each : ∀ f ∈ c.filters, AllFit (Settled D) (Criteria.filterCode f) := fun f member =>
    filterFits (filters f member).1 (filters f member).2.1 (filters f member).2.2
  simp [-textCons, Criteria.code, eq_true fixed, eq_true each, eq_true (searchFits searched texts),
    line, imported, declared, plain]
  and_intros <;> apply spelledLine free
  all_goals repeat' with_reducible constructor
  all_goals with_reducible first
    | decide
    | exact params (by decide)
    | exact where' (by decide)
    | exact fitsForeign (by decide) (by decide) (by decide)

theorem quotePart {P : Word → Prop} {n : Char} (text : String) :
    Part P '"' n (GoString.quote text) :=
  ⟨⟨readsGoString text n, quoteOneLine text⟩,
    followsFirst (by rw [GoString.quote, String.toList_ofList, GoString.encode]; rfl)⟩

theorem orderingFits {o : Ordering} (type : Wordly o.typeName.toList)
    (ident : Wordly o.ident.toList) (params : D (.imported .dto (Names.listParams o.typeName)))
    (order : D (.function (orderName o.ident)))
    (given : ∀ ref ∈ [Reference.param "Sort", .param "Order"], D ref) :
    AllFit (Settled D) o.code := by
  have sound := fun w => withinSettled (w := w) given
  have params {n} := fitsImported (n := n) (paramsWordly type) fun _ => params
  have order {n} := fitsFunction (n := n) (orderWordly ident) order
  have sortable {n} := fitsNamed (D := D) (n := n) (sortableWordly ident)
  have tab : Shift "\t" := by decide
  have columns : ∀ c ∈ o.columns,
      Fits (Settled D) '\n' (lineText (plain (GoString.quote c ++ ": true,"))) := by
    intro c member
    have joined : lineText (plain (GoString.quote c ++ ": true,")) =
        lineText [.text (GoString.quote c), .text ": true,"] := by simp [plain]
    rw [joined]
    exact spelledLine sound (.text (.fixed .nil (by decide)) (quotePart c))
  have default : Fits (Settled D) '\n' (lineText (line ["col := ", GoString.quote o.default])) :=
    spelledLine sound (.fixed (.text .nil (quotePart _)) (by decide))
  have direction :
      Fits (Settled D) '\n' (lineText (line ["dir := ", GoString.quote o.order.sql])) :=
    spelledLine sound (.fixed (.text .nil (quotePart _)) (by decide))
  simp only [Ordering.code, Ordering.sortableCode, Ordering.orderCode, allFitAppend, allFitCons,
    allFitNil, allFitMap, allFitIndented tab, allFitFunction, allFitIf, eq_true columns, default,
    direction, true_and, and_true]
  simp [-textCons, line, imported, declared, own, blank, plain, Go.raw, fitsEmpty]
  and_intros <;> apply spelledLine sound
  all_goals repeat' with_reducible constructor
  all_goals with_reducible first
    | decide
    | exact params (by decide)
    | exact order (by decide)
    | exact sortable (by decide) (by decide)
    | exact fitsForeign (by decide) (by decide) (by decide)

theorem fitsListed {P : Word → Prop} {n : Char} {items : List String}
    (each : ∀ item ∈ items, Fits P ',' item ∧ Fits P n item) :
    Fits P n (", ".intercalate items) := by
  have comma : Fits P 'a' ", " :=
    fitsWordless (by decide)
  induction items with
  | nil => exact fitsEmpty
  | cons item rest ih =>
      obtain ⟨first, others⟩ := List.forall_mem_cons.mp each
      cases rest with
      | nil => simpa using first.2
      | cons next more =>
          rw [String.intercalate_cons_cons]
          exact ((first.1.append comma).apart _).append (ih others)

theorem scannedFits {fields : List String} (wordly : ∀ f ∈ fields, Wordly f.toList) :
    Fits (Settled D) '\n'
      ("err := row.Scan(" ++ ", ".intercalate (fields.map ("&m." ++ ·)) ++ ")") := by
  have mark : Fits (Settled D) 'a' "&" := fitsFixed free (by decide)
  have each : ∀ item ∈ fields.map ("&m." ++ ·), Fits (Settled D) ',' item ∧
      Fits (Settled D) ')' item := by
    refine List.forall_mem_map.mpr fun f member => ?_
    have split : "&m." ++ f = "&" ++ ("m." ++ f) := by
      rw [← String.append_assoc]
      rfl
    rw [split]
    exact ⟨(mark.apart _).append (fitsRowField (wordly f member) (by decide)).fits,
      (mark.apart _).append (fitsRowField (wordly f member) (by decide)).fits⟩
  have opening : Fits (Settled D) 'a' "err := row.Scan(" := fitsFixed free (by decide)
  have closing : Fits (Settled D) '\n' ")" := fitsFixed free (by decide)
  exact ((opening.apart _).append (fitsListed each)).append closing

theorem argumentsPart {w : Writing} {n : Char} (wordly : ∀ f ∈ w.fields, Wordly f.toList)
    (outside : inWord n = false) :
    Repository.arguments w = "" ∨ Part (Settled D) ',' n (Repository.arguments w) := by
  have comma : Fits (Settled D) 'a' ", " := fitsFixed free (by decide)
  have field (f : String) (member : f ∈ w.fields) (n : Char) (outside : inWord n = false) :
      Fits (Settled D) n (", req." ++ f) := by
    have split : ", req." ++ f = ", " ++ ("req." ++ f) := by
      rw [← String.append_assoc]
      rfl
    rw [split]
    exact (comma.apart _).append (fitsRequestField (wordly f member) outside).fits
  have all (fields : List String) (known : ∀ f ∈ fields, f ∈ w.fields) :
      Fits (Settled D) n (String.join (fields.map (", req." ++ ·))) := by
    induction fields with
    | nil => exact fitsEmpty
    | cons f rest ih =>
        obtain ⟨own, others⟩ := List.forall_mem_cons.mp known
        rw [List.map_cons, String.join_cons]
        refine Fits.append (field f own _ ?_) (ih others)
        cases rest with
        | nil => exact outside
        | cons g more =>
            have mark : inWord ',' = false := by decide
            simpa using mark
  cases fields : w.fields with
  | nil => exact .inl (by rw [Repository.arguments, fields]; rfl)
  | cons f rest =>
      have begins : (Repository.arguments w).toList.head? = some ',' := by
        simp [Repository.arguments, fields]
      exact .inr ⟨all w.fields fun _ member => member, followsFirst begins⟩

section
variable (r : Repository) (type : Wordly r.typeName.toList) (ident : Wordly r.ident.toList)

section
include type ident

theorem typeFits (named : OneLine r.qualifiedName) (raw : Raw r.selection.text)
    (create : D (.function (newRepositoryName r.typeName))) :
    AllFit (Settled D) r.typeCode := by
  have oneLine : OneLine (repositoryName r.typeName ++ " reads and writes " ++
      r.qualifiedName ++ ".") := by
    have middle : OneLine " reads and writes " ∧ OneLine "." :=
      ⟨oneLineFixed (by decide), oneLineFixed (by decide)⟩
    simp [wordlyOneLine (repositoryWordly type), middle, named]
  have constant {n} := fitsNamed (D := D) (n := n) (selectWordly ident)
  have repository {n} := fitsNamed (D := D) (n := n) (repositoryWordly type)
  have create {n} := fitsFunction (n := n) (newRepositoryWordly type) create
  simp [-textCons, Repository.typeCode, allFitStruct oneLine, line, imported, declared, own, blank,
    plain, Go.raw, fitsEmpty]
  and_intros <;> apply spelledLine free
  all_goals repeat' with_reducible constructor
  all_goals with_reducible first
    | decide
    | exact raw
    | exact constant (by decide) (by decide)
    | exact repository (by decide) (by decide)
    | exact create (by decide)
    | exact fitsForeign (by decide) (by decide) (by decide)

theorem scanFits (scanned : ∀ f ∈ r.scanned, Wordly f.toList)
    (row : D (.imported .models r.typeName)) (scan : D (.function (scanName r.typeName))) :
    AllFit (Settled D) r.scanCode := by
  have scanner {n} := fitsNamed (D := D) (n := n) (scannerWordly ident)
  have row {n} := fitsImported (n := n) type fun _ => row
  have scan {n} := fitsFunction (n := n) (scanWordly type) scan
  have call : Fits (Settled D) '\n' (lineText (plain
      ("err := row.Scan(" ++ ", ".intercalate (r.scanned.map ("&m." ++ ·)) ++ ")"))) := by
    rw [plainText]
    exact scannedFits scanned
  simp only [Repository.scanCode, allFitAppend, allFitCons, allFitNil, allFitBlock, allFitFunction,
    call, true_and, and_true]
  simp [-textCons, Repository.row, line, imported, declared, own, blank, plain, fitsEmpty]
  and_intros <;> apply spelledLine free
  all_goals repeat' with_reducible constructor
  all_goals with_reducible first
    | decide
    | exact row (by decide)
    | exact scan (by decide)
    | exact scanner (by decide) (by decide)

theorem findFits (raw : Raw r.counting.text) (row : D (.imported .models r.typeName))
    (params : D (.imported .dto (Names.listParams r.typeName)))
    (find : D (.function "find")) (scan : D (.function (scanName r.typeName)))
    (where' : D (.function (whereName r.ident))) (order : D (.function (orderName r.ident)))
    (given : ∀ ref ∈ [Reference.param "Limit", .param "Page"], D ref) :
    AllFit (Settled D) r.findCode := by
  have sound := fun w => withinSettled (w := w) given
  have repository {n} := fitsNamed (D := D) (n := n) (repositoryWordly type)
  have select {n} := fitsNamed (D := D) (n := n) (selectWordly ident)
  have row {n} := fitsImported (n := n) type fun _ => row
  have params {n} := fitsImported (n := n) (paramsWordly type) fun _ => params
  have find {n} := fitsFunction (n := n) (wordlyFixed (by decide)) find
  have scan {n} := fitsFunction (n := n) (scanWordly type) scan
  have where' {n} := fitsFunction (n := n) (whereWordly ident) where'
  have order {n} := fitsFunction (n := n) (orderWordly ident) order
  simp [-textCons, Repository.findCode, Repository.method, Repository.params, Repository.context,
    Repository.row, Repository.failed, separated, line, imported, declared, own, plain, Go.raw]
  and_intros <;> apply spelledLine sound
  all_goals repeat' with_reducible constructor
  all_goals with_reducible first
    | decide
    | exact raw
    | exact repository (by decide) (by decide)
    | exact select (by decide) (by decide)
    | exact row (by decide)
    | exact params (by decide)
    | exact find (by decide)
    | exact scan (by decide)
    | exact where' (by decide)
    | exact order (by decide)
    | exact fitsForeign (by decide) (by decide) (by decide)

theorem insertFits {w : Writing} (raw : Raw w.statement.text)
    (fields : ∀ f ∈ w.fields, Wordly f.toList) (row : D (.imported .models r.typeName))
    (request : D (.imported .dto (Names.createRequest r.typeName)))
    (scan : D (.function (scanName r.typeName)))
    (insert : D (.function (insertRowName r.typeName))) :
    AllFit (Settled D) (r.insertCode w) := by
  have constant {n} := fitsNamed (D := D) (n := n) (insertWordly ident)
  have queryer {n} := fitsNamed (D := D) (n := n) (queryerWordly ident)
  have row {n} := fitsImported (n := n) type fun _ => row
  have request {n} := fitsImported (n := n) (createWordly type) fun _ => request
  have scan {n} := fitsFunction (n := n) (scanWordly type) scan
  have insert {n} := fitsFunction (n := n) (insertRowWordly type) insert
  have answer : Fits (Settled D) '\n' (lineText (line ["return ", own (scanName r.typeName),
      "(q.QueryRowContext(ctx, ", own (insertName r.ident), Repository.arguments w, "))"])) := by
    rcases argumentsPart fields (by decide : inWord ')' = false) with none | part
    · rw [none]
      refine spelledLine free (.fixed (.own (.fixed (.own (.empty (.fixed .nil ?_))
        (constant ?_ ?_)) ?_) (scan ?_)) ?_) <;> decide
    · refine spelledLine free (.fixed (.own (.fixed (.own (.text (.fixed .nil ?_) part)
        (constant ?_ ?_)) ?_) (scan ?_)) ?_) <;> decide
  simp only [Repository.insertCode, allFitAppend, allFitCons, allFitNil, allFitBlock,
    allFitFunction, answer, and_true]
  simp [-textCons, Repository.row, Repository.context, Repository.createRequest, line, imported,
    declared, own, blank, plain, Go.raw, fitsEmpty]
  and_intros <;> apply spelledLine free
  all_goals repeat' with_reducible constructor
  all_goals with_reducible first
    | decide
    | exact raw
    | exact constant (by decide) (by decide)
    | exact queryer (by decide) (by decide)
    | exact row (by decide)
    | exact request (by decide)
    | exact scan (by decide)
    | exact insert (by decide)
    | exact fitsForeign (by decide) (by decide) (by decide)

end

def accessReferences (r : Repository) (k : EndpointKind) : List Reference :=
  .function (accessName k) :: match k with
    | .list | .search | .export =>
        [.imported .dto (Names.listParams r.typeName), .imported .models r.typeName, .method "find"]
    | .stats =>
        [.imported .dto (Names.listParams r.typeName), .imported .dto (Names.stats r.typeName),
          .function (whereName r.ident)]
    | .get => [.imported .models r.typeName, .function (scanName r.typeName)]
    | .create | .bulk =>
        [.imported .models r.typeName, .imported .dto (Names.createRequest r.typeName),
          .function (insertRowName r.typeName)]
    | .update =>
        [.imported .models r.typeName, .imported .dto (Names.updateRequest r.typeName),
          .function (scanName r.typeName)]
    | .delete => []

def KeyWord (type : GoType) : Prop := ∃ word, type.line = [.text word] ∧ Wordly word.toList

variable {k : EndpointKind}

theorem accessWordly (k : EndpointKind) : Wordly (accessName k).toList := by
  cases k <;> exact wordlyFixed (by decide)

include type in
theorem methodFits (known : ∀ ref ∈ accessReferences r k, D ref) (key : KeyWord r.keyType)
    {body : List Line} (fit : AllFit (Settled D) body) :
    AllFit (Settled D) (r.method (Repository.comment? k) (accessName k) (r.accessArguments k)
      (r.accessResults k) body) := by
  obtain ⟨word, line', wordly⟩ := key
  have told : ∀ c ∈ Repository.comment? k, Fits (Settled D) '\n' ("// " ++ c) := by
    cases k <;> rintro c ⟨⟩ <;> exact fitsComment (oneLineFixed (by decide))
  have repository {n} := fitsNamed (D := D) (n := n) (repositoryWordly type)
  have key {n} := fitsNamed (D := D) (n := n) wordly
  have row {n} (member) := fitsImported (n := n) type fun _ => known (.imported .models _) member
  have params {n} (member) :=
    fitsImported (n := n) (paramsWordly type) fun _ => known (.imported .dto _) member
  have create {n} (member) :=
    fitsImported (n := n) (createWordly type) fun _ => known (.imported .dto _) member
  have update {n} (member) :=
    fitsImported (n := n) (updateWordly type) fun _ => known (.imported .dto _) member
  have stats {n} (member) :=
    fitsImported (n := n) (statsWordly type) fun _ => known (.imported .dto _) member
  have name {n} := fitsFunction (n := n) (accessWordly k)
    (known (.function (accessName k)) List.mem_cons_self)
  simp only [Repository.method, allFitFunction]
  refine ⟨told, ?_, fit⟩
  cases k
  all_goals
    simp [-textCons, Repository.accessArguments, Repository.accessResults, Repository.context,
      Repository.params, Repository.key, line', Repository.createRequest, Repository.updateRequest,
      Repository.pageResults, Repository.rowResults, Repository.row, separated, line, imported,
      declared, own, plain]
    apply spelledLine free
    repeat' with_reducible constructor
    all_goals with_reducible first
      | decide
      | exact repository (by decide) (by decide)
      | exact key (by decide) (by decide)
      | exact name (by decide)
      | exact row (by simp [accessReferences]) (by decide)
      | exact params (by simp [accessReferences]) (by decide)
      | exact create (by simp [accessReferences]) (by decide)
      | exact update (by simp [accessReferences]) (by decide)
      | exact stats (by simp [accessReferences]) (by decide)
      | exact fitsForeign (by decide) (by decide) (by decide)

def Access.raw : Access → List String
  | .stats count => [count.text]
  | .get conditions => [Sql.whereText conditions]
  | .update writing => [writing.statement.text]
  | .delete statement => [statement.text]
  | .list | .search _ | .export | .create | .bulk => []

def Access.fields : Access → List String
  | .update writing => writing.fields
  | _ => []

include type ident in
theorem bodyFits {a : Access} (known : ∀ ref ∈ accessReferences r a.kind, D ref)
    (raw : ∀ t ∈ a.raw, Raw t) (fields : ∀ f ∈ a.fields, Wordly f.toList) :
    AllFit (Settled D) (r.accessBody a) := by
  have select {n} := fitsNamed (D := D) (n := n) (selectWordly ident)
  have row {n} (member) := fitsImported (n := n) type fun _ => known (.imported .models _) member
  have stats {n} (member) :=
    fitsImported (n := n) (statsWordly type) fun _ => known (.imported .dto _) member
  have scan {n} (member) := fitsFunction (n := n) (scanWordly type) (known _ member)
  have insert {n} (member) := fitsFunction (n := n) (insertRowWordly type) (known _ member)
  have where' {n} (member) := fitsFunction (n := n) (whereWordly ident) (known _ member)
  have finds (member : .method "find" ∈ accessReferences r a.kind) :
      ∀ w, within [.method "find"] w = true → Settled D w := fun _ =>
    withinSettled (List.forall_mem_singleton.mpr (known _ member))
  cases a with
  | list =>
      simp only [Repository.accessBody, allFitCons, allFitNil, and_true]
      exact spelledLine (finds (by simp [Access.kind, accessReferences]))
        (.fixed .nil (by decide))
  | search matching =>
      cases matching with
      | true =>
          simp only [Repository.accessBody, allFitCons, allFitNil, and_true]
          exact spelledLine (finds (by simp [Access.kind, accessReferences]))
            (.fixed .nil (by decide))
      | false =>
          simp only [Repository.accessBody, allFitCons, allFitNil, and_true]
          refine spelledLine free (.fixed (.imported (.fixed .nil ?_)
            (row (by simp [Access.kind, accessReferences]) ?_)) ?_) <;> decide
  | «export» =>
      simp only [Repository.accessBody, allFitCons, allFitNil, and_true]
      refine ⟨spelledLine (finds (by simp [Access.kind, accessReferences])) (.fixed .nil ?_),
        spelledLine free (.fixed .nil ?_)⟩ <;> decide
  | update writing =>
      have statement := raw _ List.mem_cons_self
      simp only [Repository.accessBody, allFitCons, allFitNil, and_true]
      rcases argumentsPart fields (by decide : inWord ',' = false) with none | part
      · rw [none]
        refine spelledLine free (.fixed (.own (.fixed (.raw (.empty (.fixed .nil ?_)) statement) ?_)
          (scan (by simp [Access.kind, accessReferences]) ?_)) ?_) <;> decide
      · refine spelledLine free (.fixed (.own (.fixed (.raw (.text (.fixed .nil ?_) part)
          statement) ?_) (scan (by simp [Access.kind, accessReferences]) ?_)) ?_) <;> decide
  | stats | get | create | bulk | delete =>
      simp [-textCons, Repository.accessBody, Repository.bulkCode, Repository.failed,
        Repository.row, line, imported, own, plain, Go.raw]
      and_intros <;> apply spelledLine free
      all_goals repeat' with_reducible constructor
      all_goals with_reducible first
        | decide
        | exact raw _ List.mem_cons_self
        | exact select (by decide) (by decide)
        | exact row (by simp [Access.kind, accessReferences]) (by decide)
        | exact stats (by simp [Access.kind, accessReferences]) (by decide)
        | exact scan (by simp [Access.kind, accessReferences]) (by decide)
        | exact insert (by simp [Access.kind, accessReferences]) (by decide)
        | exact where' (by simp [Access.kind, accessReferences]) (by decide)

end

variable {s : Subject}

theorem plannedKind {e : Endpoint} (member : e ∈ s.plan) : s.has e.kind = true :=
  List.any_eq_true.mpr ⟨e, member, by simp⟩

structure Shared (D : Reference → Prop) (s : Subject) : Prop where
  row : D (.imported .models s.typeName)
  columns : D (.imported .models (columnsName s.typeName))
  repository : D (.imported .repository (repositoryName s.typeName))
  handler : D (.imported .handlers (handlerName s.typeName))
  params : s.needsListParams = true → D (.imported .dto (Names.listParams s.typeName))
  create : s.needsCreateShape = true → D (.imported .dto (Names.createRequest s.typeName))
  update : s.has .update = true → D (.imported .dto (Names.updateRequest s.typeName))
  page : s.needsPageShape = true → D (.imported .dto (Names.page s.typeName))
  stats : s.has .stats = true → D (.imported .dto (Names.stats s.typeName))
  fixed : s.needsListParams = true → ∀ name ∈ ["Page", "Limit", "Sort", "Order"], D (.param name)
  query : s.searches = true → D (.param "Q")
  format : s.has .export = true → D (.param "Format")
  filters : s.needsListParams = true → ∀ c ∈ s.filterColumns, D (.param (filterFieldName c))
  access : ∀ k, s.has k = true → D (.access (accessName k))

structure RepositoryHelpers (D : Reference → Prop) (s : Subject) : Prop where
  create : D (.function (newRepositoryName s.typeName))
  scan : D (.function (scanName s.typeName))
  clauses : s.needsListParams = true → D (.function (whereName s.ident))
  order : s.listsRows = true → D (.function (orderName s.ident))
  find : s.listsRows = true → D (.function "find") ∧ D (.method "find")
  insert : s.needsCreateShape = true → D (.function (insertRowName s.typeName))
  access : ∀ k, s.has k = true → D (.function (accessName k))

theorem decimalWordly (n : Nat) : Wordly (toString n).toList := by
  intro c member
  have digit := Nat.isDigit_of_mem_toDigits (by decide) (by decide) (Nat.toList_repr ▸ member)
  simp [isWordly, Char.isAlphanum, digit]

theorem Spelled.mono {P Q : String → Prop} {table : TableShape} (spelled : Spelled P table)
    (holds : ∀ {name : String}, P name → Q name) : Spelled Q table :=
  ⟨holds spelled.schema, holds spelled.name, holds spelled.type, holds spelled.ident,
    fun c member => ⟨holds (spelled.columns c member).1, holds (spelled.columns c member).2⟩,
    holds spelled.key, spelled.some⟩

theorem rawPhrasing (spelled : Spelled (fun name => Wordly name.toList) s.table) :
    Phrasing Raw s where
  words := ⟨by decide, fun n => wordlyRaw (decimalWordly n)⟩
  spelled := spelled.mono wordlyRaw
  deletes _ := by decide
  nulls _ := by decide

theorem keyWord (s : Subject) : KeyWord (Server.keyType s) := by
  have known := keyTypeKnown s
  simp only [List.mem_cons, List.not_mem_nil, or_false] at known
  rcases known with form | form | form | form | form | form <;> rw [form] <;>
    exact ⟨_, rfl, List.all_eq_true.mp (by decide)⟩

section
variable (spelled : Spelled (fun name => Wordly name.toList) s.table) (shared : Shared D s)
  (own : RepositoryHelpers D s)
include shared own

theorem accessKnown {k : EndpointKind} (planned : s.has k = true) :
    ∀ ref ∈ accessReferences (Repository.of s) k, D ref := by
  refine List.forall_mem_cons.mpr ⟨own.access k planned, ?_⟩
  cases k with
  | list | search | «export» =>
      have lists : s.listsRows = true := by simp [Subject.listsRows, planned]
      have needed : s.needsListParams = true := by simp [Subject.needsListParams, lists]
      simpa using ⟨shared.params needed, shared.row, (own.find lists).2⟩
  | stats =>
      have needed : s.needsListParams = true := by simp [Subject.needsListParams, planned]
      simpa using ⟨shared.params needed, shared.stats planned, own.clauses needed⟩
  | get => simpa using ⟨shared.row, own.scan⟩
  | create | bulk =>
      have needed : s.needsCreateShape = true := by simp [Subject.needsCreateShape, planned]
      simpa using ⟨shared.row, shared.create needed, own.insert needed⟩
  | update => simpa using ⟨shared.row, shared.update planned, own.scan⟩
  | delete => exact List.forall_mem_nil D

include spelled

section
omit shared own

theorem writableWordly : ∀ f ∈ Repository.writableFields s, Wordly f.toList :=
  List.forall_mem_map.mpr fun c member => (spelled.columns c (TableShape.writableMember member)).2

theorem qualifiedOneLine : OneLine s.table.qualifiedName := by
  have dot : OneLine "." := by decide
  simp [TableShape.qualifiedName, wordlyOneLine spelled.schema, wordlyOneLine spelled.name, dot]

theorem filterWordly {c : ColumnShape} (member : c ∈ s.table.columns) :
    Wordly (filterFieldName c).toList := by
  have field := (spelled.columns c member).2
  rw [filterFieldName]
  split
  · exact wordlyBefore field (by decide)
  · exact field

theorem criteriaRaw : (∀ condition ∈ (Criteria.of s).always, Raw condition.text) ∧
    (∀ f ∈ (Criteria.of s).filters, Raw (Sql.quoted f.column)) ∧
    ∀ d ∈ (Criteria.of s).searched, Raw d.text := by
  have q := rawPhrasing spelled
  have columns : ∀ name ∈ (Criteria.of s).columns, Raw (Sql.quoted name) := fun name member =>
    Sql.quotedHolds q.words (namedHolds q.spelled (criteriaNamed name member))
  refine ⟨fun condition member => ?_, fun f member => columns _ ?_, fun d member => ?_⟩
  · have known := columns condition.column
      (List.mem_append_left _ (List.mem_append_left _ (List.mem_map_of_mem member)))
    have marks : condition = .isNull deletedAt := by
      have live : condition ∈ liveConditions s := member
      unfold liveConditions at live
      split at live
      · exact List.mem_singleton.mp live
      · contradiction
    rw [marks] at known ⊢
    exact Joins.append known (by decide)
  · exact List.mem_append_left _ (List.mem_append_right _ (List.mem_map_of_mem member))
  · have cast : Raw (if d.textual then "" else "::text") := by
      split <;> decide
    have known := columns d.column (List.mem_append_right _ (List.mem_map_of_mem member))
    exact Joins.append (Joins.append known cast) (by decide)

end

theorem accessFits {k : EndpointKind} (planned : s.has k = true) :
    AllFit (Settled D) ((Repository.of s).accessCode (Repository.access s k)) := by
  have q := rawPhrasing spelled
  have known := accessKnown shared own planned
  have same := Repository.accessKind s k
  have body : AllFit (Settled D) ((Repository.of s).accessBody (Repository.access s k)) := by
    refine bodyFits (Repository.of s) spelled.type spelled.ident (by rwa [same]) ?_ ?_
    · cases k with
      | stats =>
          rw [Repository.access, Access.raw, List.forall_mem_singleton]
          exact q.counting
      | get =>
          rw [Repository.access, Access.raw, List.forall_mem_singleton]
          exact q.keyed 1
      | update => exact List.forall_mem_singleton.mpr q.updating
      | delete => exact List.forall_mem_singleton.mpr q.deletion
      | list | search | «export» | create | bulk => exact List.forall_mem_nil Raw
    · cases k with
      | update => exact writableWordly spelled
      | _ => exact List.forall_mem_nil _
  rw [Repository.accessCode, same]
  exact methodFits (Repository.of s) spelled.type known (keyWord s) body

theorem repositoryFits : AllFit (Settled D) (Repository.of s).code := by
  have q := rawPhrasing spelled
  have scanned : ∀ f ∈ (Repository.of s).scanned, Wordly f.toList :=
    List.forall_mem_map.mpr fun c member => (spelled.columns c member).2
  have named : OneLine (Repository.of s).qualifiedName :=
    qualifiedOneLine spelled
  simp only [Repository.code, allFitAppend, allFitOption, allFitFlatMap]
  refine ⟨⟨⟨⟨⟨typeFits _ spelled.type spelled.ident named q.selection own.create,
    scanFits _ spelled.type spelled.ident scanned shared.row own.scan⟩, ?_⟩, ?_⟩, ?_⟩, ?_⟩
  · intro c made
    obtain ⟨needed, rfl⟩ : s.needsListParams = true ∧ Criteria.of s = c := by
      simpa [Repository.of] using made
    obtain ⟨always, filters, searched⟩ := criteriaRaw spelled
    refine criteriaFits spelled.type spelled.ident (shared.params needed) (own.clauses needed)
      always (fun f member => ?_) (fun some => shared.query ?_) searched
    · obtain ⟨c, known, rfl⟩ := List.mem_map.mp member
      exact ⟨filterWordly spelled (TableShape.namedMember known), shared.filters needed c known,
        filters _ member⟩
    · by_contra idle
      exact some (if_neg idle)
  · intro o made
    obtain ⟨lists, rfl⟩ : s.listsRows = true ∧ Ordering.of s = o := by
      simpa [Repository.of] using made
    have needed : s.needsListParams = true := by simp [Subject.needsListParams, lists]
    have fixed := shared.fixed needed
    simp only [List.forall_mem_cons] at fixed
    obtain ⟨page, limit, sort, order, -⟩ := fixed
    refine ⟨orderingFits spelled.type spelled.ident (shared.params needed) (own.order lists)
        (by simpa using ⟨sort, order⟩),
      findFits _ spelled.type spelled.ident q.counting shared.row (shared.params needed)
        (own.find lists).1 own.scan (own.clauses needed) (own.order lists)
        (by simpa using ⟨limit, page⟩)⟩
  · intro w made
    obtain ⟨needed, rfl⟩ : s.needsCreateShape = true ∧ Repository.inserting s = w := by
      simpa [Repository.of] using made
    exact insertFits (Repository.of s) spelled.type spelled.ident q.inserting
      (writableWordly spelled) shared.row (shared.create needed) own.scan (own.insert needed)
  · refine List.forall_mem_map.mpr fun e member => ?_
    exact accessFits spelled shared own (plannedKind member)

end

end RestScaffold.Server
