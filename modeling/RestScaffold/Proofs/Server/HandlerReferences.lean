import RestScaffold.Proofs.Server.RepositoryReferences

/-! What the code of the handlers refers to. -/
namespace RestScaffold.Server
open Catalog Code Go Naming Text Word

variable {D : Reference → Prop}

section
variable {t : String} (wordly : Wordly t.toList)
include wordly

theorem handlerWordly : Wordly (handlerName t).toList := wordlyBefore wordly (by decide)

theorem newHandlerWordly : Wordly (newHandlerName t).toList :=
  wordlyAfter (by decide) (handlerWordly wordly)

theorem readParamsWordly : Wordly (readParamsName t).toList := wordlyBefore wordly (by decide)

theorem readKeyWordly : Wordly (readKeyName t).toList := wordlyBefore wordly (by decide)

theorem recordWordly : Wordly (recordName t).toList := wordlyBefore wordly (by decide)

theorem columnsWordly : Wordly (columnsName t).toList := wordlyBefore wordly (by decide)

theorem pageWordly : Wordly (Names.page t).toList := wordlyBefore wordly (by decide)

end

theorem refuseFits {condition : Line} {c : Char} {status message : List Char}
    (opening : Fits (Settled D) '\n' (lineText (line [line ["if ", condition], " \x7b"])))
    (named : status.all isWordly = true) (told : Checked (within []) '\x7d' (c :: message)) :
    AllFit (Settled D) (Handler.refuse condition (String.ofList status)
      [.text (String.ofList (c :: message))]) := by
  have status {n} := fitsForeign (D := D) (n := n) (p := .http) (by decide) named
  have gin {n} (outside : inWord n = false) :
      FitsWord (Settled D) n (Package.gin.name ++ "." ++ "H") :=
    fitsForeign (by decide) (by decide) outside
  have key : Checked (within []) c ['"', 'e', 'r', 'r', 'o', 'r', '"', ':', ' '] :=
    ⟨rfl, by decide⟩
  simp only [Handler.refuse, Handler.answer, allFitIf, allFitCons, allFitNil, and_true]
  refine ⟨opening, spelledLine free (.fixed (.imported (.fixed (.imported (.fixed (.fixed (.fixed
    (.fixed (.fixed .nil ?_) ?_) told) key) ?_) (gin ?_)) ?_) (status ?_)) ?_),
    spelledLine free (.fixed .nil ?_)⟩ <;> decide

theorem refuseErrorsFits {status : List Char} (named : status.all isWordly = true) :
    AllFit (Settled D) (Handler.refuseErrors (String.ofList status)) :=
  refuseFits (spelledLine free (.fixed (.fixed (.fixed .nil (by decide)) (by decide))
    (by decide))) named (by decide)

theorem answerFits {c : Char} {status told : List Char} (named : status.all isWordly = true)
    (checked : Checked (within []) ')' (c :: told)) :
    AllFit (Settled D)
      [Handler.answer (String.ofList status) [.text (String.ofList (c :: told))]] := by
  have status {n} := fitsForeign (D := D) (n := n) (p := .http) (by decide) named
  have comma : Checked (within []) c [',', ' '] := ⟨rfl, by decide⟩
  simp only [Handler.answer, allFitCons, allFitNil, and_true]
  refine spelledLine free (.fixed (.imported (.fixed (.fixed (.fixed .nil ?_) checked) comma)
    (status ?_)) ?_) <;> decide

theorem readBodyFits {name : String} {type : Line} {c : Char} (wordly : Wordly name.toList)
    (typed : Spells (Settled D) (within []) c type) :
    AllFit (Settled D) (Handler.readBody name type) := by
  have word {n} := fitsNamed (D := D) (n := n) wordly
  have apart : Checked (within []) c [' '] := ⟨rfl, by decide⟩
  rw [Handler.readBody, allFitCons]
  refine ⟨?_, refuseFits ?_ (by decide) (by decide)⟩
  · simp only [line, List.flatten_cons, List.flatten_nil, List.append_nil, List.cons_append,
      List.nil_append]
    refine spelledLine free (.fixed (.word (.fixed typed apart) (word ?_ ?_)) ?_) <;> decide
  · refine spelledLine free (.fixed (.split (.split (.fixed (.word (.fixed (.fixed .nil ?_) ?_)
      (word ?_ ?_)) ?_))) ?_) <;> decide

section
variable (h : Handler) (type : Wordly h.typeName.toList) (ident : Wordly h.ident.toList)

include ident in
theorem readParamsFits (read : D (.function (readParamsName h.ident))) :
    AllFit (Settled D) h.readParams := by
  have read {n} := fitsFunction (n := n) (readParamsWordly ident) read
  rw [Handler.readParams, allFitCons]
  refine ⟨spelledLine free (.fixed (.own (.fixed .nil ?_) (read ?_)) ?_),
    refuseErrorsFits (by decide)⟩ <;> decide

include ident in
theorem readKeyFits (read : D (.function (readKeyName h.ident))) :
    AllFit (Settled D) h.readKey := by
  have read {n} := fitsFunction (n := n) (readKeyWordly ident) read
  rw [Handler.readKey, allFitCons]
  refine ⟨spelledLine free (.fixed (.own (.fixed .nil ?_) (read ?_)) ?_),
    refuseFits (spelledLine free (.fixed (.fixed (.fixed .nil ?_) ?_) ?_)) (by decide) ?_⟩ <;>
    decide

omit type in
theorem refuseMissingFits : AllFit (Settled D) Handler.refuseMissing := by
  refine refuseFits ?_ (by decide) (by decide)
  refine spelledLine free (.fixed (.imported (.fixed (.imported (.fixed (.fixed .nil ?_) ?_)
    (fitsForeign ?_ ?_ ?_)) ?_) (fitsForeign ?_ ?_ ?_)) ?_) <;> decide

include type in
theorem answerPageFits (page : D (.imported .dto (Names.page h.typeName)))
    (given : ∀ ref ∈ [Reference.param "Page", .param "Limit"], D ref) :
    AllFit (Settled D) [h.answerPage] := by
  have sound := fun w => withinSettled (w := w) given
  have page {n} := fitsImported (n := n) (pageWordly type) fun _ => page
  rw [allFitCons]
  refine ⟨spelledLine sound (.fixed (.imported (.fixed (.imported (.fixed (.fixed .nil ?_) ?_)
    (page ?_)) ?_) (fitsForeign ?_ ?_ ?_)) ?_), allFitNil⟩ <;> decide

include type ident in
theorem answerCsvFits (stem : Wordly h.stem.toList)
    (columns : D (.imported .models (columnsName h.typeName)))
    (record : D (.function (recordName h.ident))) (format : D (.param "Format")) :
    AllFit (Settled D) h.answerCsv := by
  have sound := fun w => withinSettled (w := w) (List.forall_mem_singleton.mpr format)
  have columns {n} := fitsImported (n := n) (columnsWordly type) fun _ => columns
  have record {n} := fitsFunction (n := n) (recordWordly ident) record
  have raw : Raw ("attachment; filename=\"" ++ h.stem ++ ".csv\"") :=
    Joins.append (Joins.append (by decide) (wordlyRaw stem)) (by decide)
  simp [-textCons, Handler.answerCsv, line, imported, own, plain, Go.raw]
  and_intros <;> apply spelledLine sound
  all_goals repeat' with_reducible constructor
  all_goals with_reducible first
    | decide
    | exact raw
    | exact columns (by decide)
    | exact record (by decide)
    | exact fitsForeign (by decide) (by decide) (by decide)

include type in
theorem handlerTypeFits (stem : OneLine h.stem)
    (repository : D (.imported .repository (repositoryName h.typeName)))
    (create : D (.function (newHandlerName h.typeName))) : AllFit (Settled D) h.typeCode := by
  have handler {n} := fitsNamed (D := D) (n := n) (handlerWordly type)
  have repository {n} := fitsImported (n := n) (repositoryWordly type) fun _ => repository
  have create {n} := fitsFunction (n := n) (newHandlerWordly type) create
  have told : OneLine (handlerName h.typeName ++ " serves the " ++ h.stem ++ " endpoints.") := by
    have serves : OneLine " serves the " := by decide
    have endpoints : OneLine " endpoints." := by decide
    simp [wordlyOneLine (handlerWordly type), serves, stem, endpoints]
  simp only [Handler.typeCode, allFitAppend, allFitStruct told]
  simp [-textCons, Handler.repositoryType, line, imported, declared, own]
  and_intros <;> apply spelledLine free
  all_goals repeat' with_reducible constructor
  all_goals with_reducible first
    | decide
    | exact handler (by decide) (by decide)
    | exact repository (by decide)
    | exact create (by decide)

include type ident in
theorem paramsFits {limits : Pagination} (params : D (.imported .dto (Names.listParams h.typeName)))
    (read : D (.function (readParamsName h.ident)))
    (given : ∀ ref ∈ [Reference.param "Page", .param "Limit"], D ref) :
    AllFit (Settled D) (h.paramsCode limits) := by
  have sound := fun w => withinSettled (w := w) given
  have params {n} := fitsImported (n := n) (paramsWordly type) fun _ => params
  have read {n} := fitsFunction (n := n) (readParamsWordly ident) read
  have number {n} (k : Nat) : inWord n = false → n ≠ '(' → FitsWord (Settled D) n k.repr :=
    fitsNamed (decimalWordly k)
  simp [-textCons, Handler.paramsCode, Handler.context, line, imported, declared, plain]
  and_intros <;> apply spelledLine sound
  all_goals repeat' with_reducible constructor
  all_goals with_reducible first
    | decide
    | exact params (by decide)
    | exact read (by decide)
    | exact number _ (by decide) (by decide)
    | exact fitsForeign (by decide) (by decide) (by decide)

include type ident in
theorem recordFits {fields : List RecordField} (named : ∀ f ∈ fields, Wordly f.name.toList)
    (row : D (.imported .models h.typeName)) (record : D (.function (recordName h.ident))) :
    AllFit (Settled D) (h.recordCode fields) := by
  have row {n} := fitsImported (n := n) type fun _ => row
  have record {n} := fitsFunction (n := n) (recordWordly ident) record
  have number {n} (k : Nat) : inWord n = false → n ≠ '(' → FitsWord (Settled D) n k.repr :=
    fitsNamed (decimalWordly k)
  have each : ∀ f ∈ fields, AllFit (Settled D) (Handler.recordFieldCode f) := by
    intro f member
    have field {n} := fitsRowField (D := D) (n := n) (named f member)
    have pointer : "(*m." = "(*" ++ "m." := by decide
    have plain' : "(m." = "(" ++ "m." := by decide
    unfold Handler.recordFieldCode
    split
    · rw [pointer]
      simp only [allFitIfElse, allFitCons, allFitNil, and_true, line, imported, plain,
        List.flatten_cons, List.flatten_nil, List.append_nil, List.cons_append, List.nil_append]
      refine ⟨spelledLine free (.fixed (.parts (.fixed (.fixed .nil ?_) ?_) (field ?_)) ?_),
        spelledLine free (.fixed (.imported (.split (.fixed (.parts (.fixed .nil ?_) (field ?_))
          ?_)) (fitsForeign ?_ ?_ ?_)) ?_), spelledLine free (.fixed .nil ?_),
        spelledLine free (.fixed .nil ?_)⟩ <;> decide
    · rw [plain', allFitCons]
      refine ⟨spelledLine free (.fixed (.imported (.split (.fixed (.parts (.fixed .nil ?_)
        (field ?_)) ?_)) (fitsForeign ?_ ?_ ?_)) ?_), allFitNil⟩ <;> decide
  simp [-textCons, Handler.recordCode, eq_true each, line, imported, declared, plain]
  and_intros <;> apply spelledLine free
  all_goals repeat' with_reducible constructor
  all_goals with_reducible first
    | decide
    | exact row (by decide)
    | exact record (by decide)
    | exact number _ (by decide) (by decide)

include ident in
theorem keyFits {key : GoType}
    (known : key ∈ [.string, .int 16, .int 32, .int 64, .float 32, .float 64])
    (read : D (.function (readKeyName h.ident))) : AllFit (Settled D) (h.keyCode key) := by
  have read {n} := fitsFunction (n := n) (readKeyWordly ident) read
  have number {n} (k : Nat) : inWord n = false → n ≠ '(' → FitsWord (Settled D) n k.repr :=
    fitsNamed (decimalWordly k)
  have text {n : Char} : inWord n = false → n ≠ '(' → FitsWord (Settled D) n key.text := by
    have wordly : ∀ key ∈ [GoType.string, .int 16, .int 32, .int 64, .float 32, .float 64],
        key.text.toList.all isWordly = true := by decide
    exact fitsNamed (List.all_eq_true.mp (wordly key known))
  simp only [List.mem_cons, List.not_mem_nil, or_false] at known
  rcases known with rfl | rfl | rfl | rfl | rfl | rfl
  all_goals
    simp [-textCons, Handler.keyCode, Handler.keyBody, Handler.context, GoType.line, line, imported,
      declared, plain]
    and_intros <;> apply spelledLine free
    all_goals repeat' with_reducible constructor
    all_goals with_reducible first
      | decide
      | exact read (by decide)
      | exact text (by decide) (by decide)
      | exact number _ (by decide) (by decide)
      | exact fitsForeign (by decide) (by decide) (by decide)
      -- The type is called to make a value of it.
      | exact fitsFree (by decide) (by decide) (by decide)

def Handler.bodyReferences (k : EndpointKind) : List Reference :=
  match k with
  | .list | .search =>
      [.function (readParamsName h.ident), .imported .dto (Names.page h.typeName), .param "Page",
        .param "Limit"] ++ (if h.searches && k == .search then [.param "Q"] else [])
  | .export =>
      [.function (readParamsName h.ident), .function (recordName h.ident),
        .imported .models (columnsName h.typeName), .param "Format"]
  | .stats => [.function (readParamsName h.ident)]
  | .get | .delete => [.function (readKeyName h.ident)]
  | .create | .bulk => [.imported .dto (Names.createRequest h.typeName)]
  | .update =>
      [.function (readKeyName h.ident), .imported .dto (Names.updateRequest h.typeName)]

omit h in
def callParts : EndpointKind → String × String
  | .list | .search => ("rows, total", "p")
  | .export => ("rows", "p")
  | .stats => ("stats", "p")
  | .get => ("m", "id")
  | .create => ("m", "req")
  | .bulk => ("rows", "reqs")
  | .update => ("m", "id, req")
  | .delete => ("deleted", "id")

def callText (k : EndpointKind) : String :=
  (callParts k).1 ++ ", err := h.repo." ++ accessName k ++ "(c.Request.Context(), " ++
    (callParts k).2 ++ ")"

variable {h} in
theorem callSplit {k : EndpointKind} {front refusals rest : List Line}
    (body : h.body k =
      front ++ Handler.call (callParts k).1 k (callParts k).2 refusals ++ rest)
    (before : AllFit (Settled D) front) (refused : AllFit (Settled D) refusals)
    (after : AllFit (Settled D) rest) :
    ∃ front rest, h.body k = front ++ plain (callText k) :: rest ∧
      AllFit (Settled D) front ∧ AllFit (Settled D) rest := by
  have failed : AllFit (Settled D) (Handler.refuseErrors "StatusInternalServerError") :=
    refuseErrorsFits (by decide)
  refine ⟨front, refusals ++ Handler.refuseErrors "StatusInternalServerError" ++ rest, ?_, before,
    allFitAppend.mpr ⟨allFitAppend.mpr ⟨refused, failed⟩, after⟩⟩
  rw [body]
  simp [Handler.call, callText]

include type ident in
theorem bodySplit {k : EndpointKind} (stem : Wordly h.stem.toList)
    (known : ∀ ref ∈ h.bodyReferences k, D ref) :
    ∃ front rest, h.body k = front ++ plain (callText k) :: rest ∧
      AllFit (Settled D) front ∧ AllFit (Settled D) rest := by
  cases k with
  | list =>
      obtain ⟨read, page, fields⟩ : _ ∧ _ ∧
          ∀ ref ∈ [Reference.param "Page", .param "Limit"], D ref := by
        simpa [Handler.bodyReferences] using known
      exact callSplit rfl (readParamsFits h ident read)
        allFitNil (answerPageFits h type page fields)
  | search =>
      obtain ⟨general, query⟩ := List.forall_mem_append.mp known
      obtain ⟨read, page, fields⟩ : _ ∧ _ ∧
          ∀ ref ∈ [Reference.param "Page", .param "Limit"], D ref := by
        simpa using general
      refine callSplit rfl (allFitAppend.mpr ⟨readParamsFits h ident read, ?_⟩) allFitNil
        (answerPageFits h type page fields)
      split
      · rename_i searches
        have query : ∀ ref ∈ [Reference.param "Q"], D ref := by simpa [searches] using query
        have sound := fun w => withinSettled (w := w) query
        refine refuseFits (spelledLine sound (.fixed (.fixed (.fixed .nil ?_) ?_) ?_)) ?_ ?_ <;>
          decide
      · exact allFitNil
  | «export» =>
      obtain ⟨read, record, columns, format⟩ : _ ∧ _ ∧ _ ∧ D (.param "Format") := by
        simpa [Handler.bodyReferences] using known
      exact callSplit (List.append_assoc _ _ _) (readParamsFits h ident read) allFitNil
        (allFitAppend.mpr ⟨answerCsvFits h type ident stem columns record format,
          answerFits (by decide) (by decide)⟩)
  | stats =>
      exact callSplit rfl (readParamsFits h ident (List.forall_mem_singleton.mp known)) allFitNil
        (answerFits (by decide) (by decide))
  | get =>
      exact callSplit rfl (readKeyFits h ident (List.forall_mem_singleton.mp known))
        refuseMissingFits (answerFits (by decide) (by decide))
  | create =>
      have shape {n} := fitsImported (n := n) (createWordly type) fun _ =>
        List.forall_mem_singleton.mp known
      exact callSplit rfl
        (readBodyFits (wordlyFixed (by decide)) (.imported .nil (shape (by decide)))) allFitNil
        (answerFits (by decide) (by decide))
  | bulk =>
      have shape {n} := fitsImported (n := n) (createWordly type) fun _ =>
        List.forall_mem_singleton.mp known
      have reads : AllFit (Settled D) (Handler.readBody "reqs"
          (line ["[]", imported .dto (Names.createRequest h.typeName)])) :=
        readBodyFits (wordlyFixed (by decide))
          (.fixed (.imported .nil (shape (by decide))) (by decide))
      refine callSplit rfl (allFitAppend.mpr ⟨reads, refuseFits (spelledLine free
        (.fixed (.fixed (.fixed .nil ?_) ?_) ?_)) ?_ ?_⟩) allFitNil (answerFits ?_ ?_) <;>
        decide
  | update =>
      obtain ⟨read, shape⟩ : _ ∧ _ := by simpa [Handler.bodyReferences] using known
      have shape {n} := fitsImported (n := n) (updateWordly type) fun _ => shape
      exact callSplit rfl (allFitAppend.mpr ⟨readKeyFits h ident read,
        readBodyFits (wordlyFixed (by decide)) (.imported .nil (shape (by decide)))⟩)
        refuseMissingFits (answerFits (by decide) (by decide))
  | delete =>
      have read := readKeyFits h ident (List.forall_mem_singleton.mp known)
      have done :
          AllFit (Settled D) [line ["c.Status(", imported .http "StatusNoContent", ")"]] := by
        rw [allFitCons]
        refine ⟨spelledLine free (.fixed (.imported (.fixed .nil ?_) (fitsForeign ?_ ?_ ?_)) ?_),
          allFitNil⟩ <;> decide
      refine callSplit (List.append_assoc _ _ _) read allFitNil (allFitAppend.mpr
        ⟨refuseFits (spelledLine free (.fixed (.fixed (.fixed .nil ?_) ?_) ?_)) ?_ ?_, done⟩) <;>
        decide

include type ident in
theorem handlerBodyFits {k : EndpointKind} (stem : Wordly h.stem.toList)
    (access : D (.access (accessName k))) (known : ∀ ref ∈ h.bodyReferences k, D ref) :
    AllFit (Settled D) (h.body k) := by
  obtain ⟨front, rest, split, before, after⟩ := bodySplit h type ident stem known
  have called : Fits (Settled D) '\n' (callText k) :=
    fitsText (fun w => withinSettled (w := w) (List.forall_mem_singleton.mpr access))
      (by cases k <;> decide)
  rw [split, allFitAppend, allFitCons, plainText]
  exact ⟨before, called, after⟩

include type ident in
theorem actionFits {a : Action} (stem : Wordly h.stem.toList) (named : Wordly a.name.toList)
    (path : OneLine a.path) (own : D (.function a.name)) (access : D (.access (accessName a.kind)))
    (known : ∀ ref ∈ h.bodyReferences a.kind, D ref) : AllFit (Settled D) (h.actionCode a) := by
  have handler {n} := fitsNamed (D := D) (n := n) (handlerWordly type)
  have name {n} := fitsFunction (n := n) named own
  have told : OneLine (a.name ++ " handles " ++ a.method.name ++ " " ++ a.path ++ ".") := by
    have fixed : ∀ s ∈ [" handles ", " ", "."], OneLine s := by decide
    simp [wordlyOneLine named, (methodBare a.method).2.2, path, fixed]
  rw [Handler.actionCode, allFitFunction]
  refine ⟨by simpa using fitsComment told, ?_, handlerBodyFits h type ident stem access known⟩
  simp only [line, Handler.context, Code.own, declared, imported, List.flatten_cons,
    List.flatten_nil, List.append_nil, List.cons_append, List.nil_append]
  refine spelledLine free (.fixed (.fixed (.own (.fixed (.declared (.fixed (.fixed (.imported
    (.fixed (.fixed .nil ?_) ?_) (fitsForeign ?_ ?_ ?_)) ?_) ?_) (name ?_)) ?_) (handler ?_ ?_)) ?_)
    ?_) <;> decide

end

variable {s : Subject}

theorem handlersWordly (k : EndpointKind) {table : String} (type : Wordly (pascal table).toList) :
    Wordly (k.handler table).toList := by
  cases k with
  | stats => exact wordlyBefore (wordlyAfter (by decide) type) (by decide)
  | _ => exact wordlyAfter (by decide) type

theorem plannedWordly (type : Wordly s.typeName.toList)
    (planned : Plan.endpoints s.table s.policy = .ok s.plan) {e : Endpoint} (member : e ∈ s.plan) :
    Wordly e.handler.toList := by
  rw [Plan.plannedEndpoint planned member]
  exact handlersWordly e.kind type

theorem pathOneLine (k : EndpointKind) {table : String} (plain : isPlainIdentifier table = true) :
    OneLine (k.path table) := by
  have stem := wordlyOneLine (lowerWordly plain)
  have slash : OneLine "/" := by decide
  have ending : ∀ k ∈ EndpointKind.all, OneLine k.ending := by decide
  rw [k.pathEnding]
  simp [slash, stem, ending k (by cases k <;> decide)]

structure HandlerHelpers (D : Reference → Prop) (s : Subject) : Prop where
  create : D (.function (newHandlerName s.typeName))
  readParams : s.needsListParams = true → D (.function (readParamsName s.ident))
  readKey : s.hasSingular = true → D (.function (readKeyName s.ident))
  record : s.has .export = true → D (.function (recordName s.ident))
  actions : ∀ e ∈ s.plan, D (.function e.handler)

section
variable (spelled : Spelled (fun name => Wordly name.toList) s.table) (shared : Shared D s)
  (own : HandlerHelpers D s)
include shared own

theorem bodyKnown {k : EndpointKind} (planned : s.has k = true) :
    ∀ ref ∈ (Handler.of s).bodyReferences k, D ref := by
  have singular (single : k.isSingular = true) : s.hasSingular = true := by
    obtain ⟨e, member, same⟩ := List.any_eq_true.mp planned
    exact List.any_eq_true.mpr ⟨e, member, by rwa [beq_iff_eq.mp same]⟩
  cases k with
  | list | search =>
      have needed : s.needsListParams = true := by
        simp [Subject.needsListParams, Subject.listsRows, planned]
      have paged : s.needsPageShape = true := by simp [Subject.needsPageShape, planned]
      have fixed := shared.fixed needed
      simp only [List.forall_mem_cons] at fixed
      obtain ⟨page, limit, -⟩ := fixed
      refine List.forall_mem_append.mpr
        ⟨by simpa using ⟨own.readParams needed, shared.page paged, page, limit⟩, ?_⟩
      split
      · rename_i both
        exact List.forall_mem_singleton.mpr (shared.query (Bool.and_eq_true_iff.mp both).1)
      · exact List.forall_mem_nil D
  | «export» =>
      have needed : s.needsListParams = true := by
        simp [Subject.needsListParams, Subject.listsRows, planned]
      simpa [Handler.bodyReferences] using
        ⟨own.readParams needed, own.record planned, shared.columns, shared.format planned⟩
  | stats =>
      have needed : s.needsListParams = true := by simp [Subject.needsListParams, planned]
      exact List.forall_mem_singleton.mpr (own.readParams needed)
  | get | delete => exact List.forall_mem_singleton.mpr (own.readKey (singular rfl))
  | create | bulk =>
      have needed : s.needsCreateShape = true := by simp [Subject.needsCreateShape, planned]
      exact List.forall_mem_singleton.mpr (shared.create needed)
  | update =>
      simpa [Handler.bodyReferences] using ⟨own.readKey (singular rfl), shared.update planned⟩

include spelled

theorem handlerFits (plain : isPlainIdentifier s.table.name = true)
    (planned : Plan.endpoints s.table s.policy = .ok s.plan) :
    AllFit (Settled D) (Handler.of s).code := by
  have stem := lowerWordly plain
  simp only [Handler.code, allFitAppend, allFitOption, allFitFlatMap]
  refine ⟨⟨⟨⟨handlerTypeFits (Handler.of s) spelled.type (wordlyOneLine stem) shared.repository
    own.create, ?_⟩, ?_⟩, ?_⟩, ?_⟩
  · intro limits made
    obtain ⟨needed, rfl⟩ : s.needsListParams = true ∧ s.policy.pagination = limits := by
      simpa [Handler.of] using made
    have fixed := shared.fixed needed
    simp only [List.forall_mem_cons] at fixed
    obtain ⟨page, limit, -⟩ := fixed
    exact paramsFits (Handler.of s) spelled.type spelled.ident (shared.params needed)
      (own.readParams needed) (by simpa using ⟨page, limit⟩)
  · intro key made
    obtain ⟨singular, rfl⟩ : s.hasSingular = true ∧ Server.keyType s = key := by
      simpa [Handler.of] using made
    exact keyFits (Handler.of s) spelled.ident (keyTypeKnown s) (own.readKey singular)
  · intro fields made
    obtain ⟨exported, rfl⟩ : s.has .export = true ∧
        s.table.columns.map Handler.recordField = fields := by
      simpa [Handler.of] using made
    exact recordFits (Handler.of s) spelled.type spelled.ident
      (List.forall_mem_map.mpr fun c member => (spelled.columns c member).2) shared.row
      (own.record exported)
  · refine List.forall_mem_map.mpr fun e member => ?_
    have same := Plan.plannedEndpoint planned member
    have path : OneLine e.path := by
      rw [same]
      exact pathOneLine e.kind plain
    exact actionFits (Handler.of s) spelled.type spelled.ident stem
      (plannedWordly spelled.type planned member) path (own.actions e member)
      (shared.access e.kind (plannedKind member)) (bodyKnown shared own (plannedKind member))

end

end RestScaffold.Server
