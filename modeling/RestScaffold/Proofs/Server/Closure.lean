import RestScaffold.Proofs.Server.Literals
import RestScaffold.Proofs.Server.Methods

/-! Whatever the code of a table's files on the server refers to is declared in one of them. -/
namespace RestScaffold
open Catalog Code Go Naming Text Word

def Package.category? : Package → Option Category
  | .dto => some .dto
  | .models => some .model
  | .repository => some .repository
  | .handlers => some .handler
  | _ => none

def Go.wordsOf (c : Category) (text : String) : List Word :=
  if c ∈ [.model, .dto] then ofRows ((codeRows text).map untagged) else ofRows (codeRows text)

namespace Server

variable {s : Subject} {goModule : String}

def Declares (s : Subject) (text : Category → String) (c : Category) : Reference → Prop
  | .imported p name => ∃ c', p.category? = some c' ∧ name ∈ declarations (text c')
  | .param field => HasField (text .dto) (Names.listParams s.typeName) field
  | .access name => name ∈ declaredMethods (text .repository)
  -- In other files the receiver is not a repository.
  | .method name => c = .repository → name ∈ declaredMethods (text .repository)
  | .function name => name ∈ declarations (text c) ∨ name ∈ declaredMethods (text c)

structure Files (goModule : String) (s : Subject) (d : Dto) (text : Category → String) : Prop where
  model : text .model = (Model.of s).file.text goModule
  repository : text .repository = (Repository.of s).file.text goModule
  dto : text .dto = d.file.text goModule
  handler : text .handler = (Handler.of s).file.text goModule
  routes : text .routes = (Routes.of s).file.text goModule

theorem wordlyHeads {name t : String} {rest : Line} (wordly : Wordly name.toList) (full : name ≠ "")
    (opens : t.toList.head? = some '(') : Heads name (.declared name :: .text t :: rest) :=
  headsDeclared (wordly.without (by decide)) full opens

section
variable {d : Dto} {text : Category → String} (files : Files goModule s d text)
  (spelled : Spelled (fun name => Wordly name.toList) s.table)
include spelled

theorem accessTells {k : EndpointKind} (planned : s.has k = true) :
    Tells method? (accessName k) (Repository.of s).file.body := by
  obtain ⟨e, member, same⟩ := List.any_eq_true.mp planned
  obtain rfl := beq_iff_eq.mp same
  have closed : ')' ∉ (repositoryName s.typeName).toList :=
    (repositoryWordly spelled.type).without (by decide)
  have bare : ∀ k, '(' ∉ (accessName k).toList := by
    intro k
    cases k <;> decide
  refine Tells.right (tellsFlatMap (a := Repository.access s e.kind)
    (List.mem_map.mpr ⟨e, member, rfl⟩) ?_)
  rw [Repository.accessCode, Repository.accessKind]
  exact (headsReceiver (bare e.kind) closed (c := 'r') (by decide)).tells

theorem findTells (lists : s.listsRows = true) :
    Tells method? "find" (Repository.of s).file.body := by
  have closed : ')' ∉ (repositoryName s.typeName).toList :=
    (repositoryWordly spelled.type).without (by decide)
  have ordered : (Repository.of s).ordering = some (Ordering.of s) := if_pos lists
  have own : Tells method? "find" (Repository.of s).findCode :=
    (headsReceiver (by decide) closed (c := 'r') (by decide)).tells
  refine Tells.left (Tells.left (Tells.right ?_))
  rw [ordered]
  exact tellsOption own.right

include files

theorem repositoryHelpers : RepositoryHelpers (Declares s text .repository) s := by
  have legible := repositoryLegible spelled
  have function {name : String} (tells : Tells declaration? name (Repository.of s).file.body) :
      Declares s text .repository (.function name) := by
    rw [Declares, files.repository]
    exact .inl (legible.declared tells goModule)
  have method {name : String} (tells : Tells method? name (Repository.of s).file.body) :
      name ∈ declaredMethods (text .repository) := by
    rw [files.repository]
    exact legible.declaredMethod tells goModule
  constructor
  case create =>
    have own : Tells declaration? (newRepositoryName s.typeName) (Repository.of s).typeCode :=
      (wordlyHeads (newRepositoryWordly spelled.type) (by simp [newRepositoryName])
        (by decide)).tells.right
    exact function own.left.left.left.left.left
  case scan =>
    have own : Tells declaration? (scanName s.typeName) (Repository.of s).scanCode :=
      (wordlyHeads (scanWordly spelled.type) (by simp [scanName]) (by decide)).tells.right
    exact function own.right.left.left.left.left
  case clauses =>
    intro needed
    have given : (Repository.of s).criteria = some (Criteria.of s) := if_pos needed
    have own : Tells declaration? (whereName s.ident) (Criteria.of s).code :=
      (wordlyHeads (whereWordly spelled.ident) (by simp [whereName]) (by decide)).tells
    refine function (Tells.left (Tells.left (Tells.left (Tells.right ?_))))
    rw [given]
    exact tellsOption own
  case order =>
    intro lists
    have given : (Repository.of s).ordering = some (Ordering.of s) := if_pos lists
    have own : Tells declaration? (orderName s.ident) (Ordering.of s).orderCode :=
      (wordlyHeads (orderWordly spelled.ident) (by simp [orderName]) (by decide)).tells
    refine function (Tells.left (Tells.left (Tells.right ?_)))
    rw [given]
    exact tellsOption own.right.left
  case find =>
    exact fun lists => ⟨.inr (method (findTells spelled lists)),
      fun _ => method (findTells spelled lists)⟩
  case insert =>
    intro needed
    have given : (Repository.of s).insertion = some (Repository.inserting s) := if_pos needed
    have own : Tells declaration? (insertRowName s.typeName)
        ((Repository.of s).insertCode (Repository.inserting s)) :=
      (wordlyHeads (insertRowWordly spelled.type) (by simp [insertRowName]) (by decide)).tells.right
    refine function (Tells.left (Tells.right ?_))
    rw [given]
    exact tellsOption own
  case access => exact fun k planned => .inr (method (accessTells spelled planned))

variable (plain : isPlainIdentifier s.table.name = true)
  (columns : ∀ c ∈ s.table.columns, isPlainIdentifier c.name = true) (made : Dto.of s = .ok d)
  (planned : Plan.endpoints s.table s.policy = .ok s.plan)
include plain

include planned in
theorem handlerHelpers : HandlerHelpers (Declares s text .handler) s := by
  have legible := handlerLegible spelled plain planned
  have function {name : String} (tells : Tells declaration? name (Handler.of s).file.body) :
      Declares s text .handler (.function name) := by
    rw [Declares, files.handler]
    exact .inl (legible.declared tells goModule)
  constructor
  case create =>
    have own : Tells declaration? (newHandlerName s.typeName) (Handler.of s).typeCode :=
      (wordlyHeads (newHandlerWordly spelled.type) (by simp [newHandlerName])
        (by decide)).tells.right
    exact function own.left.left.left.left
  case readParams =>
    intro needed
    have given : (Handler.of s).pagination = some s.policy.pagination := if_pos needed
    have own : Tells declaration? (readParamsName s.ident)
        ((Handler.of s).paramsCode s.policy.pagination) :=
      (wordlyHeads (readParamsWordly spelled.ident) (by simp [readParamsName]) (by decide)).tells
    refine function (Tells.left (Tells.left (Tells.left (Tells.right ?_))))
    rw [given]
    exact tellsOption own
  case readKey =>
    intro singular
    have given : (Handler.of s).key = some (Server.keyType s) := if_pos singular
    have own :
        Tells declaration? (readKeyName s.ident) ((Handler.of s).keyCode (Server.keyType s)) :=
      (wordlyHeads (readKeyWordly spelled.ident) (by simp [readKeyName]) (by decide)).tells
    refine function (Tells.left (Tells.left (Tells.right ?_)))
    rw [given]
    exact tellsOption own
  case record =>
    intro exported
    have given : (Handler.of s).record = some (s.table.columns.map Handler.recordField) :=
      if_pos exported
    have own : Tells declaration? (recordName s.ident)
        ((Handler.of s).recordCode (s.table.columns.map Handler.recordField)) :=
      (wordlyHeads (recordWordly spelled.ident) (by simp [recordName]) (by decide)).tells
    refine function (Tells.left (Tells.right ?_))
    rw [given]
    exact tellsOption own
  case actions =>
    intro e member
    rw [Declares, files.handler, handlerNames spelled plain planned]
    exact .inr (List.mem_map_of_mem member)

include columns in
omit plain files in
theorem modelDeclared (goModule : String) :
    s.typeName ∈ declarations ((Model.of s).file.text goModule) ∧
      columnsName s.typeName ∈ declarations ((Model.of s).file.text goModule) := by
  have legible := modelLegible spelled columns
  have type : ' ' ∉ s.typeName.toList := spelled.type.without (by decide)
  have row : Tells declaration? s.typeName (Model.of s).code := (tellsStruct type).left
  refine ⟨legible.declared row goModule, legible.declared ?_ goModule⟩
  have bare : ' ' ∉ (columnsName s.typeName).toList :=
    (columnsWordly spelled.type).without (by decide)
  have text : (lineText (line ["var ", declared (columnsName s.typeName), " = ",
      Go.strings (columnNames s)])).toList = "var ".toList ++ ((columnsName s.typeName).toList ++
        ' ' :: ("= ".toList ++ (Go.strings (columnNames s)).toList)) := by
    simp [line, declared]
  refine Tells.right ⟨line ["var ", declared (columnsName s.typeName), " = ",
    Go.strings (columnNames s)], by simp [Model.of], ?_, fun oneLine => ?_⟩
  · rw [text]
    exact declarationVariable bare _
  · have split : lineText (line ["var ", declared (columnsName s.typeName), " = ",
        Go.strings (columnNames s)]) = "var " ++ columnsName s.typeName ++ " = " ++
          Go.strings (columnNames s) := by
      refine String.toList_inj.mp ?_
      simp [line, declared]
    obtain ⟨c, ends, full⟩ := stringsLast (columnNames s)
    rw [split] at oneLine ⊢
    exact solidEnd oneLine ends full

omit spelled files plain in
theorem dtoStructs (made : Dto.of s = .ok d) : d.typeName = s.typeName ∧
    (s.needsCreateShape = true → Names.createRequest s.typeName ∈ d.structs.map Struct.name) ∧
    (s.has .update = true → Names.updateRequest s.typeName ∈ d.structs.map Struct.name) ∧
    (s.needsPageShape = true → Names.page s.typeName ∈ d.structs.map Struct.name) ∧
    (s.has .stats = true → Names.stats s.typeName ∈ d.structs.map Struct.name) ∧
    (s.needsListParams = true →
      ⟨Names.listParams s.typeName, (Dto.paramFields s).map GoField.meant⟩ ∈ d.structs) := by
  simp only [Dto.of] at made
  split at made
  · contradiction
  · cases made
    refine ⟨rfl, ?_, ?_, ?_, ?_, ?_⟩ <;> intro asked <;>
      simp [Dto.structs, Dto.pageStruct, Dto.statsStruct, asked]

include columns made in
omit files in
theorem dtoDeclared (goModule : String) {st : Struct String} (member : st ∈ d.structs) :
    st.name ∈ declarations (d.file.text goModule) ∧
      ∀ field ∈ st.fields, HasField (d.file.text goModule) st.name field.name := by
  have type : OneLine d.typeName := by
    rw [(dtoStructs made).1]
    exact wordlyOneLine spelled.type
  exact (dtoLegible spelled plain columns made).printsDeclared (List.append_nil _).symm
    (Dto.codePrints type) member ((Dto.structsFit plain columns made).1 st member) goModule

include columns made planned in
theorem shared (c : Category) : Shared (Declares s text c) s := by
  obtain ⟨row, list⟩ := modelDeclared spelled columns goModule
  obtain ⟨-, create, update, page, stats, params⟩ := dtoStructs made
  have dto {name : String} (member : name ∈ d.structs.map Struct.name) :
      Declares s text c (.imported .dto name) := by
    obtain ⟨st, own, rfl⟩ := List.mem_map.mp member
    exact ⟨.dto, rfl, files.dto ▸ (dtoDeclared spelled plain columns made goModule own).1⟩
  have param (needed : s.needsListParams = true) {f : GoField} (member : f ∈ Dto.paramFields s) :
      Declares s text c (.param f.name) := by
    have fields := (dtoDeclared spelled plain columns made goModule (params needed)).2
    rw [Declares, files.dto]
    exact fields _ (List.mem_map_of_mem member)
  constructor
  case row => exact ⟨.model, rfl, files.model ▸ row⟩
  case columns => exact ⟨.model, rfl, files.model ▸ list⟩
  case repository =>
    have bare : ' ' ∉ (repositoryName s.typeName).toList :=
      (repositoryWordly spelled.type).without (by decide)
    have own : Tells declaration? (repositoryName s.typeName) (Repository.of s).typeCode :=
      (tellsStruct bare).right.left
    refine ⟨.repository, rfl, ?_⟩
    rw [files.repository]
    exact (repositoryLegible spelled).declared own.left.left.left.left.left goModule
  case handler =>
    have bare : ' ' ∉ (handlerName s.typeName).toList :=
      (handlerWordly spelled.type).without (by decide)
    have own : Tells declaration? (handlerName s.typeName) (Handler.of s).typeCode :=
      (tellsStruct bare).left
    refine ⟨.handler, rfl, ?_⟩
    rw [files.handler]
    exact (handlerLegible spelled plain planned).declared own.left.left.left.left goModule
  case params => exact fun needed => dto (List.mem_map.mpr ⟨_, params needed, rfl⟩)
  case create => exact fun needed => dto (create needed)
  case update => exact fun asked => dto (update asked)
  case page => exact fun needed => dto (page needed)
  case stats => exact fun asked => dto (stats asked)
  case fixed =>
    intro needed name known
    have page : ∀ name ∈ ["Page", "Limit", "Sort", "Order"],
        name ∈ Dto.pageFields.map GoField.name := by decide
    obtain ⟨f, member, rfl⟩ := List.mem_map.mp (page name known)
    exact param needed (by simp [Dto.paramFields, member])
  case query =>
    intro searches
    have planned : s.has .search = true := (Bool.and_eq_true_iff.mp searches).1
    have needed : s.needsListParams = true := by
      simp [Subject.needsListParams, Subject.listsRows, planned]
    exact param needed (f := ⟨"Q", .string, [("form", "q")]⟩) (by simp [Dto.paramFields, searches])
  case format =>
    intro exported
    have needed : s.needsListParams = true := by
      simp [Subject.needsListParams, Subject.listsRows, exported]
    exact param needed (f := ⟨"Format", .string, [("form", "format")]⟩)
      (by simp [Dto.paramFields, exported])
  case filters =>
    intro needed column member
    have own : Dto.filterField column ∈ s.filterColumns.map Dto.filterField :=
      List.mem_map_of_mem member
    exact param needed (List.mem_append_right _ own)
  case access =>
    intro k planned
    rw [Declares, files.repository]
    exact (repositoryLegible spelled).declaredMethod (accessTells spelled planned) goModule

omit files spelled plain in
theorem clauseFits {D : Reference → Prop} :
    ∀ name ∈ ["models", "repository", "dto", "handlers", "routes"],
    Fits (Settled D) '\n' ("package " ++ name) ∧ '`' ∉ ("package " ++ name).toList := by
  have each : ∀ name ∈ ["models", "repository", "dto", "handlers", "routes"],
      Checked (within []) '\n' ("package " ++ name).toList ∧ '`' ∉ ("package " ++ name).toList := by
    decide
  exact fun name known => (each name known).imp_left (fitsText free)

include columns made planned in
theorem filesClosed : ∀ c ∈ [Category.model, .repository, .dto, .handler, .routes],
    ∀ w ∈ wordsOf c (text c), Settled (Declares s text c) w := by
  have shared (c : Category) := shared files spelled plain columns made planned c
  simp only [List.forall_mem_cons]
  refine ⟨?_, ?_, ?_, ?_, ?_, List.forall_mem_nil _⟩
  · obtain ⟨clause, bare⟩ := clauseFits "models" (by decide)
    rw [files.model]
    exact (modelLegible spelled columns).untaggedWords (modelUntagged spelled columns)
      (clause.untagged bare) goModule
  · rw [files.repository]
    exact (repositoryLegible spelled).words
      (repositoryFits spelled (shared .repository) (repositoryHelpers files spelled))
      (clauseFits "repository" (by decide)).1 goModule
  · obtain ⟨clause, bare⟩ := clauseFits "dto" (by decide)
    rw [files.dto]
    exact (dtoLegible spelled plain columns made).untaggedWords
      (dtoUntagged spelled plain columns made fun _ => (shared .dto).row)
      (clause.untagged bare) goModule
  · rw [files.handler]
    exact (handlerLegible spelled plain planned).words
      (handlerFits spelled (shared .handler) (handlerHelpers files spelled plain planned) plain
        planned) (clauseFits "handlers" (by decide)).1 goModule
  · have legible := routesLegible spelled plain planned
    have registers : Declares s text .routes (.function (registerName s.typeName)) := by
      have named : Wordly (registerName s.typeName).toList :=
        wordlyBefore (wordlyAfter (by decide) spelled.type) (by decide)
      have own : Tells declaration? (registerName s.typeName) (Routes.of s).file.body :=
        (wordlyHeads named (by simp [registerName]) (by decide)).tells
      rw [Declares, files.routes]
      exact .inl (legible.declared own goModule)
    have routes := routesFits spelled.type (wordlyOneLine (lowerWordly plain))
      (fun e member => plannedWordly spelled.type planned member)
      (fun _ other => absurd other (by decide)) (shared .routes).handler registers
    rw [files.routes]
    exact legible.words routes (clauseFits "routes" (by decide)).1 goModule

end
end Server
end RestScaffold
