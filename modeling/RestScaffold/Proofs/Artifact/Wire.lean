import RestScaffold.Proofs.Artifact.Paths
import RestScaffold.Proofs.Endpoint.Descriptors
import RestScaffold.Proofs.Server.Columns
import RestScaffold.Proofs.Text.Identifier

/-! Both targets speak of the same names on the wire. The server has them in the tags of its fields,
the client in the properties of its interfaces, and the plan in its parameters. -/
namespace RestScaffold
open Catalog

namespace Naming
open Text

def CommaFree (cs : List Char) : Prop := ∀ c ∈ cs, c.toNat < 128 ∧ c ≠ ','

theorem Wordly.commaFree {cs : List Char} (wordly : Wordly cs) : CommaFree cs := by
  refine fun c member => ⟨wordlyAscii (wordly c member), ?_⟩
  rintro rfl
  exact wordly.without (by decide) member

theorem CommaFree.none {cs : List Char} (free : CommaFree cs) : ',' ∉ cs := fun comma =>
  (free _ comma).2 rfl

end Naming

namespace GoField

def tagValue (key : String) (f : GoField) : String := (f.tag.lookup key).getD ""

def wireName (key : String) (f : GoField) : String :=
  String.ofList ((f.tagValue key).toList.takeWhile (· ≠ ','))

def options (key : String) (f : GoField) : String :=
  String.ofList ((f.tagValue key).toList.dropWhile (· ≠ ','))

def omitsEmpty (f : GoField) : Bool := f.options "json" = ",omitempty"

def sent (f : GoField) : String × Bool := (f.wireName "json", f.omitsEmpty)

theorem wireNameFirst {f : GoField} {key name rest : String} {more : List (String × String)}
    (tag : f.tag = (key, name ++ rest) :: more) (free : ',' ∉ name.toList)
    (begins : ∀ c ∈ rest.toList.head?, c = ',') :
    f.wireName key = name ∧ f.options key = rest := by
  have value : f.tagValue key = name ++ rest := by
    rw [tagValue, tag, List.lookup_cons_self, Option.getD_some]
  have before : ∀ c ∈ name.toList, decide (c ≠ ',') = true := fun c member =>
    decide_eq_true fun comma => free (comma ▸ member)
  have after : rest.toList.takeWhile (· ≠ ',') = [] ∧
      rest.toList.dropWhile (· ≠ ',') = rest.toList := by
    cases same : rest.toList with
    | nil => exact ⟨rfl, rfl⟩
    | cons c more =>
        obtain rfl : c = ',' := begins c (by simp [same])
        exact ⟨rfl, rfl⟩
  rw [wireName, options, value, String.toList_append, List.takeWhile_append_of_pos before,
    List.dropWhile_append_of_pos before, after.1, after.2]
  simp

end GoField

def Subject.Plain (s : Subject) : Prop :=
  ∀ c ∈ s.table.columns, Naming.isPlainIdentifier c.name = true

variable {s : Subject}

section
variable {c : ColumnShape} (plain : Naming.isPlainIdentifier c.name = true)
include plain

theorem modelWireName : (Server.Model.field c).wireName "json" = Naming.camel c.name := by
  have tag : (Server.Model.field c).tag =
      [("json", Naming.camel c.name ++ ""), ("db", c.name)] := by
    rw [String.append_empty]
    rfl
  exact (GoField.wireNameFirst tag (Naming.camelWordly plain).commaFree.none (by simp)).1

theorem filterWireName : (Server.Dto.filterField c).wireName "form" = c.name := by
  have tag : (Server.Dto.filterField c).tag = [("form", c.name ++ "")] := by
    rw [String.append_empty]
    rfl
  have free : ',' ∉ c.name.toList := (Naming.plainWordly plain).commaFree.none
  exact (GoField.wireNameFirst tag free (by simp)).1

theorem requestSent (v : ValidationRules) (type : GoType) (required omits : Bool) :
    (Server.Dto.requestField v c type required omits).sent = (Naming.camel c.name, omits) := by
  have tag : (Server.Dto.requestField v c type required omits).tag =
      ("json", Naming.camel c.name ++ if omits then ",omitempty" else "") ::
        ((Server.Dto.binding v c required).map fun b => ("binding", b)).toList := by
    cases omits with
    | false =>
        rw [if_neg Bool.false_ne_true, String.append_empty]
        rfl
    | true => rfl
  obtain ⟨name, options⟩ := GoField.wireNameFirst tag (Naming.camelWordly plain).commaFree.none
    (by cases omits <;> simp)
  rw [GoField.sent, GoField.omitsEmpty, name, options]
  cases omits <;> rfl

end

def Client.Property.sent (p : Client.Property) : String × Bool := (p.name, p.optional)

theorem dtoOf {dto : Server.Dto} (made : Server.Dto.of s = .ok dto) :
    dto.create = (if s.needsCreateShape then some (s.writable.map (Server.Dto.createField s))
      else none) ∧
    dto.update = (if s.has .update then some (s.writable.map (Server.Dto.updateField s))
      else none) ∧
    dto.listParams = if s.needsListParams then some (Server.Dto.paramFields s) else none := by
  simp only [Server.Dto.of] at made
  split at made
  · contradiction
  · cases made
    exact ⟨rfl, rfl, rfl⟩

def GoField.isFormat (f : GoField) : Bool := f.name = "Format"

theorem filterNotFormat (c : ColumnShape) : (Server.Dto.filterField c).isFormat = false := by
  refine decide_eq_false fun same => ?_
  simp only [Server.Dto.filterField, Server.filterFieldName] at same
  split at same
  · rename_i fixed
    -- The suffix is as long as the whole name that is wanted.
    have some : ∀ name ∈ Server.fixedParamFields, name.length ≠ 0 := by decide
    have length := congrArg String.length same
    rw [String.length_append] at length
    refine some _ (List.contains_iff_mem.mp fixed) ?_
    exact Nat.add_right_cancel (length.trans (Nat.zero_add _).symm)
  · rename_i other
    rw [same] at other
    exact other (by decide)

section
variable (plain : s.Plain)
include plain

theorem rowNames : (Server.Model.of s).fields.map (GoField.wireName "json") =
    (Client.Types.of s).row.map Client.Property.name := by
  simp only [Server.Model.of, Client.Types.of, List.map_map]
  exact List.map_congr_left fun c member => modelWireName (plain c member)

theorem requestsSent (v : ValidationRules) (type : ColumnShape → GoType)
    (required omits : ColumnShape → Bool) :
    (s.writable.map fun c => Server.Dto.requestField v c (type c) (required c) (omits c)).map
        GoField.sent =
      (s.writable.map fun c => Client.Property.ofColumn s c (omits c)).map
        Client.Property.sent := by
  rw [List.map_map, List.map_map]
  exact List.map_congr_left fun c member =>
    requestSent (plain c (TableShape.writableMember member)) ..

theorem filterNames : (s.filterColumns.map Server.Dto.filterField).map (GoField.wireName "form") =
    s.filterColumns.map ColumnShape.name := by
  rw [List.map_map]
  exact List.map_congr_left fun c member =>
    filterWireName (plain c (TableShape.namedMember member))

-- A filter on a column named format has a field of another name, so it stays.
theorem paramNames : ((Server.Dto.paramFields s).filter (!·.isFormat)).map
    (GoField.wireName "form") = (Client.Types.paramProperties s).map Client.Property.name := by
  have filters : (s.filterColumns.map Server.Dto.filterField).filter (!·.isFormat) =
      s.filterColumns.map Server.Dto.filterField := by
    refine List.filter_eq_self.mpr fun f member => ?_
    obtain ⟨c, -, rfl⟩ := List.mem_map.mp member
    rw [filterNotFormat, Bool.not_false]
  have properties : (s.filterColumns.map (Client.Property.filter s)).map Client.Property.name =
      s.filterColumns.map ColumnShape.name := by
    rw [List.map_map]
    rfl
  simp only [Server.Dto.paramFields, Client.Types.paramProperties, List.filter_append,
    List.map_append, filters, filterNames plain, properties]
  congr 1
  cases s.searches <;> cases s.has .export <;> rfl

theorem formNames : (Server.Dto.paramFields s).map (GoField.wireName "form") =
    ["page", "limit", "sort", "order"] ++ (if s.searches then ["q"] else []) ++
      (if s.has .export then ["format"] else []) ++ s.filterColumns.map ColumnShape.name := by
  simp only [Server.Dto.paramFields, List.map_append, filterNames plain]
  congr 1
  cases s.searches <;> cases s.has .export <;> decide

omit plain in
theorem filterParameterNames : (Plan.filterParameters s.table s.policy).map Parameter.name =
    s.filterColumns.map ColumnShape.name := by
  rw [Plan.filterParameters, List.map_map]
  rfl

omit plain in
theorem pageParameterNames : (Plan.pageParameters s.table s.policy).map Parameter.name =
    ["page", "limit", "sort", "order"] ++ s.filterColumns.map ColumnShape.name := by
  rw [Plan.pageParameters, List.map_append, filterParameterNames]
  rfl

theorem pageForm {q : Parameter} (paged : q ∈ Plan.pageParameters s.table s.policy) :
    q.name ∈ (Server.Dto.paramFields s).map (GoField.wireName "form") := by
  rw [formNames plain]
  have name := List.mem_map_of_mem (f := Parameter.name) paged
  rw [pageParameterNames] at name
  rcases List.mem_append.mp name with fixed | filter
  · exact List.mem_append_left _ (List.mem_append_left _ (List.mem_append_left _ fixed))
  · exact List.mem_append_right _ filter

theorem queryKnown {k : EndpointKind} (known : s.has k = true) {q : Parameter}
    (member : q ∈ Plan.parameters k s.table s.policy) (inQuery : q.location = .query) :
    s.needsListParams = true ∧
      q.name ∈ (Server.Dto.paramFields s).map (GoField.wireName "form") := by
  cases k with
  | list =>
      exact ⟨by simp [Subject.needsListParams, Subject.listsRows, known], pageForm plain member⟩
  | search =>
      refine ⟨by simp [Subject.needsListParams, Subject.listsRows, known], ?_⟩
      rcases List.mem_append.mp member with searched | paged
      · simp only [Plan.searchParameters] at searched
        split at searched
        · contradiction
        · rename_i some
          obtain rfl := List.mem_singleton.mp searched
          have searches : s.searches = true := by
            simp [Subject.searches, known, Subject.searchColumns, some]
          simp [formNames plain, searches]
      · exact pageForm plain paged
  | «export» =>
      refine ⟨by simp [Subject.needsListParams, Subject.listsRows, known], ?_⟩
      rcases List.mem_cons.mp member with rfl | paged
      · simp [formNames plain, known]
      · exact pageForm plain paged
  | stats =>
      have filter := List.mem_map_of_mem (f := Parameter.name) member
      rw [Plan.parameters, filterParameterNames] at filter
      rw [formNames plain]
      exact ⟨by simp [Subject.needsListParams, known], List.mem_append_right _ filter⟩
  | get | delete | create | update | bulk =>
      simp only [Plan.parameters, List.mem_cons, List.not_mem_nil, or_false] at member
      rcases member with rfl | rfl <;> cases inQuery

end

theorem clientKeyNumeric (s : Subject) :
    Client.keyType s = .number ↔ s.numericKey?.isSome = true := by
  unfold Client.keyType
  split <;> simp_all

theorem numericNotString {t : StorageType} (numeric : t.isNumeric = true) :
    GoType.ofStorage t ≠ .string := by
  obtain ⟨element, isArray⟩ := t
  cases isArray <;> cases element <;> first | contradiction | decide

theorem serverKeyNumeric (s : Subject) :
    Server.keyType s ≠ .string ↔ s.numericKey?.isSome = true := by
  unfold Server.keyType
  cases found : s.numericKey? with
  | none => simp
  | some c =>
      have numeric := (Option.filter_eq_some_iff.mp found).2
      simpa using numericNotString numeric

theorem plannedKeyNumeric (s : Subject) :
    Plan.idType s.table = .integer ∨ Plan.idType s.table = .number ↔
      s.numericKey?.isSome = true := by
  unfold Plan.idType Subject.numericKey? Subject.key?
  cases s.table.primaryKey? with
  | none => simp
  | some c => simp [Plan.columnType, StorageType.isNumeric, Option.filter]

variable {r : Rendering} {targets : List Target} {files : List Artifact}

def Rendering.printed? (r : Rendering) (s : Subject) (dto : Server.Dto) : Category → Option String
  | .model => some ((Server.Model.of s).file.text r.goModule)
  | .repository => some ((Server.Repository.of s).file.text r.goModule)
  | .dto => some (dto.file.text r.goModule)
  | .handler => some ((Server.Handler.of s).file.text r.goModule)
  | .routes => some ((Server.Routes.of s).file.text r.goModule)
  | .clientTypes => some (Code.fileText (Client.Types.of s).code)
  | .clientApi => some (Code.fileText (Client.Api.of r.apiBasePath s).code)
  | .index => none

theorem memBothTargets (server : .server ∈ targets) (client : .client ∈ targets)
    (rendered : r.artifacts s targets = .ok files) :
    ∃ own, r.serverArtifacts s = .ok own ∧ ∀ f, f ∈ files ↔ f ∈ own ∨ f ∈ r.clientArtifacts s := by
  obtain ⟨own, served⟩ := Rendering.targetRendered rendered server
  refine ⟨own, served, fun f => ?_⟩
  rw [Rendering.memArtifacts rendered]
  constructor
  · rintro ⟨target, -, again, one, inside⟩
    cases target with
    | server =>
        cases served.symm.trans one
        exact .inl inside
    | client =>
        cases one
        exact .inr inside
  · rintro (inside | inside)
    · exact ⟨.server, server, own, served, inside⟩
    · exact ⟨.client, client, _, rfl, inside⟩

theorem printedFiles (server : .server ∈ targets) (client : .client ∈ targets)
    (rendered : r.artifacts s targets = .ok files) :
    ∃ dto, Server.Dto.of s = .ok dto ∧ ∀ category contents,
      r.printed? s dto category = some contents ↔
        ∃ f ∈ files, f.category = category ∧ f.contents = contents := by
  obtain ⟨own, served, written⟩ := memBothTargets server client rendered
  rw [Rendering.serverArtifacts] at served
  cases made : Server.Dto.of s with
  | error e =>
      rw [made] at served
      cases served
  | ok dto =>
      rw [made] at served
      cases served
      refine ⟨dto, rfl, fun category contents => ?_⟩
      simp only [written, Rendering.clientArtifacts, Rendering.serverFile]
      cases category <;> simp [Rendering.printed?, or_and_right, exists_or]

structure OnWire (model : Server.Model) (repository : Server.Repository) (dto : Server.Dto)
    (handler : Server.Handler) (types : Client.Types) (api : Client.Api)
    (plan : List Endpoint) : Prop where
  rows : model.fields.map (GoField.wireName "json") = types.row.map Client.Property.name
  creates : dto.create.map (List.map GoField.sent) =
    types.create.map (List.map Client.Property.sent)
  updates : dto.update.map (List.map GoField.sent) =
    types.update.map (List.map Client.Property.sent)
  params : dto.listParams.map (fun fields =>
      (fields.filter (!·.isFormat)).map (GoField.wireName "form")) =
    types.listParams.map (List.map Client.Property.name)
  queries : ∀ e ∈ plan, ∀ q ∈ e.parametersIn .query, ∃ fields, dto.listParams = some fields ∧
    q.name ∈ fields.map (GoField.wireName "form")
  keys : api.keyType = .number ↔ repository.keyType ≠ .string
  handlerKey : ∀ key, handler.key = some key → key = repository.keyType
  pathNames : ∀ e ∈ plan,
    (e.parametersIn .path).map Parameter.name = if e.kind.isSingular then ["id"] else []
  paths : ∀ e ∈ plan, ∀ id ∈ e.parametersIn .path,
    api.keyType = .number ↔ id.type = .integer ∨ id.type = .number

theorem onWire {dto : Server.Dto} (plain : s.Plain) (made : Server.Dto.of s = .ok dto)
    (planned : Plan.endpoints s.table s.policy = .ok s.plan) (baseUrl : String) :
    OnWire (.of s) (.of s) dto (.of s) (.of s) (.of baseUrl s) s.plan := by
  obtain ⟨create, update, params⟩ := dtoOf made
  have paths : ∀ e ∈ s.plan, e.parametersIn .path =
      if e.kind.isSingular then [Plan.idParameter s.table] else [] := fun e member => by
    rw [Plan.plannedEndpoint planned member]
    exact Plan.pathParameters _ _ _
  constructor
  case rows => exact rowNames plain
  case creates =>
    rw [create, Client.Types.of]
    dsimp only
    split
    · exact congrArg some (requestsSent plain _ _ s.requires fun c => !s.requires c)
    · rfl
  case updates =>
    rw [update, Client.Types.of]
    dsimp only
    split
    · exact congrArg some (requestsSent plain _ _ (fun _ => false) fun _ => true)
    · rfl
  case params =>
    rw [params, Client.Types.of]
    dsimp only
    split
    · exact congrArg some (paramNames plain)
    · rfl
  case queries =>
    intro e member q inside
    obtain ⟨announced, inQuery⟩ := List.mem_filter.mp inside
    rw [Plan.plannedEndpoint planned member] at announced
    have known : s.has e.kind = true := List.any_eq_true.mpr ⟨e, member, beq_self_eq_true _⟩
    obtain ⟨needed, form⟩ := queryKnown plain known announced (of_decide_eq_true inQuery)
    exact ⟨_, by rw [params, if_pos needed], form⟩
  case keys => exact (clientKeyNumeric s).trans (serverKeyNumeric s).symm
  case handlerKey =>
    intro key read
    simp only [Server.Handler.of] at read
    split at read
    · exact (Option.some.inj read).symm
    · contradiction
  case pathNames =>
    intro e member
    rw [paths e member]
    split <;> rfl
  case paths =>
    intro e member id inside
    rw [paths e member] at inside
    split at inside
    · obtain rfl := List.mem_singleton.mp inside
      exact (clientKeyNumeric s).trans (plannedKeyNumeric s).symm
    · contradiction

end RestScaffold
