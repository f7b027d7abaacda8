import Mathlib.Data.List.Nodup
import RestScaffold.Proofs.Artifact.Paths
import RestScaffold.Proofs.Code.Collect

/-! Each Go file imports the packages that its code refers to, and each of them once. The handlers
and the repository of a table without endpoints are the exception: they import packages that nothing
in them refers to. -/
namespace RestScaffold
open Catalog Code

def GoFile.packages (f : GoFile) : List Package := collect Fragment.package? f.body

def GoFile.Closed (f : GoFile) : Prop := ∀ q ∈ f.packages, q ∈ f.imports.flatten

def GoFile.Tight (f : GoFile) : Prop :=
  f.imports.flatten.Nodup ∧ ∀ q, q ∈ f.imports.flatten ↔ q ∈ f.packages

theorem GoFile.Tight.closed {f : GoFile} (tight : f.Tight) : f.Closed :=
  fun q => (tight.2 q).mpr

namespace GoType

@[simp]
theorem linePackages (t : GoType) : t.line.filterMap Fragment.package? = t.package?.toList := by
  induction t with
  | slice element ih => simpa [line, package?] using ih
  | pointer target ih => simpa [line, package?] using ih
  | time => rfl
  | rawJson => rfl
  | string | bool | int _ | float _ | byte => rfl

theorem packageKnown {t : GoType} {q : Package} (named : t.package? = some q) :
    q ∈ [Package.json, Package.time] := by
  induction t with
  | slice _ ih => exact ih named
  | pointer _ ih => exact ih named
  | time | rawJson =>
      cases named
      decide
  | string | bool | int _ | float _ | byte => cases named

end GoType

namespace Server

@[simp]
theorem fieldPackages (f : GoField) :
    f.code.filterMap Fragment.package? = f.type.package?.toList := by
  simp [GoField.code]

theorem memTypeImports {types : List GoType} {q : Package} :
    q ∈ typeImports types ↔ ∃ t ∈ types, t.package? = some q := by
  simp only [typeImports, List.mem_filter, List.any_eq_true, beq_iff_eq]
  constructor
  · exact And.right
  · rintro ⟨t, member, named⟩
    exact ⟨GoType.packageKnown named, t, member, named⟩

theorem typeImportsNodup (types : List GoType) : (typeImports types).Nodup :=
  List.Nodup.filter _ (by decide)

theorem modelTight (s : Subject) : (Model.of s).file.Tight := by
  constructor
  · simpa [Model.file] using typeImportsNodup _
  · intro q
    simp [Model.file, GoFile.packages, Model.code, memTypeImports]

theorem dtoTight (d : Dto) : d.file.Tight := by
  constructor
  · have apart : ∀ q ∈ typeImports (d.fields.map GoField.type), q ≠ .models := by
      intro q member
      obtain ⟨t, -, named⟩ := memTypeImports.mp member
      rintro rfl
      exact absurd (GoType.packageKnown named) (by decide)
    have nodup := typeImportsNodup (d.fields.map GoField.type)
    cases paged : d.paged
    · simpa [Dto.file, paged] using nodup
    · simpa [Dto.file, paged, List.nodup_append, nodup] using apart
  · intro q
    have optional : ∀ (fields : Option (List GoField)) (code : List GoField → List Line),
        (∀ fs, collect Fragment.package? (code fs) =
          fs.flatMap fun f => f.type.package?.toList) →
        (q ∈ collect Fragment.package? ((fields.map code).getD []) ↔
          ∃ f ∈ fields.getD [], f.type.package? = some q) := by
      intro fields code tells
      cases fields <;> simp [tells]
    have create := optional d.create d.createCode fun fs => by simp [Dto.createCode]
    have update := optional d.update d.updateCode fun fs => by simp [Dto.updateCode]
    have params := optional d.listParams d.paramsCode fun fs => by simp [Dto.paramsCode]
    have paged : collect Fragment.package? (if d.paged then d.pageCode else []) =
        if d.paged then [.models] else [] := by simp [Dto.pageCode]
    have stats : collect Fragment.package? (if d.stats then d.statsCode else []) = [] := by
      simp [Dto.statsCode]
    simp only [Dto.file, GoFile.packages, Dto.code, collectAppend, List.mem_append, create, update,
      params, paged, stats, List.flatten_cons, List.flatten_nil, memTypeImports, Dto.fields,
      List.mem_map, or_and_right, exists_or, List.not_mem_nil, or_false]
    simp

theorem routesTight (r : Routes) : r.file.Tight := by
  constructor
  · change [Package.gin, .handlers].Nodup
    decide
  · intro q
    simp [Routes.file, GoFile.packages, Routes.code, Routes.registrationCode]

theorem indexTight (i : RoutesIndex) : i.file.Tight := by
  obtain ⟨tables⟩ := i
  constructor
  · cases tables with
    | nil =>
        change [Package.sql, .gin].Nodup
        decide
    | cons =>
        change [Package.sql, .gin, .handlers, .repository].Nodup
        decide
  · intro q
    cases tables with
    | nil =>
        simp [RoutesIndex.file, GoFile.packages, RoutesIndex.code, RoutesIndex.middlewareCode,
          RoutesIndex.makers]
        grind
    | cons =>
        simp [RoutesIndex.file, GoFile.packages, RoutesIndex.code, RoutesIndex.middlewareCode,
          RoutesIndex.makers, RoutesIndex.registerTable]
        grind

theorem kindExists {P : EndpointKind → Prop} : (∃ k, P k) ↔ P .list ∨ P .create ∨ P .get ∨
    P .update ∨ P .delete ∨ P .bulk ∨ P .search ∨ P .stats ∨ P .export := by
  constructor
  · rintro ⟨k, holds⟩
    cases k <;> simp [holds]
  · rintro (h | h | h | h | h | h | h | h | h) <;> exact ⟨_, h⟩

theorem memPlan {s : Subject} {P : EndpointKind → Prop} :
    (∃ e ∈ s.plan, P e.kind) ↔ ∃ k, s.has k = true ∧ P k := by
  simp only [Subject.has, List.any_eq_true, beq_iff_eq]
  constructor
  · rintro ⟨e, member, holds⟩
    exact ⟨e.kind, ⟨e, member, rfl⟩, holds⟩
  · rintro ⟨k, ⟨e, member, rfl⟩, holds⟩
    exact ⟨e, member, holds⟩

theorem anyPlanned {s : Subject} (test : EndpointKind → Bool) :
    s.plan.any (fun e => test e.kind) = true ↔ ∃ k, s.has k = true ∧ test k = true := by
  rw [List.any_eq_true]
  exact memPlan (P := fun k => test k = true)

theorem planned {s : Subject} : s.plan ≠ [] ↔ ∃ k, s.has k = true := by
  have some := memPlan (s := s) (P := fun _ => True)
  simp only [and_true] at some
  rw [← some]
  exact ⟨List.exists_mem_of_ne_nil _, fun ⟨_, member⟩ => List.ne_nil_of_mem member⟩

theorem keyTypeKnown (s : Subject) :
    Server.keyType s ∈ [.string, .int 16, .int 32, .int 64, .float 32, .float 64] := by
  unfold Server.keyType
  cases found : s.numericKey? with
  | none => exact List.mem_cons_self
  | some c =>
      have numeric := (Option.filter_eq_some_iff.mp found).2
      dsimp only
      generalize StorageType.ofText c.dataType = t at numeric ⊢
      obtain ⟨element, isArray⟩ := t
      cases isArray <;> cases element <;> first | contradiction | decide

theorem keyTypeForms (s : Subject) :
    Server.keyType s = .string ∨ (∃ bits, Server.keyType s = .int bits) ∨
      ∃ bits, Server.keyType s = .float bits := by
  have known := keyTypeKnown s
  simp only [List.mem_cons, List.not_mem_nil, or_false] at known
  rcases known with form | form | form | form | form | form <;> simp [form]

namespace Handler

variable (h : Handler)

def kindPackages : EndpointKind → List Package
  | .list | .search | .create | .bulk => [.dto]
  | .export => [.csv, .models]
  | .get => [.errors, .sql]
  | .update => [.dto, .errors, .sql]
  | .delete | .stats => []

theorem memAction (a : Action) (q : Package) : q ∈ collect Fragment.package? (h.actionCode a) ↔
    q ∈ Package.gin :: .http :: kindPackages a.kind := by
  cases kind : a.kind
  case search =>
    cases searches : h.searches <;>
      simp [actionCode, body, kind, searches, context, readParams, call, refuse, refuseErrors,
        answer, answerPage, kindPackages] <;> grind
  all_goals
    simp [actionCode, body, kind, context, readParams, readKey, readBody, call, refuse,
      refuseErrors, refuseMissing, answer, answerPage, answerCsv, kindPackages]
    try grind

theorem memKey {key : GoType} (q : Package)
    (form : key = .string ∨ (∃ bits, key = .int bits) ∨ ∃ bits, key = .float bits) :
    q ∈ collect Fragment.package? (h.keyCode key) ↔
      q = .gin ∨ key ≠ .string ∧ q = .strconv := by
  rcases form with rfl | ⟨bits, rfl⟩ | ⟨bits, rfl⟩ <;>
    simp [keyCode, keyBody, context, GoType.package?]

theorem memRecord {fields : List RecordField} (q : Package) (some : fields ≠ []) :
    q ∈ collect Fragment.package? (h.recordCode fields) ↔ q = .models ∨ q = .fmt := by
  have field (f : RecordField) : q ∈ collect Fragment.package? (recordFieldCode f) ↔ q = .fmt := by
    cases pointer : f.pointer <;> simp [recordFieldCode, pointer]
  have known : ∃ f, f ∈ fields := List.exists_mem_of_ne_nil fields some
  simp [recordCode, field, known]

theorem memImports (q : Package) : q ∈ h.file.imports.flatten ↔
    h.looksUp = true ∧ (q = .sql ∨ q = .errors) ∨
    h.record.isSome = true ∧ (q = .csv ∨ q = .fmt ∨ q = .models) ∨
    h.readsNumber = true ∧ q = .strconv ∨
    (h.pagination.isSome = true ∨ h.writes = true) ∧ q = .dto ∨
    q = .http ∨ q = .gin ∨ q = .repository := by
  simp [file]
  grind

theorem memPackages {s : Subject} (some : s.table.columns ≠ []) (q : Package) :
    q ∈ (Handler.of s).file.packages ↔
      q = .repository ∨ s.needsListParams = true ∧ (q = .gin ∨ q = .dto) ∨
      s.hasSingular = true ∧ (q = .gin ∨ Server.keyType s ≠ .string ∧ q = .strconv) ∨
      s.has .export = true ∧ (q = .models ∨ q = .fmt) ∨
      ∃ k, s.has k = true ∧ q ∈ Package.gin :: .http :: kindPackages k := by
  have type : q ∈ collect Fragment.package? (Handler.of s).typeCode ↔ q = .repository := by
    simp [typeCode, repositoryType]
  have params : q ∈ collect Fragment.package?
      (((Handler.of s).pagination.map (Handler.of s).paramsCode).getD []) ↔
        s.needsListParams = true ∧ (q = .gin ∨ q = .dto) := by
    cases needed : s.needsListParams <;> simp [Handler.of, needed, paramsCode, context]
  have key : q ∈ collect Fragment.package?
      (((Handler.of s).key.map (Handler.of s).keyCode).getD []) ↔
        s.hasSingular = true ∧ (q = .gin ∨ Server.keyType s ≠ .string ∧ q = .strconv) := by
    cases singular : s.hasSingular <;> simp [Handler.of, singular, memKey _ q (keyTypeForms s)]
  have record : q ∈ collect Fragment.package?
      (((Handler.of s).record.map (Handler.of s).recordCode).getD []) ↔
        s.has .export = true ∧ (q = .models ∨ q = .fmt) := by
    have fields : s.table.columns.map recordField ≠ [] := by simpa using some
    cases exports : s.has .export <;> simp [Handler.of, exports, memRecord _ q fields]
  have actions : q ∈ collect Fragment.package?
      ((Handler.of s).actions.flatMap (Handler.of s).actionCode) ↔
        ∃ k, s.has k = true ∧ q ∈ Package.gin :: .http :: kindPackages k := by
    rw [← memPlan (P := fun k => q ∈ Package.gin :: .http :: kindPackages k)]
    simp only [collectFlatMap, List.mem_flatMap, memAction, Handler.of, List.mem_map]
    constructor
    · rintro ⟨_, ⟨e, member, rfl⟩, holds⟩
      exact ⟨e, member, holds⟩
    · rintro ⟨e, member, holds⟩
      exact ⟨_, ⟨e, member, rfl⟩, holds⟩
  simp only [GoFile.packages, file, code, collectAppend, List.mem_append, type, params, key, record,
    actions, or_assoc]

theorem importsNodup : h.file.imports.flatten.Nodup := by
  have each : ∀ looksUp exports reads typed : Bool,
      (((if looksUp then [Package.sql] else []) ++ (if exports then [Package.csv] else []) ++
        (if looksUp then [Package.errors] else []) ++ (if exports then [Package.fmt] else []) ++
        [Package.http] ++ (if reads then [Package.strconv] else [])) ++ ([Package.gin] ++
        ((if typed then [Package.dto] else []) ++ (if exports then [Package.models] else []) ++
        [Package.repository]))).Nodup := by decide
  simpa only [file, List.flatten_cons, List.flatten_nil, List.append_nil] using
    each h.looksUp h.record.isSome h.readsNumber (h.pagination.isSome || h.writes)

theorem importsSame {s : Subject} (some : s.table.columns ≠ []) (q : Package) :
    (q ∈ (Handler.of s).file.imports.flatten ↔ q ∈ (Handler.of s).file.packages) ↔
      q ∉ [Package.http, .gin] ∨ s.plan ≠ [] := by
  have singular : s.hasSingular = true ↔
      s.has .get = true ∨ s.has .update = true ∨ s.has .delete = true := by
    rw [Subject.hasSingular, anyPlanned EndpointKind.isSingular, kindExists]
    simp [EndpointKind.isSingular]
  have looksUp : (Handler.of s).looksUp = true ↔ s.has .get = true ∨ s.has .update = true := by
    rw [looksUp, Handler.of, List.any_map]
    exact (anyPlanned fun k => k == .get || k == .update).trans (by simp [kindExists])
  have reads : (Handler.of s).readsNumber = true ↔
      s.hasSingular = true ∧ Server.keyType s ≠ .string := by
    cases known : s.hasSingular <;> simp [Handler.of, readsNumber, known]
  rw [memImports, memPackages some, looksUp, reads, singular, planned]
  simp only [kindExists]
  cases q <;> simp [Handler.of, Subject.needsListParams, Subject.listsRows,
    Subject.needsCreateShape, kindPackages] <;> grind

theorem handlerClosed {s : Subject} (some : s.table.columns ≠ []) : (Handler.of s).file.Closed := by
  intro q used
  by_cases fixed : q ∈ [Package.http, .gin]
  · rw [memImports]
    simp only [List.mem_cons, List.not_mem_nil, or_false] at fixed
    grind
  · exact ((importsSame some q).mpr (.inl fixed)).mpr used

theorem handlerTight {s : Subject} (some : s.table.columns ≠ []) :
    (Handler.of s).file.Tight ↔ s.plan ≠ [] := by
  constructor
  · intro tight
    exact ((importsSame some .http).mp (tight.2 .http)).resolve_left (by decide)
  · exact fun busy => ⟨(Handler.of s).importsNodup, fun q => (importsSame some q).mpr (.inr busy)⟩

end Handler

namespace Repository

variable (r : Repository)

def kindPackages : EndpointKind → List Package
  | .list | .search | .export | .stats | .create | .bulk | .update => [.dto]
  | .get | .delete => []

theorem memAccess (a : Access) (q : Package)
    (key : r.keyType.line.filterMap Fragment.package? = []) :
    q ∈ collect Fragment.package? (r.accessCode a) ↔
      q = .context ∨ q ∈ kindPackages a.kind ∨
        q = .models ∧ a.kind ≠ .stats ∧ a.kind ≠ .delete := by
  cases a
  case search matching =>
    cases matching <;>
      simp [accessCode, method, accessArguments, accessResults, accessBody, Access.kind, context,
        params, pageResults, row, kindPackages]
  all_goals
    simp [accessCode, method, accessArguments, accessResults, accessBody, Access.kind, context,
      params, pageResults, row, rowResults, failed, bulkCode, createRequest, updateRequest,
      Repository.key, key, kindPackages]
    try grind

theorem accessKind (s : Subject) (k : EndpointKind) : (access s k).kind = k := by cases k <;> rfl

theorem keyUnpackaged (s : Subject) :
    (Repository.of s).keyType.line.filterMap Fragment.package? = [] := by
  rw [GoType.linePackages, Repository.of]
  rcases keyTypeForms s with form | ⟨bits, form⟩ | ⟨bits, form⟩ <;> rw [form] <;> rfl

theorem memCriteria (c : Criteria) (q : Package) : q ∈ collect Fragment.package? c.code ↔
    q = .dto ∨ q = .strings ∨ (c.filters ≠ [] ∨ c.searched ≠ []) ∧ q = .fmt := by
  have filter (f : Filter) : collect Fragment.package? (Criteria.filterCode f) = [.fmt] := by
    cases pointer : f.pointer <;> simp [Criteria.filterCode, Criteria.numberedClause, pointer]
  have filters : q ∈ c.filters.flatMap
      (fun f => collect Fragment.package? (Criteria.filterCode f)) ↔
      c.filters ≠ [] ∧ q = .fmt := by
    cases c.filters <;> simp [filter]
  have searched : q ∈ collect Fragment.package? (Criteria.searchCode c.searched) ↔
      c.searched ≠ [] ∧ q = .fmt := by
    cases c.searched <;> simp [Criteria.searchCode, Criteria.numberedClause]
  simp [Criteria.code, Criteria.fixedClause, filters, searched]
  grind

theorem memFind (o : Ordering) (q : Package) :
    q ∈ collect Fragment.package? (o.code ++ r.findCode) ↔
      q ∈ [Package.dto, .strings, .fmt, .context, .models] := by
  simp [Ordering.code, Ordering.sortableCode, Ordering.orderCode, findCode, method, context, params,
    row, failed]
  grind

theorem memInsert (w : Writing) (q : Package) : q ∈ collect Fragment.package? (r.insertCode w) ↔
    q ∈ [Package.context, .sql, .dto, .models] := by
  simp [insertCode, context, createRequest, row]
  grind

theorem memImports (q : Package) : q ∈ r.file.imports.flatten ↔
    q = .context ∨ q = .sql ∨ r.formats = true ∧ q = .fmt ∨
    r.criteria.isSome = true ∧ q = .strings ∨
    (r.criteria.isSome = true ∨ r.insertion.isSome = true ∨ r.hasUpdate = true) ∧ q = .dto ∨
    q = .models := by
  simp [file]
  grind

theorem memPackages (s : Subject) (q : Package) : q ∈ (Repository.of s).file.packages ↔
    q = .sql ∨ q = .models ∨
    s.needsListParams = true ∧ (q = .dto ∨ q = .strings ∨
      ((Criteria.of s).filters ≠ [] ∨ (Criteria.of s).searched ≠ []) ∧ q = .fmt) ∨
    s.listsRows = true ∧ q ∈ [Package.dto, .strings, .fmt, .context, .models] ∨
    s.needsCreateShape = true ∧ q ∈ [Package.context, .sql, .dto, .models] ∨
    ∃ k, s.has k = true ∧ (q = .context ∨ q ∈ kindPackages k ∨
      q = .models ∧ k ≠ .stats ∧ k ≠ .delete) := by
  have type : q ∈ collect Fragment.package? (Repository.of s).typeCode ↔ q = .sql := by
    simp [typeCode]
  have scan : q ∈ collect Fragment.package? (Repository.of s).scanCode ↔ q = .models := by
    simp [scanCode, row]
  have criteria : q ∈ collect Fragment.package?
      (((Repository.of s).criteria.map Criteria.code).getD []) ↔
        s.needsListParams = true ∧ (q = .dto ∨ q = .strings ∨
          ((Criteria.of s).filters ≠ [] ∨ (Criteria.of s).searched ≠ []) ∧ q = .fmt) := by
    cases needed : s.needsListParams <;> simp [Repository.of, needed, memCriteria]
  have ordering : q ∈ collect Fragment.package?
      (((Repository.of s).ordering.map fun o => o.code ++ (Repository.of s).findCode).getD []) ↔
        s.listsRows = true ∧ q ∈ [Package.dto, .strings, .fmt, .context, .models] := by
    have ordering : (Repository.of s).ordering = if s.listsRows then some (.of s) else none := rfl
    rw [ordering]
    cases s.listsRows with
    | false => simp
    | true => simpa using (Repository.of s).memFind (.of s) q
  have insertion : q ∈ collect Fragment.package?
      (((Repository.of s).insertion.map (Repository.of s).insertCode).getD []) ↔
        s.needsCreateShape = true ∧ q ∈ [Package.context, .sql, .dto, .models] := by
    cases creates : s.needsCreateShape <;> simp [Repository.of, creates, memInsert]
  have accesses : q ∈ collect Fragment.package?
      ((Repository.of s).accesses.flatMap (Repository.of s).accessCode) ↔
        ∃ k, s.has k = true ∧ (q = .context ∨ q ∈ kindPackages k ∨
          q = .models ∧ k ≠ .stats ∧ k ≠ .delete) := by
    rw [← memPlan (P := fun k => q = .context ∨ q ∈ kindPackages k ∨
      q = .models ∧ k ≠ .stats ∧ k ≠ .delete)]
    have each (k : EndpointKind) : q ∈ collect Fragment.package?
        ((Repository.of s).accessCode (access s k)) ↔ q = .context ∨ q ∈ kindPackages k ∨
          q = .models ∧ k ≠ .stats ∧ k ≠ .delete := by
      rw [memAccess _ _ q (keyUnpackaged s), accessKind]
    have accesses : (Repository.of s).accesses = s.plan.map fun e => access s e.kind := rfl
    rw [collectFlatMap, accesses, List.flatMap_map]
    simp only [List.mem_flatMap, each]
  simp only [GoFile.packages, file, code, collectAppend, List.mem_append, type, scan, criteria,
    ordering, insertion, accesses, or_assoc]

theorem importsNodup : r.file.imports.flatten.Nodup := by
  have each : ∀ formats selects typed : Bool,
      (([Package.context, .sql] ++ (if formats then [Package.fmt] else []) ++
        (if selects then [Package.strings] else [])) ++
        ((if typed then [Package.dto] else []) ++ [Package.models])).Nodup := by decide
  simpa only [file, List.flatten_cons, List.flatten_nil, List.append_nil] using
    each r.formats r.criteria.isSome (r.criteria.isSome || r.insertion.isSome || r.hasUpdate)

theorem importsSame (s : Subject) (q : Package) :
    (q ∈ (Repository.of s).file.imports.flatten ↔ q ∈ (Repository.of s).file.packages) ↔
      q ≠ .context ∨ s.plan ≠ [] := by
  have updates : (Repository.of s).hasUpdate = true ↔ s.has .update = true := by
    rw [hasUpdate, Repository.of, List.any_map]
    exact (anyPlanned fun k => (access s k).kind == .update).trans (by simp [accessKind])
  have formats : (Repository.of s).formats = true ↔ s.listsRows = true ∨
      s.needsListParams = true ∧
        ((Criteria.of s).filters ≠ [] ∨ (Criteria.of s).searched ≠ []) := by
    cases lists : s.listsRows <;> cases needed : s.needsListParams <;>
      simp [Repository.formats, Repository.of, lists, needed]
  rw [memImports, memPackages s, updates, formats, planned]
  simp only [kindExists]
  cases q <;> simp [Repository.of, Subject.needsListParams, Subject.listsRows,
    Subject.needsCreateShape, kindPackages] <;> grind

theorem repositoryClosed (s : Subject) : (Repository.of s).file.Closed := by
  intro q used
  by_cases fixed : q = .context
  · exact (memImports _ q).mpr (.inl fixed)
  · exact ((importsSame s q).mpr (.inl fixed)).mpr used

theorem repositoryTight (s : Subject) : (Repository.of s).file.Tight ↔ s.plan ≠ [] := by
  constructor
  · intro tight
    exact ((importsSame s .context).mp (tight.2 .context)).resolve_left (by decide)
  · exact fun busy => ⟨(Repository.of s).importsNodup, fun q => (importsSame s q).mpr (.inr busy)⟩

end Repository
end Server

variable {r : Rendering} {table : TableShape} {policy : Policy} {plan : List Endpoint}
  {targets : List Target} {files : List Artifact}

theorem serverFileFits {s : Subject} (some : s.table.columns ≠ []) {dto : Server.Dto}
    {category : Category} {g : GoFile} (file : Rendering.serverFile? s dto category = .some g) :
    g.Closed ∧ (g.Tight ↔ s.plan ≠ [] ∨ category ∉ [.repository, .handler]) := by
  have always {g : GoFile} (tight : g.Tight) (other : category ∉ [.repository, .handler]) :
      g.Closed ∧ (g.Tight ↔ s.plan ≠ [] ∨ category ∉ [.repository, .handler]) :=
    ⟨tight.closed, fun _ => .inr other, fun _ => tight⟩
  cases category with
  | model =>
      cases file
      exact always (Server.modelTight s) (by decide)
  | dto =>
      cases file
      exact always (Server.dtoTight dto) (by decide)
  | routes =>
      cases file
      exact always (Server.routesTight _) (by decide)
  | repository =>
      cases file
      exact ⟨Server.Repository.repositoryClosed s,
        (Server.Repository.repositoryTight s).trans (by simp)⟩
  | handler =>
      cases file
      exact ⟨Server.Handler.handlerClosed some, (Server.Handler.handlerTight some).trans (by simp)⟩
  | clientTypes | clientApi | index => cases file

end RestScaffold
