import Mathlib.Data.List.Basic
import Mathlib.Data.List.Find
import RestScaffold.Proofs.Artifact.Paths
import RestScaffold.Proofs.Server.Columns

/-! Entries of a policy that name no column of a table. Nothing is planned or rendered from them:
with and without them, the plan is the same, and so are the files for every target. -/
namespace RestScaffold
open Catalog

namespace SortedMap

variable {α : Type} {m : SortedMap α} {key : String} {keep : String → Bool}

def restrict (m : SortedMap α) (keep : String → Bool) : SortedMap α :=
  ⟨m.entries.filter fun e => keep e.1⟩

theorem getRestricted (kept : keep key = true) : (m.restrict keep).get? key = m.get? key := by
  obtain ⟨entries⟩ := m
  simp only [restrict, get?]
  induction entries with
  | nil => rfl
  | cons entry rest ih =>
      obtain ⟨k, v⟩ := entry
      cases inside : keep k with
      | true => simp only [List.filter_cons, inside, if_true, List.lookup_cons, ih]
      | false =>
          have different : (key == k) = false := by
            rw [beq_eq_false_iff_ne]
            rintro rfl
            rw [kept] at inside
            cases inside
          simp only [List.filter_cons, inside, Bool.false_eq_true, if_false, List.lookup_cons,
            different, ih]

end SortedMap

def ValidationRules.within (t : TableShape) (v : ValidationRules) : ValidationRules where
  required := v.required.filter t.hasColumn
  minLength := v.minLength.restrict t.hasColumn
  maxLength := v.maxLength.restrict t.hasColumn
  minValue := v.minValue.restrict t.hasColumn
  maxValue := v.maxValue.restrict t.hasColumn
  emailFields := v.emailFields.filter t.hasColumn
  urlFields := v.urlFields.filter t.hasColumn
  uuidFields := v.uuidFields.filter t.hasColumn
  enums := v.enums.restrict t.hasColumn

def Policy.within (t : TableShape) (p : Policy) : Policy where
  enabled := p.enabled
  endpoints := p.endpoints
  validation := p.validation.within t
  pagination := p.pagination
  filtering :=
    { filterFields := p.filtering.filterFields.filter t.hasColumn
      searchFields := p.filtering.searchFields.filter t.hasColumn }
  sorting :=
    { sortFields := p.sorting.sortFields.filter t.hasColumn
      defaultSort := p.sorting.defaultSort.filter t.hasColumn
      defaultOrder := p.sorting.defaultOrder }
  caching := p.caching
  security := p.security

variable {t : TableShape} {p : Policy} {c : ColumnShape}

theorem namedWithin (t : TableShape) (names : List String) :
    t.namedColumns (names.filter t.hasColumn) = t.namedColumns names := by
  simp only [TableShape.namedColumns, List.filterMap_filter]
  refine List.filterMap_congr fun name _ => ?_
  cases found : t.column? name with
  | none => rw [TableShape.hasColumn, found]; rfl
  | some c => rw [TableShape.hasColumn, found]; rfl

theorem containsWithin (member : c ∈ t.columns) (names : List String) :
    (names.filter t.hasColumn).contains c.name = names.contains c.name := by
  simp [List.mem_filter, TableShape.hasOwn member]

namespace Plan

theorem filterWithin : filterColumns t (p.within t) = filterColumns t p := namedWithin t _

theorem searchWithin : searchColumns t (p.within t) = searchColumns t p := namedWithin t _

theorem sortWithin : sortColumns t (p.within t) = sortColumns t p := namedWithin t _

theorem defaultSortWithin : defaultSortColumn t (p.within t) = defaultSortColumn t p := by
  simp [defaultSortColumn, Policy.within, Option.filter_filter]

theorem endpointWithin (k : EndpointKind) : endpoint t (p.within t) k = endpoint t p k := by
  have filters : filterParameters t (p.within t) = filterParameters t p := by
    rw [filterParameters, filterWithin]
    rfl
  have pages : pageParameters t (p.within t) = pageParameters t p := by
    simp only [pageParameters, sortParameter, filters, sortWithin, defaultSortWithin]
    rfl
  have parameters : parameters k t (p.within t) = parameters k t p := by
    cases k <;> simp only [Plan.parameters, searchParameters, searchWithin, pages, filters]
  have description : description k t (p.within t) = description k t p := by
    cases k
    case search =>
      change (if (searchColumns t (p.within t)).isEmpty then _ else _) = _
      rw [searchWithin]
      rfl
    all_goals rfl
  simp only [endpoint, parameters, description]
  rfl

theorem endpointsWithin : endpoints t (p.within t) = endpoints t p := by
  rw [endpoints, funext endpointWithin]
  rfl

end Plan

namespace Subject

def within (s : Subject) : Subject := { s with policy := s.policy.within s.table }

variable {s : Subject}

theorem filterWithin : s.within.filterColumns = s.filterColumns := Plan.filterWithin

theorem searchWithin : s.within.searchColumns = s.searchColumns := Plan.searchWithin

theorem searchesWithin : s.within.searches = s.searches := by
  rw [searches, searches, searchWithin]
  rfl

theorem sortWithin : s.within.sortColumns = s.sortColumns := by
  simp only [sortColumns, within, Plan.sortWithin]

theorem defaultSortWithin : s.within.defaultSort = s.defaultSort := by
  simp only [defaultSort, within, Plan.defaultSortWithin]
  rfl

theorem requiresWithin (member : c ∈ s.table.columns) : s.within.requires c = s.requires c := by
  rw [requires, requires]
  exact congrArg (· || _) (containsWithin member s.policy.validation.required)

end Subject

variable {s : Subject}

namespace Server

theorem rulesWithin (v : ValidationRules) (member : c ∈ t.columns) :
    Dto.rules (v.within t) c = Dto.rules v c := by
  have own := TableShape.hasOwn member
  simp only [Dto.rules, Dto.lengthRules, Dto.lengthLimit, Dto.valueRules, Dto.formatRules,
    Dto.enumRules, ValidationRules.within, SortedMap.getRestricted own, containsWithin member]

theorem requestFieldWithin (v : ValidationRules) (member : c ∈ t.columns) (type : GoType)
    (required omits : Bool) :
    Dto.requestField (v.within t) c type required omits =
      Dto.requestField v c type required omits := by
  simp only [Dto.requestField, Dto.binding, rulesWithin v member]

theorem badEnumWithin : Dto.badEnum? s.within = Dto.badEnum? s := by
  refine List.find?_congr fun c member => ?_
  have inside : c ∈ s.table.columns := TableShape.writableMember member
  have own := TableShape.hasOwn inside
  simp only [Subject.within, Policy.within, ValidationRules.within, SortedMap.getRestricted own]

theorem dtoWithin : Dto.of s.within = Dto.of s := by
  have create : s.within.writable.map (Dto.createField s.within) =
      s.writable.map (Dto.createField s) := by
    refine List.map_congr_left fun c member => ?_
    have inside : c ∈ s.table.columns := TableShape.writableMember member
    rw [Dto.createField, Dto.createField, Subject.requiresWithin inside]
    exact requestFieldWithin _ inside ..
  have update : s.within.writable.map (Dto.updateField s.within) =
      s.writable.map (Dto.updateField s) :=
    List.map_congr_left fun c member => requestFieldWithin _ (TableShape.writableMember member) ..
  have params : Dto.paramFields s.within = Dto.paramFields s := by
    rw [Dto.paramFields, Dto.paramFields, Subject.searchesWithin, Subject.filterWithin]
    rfl
  simp only [Dto.of, badEnumWithin, create, update, params]
  rfl

theorem repositoryWithin : Repository.of s.within = Repository.of s := by
  have criteria : Criteria.of s.within = Criteria.of s := by
    rw [Criteria.of, Criteria.of, Subject.searchesWithin, Subject.filterWithin,
      Subject.searchWithin]
    rfl
  have ordering : Ordering.of s.within = Ordering.of s := by
    rw [Ordering.of, Ordering.of, Subject.sortWithin, Subject.defaultSortWithin]
    rfl
  have access : Repository.access s.within = Repository.access s := by
    funext k
    cases k <;> simp only [Repository.access, Subject.searchesWithin] <;> rfl
  simp only [Repository.of, criteria, ordering, access]
  rfl

theorem handlerWithin : Handler.of s.within = Handler.of s := by
  rw [Handler.of, Handler.of, Subject.searchesWithin]
  rfl

end Server

namespace Client

theorem valueTypeWithin (member : c ∈ s.table.columns) (nullable : Bool) :
    valueType s.within c nullable = valueType s c nullable := by
  have own := TableShape.hasOwn member
  simp only [valueType, Subject.within, Policy.within, ValidationRules.within,
    SortedMap.getRestricted own]

theorem propertyWithin (member : c ∈ s.table.columns) (optional : Bool) :
    Property.ofColumn s.within c optional = Property.ofColumn s c optional := by
  rw [Property.ofColumn, valueTypeWithin member]
  rfl

theorem typesWithin : Types.of s.within = Types.of s := by
  have row : s.within.table.columns.map (fun c => Property.ofColumn s.within c false) =
      s.table.columns.map fun c => Property.ofColumn s c false :=
    List.map_congr_left fun c member => propertyWithin (s := s) member false
  have create : s.within.writable.map (fun c =>
        Property.ofColumn s.within c (!s.within.requires c)) =
      s.writable.map fun c => Property.ofColumn s c (!s.requires c) := by
    refine List.map_congr_left fun c member => ?_
    have inside : c ∈ s.table.columns := TableShape.writableMember member
    rw [Subject.requiresWithin inside, propertyWithin inside]
  have update : s.within.writable.map (fun c => Property.ofColumn s.within c true) =
      s.writable.map fun c => Property.ofColumn s c true :=
    List.map_congr_left fun c member =>
      propertyWithin (s := s) (TableShape.writableMember member) true
  have filters : s.filterColumns.map (Property.filter s.within) =
      s.filterColumns.map (Property.filter s) := by
    refine List.map_congr_left fun c member => ?_
    rw [Property.filter, valueTypeWithin (TableShape.namedMember member)]
    rfl
  have params : Types.paramProperties s.within = Types.paramProperties s := by
    rw [Types.paramProperties, Types.paramProperties, Subject.sortWithin, Subject.searchesWithin,
      Subject.filterWithin, filters]
  simp only [Types.of, row, create, update, params]
  rfl

end Client

namespace Rendering

variable {r : Rendering}

theorem artifactsWithin (targets : List Target) :
    r.artifacts s.within targets = r.artifacts s targets := by
  have target : ∀ target, r.targetArtifacts s.within target = r.targetArtifacts s target := by
    intro target
    cases target with
    | server =>
        simp only [targetArtifacts, serverArtifacts, Server.dtoWithin, Server.repositoryWithin,
          Server.handlerWithin]
        rfl
    | client =>
        simp only [targetArtifacts, clientArtifacts, Client.typesWithin]
        rfl
  induction targets with
  | nil => rfl
  | cons first rest ih => rw [artifacts, artifacts, target, ih]

theorem tableArtifactsWithin (plan : List Endpoint) (targets : List Target) :
    r.tableArtifacts t (p.within t) plan targets = r.tableArtifacts t p plan targets := by
  have files := artifactsWithin (r := r) (s := ⟨t, p, plan⟩) targets
  simp only [tableArtifacts, Subject.of]
  split_ifs with name schema none
  · rfl
  · rfl
  · cases t.columns.find? (!Naming.isPlainIdentifier ·.name) <;> rfl
  · cases t.columns.find? (!Naming.isPlainIdentifier ·.name) with
    | some c => rfl
    | none => exact files

/-- What a policy says of names that no column has is not seen in the plan or in a file. -/
theorem unknownColumnsUnseen (r : Rendering) (t : TableShape) (p : Policy) :
    Plan.endpoints t (p.within t) = Plan.endpoints t p ∧
      ∀ plan targets,
        r.tableArtifacts t (p.within t) plan targets = r.tableArtifacts t p plan targets ∧
          ∀ files, r.tableArtifacts t p plan targets = .ok files →
            (∀ f ∈ files, f.category = .repository →
              f.contents = (Server.Repository.of ⟨t, p, plan⟩).file.text r.goModule) ∧
              ∀ name ∈ (Server.Repository.of ⟨t, p, plan⟩).named,
                Server.Named ⟨t, p, plan⟩ name := by
  refine ⟨Plan.endpointsWithin, fun plan targets => ⟨tableArtifactsWithin plan targets, ?_⟩⟩
  intro files rendered
  obtain ⟨s, made, rendered⟩ := tableArtifactsMade rendered
  obtain ⟨rfl, -, -, some⟩ := subjectOk made
  exact ⟨fun f member => repositoryPrinted (printed rendered member), Server.repositoryNamed some⟩

def notesTable : TableShape where
  schema := "public"
  name := "notes"
  columns := [⟨"slug", "text", false, true, none, none⟩, ⟨"body", "text", true, false, none, none⟩]
  comment := none

def notesPolicy : Policy where
  endpoints := ["list", "search", "create"]
  validation := { required := ["body", "title"], enums := ⟨[("title", ["a b"])]⟩ }
  filtering :=
    { filterFields := ["slug", "slug\" = '' OR 1 = 1 --"], searchFields := ["title", "body"] }
  sorting := { sortFields := ["id; DROP TABLE notes"], defaultSort := some "title" }

def notesPlan : List Endpoint :=
  [.list, .search, .create].map (Plan.endpoint notesTable notesPolicy)

theorem notesTitleUnseen :
    notesPolicy.within notesTable ≠ notesPolicy ∧
      Plan.endpoints notesTable (notesPolicy.within notesTable) = .ok notesPlan ∧
      ∃ files, Rendering.tableArtifacts ⟨"app", "/api"⟩ notesTable notesPolicy notesPlan
          [.server, .client] = .ok files ∧
        Rendering.tableArtifacts ⟨"app", "/api"⟩ notesTable (notesPolicy.within notesTable)
          notesPlan [.server, .client] = .ok files ∧
        ∀ name ∈ (Server.Repository.of ⟨notesTable, notesPolicy, notesPlan⟩).named,
          notesTable.hasColumn name = true := by
  obtain ⟨plans, unseen⟩ := unknownColumnsUnseen ⟨"app", "/api"⟩ notesTable notesPolicy
  obtain ⟨same, ok⟩ := unseen notesPlan [.server, .client]
  have kinds : notesPolicy.endpointKinds notesTable.name = .ok [.list, .search, .create] := rfl
  have planned : Plan.endpoints notesTable notesPolicy = .ok notesPlan := by
    rw [Plan.endpoints, kinds]
    rfl
  obtain ⟨files, rendered⟩ : ∃ files, Rendering.tableArtifacts ⟨"app", "/api"⟩ notesTable
      notesPolicy notesPlan [.server, .client] = .ok files := Rendering.filesOf (by decide +kernel)
  refine ⟨by decide, plans.trans planned, files, rendered, same.trans rendered, ?_⟩
  intro name member
  rcases (ok files rendered).2 name member with known | ⟨keyless, -⟩
  · exact known
  · cases keyless

end Rendering
end RestScaffold
