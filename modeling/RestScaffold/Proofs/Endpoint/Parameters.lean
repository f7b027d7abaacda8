import Mathlib.Data.List.Nodup
import RestScaffold.Proofs.Endpoint.Descriptors
import RestScaffold.Proofs.Server.Columns

/-! Which parameters of an endpoint have a name and a location in common. A filter bears the name of
its column, and nothing makes it give way to the parameters that its endpoint has anyway, or to an
earlier filter on that column. In every other case the parameters of an endpoint can be told apart.
-/
namespace RestScaffold
open Catalog

def Parameter.key (q : Parameter) : String × Location := (q.name, q.location)

def EndpointKind.takesFilters : EndpointKind → Bool
  | .list | .search | .export | .stats => true
  | .get | .create | .update | .delete | .bulk => false

namespace Plan

variable {t : TableShape} {p : Policy} {plan : List Endpoint} {k : EndpointKind}

def fixedQueries (k : EndpointKind) (t : TableShape) (p : Policy) : List String :=
  let page := ["page", "limit", "sort", "order"]
  match k with
  | .list => page
  | .search => if (searchColumns t p).isEmpty then page else "q" :: page
  | .export => "format" :: page
  | .stats | .get | .create | .update | .delete | .bulk => []

def filterNames (t : TableShape) (p : Policy) : List String :=
  p.filtering.filterFields.filter t.hasColumn

structure FiltersApart (t : TableShape) (p : Policy) (k : EndpointKind) : Prop where
  once : (filterNames t p).Nodup
  fresh : ∀ name ∈ filterNames t p, name ∉ fixedQueries k t p

theorem namedColumnNames (t : TableShape) (names : List String) :
    (t.namedColumns names).map ColumnShape.name = names.filter t.hasColumn := by
  induction names with
  | nil => rfl
  | cons name names ih =>
      rw [TableShape.namedColumns, List.filterMap_cons, List.filter_cons, TableShape.hasColumn]
      cases found : t.column? name with
      | none => exact ih
      | some c =>
          have own : c.name = name := by simpa using List.find?_some found
          exact congrArg₂ List.cons own ih

theorem filterKeys (t : TableShape) (p : Policy) :
    (filterParameters t p).map Parameter.key = (filterNames t p).map (·, .query) := by
  rw [filterNames, ← namedColumnNames, filterParameters, filterColumns]
  simp only [List.map_map]
  rfl

theorem pageKeys (t : TableShape) (p : Policy) : (pageParameters t p).map Parameter.key =
    (["page", "limit", "sort", "order"] ++ filterNames t p).map (·, .query) := by
  rw [pageParameters, List.map_append, List.map_append, filterKeys]
  rfl

theorem filteredKeys (takes : k.takesFilters = true) :
    (parameters k t p).map Parameter.key =
      (fixedQueries k t p ++ filterNames t p).map (·, .query) := by
  cases k <;> first | contradiction | skip
  case list => exact pageKeys t p
  case search =>
    simp only [parameters, List.map_append, pageKeys, searchParameters, fixedQueries]
    split <;> rfl
  case stats => exact filterKeys t p
  case «export» =>
    rw [parameters, List.map_cons, pageKeys]
    rfl

theorem unfilteredKeys (takes : k.takesFilters = false) :
    ((parameters k t p).map Parameter.key).Nodup := by
  cases k <;> first | contradiction | skip
  case update => simp [parameters, idParameter, bodyParameter, Parameter.key]
  all_goals exact List.nodup_singleton _

theorem fixedQueriesOnce (k : EndpointKind) (t : TableShape) (p : Policy) :
    (fixedQueries k t p).Nodup := by
  cases k <;> simp only [fixedQueries] <;> (try split) <;> decide

theorem filteredApart (takes : k.takesFilters = true) :
    ((parameters k t p).map Parameter.key).Nodup ↔ FiltersApart t p k := by
  have names : Function.Injective fun name : String => (name, Location.query) :=
    fun _ _ same => congrArg Prod.fst same
  rw [filteredKeys takes, List.nodup_map_iff names, List.nodup_append']
  constructor
  · rintro ⟨-, once, apart⟩
    exact ⟨once, fun _ member fixed => apart fixed member⟩
  · rintro ⟨once, fresh⟩
    exact ⟨fixedQueriesOnce k t p, once, fun _ fixed member => fresh _ member fixed⟩

/-- Whatever the columns are called: the parameters of an endpoint are told apart by name and
location exactly if it takes no filters or none of them is listed twice or has the name of another
parameter. -/
theorem parametersApartIff (planned : endpoints t p = .ok plan) :
    ∀ e ∈ plan, (e.parameters.map Parameter.key).Nodup ↔
      (e.kind.takesFilters = true → FiltersApart t p e.kind) := by
  intro e member
  have own : e.parameters = parameters e.kind t p :=
    congrArg Endpoint.parameters (plannedEndpoint planned member)
  rw [own]
  cases takes : e.kind.takesFilters with
  | false => exact iff_of_true (unfilteredKeys takes) nofun
  | true => exact (filteredApart takes).trans ⟨fun apart _ => apart, fun apart => apart rfl⟩

def filteredTable (columns : List String) : TableShape where
  schema := "public"
  name := "items"
  columns := columns.map fun name => ⟨name, "text", false, false, none, none⟩
  comment := none

def filterPolicy (fields : List String) : Policy where
  endpoints := ["export", "stats", "update"]
  filtering := { filterFields := fields }

theorem filterPolicyPlans (t : TableShape) (fields : List String) :
    endpoints t (filterPolicy fields) =
      .ok ([EndpointKind.export, .stats, .update].map (endpoint t (filterPolicy fields))) := by
  have parsed : EndpointKind.parseAll ["export", "stats", "update"] [] =
      .ok [.export, .stats, .update] := by decide +kernel
  rw [endpoints, Policy.endpointKinds, filterPolicy, parsed]
  rfl

theorem formatFilterApartInStats :
    let t := filteredTable ["format", "kind"]
    let p := filterPolicy ["kind", "gone", "format", "gone"]
    ∃ plan, endpoints t p = .ok plan ∧ ∀ e ∈ plan,
      (e.parameters.map Parameter.key).Nodup ↔ e.kind ≠ .export := by
  intro t p
  have planned := filterPolicyPlans t ["kind", "gone", "format", "gone"]
  refine ⟨_, planned, fun e member => (parametersApartIff planned e member).trans ?_⟩
  have listed : filterNames t p = ["kind", "format"] := by decide +kernel
  have format : ¬FiltersApart t p .export := fun apart =>
    apart.fresh "format" (by rw [listed]; decide) (by decide)
  have stats : FiltersApart t p .stats := ⟨by rw [listed]; decide, fun _ _ => nofun⟩
  obtain ⟨k, kind, rfl⟩ := List.mem_map.mp member
  rcases List.mem_cons.mp kind with rfl | others
  · exact iff_of_false (fun apart => format (apart rfl)) fun other => other rfl
  rcases List.mem_cons.mp others with rfl | last
  · exact iff_of_true (fun _ => stats) nofun
  · obtain rfl := List.mem_singleton.mp last
    exact iff_of_true nofun nofun

theorem filtersClash :
    let t := filteredTable ["page", "kind"]
    let p := filterPolicy ["kind", "page", "kind"]
    (t.columns.map ColumnShape.name).Nodup ∧ ∃ plan, endpoints t p = .ok plan ∧
      (∃ e ∈ plan, e.kind = .export ∧ e.parameters.map Parameter.key =
        ["format", "page", "limit", "sort", "order", "kind", "page", "kind"].map (·, .query)) ∧
      ∃ e ∈ plan, e.kind = .stats ∧ e.parameters.map Parameter.key =
        ["kind", "page", "kind"].map (·, .query) := by
  refine ⟨by decide, _, filterPolicyPlans _ _, ?_, ?_⟩
  · exact ⟨_, List.mem_cons_self, rfl, by decide +kernel⟩
  · exact ⟨_, List.mem_cons_of_mem _ List.mem_cons_self, rfl, by decide +kernel⟩

end Plan
end RestScaffold
