import RestScaffold.Proofs.Endpoint.Routes
import RestScaffold.Proofs.Text.Identifier

/-! What a plan holds: an endpoint for each kind that the policy names, told from the others by its
route and by its handler, with the parameters and the answers of its kind. -/
namespace RestScaffold
open Catalog

namespace EndpointKind

variable {k l : EndpointKind} {table : String}

def wording : EndpointKind → String × String
  | .list => ("List", "")
  | .create => ("Create", "")
  | .get => ("Get", "")
  | .update => ("Update", "")
  | .delete => ("Delete", "")
  | .bulk => ("BulkCreate", "")
  | .search => ("Search", "")
  | .stats => ("Get", "Stats")
  | .export => ("Export", "")

theorem handlerWording (k : EndpointKind) (table : String) :
    k.handler table = k.wording.1 ++ Naming.pascal table ++ k.wording.2 := by
  cases k <;> simp [handler, wording]

theorem handlerPlain (k : EndpointKind) (plain : Naming.isPlainIdentifier table = true) :
    Naming.isPlainIdentifier (k.handler table) = true := by
  have wordings : ∀ k ∈ all, Naming.isPlainIdentifier k.wording.1 = true ∧
      k.wording.2.toList.all Naming.isWordly = true := by decide
  obtain ⟨before, after⟩ := wordings k (memAll k)
  rw [handlerWording]
  exact Naming.plainAppend (Naming.plainAppend before (Naming.pascalWordly plain))
    (List.all_eq_true.mp after)

theorem wordingsBegin : ∀ k ∈ all, k.wording.1.toList ≠ [] := by decide

theorem wordingsDiffer : ∀ k ∈ all, ∀ l ∈ all,
    k.wording.1.toList.head? = l.wording.1.toList.head? →
    k.wording.1.length + k.wording.2.length = l.wording.1.length + l.wording.2.length → k = l := by
  decide

theorem handlerHead (k : EndpointKind) (table : String) :
    (k.handler table).toList.head? = k.wording.1.toList.head? := by
  obtain ⟨c, rest, begins⟩ := List.exists_cons_of_ne_nil (wordingsBegin k (memAll k))
  rw [handlerWording, String.toList_append, String.toList_append, begins]
  rfl

theorem handlerLength (k : EndpointKind) (table : String) : (k.handler table).length =
    k.wording.1.length + k.wording.2.length + (Naming.pascal table).length := by
  rw [handlerWording, String.length_append, String.length_append]
  omega

theorem handlerTellsKind (same : k.handler table = l.handler table) : k = l := by
  have heads := congrArg (·.toList.head?) same
  have lengths := congrArg String.length same
  simp only [handlerHead] at heads
  rw [handlerLength, handlerLength] at lengths
  exact wordingsDiffer k (memAll k) l (memAll l) heads (by omega)

end EndpointKind

namespace Plan

variable {t : TableShape} {p : Policy} {plan : List Endpoint}

theorem pathParameters (t : TableShape) (p : Policy) (k : EndpointKind) :
    (endpoint t p k).parametersIn .path = if k.isSingular then [idParameter t] else [] := by
  have filters : ∀ q ∈ filterParameters t p, q.location = .query := by
    intro q member
    obtain ⟨c, -, rfl⟩ := List.mem_map.mp member
    rfl
  have searches : ∀ q ∈ searchParameters t p, q.location = .query := by
    intro q member
    simp only [searchParameters] at member
    split at member
    · contradiction
    · obtain rfl := List.mem_singleton.mp member
      rfl
  have none : ∀ {parameters : List Parameter}, (∀ q ∈ parameters, q.location = .query) →
      parameters.filter (·.location = .path) = [] := by
    intro parameters query
    refine List.filter_eq_nil_iff.mpr fun q member => ?_
    simp [query q member]
  cases k <;>
    simp [Endpoint.parametersIn, endpoint, parameters, pageParameters,
      sortParameter, EndpointKind.isSingular, idParameter, bodyParameter,
      none filters, none searches]

theorem responseStatuses (k : EndpointKind) (chain : List Middleware) (stem : String) :
    (responses k chain stem).map Response.status =
      [(success k stem).status, 400] ++ (if .authorize ∈ chain then [401, 403] else []) ++
        (if k.isSingular then [404] else []) ++ (if .validation ∈ chain then [422] else []) ++
        (if .rateLimit ∈ chain then [429] else []) ++ [500] := by
  simp only [responses, failure, List.map_append, apply_ite (List.map Response.status)]
  rfl

theorem successStatus (k : EndpointKind) (stem : String) :
    200 ≤ (success k stem).status ∧ (success k stem).status < 300 := by
  cases k <;> simp [success]

theorem statusesAscend (k : EndpointKind) (chain : List Middleware) (stem : String) :
    ((responses k chain stem).map Response.status).Pairwise (· < ·) := by
  have some : ∀ {c : Prop} [Decidable c] (l : List Nat), (if c then l else []).Sublist l := by
    intro c _ l
    split
    · exact .refl l
    · exact List.nil_sublist l
  obtain ⟨-, low⟩ := successStatus k stem
  have all : ([(success k stem).status, 400] ++ [401, 403] ++ [404] ++ [422] ++ [429] ++
      [500]).Pairwise (· < ·) := by
    simp only [List.cons_append, List.nil_append, List.pairwise_cons, List.forall_mem_cons]
    refine ⟨⟨?_, ?_, ?_, ?_, ?_, ?_, ?_, nofun⟩, by decide⟩ <;> omega
  rw [responseStatuses]
  exact all.sublist ((((((List.Sublist.refl _).append (some _)).append (some _)).append
    (some _)).append (some _)).append (.refl _))

theorem memStatuses (k : EndpointKind) (chain : List Middleware) (stem : String) (status : Nat) :
    status ∈ (responses k chain stem).map Response.status ↔
      status = (success k stem).status ∨ status = 400 ∨ status = 500 ∨
        .authorize ∈ chain ∧ (status = 401 ∨ status = 403) ∨
        k.isSingular = true ∧ status = 404 ∨ .validation ∈ chain ∧ status = 422 ∨
        .rateLimit ∈ chain ∧ status = 429 := by
  have some : ∀ {c : Prop} [Decidable c] (l : List Nat),
      status ∈ (if c then l else []) ↔ c ∧ status ∈ l := by
    intro c _ l
    split <;> simp [*]
  simp only [responseStatuses, List.mem_append, some, List.mem_cons, List.not_mem_nil, or_false]
  tauto

end Plan

namespace Endpoint

def statuses (e : Endpoint) : List Nat := e.responses.map Response.status

structure Answers (e : Endpoint) : Prop where
  ascending : e.statuses.Pairwise (· < ·)
  statuses : ∃ success, 200 ≤ success ∧ success < 300 ∧ ∀ status, status ∈ e.statuses ↔
    status = success ∨ status = 400 ∨ status = 500 ∨
      .authorize ∈ e.middleware ∧ (status = 401 ∨ status = 403) ∨
      e.parametersIn .path ≠ [] ∧ status = 404 ∨
      .validation ∈ e.middleware ∧ status = 422 ∨ .rateLimit ∈ e.middleware ∧ status = 429

end Endpoint

namespace Plan

variable {t : TableShape} {p : Policy} {plan : List Endpoint}

theorem endpointAnswers (t : TableShape) (p : Policy) (k : EndpointKind) :
    (endpoint t p k).Answers := by
  have path : (endpoint t p k).parametersIn .path ≠ [] ↔ k.isSingular = true := by
    rw [pathParameters]
    split <;> simp [*]
  refine ⟨statusesAscend .., _, (successStatus k (Naming.pascal t.name)).1,
    (successStatus k (Naming.pascal t.name)).2, fun status => ?_⟩
  rw [path]
  exact memStatuses ..

structure Holds (names : List String) (plan : List Endpoint) : Prop where
  kinds : ∃ named, List.Forall₂ EndpointKind.Spelled named names ∧
    plan.map Endpoint.kind = named.eraseDups
  routes : (plan.map Endpoint.routeKey).Nodup
  handlers : (plan.map Endpoint.handler).Nodup
  keyed : ∀ e ∈ plan, (e.parametersIn .path).length =
    if e.kind ∈ [.get, .update, .delete] then 1 else 0
  answers : ∀ e ∈ plan, e.Answers

theorem endpointsHold (planned : endpoints t p = .ok plan) : Holds p.endpoints plan := by
  have routes := routesDistinct planned
  simp only [endpoints, Policy.endpointKinds] at planned
  cases parsed : EndpointKind.parseAll p.endpoints [] with
  | error unknown =>
      rw [parsed] at planned
      cases planned
  | ok kinds =>
      rw [parsed] at planned
      cases planned
      constructor
      case kinds =>
        obtain ⟨named, spelled, rfl⟩ := EndpointKind.parseAllOk.mp parsed
        exact ⟨named, spelled, by rw [List.map_map]; exact List.map_id _⟩
      case routes => exact routes
      case handlers =>
        rw [List.map_map]
        exact (EndpointKind.parseAllDistinct parsed).1.map fun k l same =>
          EndpointKind.handlerTellsKind same
      case keyed =>
        refine List.forall_mem_map.mpr fun k _ => ?_
        rw [pathParameters]
        cases k <;> rfl
      case answers => exact List.forall_mem_map.mpr fun k _ => endpointAnswers t p k

theorem endpointsFail {e : PolicyError} : endpoints t p = .error e ↔
    ∃ name, EndpointKind.FirstUnknown p.endpoints name ∧ e = .unknownEndpointKind t.name name := by
  simp only [← @EndpointKind.parseAllError _ [], endpoints, Policy.endpointKinds]
  cases EndpointKind.parseAll p.endpoints [] with
  | error name => simp [Except.map, Except.mapError, eq_comm]
  | ok kinds => simp [Except.map, Except.mapError]

/-- Planning fails for the first name that is none of a kind, and otherwise gives each kind that is
named its endpoint, whatever the table is called. -/
theorem plansKindsNamed (t : TableShape) (p : Policy) :
    ((∃ e, endpoints t p = .error e) ↔ ∃ name ∈ p.endpoints, ¬EndpointKind.IsName name) ∧
    (∀ e, endpoints t p = .error e ↔ ∃ name, EndpointKind.FirstUnknown p.endpoints name ∧
      e = .unknownEndpointKind t.name name) ∧
    ∀ plan, endpoints t p = .ok plan → Holds p.endpoints plan := by
  refine ⟨?_, fun e => endpointsFail, fun plan => endpointsHold⟩
  rw [← EndpointKind.firstUnknownIff]
  simp only [endpointsFail]
  exact ⟨fun ⟨_, name, first, _⟩ => ⟨name, first⟩, fun ⟨name, first⟩ => ⟨_, name, first, rfl⟩⟩

def namelessTable : TableShape := ⟨"public", "", [⟨"id", "uuid", false, true, none, none⟩], none⟩

def spelledPolicy : Policy where
  endpoints := [" Get", "STATS", "get", "bulk\t", "Stats"]

theorem namelessTablePlanned : ∃ plan, endpoints namelessTable spelledPolicy = .ok plan ∧
    Holds spelledPolicy.endpoints plan ∧
    plan.map Endpoint.summary =
      ["GET //:id Get", "GET //stats GetStats", "POST //bulk BulkCreate"] ∧
    endpoints namelessTable { endpoints := ["get", " upsert "] } =
      .error (.unknownEndpointKind "" " upsert ") := by
  have complete : (endpoints namelessTable spelledPolicy).map (List.map Endpoint.summary) =
      .ok ["GET //:id Get", "GET //stats GetStats", "POST //bulk BulkCreate"] := by decide +kernel
  cases planned : endpoints namelessTable spelledPolicy with
  | error e =>
      rw [planned] at complete
      cases complete
  | ok plan =>
      rw [planned] at complete
      exact ⟨plan, rfl, (plansKindsNamed namelessTable spelledPolicy).2.2 plan planned,
        Except.ok.inj complete, by decide +kernel⟩

end Plan
end RestScaffold
