import RestScaffold.Proofs.Artifact.Agreement
import RestScaffold.Proofs.Client.Members
import RestScaffold.Proofs.Server.Closure

/-! The files of a table follow its one plan. Each endpoint is registered, handled and offered to
the client, and what the files refer to on the way is declared among them. -/
namespace RestScaffold
open Catalog Code Naming Text Word

namespace Server

variable {s : Subject}

def registrationRow (s : Subject) (e : Endpoint) : String :=
  "\tr." ++ e.method.name ++ "(" ++ ", ".intercalate (GoString.quote e.path ::
    (e.middleware.map fun m => (Routes.call s e.kind m).text) ++ ["h." ++ e.handler]) ++ ")"

theorem registrationInner (e : Endpoint) :
    Go.inner (Routes.registrationCode (Routes.registration s e)) =
      (registrationRow s e).toList := by
  have chain : (Routes.registration s e).chain.map MiddlewareCall.text =
      e.middleware.map fun m => (Routes.call s e.kind m).text := List.map_map
  rw [Go.inner, Routes.registrationCode, plainText, chain]
  simp [registrationRow, Routes.registration]

theorem middlewareCalled (k : EndpointKind) (m : Middleware) :
    ∃ arguments, (Routes.call s k m).text = "mw." ++ m.name ++ "(" ++ arguments ++ ")" := by
  have pair {front name : String} (opens : front = "mw." ++ name ++ "(") (first second : String) :
      front ++ first ++ ", " ++ second ++ ")" =
        "mw." ++ name ++ "(" ++ (first ++ ", " ++ second) ++ ")" := by
    simp only [opens, String.append_assoc]
  cases m with
  | authorize => exact ⟨_, pair (by decide) _ _⟩
  | audit => exact ⟨_, pair (by decide) _ _⟩
  | rateLimit => exact ⟨toString (s.policy.security.rateLimitPerMinute.getD 0), rfl⟩
  | cache => exact ⟨toString s.policy.caching.ttlSeconds, rfl⟩
  | requestLogger | recovery | cors | securityHeaders | validation => exact ⟨"", rfl⟩

theorem registrationsRead (plain : isPlainIdentifier s.table.name = true)
    (planned : Plan.endpoints s.table s.policy = .ok s.plan) (goModule : String) :
    Go.statements ((Routes.of s).file.text goModule) =
      (s.plan.map fun e => (registrationRow s e).toList) ++ ["\x7d".toList] := by
  have type : Wordly s.typeName.toList := pascalWordly plain
  have bare : '(' ∉ (registerName s.typeName).toList := by
    have own : '(' ∉ s.typeName.toList := type.without (by decide)
    simp [registerName, own]
  obtain ⟨parameters, head, noFeed⟩ := routesHead type
  have ends : (Routes.of s).file.body = [] ++ (Routes.of s).code := rfl
  obtain ⟨-, statements⟩ := Go.functionRead goModule [] ends head bare noFeed
    (List.forall_mem_map.mpr (List.forall_mem_map.mpr fun e member =>
      registrationSolid (wordlyOneLine (plannedWordly type planned member))))
  rw [statements, Routes.of, List.map_map, List.map_map]
  exact congrArg (· ++ _) (List.map_congr_left fun e _ => registrationInner e)

end Server

/-- The texts of a table's files say what its plan says. -/
structure FollowsPlan (baseUrl : String) (s : Subject) (text : Category → String) : Prop where
  registered : Go.statements (text .routes) =
    (s.plan.map fun e => (Server.registrationRow s e).toList) ++ ["\x7d".toList]
  chained : ∀ e ∈ s.plan, ∀ m ∈ e.middleware, ∃ arguments,
    (Server.Routes.call s e.kind m).text = "mw." ++ m.name ++ "(" ++ arguments ++ ")"
  handled : Go.methodCalls (text .handler) =
    s.plan.map fun e => (e.handler, [Server.accessName e.kind])
  distinct : (s.plan.map Endpoint.handler).Nodup
  accessed : ∀ e ∈ s.plan, Server.accessName e.kind ∈ Go.declaredMethods (text .repository)
  offered : List.Forall₂ (fun e row => ∃ target, Client.Targets e target ∧
    row = (Client.calling (.of baseUrl s) e target).toList)
    s.plan (Client.members (text .clientApi))
  named : (s.plan.map fun e => camel e.handler).Nodup
  declared : ∀ c ∈ [.model, .repository, .dto, .handler, .routes],
    ∀ w ∈ Go.wordsOf c (text c), Go.Settled (Server.Declares s text c) w
  exported : ∀ c ∈ [.clientTypes, .clientApi], ∀ w ∈ Client.wordsOf (text c),
    Client.Typed (Client.exportedTypes (text .clientTypes) ++
      Client.exportedTypes (text .clientApi)) w

variable {r : Rendering} {table : TableShape} {policy : Policy} {plan : List Endpoint}
  {targets : List Target} {files : List Artifact}

theorem printedFollows {s : Subject} {d : Server.Dto} (goModule baseUrl : String)
    (spelled : Server.Spelled (fun name => Wordly name.toList) s.table)
    (plain : isPlainIdentifier s.table.name = true)
    (columns : ∀ c ∈ s.table.columns, isPlainIdentifier c.name = true)
    (made : Server.Dto.of s = .ok d) (planned : Plan.endpoints s.table s.policy = .ok s.plan) :
    FollowsPlan baseUrl s fun c => ((Rendering.mk goModule baseUrl).printed? s d c).getD "" := by
  let text : Category → String := fun c => ((Rendering.mk goModule baseUrl).printed? s d c).getD ""
  have printed : Server.Files goModule s d text := ⟨rfl, rfl, rfl, rfl, rfl⟩
  have exports : Client.Exports (Client.exportedTypes (text .clientTypes) ++
      Client.exportedTypes (text .clientApi)) s := by
    obtain ⟨row, create, update, params, page, stats⟩ := Client.typesExported spelled.type
    have api := Client.apiExported spelled.type baseUrl
    exact ⟨List.mem_append_left _ row, fun needed => List.mem_append_left _ (create needed),
      fun asked => List.mem_append_left _ (update asked),
      fun needed => List.mem_append_left _ (params needed),
      fun needed => List.mem_append_left _ (page needed),
      fun asked => List.mem_append_left _ (stats asked), List.mem_append_right _ api⟩
  constructor
  case registered => exact Server.registrationsRead plain planned goModule
  case chained => exact fun e _ m _ => Server.middlewareCalled e.kind m
  case handled => exact Server.handlerMethods spelled plain planned goModule
  case distinct => exact (Plan.endpointsHold planned).handlers
  case accessed =>
    exact fun e member => (Server.repositoryLegible spelled).declaredMethod
      (Server.accessTells spelled (Server.plannedKind member)) goModule
  case offered =>
    refine (Client.membersRead spelled plain planned baseUrl).symm ▸
      List.forall₂_map_right_iff.mpr (List.forall₂_same.mpr fun e member => ⟨_, ?_, rfl⟩)
    rw [Plan.plannedEndpoint planned member]
    exact Client.memberTargets e.kind plain
  case named => exact Client.membersDistinct plain planned
  case declared => exact Server.filesClosed printed spelled plain columns made planned
  case exported =>
    have types := (Client.typesTyped spelled exports columns).words
    have api := (Client.apiRead spelled exports plain planned baseUrl).words
    exact List.forall_mem_cons.mpr ⟨types, List.forall_mem_singleton.mpr api⟩

/-- Where files for both targets are rendered from a table and its plan, all of them follow it. -/
theorem filesFollowPlan (planned : Plan.endpoints table policy = .ok plan)
    (server : .server ∈ targets) (client : .client ∈ targets)
    (rendered : r.tableArtifacts table policy plan targets = .ok files) :
    ∃ text : Category → String, (∀ f ∈ files, f.contents = text f.category) ∧
      (∀ c, c ≠ .index → ∃ f ∈ files, f.category = c) ∧
      FollowsPlan r.apiBasePath ⟨table, policy, plan⟩ text := by
  obtain ⟨s, made, rendered⟩ := Rendering.tableArtifactsMade rendered
  obtain ⟨rfl, plain, columns, -⟩ := Rendering.subjectOk made
  have spelled : Server.Spelled (fun name => Wordly name.toList) table :=
    Server.spelled made fun wordly => wordly
  obtain ⟨dto, shapes, printed⟩ := printedFiles server client rendered
  refine ⟨fun c => (r.printed? ⟨table, policy, plan⟩ dto c).getD "", fun f member => ?_,
    fun c other => ?_, printedFollows r.goModule r.apiBasePath spelled plain columns shapes planned⟩
  · have own := (printed f.category f.contents).mpr ⟨f, member, rfl, rfl⟩
    exact (congrArg (Option.getD · "") own).symm
  · have some : ∃ contents, r.printed? ⟨table, policy, plan⟩ dto c = some contents := by
      cases c with
      | index => contradiction
      | _ => exact ⟨_, rfl⟩
    obtain ⟨contents, own⟩ := some
    obtain ⟨f, member, category, -⟩ := (printed c contents).mp own
    exact ⟨f, member, category⟩

theorem stockItemsFollowPlan :
    ∃ files text, Rendering.tableArtifacts ⟨"shop", "/api"⟩ stockTable stockPolicy stockPlan
        [.client, .server] = .ok files ∧ (∀ f ∈ files, f.contents = text f.category) ∧
      FollowsPlan "/api" ⟨stockTable, stockPolicy, stockPlan⟩ text ∧
      stockPlan.map (fun e => camel e.handler) =
        ["searchStockItems", "createStockItems", "updateStockItems", "exportStockItems"] := by
  obtain ⟨files, rendered⟩ := stockRendered
  obtain ⟨text, printed, -, follows⟩ :=
    filesFollowPlan stockPlanned (by decide) (by decide) rendered
  exact ⟨files, text, rendered, printed, follows, by decide +kernel⟩

end RestScaffold
