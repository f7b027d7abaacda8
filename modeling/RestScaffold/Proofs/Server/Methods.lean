import RestScaffold.Proofs.Code.Declarations
import RestScaffold.Proofs.Server.ShapeReferences

/-! The files of the server show their code in their rows. The handlers are methods, one for each
endpoint of the plan, and each of them calls the repository once. -/
namespace RestScaffold.Go
open Code Word

def access? (w : Word) : Option String :=
  match reference? w with
  | some (.access name) => some name
  | _ => none

def accesses (inside : List (List Char)) : List String := (ofRows inside).filterMap access?

def methodCalls (text : String) : List (String × List String) :=
  (methods text).map fun (name, inside) => (name, accesses inside)

theorem callsNames (text : String) :
    (methodCalls text).map Prod.fst = declaredMethods text := by
  rw [methodCalls, List.map_map]
  rfl

variable {ls : List Line}

theorem noAccess (fit : AllFit (Settled fun ref => ∀ name, ref ≠ .access name) ls) :
    (ls.flatMap fun l => (ofLine (lineText l).toList).filterMap access?) = [] := by
  refine List.flatMap_eq_nil_iff.mpr fun l member =>
    List.filterMap_eq_nil_iff.mpr fun w inside => ?_
  have settled := (fit l member).line.2 w inside
  rw [access?]
  split
  · rename_i name refers
    exact absurd rfl (settled _ refers name)
  · rfl

theorem accessesLines {P : Word → Prop} (fit : AllFit P ls) :
    accesses (rowsOf ((indented "\t" ls).map lineText)) =
      ls.flatMap fun l => (ofLine (lineText l).toList).filterMap access? := by
  have tab : Shift "\t" := by decide
  have ends : ∀ t ∈ (indented "\t" ls).map lineText, Ends t.toList :=
    List.forall_mem_map.mpr fun l member => ((allFitIndented tab).mpr fit l member).line.1
  have same (l : Line) :
      ofLine (lineText (.text "\t" :: l)).toList = ofLine (lineText l).toList := by
    have text : (lineText (.text "\t" :: l)).toList = '\t' :: (lineText l).toList := by simp
    rw [text]
    rfl
  rw [accesses, ofRowsLines ends, List.filterMap_flatMap, List.flatMap_map, indented,
    List.flatMap_map]
  simp only [same]

end RestScaffold.Go

namespace RestScaffold.Server
open Catalog Code Go Naming Text Word

variable {s : Subject}

theorem anyShared : Shared (fun _ => True) s :=
  ⟨trivial, trivial, trivial, trivial, fun _ => trivial, fun _ => trivial, fun _ => trivial,
    fun _ => trivial, fun _ => trivial, fun _ _ _ => trivial, fun _ => trivial, fun _ => trivial,
    fun _ _ _ => trivial, fun _ _ => trivial⟩

section
variable (spelled : Spelled (fun name => Wordly name.toList) s.table)
include spelled

theorem repositoryLegible : Legible (Repository.of s).file where
  package := packageSolid "repository" (by decide)
  oneLine l member := (repositoryFits spelled anyShared ⟨trivial, trivial, fun _ => trivial,
    fun _ => trivial, fun _ => ⟨trivial, trivial⟩, fun _ => trivial, fun _ _ => trivial⟩ l
      member).oneLine
  margin := by
    simp [Repository.file, Repository.code, Repository.typeCode, Repository.scanCode,
      Criteria.code, Ordering.code, Ordering.sortableCode, Ordering.orderCode, Repository.findCode,
      Repository.method, Repository.insertCode, Repository.accessCode, line, blank,
      declared, plainText]

theorem handlerLegible (plain : isPlainIdentifier s.table.name = true)
    (planned : Plan.endpoints s.table s.policy = .ok s.plan) : Legible (Handler.of s).file where
  package := packageSolid "handlers" (by decide)
  oneLine l member := (handlerFits spelled anyShared ⟨trivial, fun _ => trivial, fun _ => trivial,
    fun _ => trivial, fun _ _ => trivial⟩ plain planned l member).oneLine
  margin := by
    simp [Handler.file, Handler.code, Handler.typeCode, Handler.paramsCode, Handler.keyCode,
      Handler.recordCode, Handler.actionCode]

theorem modelLegible (columns : ∀ c ∈ s.table.columns, isPlainIdentifier c.name = true) :
    Legible (Model.of s).file where
  package := packageSolid "models" (by decide)
  oneLine l member := (modelUntagged (D := fun _ => True) spelled columns _
    (List.mem_map_of_mem member)).oneLine
  margin := by simp [Model.file, Model.code, blank, line, plainText]

theorem dtoLegible {d : Dto} (plain : isPlainIdentifier s.table.name = true)
    (columns : ∀ c ∈ s.table.columns, isPlainIdentifier c.name = true) (made : Dto.of s = .ok d) :
    Legible d.file where
  package := packageSolid "dto" (by decide)
  oneLine l member := (dtoUntagged (D := fun _ => True) spelled plain columns made
    (fun _ => trivial) _ (List.mem_map_of_mem member)).oneLine
  margin := by
    simp [Dto.file, Dto.code, Dto.createCode, Dto.updateCode, Dto.paramsCode, Dto.pageCode,
      Dto.statsCode, apply_ite Margin]

theorem routesLegible (plain : isPlainIdentifier s.table.name = true)
    (planned : Plan.endpoints s.table s.policy = .ok s.plan) : Legible (Routes.of s).file where
  package := packageSolid "routes" (by decide)
  oneLine l member := (routesFits (D := fun _ => True) spelled.type
    (wordlyOneLine (lowerWordly plain))
    (fun e member => plannedWordly spelled.type planned member) (fun _ => trivial) trivial trivial l
      member).oneLine
  margin := by simp [Routes.file, Routes.code]

end

theorem bodyAccess (h : Handler) (type : Wordly h.typeName.toList) (ident : Wordly h.ident.toList)
    (stem : Wordly h.stem.toList) (k : EndpointKind) :
    accesses (rowsOf ((indented "\t" (h.body k)).map lineText)) = [accessName k] := by
  have none : ∀ ref ∈ h.bodyReferences k, ∀ name, ref ≠ .access name := by
    rintro ref member name rfl
    cases k <;> simp [Handler.bodyReferences] at member
  obtain ⟨front, rest, split, before, after⟩ := bodySplit h type ident stem none
  have whole : AllFit (Settled fun _ => True) (h.body k) :=
    handlerBodyFits h type ident stem trivial fun _ _ => trivial
  have called : (ofLine (callText k).toList).filterMap access? = [accessName k] := by
    cases k <;> decide
  rw [accessesLines whole, split, List.flatMap_append, List.flatMap_cons, noAccess before,
    noAccess after, plainText, called]
  rfl

theorem actionMethods (h : Handler) (type : Wordly h.typeName.toList) {actions : List Action}
    (named : ∀ a ∈ actions, Wordly a.name.toList)
    (oneLine : ∀ l ∈ actions.flatMap h.actionCode, OneLine (lineText l)) :
    blocks method? (rowsOf ((actions.flatMap h.actionCode).map lineText)) =
      actions.map fun a => (a.name, rowsOf ((indented "\t" (h.body a.kind)).map lineText)) := by
  induction actions with
  | nil => rfl
  | cons a rest ih =>
      obtain ⟨name, others⟩ := List.forall_mem_cons.mp named
      rw [List.flatMap_cons] at oneLine ⊢
      obtain ⟨own, later⟩ := List.forall_mem_append.mp oneLine
      have heads : HeadsMethod a.name (line ["(h *", Code.own (handlerName h.typeName), ") ",
          declared a.name, "(", Handler.context, ")"]) :=
        headsReceiver (name.without (by decide)) ((handlerWordly type).without (by decide))
          (by decide)
      rw [List.map_append, rowsOfAppend, Handler.actionCode, methodBlock own heads,
        ih others later, List.map_cons]

theorem otherRows {texts : List String}
    (others : ∀ t ∈ texts, OneLine t ∧ t.toList.head? ≠ some 'f') :
    ∀ row ∈ rowsOf texts, method? row = none := by
  intro row member
  obtain ⟨t, known, own⟩ := List.mem_flatMap.mp member
  exact methodNone ((rowHead (others t known).1 own).trans_ne (others t known).2)

def Handler.preamble (h : Handler) : List Line :=
  h.typeCode ++ (h.pagination.map h.paramsCode).getD [] ++ (h.key.map h.keyCode).getD [] ++
    (h.record.map h.recordCode).getD []

theorem preambleNone (h : Handler) (type : Wordly h.typeName.toList) (ident : Wordly h.ident.toList)
    (oneLine : ∀ l ∈ h.preamble, OneLine (lineText l)) :
    ∀ row ∈ rowsOf (h.preamble.map lineText), method? row = none := by
  simp only [Handler.preamble, Handler.typeCode, List.forall_mem_append] at oneLine
  obtain ⟨⟨⟨⟨struct, create⟩, params⟩, key⟩, record⟩ := oneLine
  have named {name t : String} {rest : Line} (wordly : Wordly name.toList) (full : name ≠ "")
      (opens : t.toList.head? = some '(') : Heads name (.declared name :: .text t :: rest) :=
    headsDeclared (wordly.without (by decide)) full opens
  simp only [Handler.preamble, Handler.typeCode, List.map_append, rowsOfAppend,
    List.forall_mem_append]
  refine ⟨⟨⟨⟨otherRows (List.forall_mem_map.mpr fun l member => ⟨struct l member, fun opens => ?_⟩),
    functionNone create (named (newHandlerWordly type) ?_ (by decide))⟩, ?_⟩, ?_⟩, ?_⟩
  · have known := structHead _ _ l member
    rw [opens] at known
    exact absurd known (by decide)
  · simp [newHandlerName]
  · cases given : h.pagination with
    | none => exact List.forall_mem_nil _
    | some limits =>
        rw [given] at params
        exact functionNone params
          (named (readParamsWordly ident) (by simp [readParamsName]) (by decide))
  · cases given : h.key with
    | none => exact List.forall_mem_nil _
    | some key' =>
        rw [given] at key
        exact functionNone key (named (readKeyWordly ident) (by simp [readKeyName]) (by decide))
  · cases given : h.record with
    | none => exact List.forall_mem_nil _
    | some fields =>
        rw [given] at record
        exact functionNone record (named (recordWordly ident) (by simp [recordName]) (by decide))

theorem handlerMethods (spelled : Spelled (fun name => Wordly name.toList) s.table)
    (plain : isPlainIdentifier s.table.name = true)
    (planned : Plan.endpoints s.table s.policy = .ok s.plan) (goModule : String) :
    methodCalls ((Handler.of s).file.text goModule) =
      s.plan.map fun e => (e.handler, [accessName e.kind]) := by
  have legible := handlerLegible spelled plain planned
  obtain ⟨front, own, split⟩ := legible.codeSplit goModule
  have actions : blocks method?
      (rowsOf (((Handler.of s).actions.flatMap (Handler.of s).actionCode).map lineText)) =
        (Handler.of s).actions.map fun a =>
          (a.name, rowsOf ((indented "\t" ((Handler.of s).body a.kind)).map lineText)) :=
    actionMethods (Handler.of s) spelled.type
      (List.forall_mem_map.mpr fun e member => plannedWordly spelled.type planned member)
      (fun l member => legible.oneLine l (List.mem_append_right _ member))
  have quiet : ∀ row ∈ rowsOf (front ++ (Handler.of s).preamble.map lineText),
      method? row = none := by
    rw [rowsOfAppend]
    refine List.forall_mem_append.mpr ⟨otherRows fun t member => ?_,
      preambleNone (Handler.of s) spelled.type spelled.ident fun l member =>
        legible.oneLine l (List.mem_append_left _ member)⟩
    rcases own t member with rfl | rfl
    · decide
    · exact ⟨legible.package.noFeed, by simp⟩
  have body : (Handler.of s).file.body = (Handler.of s).preamble ++
      (Handler.of s).actions.flatMap (Handler.of s).actionCode := rfl
  rw [methodCalls, methods, split, body, List.map_append, ← List.append_assoc, rowsOfAppend,
    blocksQuiet quiet, actions, List.map_map]
  refine (List.map_map ..).trans (List.map_congr_left fun e _ => ?_)
  exact congrArg (Prod.mk e.handler)
    (bodyAccess (Handler.of s) spelled.type spelled.ident (lowerWordly plain) e.kind)

theorem handlerNames (spelled : Spelled (fun name => Wordly name.toList) s.table)
    (plain : isPlainIdentifier s.table.name = true)
    (planned : Plan.endpoints s.table s.policy = .ok s.plan) (goModule : String) :
    declaredMethods ((Handler.of s).file.text goModule) = s.plan.map Endpoint.handler := by
  rw [← callsNames, handlerMethods spelled plain planned, List.map_map]
  rfl

end RestScaffold.Server
