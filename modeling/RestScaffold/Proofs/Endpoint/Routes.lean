import Mathlib.Data.List.Nodup
import RestScaffold.Artifact.Subject
import RestScaffold.Proofs.Endpoint.Names
import RestScaffold.Proofs.Text.Lower

/-! Routes tell operations and tables apart. A path begins with the name of its table in lower case,
which for a plain name holds no slash, and what follows it belongs to the operation. -/
namespace RestScaffold
open Catalog

namespace EndpointKind

variable {k l : EndpointKind} {table other : String}

def ending : EndpointKind → String
  | .list | .create => ""
  | .get | .update | .delete => "/:id"
  | .bulk => "/bulk"
  | .search => "/search"
  | .stats => "/stats"
  | .export => "/export"

theorem pathEnding (k : EndpointKind) (table : String) :
    k.path table = "/" ++ (Text.lower table ++ k.ending) := by
  cases k <;> simp [path, collectionPath, ending, String.append_assoc]

theorem endingsStop : ∀ k ∈ all, k.ending.toList.takeWhile (fun c => decide (c ≠ '/')) = [] ∧
    k.ending.toList.dropWhile (fun c => decide (c ≠ '/')) = k.ending.toList := by decide

theorem endingsDiffer : ∀ k ∈ all, ∀ l ∈ all,
    k.method = l.method → k.ending = l.ending → k = l := by
  decide

theorem routeTellsKind (method : k.method = l.method) (path : k.path table = l.path table) :
    k = l := by
  rw [pathEnding, pathEnding, ← String.toList_inj] at path
  simp only [String.toList_append, List.append_cancel_left_eq, String.toList_inj] at path
  exact endingsDiffer k (memAll k) l (memAll l) method path

def collection (path : String) : String :=
  String.ofList ((path.toList.drop 1).takeWhile (· ≠ '/'))

theorem pathSplit (plain : Naming.isPlainIdentifier table = true) (k : EndpointKind) :
    collection (k.path table) = Text.lower table ∧
      (((k.path table).toList.drop 1).dropWhile (· ≠ '/')) = k.ending.toList := by
  have slashless : ∀ c ∈ (Text.lower table).toList, decide (c ≠ '/') = true := by
    intro c member
    refine decide_eq_true ?_
    rintro rfl
    exact Text.lowerPlain plain (by decide) (by decide) member
  have rest : (k.path table).toList.drop 1 = (Text.lower table).toList ++ k.ending.toList := by
    rw [pathEnding, String.toList_append, String.toList_append]
    rfl
  have stops := endingsStop k (memAll k)
  rw [collection, rest, List.takeWhile_append_of_pos slashless,
    List.dropWhile_append_of_pos slashless, stops.1, stops.2]
  simp

theorem routeSeparates (plain : Naming.isPlainIdentifier table = true)
    (plain' : Naming.isPlainIdentifier other = true) :
    k.method = l.method ∧ k.path table = l.path other ↔
      k = l ∧ Text.lower table = Text.lower other := by
  constructor
  · rintro ⟨method, path⟩
    obtain ⟨own, ending⟩ := pathSplit plain k
    obtain ⟨own', ending'⟩ := pathSplit plain' l
    rw [path] at own ending
    have same : k.ending = l.ending := String.toList_inj.mp (ending.symm.trans ending')
    exact ⟨endingsDiffer k (memAll k) l (memAll l) method same, own.symm.trans own'⟩
  · rintro ⟨rfl, lower⟩
    exact ⟨rfl, by rw [pathEnding, pathEnding, lower]⟩

theorem parseAllDistinct {names : List String} {seen kinds : List EndpointKind}
    (parsed : parseAll names seen = .ok kinds) : kinds.Nodup ∧ ∀ k ∈ kinds, k ∉ seen := by
  induction names generalizing seen kinds with
  | nil =>
      cases parsed
      exact ⟨.nil, nofun⟩
  | cons name rest ih =>
      simp only [parseAll] at parsed
      split at parsed
      · cases parsed
      · rename_i k known
        split at parsed
        · exact ih parsed
        · rename_i fresh
          cases later : parseAll rest (k :: seen) with
          | error unknown =>
              rw [later] at parsed
              cases parsed
          | ok others =>
              rw [later] at parsed
              cases parsed
              obtain ⟨distinct, apart⟩ := ih later
              refine ⟨List.nodup_cons.mpr ⟨fun again => ?_, distinct⟩, fun l member => ?_⟩
              · exact apart k again List.mem_cons_self
              · rcases List.mem_cons.mp member with rfl | further
                · exact fresh
                · exact fun known => apart l further (List.mem_cons_of_mem k known)

end EndpointKind

namespace Plan

variable {t : TableShape} {p : Policy} {plan : List Endpoint}

theorem endpointsOk (planned : endpoints t p = .ok plan) :
    ∃ kinds : List EndpointKind, kinds.Nodup ∧ plan = kinds.map (endpoint t p) := by
  simp only [endpoints, Policy.endpointKinds] at planned
  cases parsed : EndpointKind.parseAll p.endpoints [] with
  | error unknown =>
      rw [parsed] at planned
      cases planned
  | ok kinds =>
      rw [parsed] at planned
      cases planned
      exact ⟨kinds, (EndpointKind.parseAllDistinct parsed).1, rfl⟩

theorem plannedEndpoint (planned : endpoints t p = .ok plan) {e : Endpoint} (member : e ∈ plan) :
    e = endpoint t p e.kind := by
  obtain ⟨kinds, -, rfl⟩ := endpointsOk planned
  obtain ⟨k, -, rfl⟩ := List.mem_map.mp member
  rfl

theorem endpointRoutes (planned : endpoints t p = .ok plan) {e : Endpoint} (member : e ∈ plan) :
    e.routeKey = (e.kind.method, e.kind.path t.name) := by
  rw [plannedEndpoint planned member]
  rfl

theorem routesDistinct (planned : endpoints t p = .ok plan) :
    (plan.map Endpoint.routeKey).Nodup := by
  obtain ⟨kinds, distinct, rfl⟩ := endpointsOk planned
  rw [List.map_map]
  refine List.Nodup.map (fun k l same => ?_) distinct
  obtain ⟨method, path⟩ := Prod.mk.inj same
  exact EndpointKind.routeTellsKind method path

end Plan
end RestScaffold
