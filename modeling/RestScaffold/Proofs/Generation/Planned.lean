import RestScaffold.Proofs.Generation.Pass
import RestScaffold.Proofs.Policy.Validated

/-! With settings that have been accepted no table fails before its files are rendered. -/
namespace RestScaffold

variable {s : Settings}

namespace Pass
open Catalog

theorem prepareUnplanned (valid : s.validate = .ok ()) {shape : TableShape} {e : TableError}
    (failed : prepare s shape = .error e) : e.stage ≠ "plan" := by
  simp only [prepare] at failed
  split at failed
  · split at failed
    · rename_i e' unplanned
      obtain ⟨kinds, planned⟩ := endpointKindsKnown (resolvedKnown valid shape.schema shape.name)
        shape.name
      rw [Plan.endpoints, planned] at unplanned
      cases unplanned
    · split at failed
      · cases failed
        simp [TableError.stage]
      · cases failed
  · cases failed

theorem tableUnplanned (valid : s.validate = .ok ()) {tree : FileTree} {shape : TableShape}
    {f : TableFailure} (failed : (table s tree shape).2.failed? = some f) :
    f.error.stage ≠ "plan" := by
  unfold table at failed
  split at failed
  · rename_i e unprepared
    cases failed
    exact prepareUnplanned valid unprepared
  · cases failed
  · split at failed
    · cases failed
      simp [TableError.stage]
    · cases failed

theorem tablesUnplanned (valid : s.validate = .ok ()) (tree : FileTree)
    (shapes : List TableShape) :
    ∀ f ∈ (tables s tree shapes).2.filterMap Outcome.failed?, f.error.stage ≠ "plan" := by
  induction shapes generalizing tree with
  | nil => nofun
  | cons shape rest ih =>
      intro f member
      rw [tablesCons] at member
      obtain ⟨outcome, among, failed⟩ := List.mem_filterMap.mp member
      rcases List.mem_cons.mp among with rfl | later
      · exact tableUnplanned valid failed
      · exact ih _ f (List.mem_filterMap.mpr ⟨outcome, later, failed⟩)

theorem runUnplanned (valid : s.validate = .ok ()) {tree : FileTree} {shapes : List TableShape}
    {report : Report} (ran : (run s tree shapes).2 = .ok report) :
    ∀ f ∈ report.failures, f.error.stage ≠ "plan" := by
  have course := runCourse s tree shapes
  rw [ran] at course
  cases course with
  | done tables index record failures =>
      rw [failures]
      exact tablesUnplanned valid tree shapes

end Pass

/-- Under settings that have been accepted, the policy of each table with plain names has page sizes
that make sense and endpoints that can be planned, and no pass reports a table, whatever it is
called, as failing in its plan. -/
theorem acceptedSettingsPlan (accepted : s.Accepted) :
    (∀ schema table : String, Naming.isPlainIdentifier schema = true →
      Naming.isPlainIdentifier table = true →
      ∃ policy, (Resolver.ofSettings s).resolve (some schema) table = policy ∧
        1 ≤ policy.pagination.defaultLimit ∧
        policy.pagination.defaultLimit ≤ policy.pagination.maxLimit ∧
        ∃ kinds, policy.endpointKinds table = .ok kinds) ∧
      ∀ (tree : FileTree) (shapes : List Catalog.TableShape) (report : Report),
        (Pass.run s tree shapes).2 = .ok report →
        ∀ f ∈ report.failures, f.error.stage ≠ "plan" := by
  have valid := acceptedValid accepted
  refine ⟨fun schema table plainSchema plainTable => ?_, fun _ _ _ => Pass.runUnplanned valid⟩
  have usable := resolvedUsable valid plainSchema plainTable
  exact ⟨_, rfl, usable.positive, usable.capped, endpointKindsKnown usable.known table⟩

def collidingSettings : Settings where
  defaults := { pagination := { defaultLimit := some 50 } }
  tables := .ofList [
    ("Items", { pagination := { maxLimit := some 30 } }),
    ("a.b.c", { endpoints := some ["get"] }),
    ("items", { pagination := { maxLimit := some 60 } }),
    ("sales.ITEMS", { pagination := { defaultLimit := some 5, maxLimit := some 10 } })]

theorem collidingRecordsPlan :
    collidingSettings.Accepted ∧
      ∃ policy, (Resolver.ofSettings collidingSettings).resolve (some "public") "ITEMS" = policy ∧
        1 ≤ policy.pagination.defaultLimit ∧
        policy.pagination.defaultLimit ≤ policy.pagination.maxLimit ∧
        ∃ kinds, policy.endpointKinds "ITEMS" = .ok kinds := by
  have accepted : collidingSettings.Accepted := .built (by decide +kernel)
  exact ⟨accepted, (acceptedSettingsPlan accepted).1 "public" "ITEMS" (by decide) (by decide)⟩

end RestScaffold
