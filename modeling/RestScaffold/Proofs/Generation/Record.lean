import RestScaffold.Generation.Pass
import RestScaffold.Proofs.Artifact.Paths
import RestScaffold.Proofs.SortedMap

/-! What a pass records, and which recorded files it takes for stale. A table is recorded by its
name as it stands, its files by its name in lower case: tables of several names may share files. -/
namespace RestScaffold

def Manifest.paths (m : Manifest) : List String := m.values.flatten

def Manifest.Lists (m : Manifest) (table path : String) : Prop :=
  ∃ files, m.get? table = some files ∧ path ∈ files

namespace Pass
open Rendering

variable {targets : List Target} {previous next m : Manifest} {generated : List TableReport}
  {failures : List TableFailure} {table path : String} {files : List String}

structure Canonical (targets : List Target) (m : Manifest) : Prop where
  sorted : m.Sorted
  plain : ∀ table files, m.get? table = some files → Naming.isPlainIdentifier table = true
  whole : ∀ table files, m.get? table = some files → files = tablePaths targets table

/-- Every file that is recorded belongs to its table, for whatever target. -/
structure Lawful (m : Manifest) : Prop where
  sorted : m.Sorted
  plain : ∀ table files, m.get? table = some files → Naming.isPlainIdentifier table = true
  own : ∀ table files, m.get? table = some files → ∀ path ∈ files,
    path ∈ tablePaths Target.all table

theorem Canonical.lawful (canonical : Canonical targets m) : Lawful m := by
  refine ⟨canonical.sorted, canonical.plain, fun table files found path member => ?_⟩
  rw [canonical.whole table files found] at member
  exact tablePathsAll member

theorem canonicalEmpty (targets : List Target) : Canonical targets ∅ :=
  ⟨SortedMap.sortedEmpty, nofun, nofun⟩

theorem memPaths (sorted : m.Sorted) :
    path ∈ m.paths ↔ ∃ table files, m.get? table = some files ∧ path ∈ files := by
  simp only [Manifest.paths, List.mem_flatten, SortedMap.memValues sorted]
  grind

def Faithful (targets : List Target) (generated : List TableReport) : Prop :=
  ∀ r ∈ generated, Naming.isPlainIdentifier r.table = true ∧ r.files = tablePaths targets r.table

theorem writtenGet (faithful : Faithful targets generated) (m : Manifest) (table : String) :
    (generated.foldl (fun m r => m.insert r.table r.files) m).get? table =
      if table ∈ generated.map TableReport.table then some (tablePaths targets table)
      else m.get? table := by
  induction generated generalizing m with
  | nil => rfl
  | cons r rest ih =>
      obtain ⟨-, whole⟩ := faithful r List.mem_cons_self
      rw [List.foldl_cons, ih fun other member => faithful other (List.mem_cons_of_mem r member),
        SortedMap.getInsert, List.map_cons]
      by_cases later : table ∈ rest.map TableReport.table
      · rw [if_pos later, if_pos (List.mem_cons_of_mem _ later)]
      · by_cases same : table = r.table
        · subst same
          rw [if_neg later, if_pos rfl, if_pos List.mem_cons_self, whole]
        · rw [if_neg later, if_neg same, if_neg (by simp_all)]

def keep (previous m : Manifest) (f : TableFailure) : Manifest :=
  match previous.get? f.table with
  | some files => if m.contains f.table then m else m.insert f.table files
  | none => m

theorem keepGet (previous m : Manifest) (f : TableFailure) (table : String) :
    (keep previous m f).get? table =
      (m.get? table).or (if table = f.table then previous.get? table else none) := by
  simp only [keep]
  by_cases same : table = f.table
  · subst same
    rw [if_pos rfl]
    cases found : previous.get? f.table with
    | none => simp
    | some files =>
        cases own : m.get? f.table with
        | none => simp [SortedMap.contains, own, SortedMap.getInsert]
        | some files' => simp [SortedMap.contains, own]
  · rw [if_neg same, Option.or_none]
    split
    · split
      · rfl
      · rw [SortedMap.getInsert, if_neg same]
    · rfl

theorem keptGet (previous m : Manifest) (failures : List TableFailure) (table : String) :
    (failures.foldl (keep previous) m).get? table =
      (m.get? table).or
        (if table ∈ failures.map TableFailure.table then previous.get? table else none) := by
  induction failures generalizing m with
  | nil => simp
  | cons f rest ih =>
      rw [List.foldl_cons, ih, keepGet, Option.or_assoc]
      congr 1
      by_cases same : table = f.table
      · subst same
        cases previous.get? f.table <;> simp
      · simp [same]

theorem recordGet (faithful : Faithful targets generated) (table : String) :
    (record previous generated failures).get? table =
      if table ∈ generated.map TableReport.table then some (tablePaths targets table)
      else if table ∈ failures.map TableFailure.table then previous.get? table
      else none := by
  have kept := keptGet previous
    (generated.foldl (fun m r => m.insert r.table r.files) SortedMap.empty) failures table
  rw [writtenGet faithful] at kept
  refine Eq.trans kept ?_
  split
  · rfl
  · exact Option.none_or

theorem recordLists (faithful : Faithful targets generated) :
    (record previous generated failures).Lists table path ↔
      table ∈ generated.map TableReport.table ∧ path ∈ tablePaths targets table ∨
        table ∉ generated.map TableReport.table ∧ table ∈ failures.map TableFailure.table ∧
          previous.Lists table path := by
  unfold Manifest.Lists
  rw [recordGet faithful]
  split
  · rename_i written
    simp only [written, Option.some.injEq, exists_eq_left', true_and, not_true_eq_false, false_and,
      or_false]
  · rename_i unwritten
    split
    · rename_i failed
      simp only [unwritten, failed, false_and, not_false_eq_true, true_and, false_or]
    · rename_i unfailing
      simp only [unwritten, unfailing, reduceCtorEq, false_and, exists_false, and_false, or_false]

theorem recordSorted (previous : Manifest) (generated : List TableReport)
    (failures : List TableFailure) : (record previous generated failures).Sorted := by
  have written : ∀ m : Manifest, m.Sorted →
      (generated.foldl (fun m r => m.insert r.table r.files) m).Sorted := by
    induction generated with
    | nil => exact fun m sorted => sorted
    | cons r rest ih => exact fun m sorted => ih _ (SortedMap.sortedInsert sorted r.table r.files)
  have kept : ∀ m : Manifest, m.Sorted → (failures.foldl (keep previous) m).Sorted := by
    induction failures with
    | nil => exact fun m sorted => sorted
    | cons f rest ih =>
        intro m sorted
        refine ih _ ?_
        simp only [keep]
        split
        · split
          · exact sorted
          · exact SortedMap.sortedInsert sorted _ _
        · exact sorted
  exact kept _ (written _ SortedMap.sortedEmpty)

theorem recordPaths (faithful : Faithful targets generated) :
    path ∈ (record previous generated failures).paths ↔
      (∃ r ∈ generated, path ∈ r.files) ∨
        ∃ f ∈ failures, f.table ∉ generated.map TableReport.table ∧
          previous.Lists f.table path := by
  have listed : path ∈ (record previous generated failures).paths ↔
      ∃ table, (record previous generated failures).Lists table path :=
    memPaths (recordSorted _ _ _)
  rw [listed]
  simp only [recordLists faithful]
  constructor
  · rintro ⟨table, ⟨written, own⟩ | ⟨unwritten, failed, before⟩⟩
    · obtain ⟨r, member, rfl⟩ := List.mem_map.mp written
      exact .inl ⟨r, member, (faithful r member).2 ▸ own⟩
    · obtain ⟨f, member, rfl⟩ := List.mem_map.mp failed
      exact .inr ⟨f, member, unwritten, before⟩
  · rintro (⟨r, member, own⟩ | ⟨f, member, unwritten, before⟩)
    · exact ⟨r.table, .inl ⟨List.mem_map_of_mem member, (faithful r member).2 ▸ own⟩⟩
    · exact ⟨f.table, .inr ⟨unwritten, List.mem_map_of_mem member, before⟩⟩

theorem recordFound (faithful : Faithful targets generated)
    (found : (record previous generated failures).get? table = some files) :
    Naming.isPlainIdentifier table = true ∧ files = tablePaths targets table ∨
      previous.get? table = some files := by
  rw [recordGet faithful] at found
  split at found
  · rename_i written
    obtain ⟨r, member, rfl⟩ := List.mem_map.mp written
    exact .inl ⟨(faithful r member).1, (Option.some.inj found).symm⟩
  · split at found
    · exact .inr found
    · contradiction

theorem recordCanonical (canonical : Canonical targets previous)
    (faithful : Faithful targets generated) :
    Canonical targets (record previous generated failures) := by
  refine ⟨recordSorted previous generated failures, fun table files found => ?_,
    fun table files found => ?_⟩
  all_goals rcases recordFound faithful found with ⟨plain, whole⟩ | kept
  · exact plain
  · exact canonical.plain table files kept
  · exact whole
  · exact canonical.whole table files kept

theorem recordLawful (lawful : Lawful previous) (faithful : Faithful targets generated) :
    Lawful (record previous generated failures) := by
  refine ⟨recordSorted previous generated failures, fun table files found => ?_,
    fun table files found path member => ?_⟩
  all_goals rcases recordFound faithful found with ⟨plain, whole⟩ | kept
  · exact plain
  · exact lawful.plain table files kept
  · subst whole
    exact tablePathsAll member
  · exact lawful.own table files kept path member

theorem lawfulPath (lawful : Lawful m) (recorded : path ∈ m.paths) :
    ∃ table, Naming.isPlainIdentifier table = true ∧ path ∈ tablePaths Target.all table := by
  obtain ⟨table, files, found, member⟩ := (memPaths lawful.sorted).mp recorded
  exact ⟨table, lawful.plain table files found, lawful.own table files found path member⟩

theorem lawfulMeet {other : Manifest} {path' : String} (lawful : Lawful m) (lawful' : Lawful other)
    (recorded : path ∈ m.paths) (recorded' : path' ∈ other.paths)
    (same : Path.names path = Path.names path') : path = path' := by
  obtain ⟨table, plain, own⟩ := lawfulPath lawful recorded
  obtain ⟨table', plain', own'⟩ := lawfulPath lawful' recorded'
  exact (tablePathsMeet plain plain' own own' same).2

theorem lawfulNames (lawful : Lawful m) (recorded : path ∈ m.paths) :
    Path.Descends path ∧ Path.components path = Path.names path ∧ Path.names path ≠ [] ∧
      ∀ other ∈ shared, Path.names path ≠ Path.names other := by
  obtain ⟨table, plain, own⟩ := lawfulPath lawful recorded
  exact tablePathNames plain own

theorem staleIff (sorted : previous.Sorted) :
    path ∈ stale previous next ↔
      (∃ table files, previous.get? table = some files ∧ path ∈ files ∧
        next.get? table = none) ∧
      ∀ other ∈ next.paths, Path.components other ≠ Path.components path := by
  simp only [stale, List.mem_filter, List.mem_flatMap, Prod.exists, SortedMap.memIffGet sorted,
    SortedMap.contains, Manifest.paths, List.contains_eq_mem, List.mem_map, Bool.not_eq_true',
    Option.isSome_eq_false_iff, Option.isNone_iff_eq_none, decide_eq_false_iff_not, not_exists,
    not_and]
  grind

theorem staleRecorded (sorted : previous.Sorted) (member : path ∈ stale previous next) :
    path ∈ previous.paths := by
  obtain ⟨⟨table, files, found, inside, -⟩, -⟩ := (staleIff sorted).mp member
  exact (memPaths sorted).mpr ⟨table, files, found, inside⟩

theorem recordedBefore (lawful : Lawful previous) (faithful : Faithful targets generated)
    (recorded : path ∈ (record previous generated failures).paths) :
    path ∈ previous.paths ∨ path ∈ generated.flatMap TableReport.files := by
  obtain ⟨table, files, found, inside⟩ :=
    (memPaths (recordSorted previous generated failures)).mp recorded
  rw [recordGet faithful] at found
  split at found
  · rename_i written
    cases found
    obtain ⟨r, known, rfl⟩ := List.mem_map.mp written
    rw [← (faithful r known).2] at inside
    exact .inr (List.mem_flatMap.mpr ⟨r, known, inside⟩)
  · split at found
    · exact .inl ((memPaths lawful.sorted).mpr ⟨table, files, found, inside⟩)
    · contradiction

def Named (paths names : List String) : Prop := ∃ path ∈ paths, names = Path.names path

theorem staleApart (lawful : Lawful previous) (faithful : Faithful targets generated)
    {names : List String}
    (old : Named (stale previous (record previous generated failures)) names) :
    ¬Named (record previous generated failures).paths names := by
  have next : Lawful (record previous generated failures) := recordLawful lawful faithful
  obtain ⟨path, member, rfl⟩ := old
  rintro ⟨other, recorded, same⟩
  obtain ⟨-, apart⟩ := (staleIff lawful.sorted).mp member
  obtain ⟨-, own, -⟩ := lawfulNames lawful (staleRecorded lawful.sorted member)
  obtain ⟨-, own', -⟩ := lawfulNames next recorded
  exact apart other recorded (by rw [own, own', same])

theorem generatedRecorded (faithful : Faithful targets generated)
    (member : path ∈ generated.flatMap TableReport.files) :
    path ∈ (record previous generated failures).paths :=
  (recordPaths faithful).mpr (.inl (List.mem_flatMap.mp member))

section
variable (canonical : Canonical targets previous) (faithful : Faithful targets generated)
include canonical faithful

theorem keptOrStale {names : List String} (recorded : Named previous.paths names) :
    Named (record previous generated failures).paths names ∨
      Named (stale previous (record previous generated failures)) names := by
  have next : Canonical targets (record previous generated failures) :=
    recordCanonical canonical faithful
  obtain ⟨path, member, rfl⟩ := recorded
  obtain ⟨table, files, found, inside⟩ := (memPaths canonical.sorted).mp member
  cases kept : (record previous generated failures).get? table with
  | some files' =>
      refine .inl ⟨path, (memPaths next.sorted).mpr ⟨table, files', kept, ?_⟩, rfl⟩
      rwa [next.whole table files' kept, ← canonical.whole table files found]
  | none =>
      refine Classical.or_iff_not_imp_left.mpr fun unrecorded => ⟨path, ?_, rfl⟩
      refine (staleIff canonical.sorted).mpr ⟨⟨table, files, found, inside, kept⟩, ?_⟩
      intro other member' same
      obtain ⟨-, own, -⟩ := lawfulNames canonical.lawful member
      obtain ⟨-, own', -⟩ := lawfulNames next.lawful member'
      exact unrecorded ⟨other, member', by rw [← own, ← own', same]⟩

theorem staleExact (names : List String) :
    (Named previous.paths names ∨ Named (generated.flatMap TableReport.files) names) ∧
      ¬Named (stale previous (record previous generated failures)) names ↔
    Named (record previous generated failures).paths names := by
  constructor
  · rintro ⟨recorded | ⟨path, member, rfl⟩, fresh⟩
    · exact (keptOrStale canonical faithful recorded).resolve_right fresh
    · exact ⟨path, generatedRecorded faithful member, rfl⟩
  · intro named
    refine ⟨?_, fun old => staleApart canonical.lawful faithful old named⟩
    obtain ⟨path, member, rfl⟩ := named
    exact (recordedBefore canonical.lawful faithful member).imp (⟨path, ·, rfl⟩) (⟨path, ·, rfl⟩)

end

end Pass
end RestScaffold
