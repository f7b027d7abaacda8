import RestScaffold.Catalog.Discovery

/-! Which of the listed tables are discovered. -/
namespace RestScaffold.Catalog

variable {s : Source} {scope : Scope} {ref : TableRef} {t : Table}

theorem readTableSome (read : s.readTable ref = some t) :
    t.schema = ref.schema ∧ t.name = ref.name := by
  simp only [Source.readTable] at read
  split at read
  · contradiction
  · cases read
    exact ⟨rfl, rfl⟩

theorem readTableIff (s : Source) (ref : TableRef) :
    (∃ t, s.readTable ref = some t) ↔ ∃ columns, s.columns ref = .ok columns := by
  simp only [Source.readTable]
  split <;> rename_i found <;> simp [found]

theorem memCollect (arrived : List (Nat × Option Table)) (t : Table) :
    t ∈ collect arrived ↔ ∃ place, (place, some t) ∈ arrived := by
  -- The order in which reads arrive makes no difference.
  simp only [collect, List.mem_map, List.mem_mergeSort, List.mem_filterMap, Option.map_eq_some_iff,
    Prod.exists]
  grind

theorem memDiscover {tables : List Table} (found : s.discover scope = .ok tables) :
    ∃ listed, s.listed scope = .ok listed ∧
      ∀ t, t ∈ tables ↔ ∃ ref ∈ listed, s.readTable ref = some t := by
  simp only [Source.discover] at found
  cases listing : s.listed scope with
  | error e =>
      rw [listing] at found
      cases found
  | ok listed =>
      rw [listing] at found
      cases found
      refine ⟨listed, rfl, fun t => ?_⟩
      rw [memCollect]
      constructor
      · rintro ⟨place, member⟩
        obtain ⟨⟨ref, place'⟩, inside, same⟩ := List.mem_map.mp member
        exact ⟨ref, List.fst_mem_of_mem_zipIdx inside, (Prod.mk.inj same).2⟩
      · rintro ⟨ref, inside, read⟩
        obtain ⟨place, at'⟩ := List.mem_iff_getElem?.mp inside
        exact ⟨place, List.mem_map.mpr
          ⟨(ref, place), List.mem_zipIdx_iff_getElem?.mpr at', Prod.ext rfl read⟩⟩

theorem memListed {listed : List TableRef} (found : s.listed scope = .ok listed) :
    ∃ refs, s.tables scope.schemas = .ok refs ∧
      ∀ ref, ref ∈ listed ↔ ref ∈ refs ∧ scope.excludes ref.name = false := by
  simp only [Source.listed] at found
  cases listing : s.tables scope.schemas with
  | error e =>
      rw [listing] at found
      cases found
  | ok refs =>
      rw [listing] at found
      cases found
      exact ⟨refs, rfl, fun ref => by simp⟩

end RestScaffold.Catalog
