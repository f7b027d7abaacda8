import Mathlib.Data.List.Dedup
import RestScaffold.Generation.Pass
import RestScaffold.Proofs.SortedMap
import RestScaffold.Watch.Registration

/-! What becomes of each generated table when the tables register. A table is taken if its routes
are free, but it is kept under its bare name: of two tables of one name that are both taken, the
later one has the entry, and nothing is left of the earlier one. -/
namespace RestScaffold
open Catalog

namespace Registration

structure Offer where
  report : TableReport
  binder : Binder

variable {r : Registration} {offers : List Offer} {t : TableReport}

def objection? (r : Registration) (o : Offer) : Option RegistrationError :=
  match r.clash? o.report.endpoints with
  | some (e, existing) => some (.collision o.report.table e.method.name e.path existing)
  | none =>
      match o.binder o.report.table o.report.endpoints with
      | .error e => some e
      | .ok _ => none

def serve (r : Registration) (o : Offer) : Registration := r.add o.binder o.report

def after (r : Registration) (offers : List Offer) : Registration := offers.foldl serve r

def verdicts (r : Registration) : List Offer → List (TableReport × Option RegistrationError)
  | [] => []
  | o :: rest => (o.report, r.objection? o) :: verdicts (r.serve o) rest

def taken (r : Registration) (offers : List Offer) : List TableReport :=
  ((r.verdicts offers).filter (·.2.isNone)).map Prod.fst

theorem serveStep (r : Registration) (o : Offer) :
    r.serve o = match r.objection? o with
      | some e => r.reject e
      | none => r.accept o.report := by
  unfold serve add objection?
  cases r.clash? o.report.endpoints with
  | some clash => rfl
  | none => cases o.binder o.report.table o.report.endpoints <;> rfl

theorem ofTablesAfter (binder : Binder) (generated : List TableReport) :
    ofTables binder generated = after {} (generated.map (⟨·, binder⟩)) := by
  rw [ofTables, after, List.foldl_map]
  rfl

theorem memTaken : t ∈ r.taken offers ↔ (t, none) ∈ r.verdicts offers := by
  simp [taken]

theorem verdictsReports (r : Registration) (offers : List Offer) :
    (r.verdicts offers).map Prod.fst = offers.map Offer.report := by
  induction offers generalizing r with
  | nil => rfl
  | cons o rest ih => rw [verdicts, List.map_cons, ih, List.map_cons]

theorem errorsAfter (r : Registration) (offers : List Offer) :
    (r.after offers).errors = r.errors ++ (r.verdicts offers).filterMap Prod.snd := by
  induction offers generalizing r with
  | nil => simp [after, verdicts]
  | cons o rest ih =>
      have step : (r.after (o :: rest)).errors = ((r.serve o).after rest).errors := rfl
      rw [step, ih, verdicts, serveStep]
      cases r.objection? o with
      | none => simp [accept]
      | some e => simp [reject]

theorem boundAfter (r : Registration) (offers : List Offer) :
    (r.after offers).bound =
      (r.taken offers).foldl (fun m t => m.insert t.table t.endpoints) r.bound := by
  induction offers generalizing r with
  | nil => rfl
  | cons o rest ih =>
      have step : (r.after (o :: rest)).bound = ((r.serve o).after rest).bound := rfl
      rw [step, ih, taken, taken, verdicts, serveStep]
      cases r.objection? o with
      | none => simp [accept]
      | some e => simp [reject]

def entry (t : TableReport) : String × List Endpoint := (t.table, t.endpoints)

theorem boundTaken (offers : List Offer) :
    (after {} offers).bound = SortedMap.ofList ((taken {} offers).map entry) := by
  rw [boundAfter, SortedMap.ofList, List.foldl_map]
  rfl

theorem boundSorted (offers : List Offer) : (after {} offers).bound.Sorted := by
  rw [boundTaken]
  exact SortedMap.sortedOfList _

theorem errorsVerdicts (offers : List Offer) :
    (after {} offers).errors = (verdicts {} offers).filterMap Prod.snd := by
  rw [errorsAfter, List.nil_append]

theorem verdictsLength (offers : List Offer) : (verdicts {} offers).length = offers.length := by
  simpa using congrArg List.length (verdictsReports {} offers)

theorem takenAndErrors (offers : List Offer) :
    (taken {} offers).length + (after {} offers).errors.length = offers.length := by
  rw [taken, errorsVerdicts, List.length_map, List.length_filterMap_eq_countP,
    ← List.countP_eq_length_filter, ← verdictsLength offers, Nat.add_comm,
    List.length_eq_countP_add_countP fun v : TableReport × Option RegistrationError => v.2.isSome]
  congr 2
  funext v
  cases v.2 <;> rfl

theorem boundSize (offers : List Offer) :
    (after {} offers).bound.entries.length =
      ((taken {} offers).map TableReport.table).dedup.length := by
  have names : ((taken {} offers).map entry).map Prod.fst =
      (taken {} offers).map TableReport.table := by
    rw [List.map_map]
    rfl
  have same : (after {} offers).bound.keys.Perm
      ((taken {} offers).map TableReport.table).dedup := by
    rw [boundTaken]
    refine (List.perm_ext_iff_of_nodup (SortedMap.keysNodup (SortedMap.sortedOfList _))
      (List.nodup_dedup _)).mpr fun name => ?_
    rw [SortedMap.keysOfList, names, List.mem_dedup]
  simpa [SortedMap.keys] using same.length_eq

theorem entryLookup (name : String) (ts : List TableReport) :
    (ts.map entry).lookup name = (ts.find? (·.table = name)).map TableReport.endpoints := by
  induction ts with
  | nil => rfl
  | cons t rest ih =>
      rw [List.map_cons, entry, SortedMap.lookupCons, ih, List.find?_cons]
      by_cases same : name = t.table
      · simp [same]
      · simp [same, Ne.symm same]

theorem boundLast (offers : List Offer) (name : String) :
    (after {} offers).bound.get? name =
      ((taken {} offers).reverse.find? (·.table = name)).map TableReport.endpoints := by
  rw [boundTaken, SortedMap.getOfList, ← List.map_reverse, entryLookup]

structure Complete (verdicts : List (TableReport × Option RegistrationError))
    (r : Registration) : Prop where
  stored : ∀ t, (t, none) ∈ verdicts → r.bound.get? t.table = some t.endpoints
  errors : r.errors = verdicts.filterMap Prod.snd
  sizes : r.bound.entries.length + r.errors.length = verdicts.length
  routes : ∀ t, (t, none) ∈ verdicts → ∀ e ∈ t.endpoints,
    ∃ table endpoints, r.bound.get? table = some endpoints ∧ e ∈ endpoints

theorem storedOfNodup (distinct : ((taken {} offers).map TableReport.table).Nodup)
    (member : t ∈ taken {} offers) :
    (after {} offers).bound.get? t.table = some t.endpoints := by
  rw [boundLast]
  cases found : (taken {} offers).reverse.find? (·.table = t.table) with
  | none =>
      have other := List.find?_eq_none.mp found t (List.mem_reverse.mpr member)
      simp at other
  | some last =>
      have named : last.table = t.table := by simpa using List.find?_some found
      have inside := List.mem_reverse.mp (List.mem_of_find?_eq_some found)
      rw [List.inj_on_of_nodup_map distinct inside member named]
      rfl

theorem completeIff (offers : List Offer) :
    (after {} offers).Complete (verdicts {} offers) ↔
      ((taken {} offers).map TableReport.table).Nodup := by
  have account := takenAndErrors offers
  have size := boundSize offers
  constructor
  · intro complete
    -- The sizes are enough: each further table of a name takes an entry away.
    have sizes := complete.sizes
    rw [verdictsLength] at sizes
    have full : ((taken {} offers).map TableReport.table).dedup.length =
        ((taken {} offers).map TableReport.table).length := by
      rw [List.length_map]
      omega
    exact List.dedup_eq_self.mp ((List.dedup_sublist _).eq_of_length full)
  · intro distinct
    have stored : ∀ t, (t, none) ∈ verdicts {} offers →
        (after {} offers).bound.get? t.table = some t.endpoints :=
      fun t member => storedOfNodup distinct (memTaken.mpr member)
    refine ⟨stored, errorsVerdicts offers, ?_, fun t member e inside =>
      ⟨t.table, t.endpoints, stored t member, inside⟩⟩
    rw [List.dedup_eq_self.mpr distinct, List.length_map] at size
    rw [verdictsLength]
    omega

/-- No table is lost if and only if no two tables that are taken have the same name. Lost tables are
in neither list: the entry of a name is that of the last table taken of it. -/
theorem keepsTablesIffTakenNamesDiffer (offers : List Offer) :
    ((after {} offers).Complete (verdicts {} offers) ↔
        ((taken {} offers).map TableReport.table).Nodup) ∧
      (taken {} offers).length + (after {} offers).errors.length = offers.length ∧
      (∀ name, (after {} offers).bound.get? name =
        ((taken {} offers).reverse.find? (·.table = name)).map TableReport.endpoints) ∧
      ∀ binder generated,
        ofTables binder generated = after {} (generated.map (⟨·, binder⟩)) :=
  ⟨completeIff offers, takenAndErrors offers, boundLast offers, ofTablesAfter⟩

def namesakeSettings : Settings where
  targets := [.client]
  tables := .ofList [("public.items", { endpoints := some ["list"] }),
    ("sales.items", { endpoints := some ["create"] })]

def itemsOf (schema : String) : TableShape where
  schema := schema
  name := "items"
  columns := [⟨"id", "integer", false, true, none, none⟩]
  comment := none

def acceptsAll : Binder := fun _ _ => .ok ()

def census (report : Report) : Nat × Nat × Nat :=
  (report.generated.length, (ofTables acceptsAll report.generated).bound.entries.length,
    (ofTables acceptsAll report.generated).errors.length)

theorem censusOfComplete {report : Report}
    (complete : (ofTables acceptsAll report.generated).Complete
      (verdicts {} (report.generated.map (⟨·, acceptsAll⟩)))) :
    (census report).1 = (census report).2.1 + (census report).2.2 := by
  have sizes := complete.sizes
  rw [verdictsLength, List.length_map] at sizes
  exact sizes.symm

theorem laterNamesakeDisplaces :
    ∃ report, (Pass.run namesakeSettings {} [itemsOf "public", itemsOf "sales"]).2 = .ok report ∧
      ¬(ofTables acceptsAll report.generated).Complete
        (verdicts {} (report.generated.map (⟨·, acceptsAll⟩))) := by
  have lost : ∀ result : Except WriteError Report,
      result.toOption.map census = some (2, 1, 0) →
      ∃ report, result = .ok report ∧ ¬(ofTables acceptsAll report.generated).Complete
        (verdicts {} (report.generated.map (⟨·, acceptsAll⟩))) := by
    intro result counted
    cases result with
    | error e => contradiction
    | ok report =>
        refine ⟨report, rfl, fun complete => ?_⟩
        have sizes := censusOfComplete complete
        rw [Option.some.inj counted] at sizes
        contradiction
  exact lost _ (by decide +kernel)

end Registration
end RestScaffold
