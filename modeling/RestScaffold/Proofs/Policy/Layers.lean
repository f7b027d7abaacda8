import Mathlib.Data.List.Induction
import RestScaffold.Policy.Resolution
import RestScaffold.Proofs.SortedMap

/-! What decides each field of a resolved policy. A table's own record comes before the record for
all tables, and the built-in values come last. Keys of records count in lower case only, and the
greatest one of several keys for a name hides the others. -/
namespace RestScaffold

namespace SortedMap

variable {α : Type} {m : SortedMap α} {key : String} {value : α}

def Greatest (m : SortedMap α) (rename : String → String) (key : String) (value : α) : Prop :=
  ∃ own, (own, value) ∈ m.entries ∧ rename own = key ∧
    ∀ other ∈ m.keys, rename other = key → other ≤ own

theorem lookupGreatest (rename : String → String) (entries : List (String × α))
    (sorted : entries.Pairwise fun a b => a.1 < b.1) :
    (entries.map fun e => (rename e.1, e.2)).reverse.lookup key = some value ↔
      Greatest ⟨entries⟩ rename key value := by
  -- From the last entry on, which is the one that a look-up meets first.
  induction entries using List.reverseRecOn with
  | nil => simp [Greatest]
  | append_singleton rest entry ih =>
      obtain ⟨k, v⟩ := entry
      obtain ⟨before, -, below⟩ := List.pairwise_append.mp sorted
      have least : ∀ e ∈ rest, e.1 < k := fun e member => below e member (k, v) List.mem_cons_self
      have keys : (⟨rest ++ [(k, v)]⟩ : SortedMap α).keys = rest.map Prod.fst ++ [k] := by
        simp [SortedMap.keys]
      rw [List.map_append, List.reverse_append, List.map_singleton, List.reverse_singleton,
        List.singleton_append, lookupCons]
      split
      · rename_i same
        constructor
        · intro found
          cases found
          refine ⟨k, by simp, same.symm, fun other member _ => ?_⟩
          rw [keys] at member
          rcases List.mem_append.mp member with earlier | last
          · obtain ⟨e, inside, rfl⟩ := List.mem_map.mp earlier
            exact Std.le_of_lt (least e inside)
          · exact List.mem_singleton.mp last ▸ String.le_refl k
        · rintro ⟨own, member, renamed, greatest⟩
          rcases List.mem_append.mp member with earlier | last
          · have above := greatest k (by simp [keys]) same.symm
            exact absurd (least _ earlier) (Std.not_lt.mpr above)
          · cases List.mem_singleton.mp last
            rfl
      · rename_i different
        rw [ih before]
        have apart : rename k ≠ key := fun same => different same.symm
        constructor
        · rintro ⟨own, member, renamed, greatest⟩
          refine ⟨own, List.mem_append_left _ member, renamed, fun other known same => ?_⟩
          rw [keys] at known
          rcases List.mem_append.mp known with earlier | last
          · exact greatest other earlier same
          · exact absurd same (List.mem_singleton.mp last ▸ apart)
        · rintro ⟨own, member, renamed, greatest⟩
          refine ⟨own, ?_, renamed, fun other known =>
            greatest other (keys ▸ List.mem_append_left _ known)⟩
          rcases List.mem_append.mp member with earlier | last
          · exact earlier
          · cases List.mem_singleton.mp last
            exact absurd renamed apart

theorem getRenamed (sorted : m.Sorted) (rename : String → String) :
    (ofList (m.entries.map fun (k, v) => (rename k, v))).get? key = some value ↔
      m.Greatest rename key value :=
  (getOfList _ key).symm ▸ lookupGreatest rename m.entries sorted

theorem renamedMissing (rename : String → String) :
    (ofList (m.entries.map fun (k, v) => (rename k, v))).get? key = none ↔
      ∀ own ∈ m.keys, rename own ≠ key := by
  rw [getOfList, List.lookup_eq_none_iff, keys, List.forall_mem_map]
  simp only [List.mem_reverse, List.forall_mem_map, bne_iff_ne]
  exact forall₂_congr fun entry _ => ne_comm

end SortedMap

namespace Settings

def qualifiedKey (schema table : String) : String := Text.lower schema ++ "." ++ Text.lower table

def Unnamed (s : Settings) (lowered : String) : Prop :=
  ∀ key ∈ s.tables.keys, Text.lower key ≠ lowered

inductive Own (s : Settings) (schema table : String) : Option PolicyRecord → Prop
  | qualified {record : PolicyRecord}
      (greatest : s.tables.Greatest Text.lower (qualifiedKey schema table) record) :
      Own s schema table (some record)
  | bare {record : PolicyRecord} (unnamed : s.Unnamed (qualifiedKey schema table))
      (greatest : s.tables.Greatest Text.lower (Text.lower table) record) :
      Own s schema table (some record)
  | none (unnamed : s.Unnamed (qualifiedKey schema table))
      (unnamed' : s.Unnamed (Text.lower table)) : Own s schema table none

variable {s : Settings} {schema table : String}

theorem ownIff (sorted : s.tables.Sorted) (own : Option PolicyRecord) :
    s.Own schema table own ↔ (Resolver.ofSettings s).record? (some schema) table = own := by
  have found : ∀ lowered record, (Resolver.ofSettings s).records.get? lowered = some record ↔
      s.tables.Greatest Text.lower lowered record :=
    fun _ _ => SortedMap.getRenamed sorted Text.lower
  have missing : ∀ lowered, (Resolver.ofSettings s).records.get? lowered = none ↔
      s.Unnamed lowered := fun _ => SortedMap.renamedMissing Text.lower
  have looked : (Resolver.ofSettings s).record? (some schema) table =
      ((Resolver.ofSettings s).records.get? (qualifiedKey schema table)).or
        ((Resolver.ofSettings s).records.get? (Text.lower table)) := rfl
  rw [looked]
  constructor
  · intro decided
    cases decided with
    | qualified greatest => rw [(found _ _).mpr greatest, Option.some_or]
    | bare unnamed greatest =>
        rw [(missing _).mpr unnamed, Option.none_or, (found _ _).mpr greatest]
    | none unnamed unnamed' =>
        rw [(missing _).mpr unnamed, Option.none_or, (missing _).mpr unnamed']
  · intro same
    cases first : (Resolver.ofSettings s).records.get? (qualifiedKey schema table) with
    | some record =>
        rw [first, Option.some_or] at same
        exact same ▸ .qualified ((found _ _).mp first)
    | none =>
        rw [first, Option.none_or] at same
        cases own with
        | some record => exact .bare ((missing _).mp first) ((found _ _).mp same)
        | none => exact .none ((missing _).mp first) ((missing _).mp same)

variable (s : Settings) (own : Option PolicyRecord) {α : Type}

def set? (field : PolicyRecord → Option α) : Option α := (own.bind field).or (field s.defaults)

def layer (field : PolicyRecord → Option α) (builtIn : α) : α := (s.set? own field).getD builtIn

def layered : Policy where
  enabled :=
    s.enabled && s.defaults.enabled != some false && own.bind PolicyRecord.enabled != some false
  endpoints := s.layer own (·.endpoints) ["list", "create", "get", "update", "delete"]
  validation := {
    required := s.layer own (·.validation.required) []
    minLength := s.layer own (·.validation.minLength) {}
    maxLength := s.layer own (·.validation.maxLength) {}
    minValue := s.layer own (·.validation.minValue) {}
    maxValue := s.layer own (·.validation.maxValue) {}
    emailFields := s.layer own (·.validation.emailFields) []
    urlFields := s.layer own (·.validation.urlFields) []
    uuidFields := s.layer own (·.validation.uuidFields) []
    enums := s.layer own (·.validation.enums) {} }
  pagination := {
    defaultLimit := s.layer own (·.pagination.defaultLimit) 20
    maxLimit := s.layer own (·.pagination.maxLimit) 100 }
  filtering := {
    filterFields := s.layer own (·.filtering.filterFields) []
    searchFields := s.layer own (·.filtering.searchFields) [] }
  sorting := {
    sortFields := s.layer own (·.sorting.sortFields) []
    defaultSort := s.set? own (·.sorting.defaultSort)
    defaultOrder := s.layer own (·.sorting.defaultOrder) .asc }
  caching := {
    enabled := s.layer own (·.caching.enabled) false
    ttlSeconds := s.layer own (·.caching.ttlSeconds) 60
    invalidateOn := s.layer own (·.caching.invalidateOn) [] }
  security := {
    requireAuth := s.layer own (·.security.requireAuth) false
    roles := s.layer own (·.security.roles) []
    permissions := s.layer own (·.security.permissions) []
    -- A zero in the record that decides is no limit, and does not let the other one through.
    rateLimitPerMinute := (s.set? own (·.security.rateLimitPerMinute)).filter (· ≠ 0)
    audit := s.layer own (·.security.audit) false
    softDelete := s.layer own (·.security.softDelete) false
    timestamps := s.layer own (·.security.timestamps) true }

variable {s own} {schema table : String}

theorem layerShared (field : PolicyRecord → Option α) (builtIn : α) :
    s.layer none field builtIn = (field s.defaults).getD builtIn := rfl

theorem layerOwn (record : PolicyRecord) (field : PolicyRecord → Option α) (builtIn : α) :
    s.layer (some record) field builtIn =
      (field record).getD ((field s.defaults).getD builtIn) := Option.getD_or

theorem limitOverlaid (limit own : Option Nat) :
    overlayLimit (limit.filter (· ≠ 0)) own = (own.or limit).filter (· ≠ 0) := by
  match own with
  | none => rfl
  | some 0 => rfl
  | some (n + 1) => rfl

theorem notTurnedOff (switch : Option Bool) : (switch != some false) = switch.getD true := by
  rcases switch with _ | _ | _ <;> rfl

theorem resolveLayered (found : (Resolver.ofSettings s).record? (some schema) table = own) :
    (Resolver.ofSettings s).resolve (some schema) table = s.layered own := by
  have sort : (Resolver.ofSettings s).global.sorting.defaultSort =
      s.defaults.sorting.defaultSort := Option.or_none
  have limit : (Resolver.ofSettings s).global.security.rateLimitPerMinute =
      s.defaults.security.rateLimitPerMinute.filter (· ≠ 0) :=
    (limitOverlaid none _).trans (by rw [Option.or_none])
  rw [Resolver.resolve, found]
  cases own with
  | none =>
      simp only [layered, layerShared, set?, notTurnedOff, Option.bind_none, Option.none_or,
        Option.getD_none, Bool.and_true, ← limit, ← sort]
      rfl
  | some record =>
      simp only [layered, layerOwn, set?, notTurnedOff, Option.bind_some, ← limitOverlaid,
        ← limit, ← sort]
      rfl

end Settings

/-- A table has one record of its own or none, and that record with the record for all tables
decides its policy, field by field. Letter case plays no part. -/
theorem resolvesInLayers {s : Settings} (sorted : s.tables.Sorted) (schema table : String) :
    ∃ own, (∀ record, s.Own schema table record ↔ record = own) ∧
      (Resolver.ofSettings s).resolve (some schema) table = s.layered own ∧
      ∀ schema' table', Text.lower schema' = Text.lower schema →
        Text.lower table' = Text.lower table →
        (Resolver.ofSettings s).resolve (some schema') table' = s.layered own := by
  refine ⟨(Resolver.ofSettings s).record? (some schema) table, fun record => ?_,
    Settings.resolveLayered rfl, fun schema' table' lower lower' => ?_⟩
  · rw [Settings.ownIff sorted, eq_comm]
  · refine Settings.resolveLayered ?_
    simp only [Resolver.record?, lower, lower']

def salesSettings : Settings where
  defaults :=
    { pagination := { maxLimit := some 200 }, security := { rateLimitPerMinute := some 60 } }
  tables := ⟨[("Items", { pagination := { defaultLimit := some 10 } }),
    ("Sales.items", { caching := { ttlSeconds := some 5 } }),
    ("items", { pagination := { defaultLimit := some 15 } }),
    ("sales.Items", { security := { rateLimitPerMinute := some 0 } })]⟩

theorem salesItemsInLayers : salesSettings.tables.Sorted ∧
    (∃ own, (∀ record, salesSettings.Own "SALES" "items" record ↔ record = own) ∧
      (Resolver.ofSettings salesSettings).resolve (some "SALES") "items" =
        salesSettings.layered own ∧
      ∀ schema table, Text.lower schema = Text.lower "SALES" →
        Text.lower table = Text.lower "items" →
        (Resolver.ofSettings salesSettings).resolve (some schema) table =
          salesSettings.layered own) ∧
    (Resolver.ofSettings salesSettings).resolve (some "SALES") "items" =
      { pagination := { defaultLimit := 20, maxLimit := 200 } } := by
  have sorted : salesSettings.tables.Sorted := by
    unfold SortedMap.Sorted
    decide
  exact ⟨sorted, resolvesInLayers sorted "SALES" "items", by decide +kernel⟩

end RestScaffold
