import RestScaffold.Policy.Load
import RestScaffold.Proofs.Policy.Lookup

/-! Settings that have been validated give every table a policy that can be planned. -/
namespace RestScaffold

variable {s : Settings}

theorem bindOk {x : Except SettingsError Unit} {f : Unit → Except SettingsError Unit} :
    (x >>= f) = .ok () ↔ x = .ok () ∧ f () = .ok () := by
  cases x with
  | error e => exact ⟨nofun, nofun⟩
  | ok u => exact ⟨fun rest => ⟨rfl, rest⟩, fun both => both.2⟩

theorem checkAllOk {α : Type} {check : α → Except SettingsError Unit} {items : List α} :
    checkAll check items = .ok () ↔ ∀ item ∈ items, check item = .ok () := by
  induction items with
  | nil => simp [checkAll]
  | cons item rest ih =>
      rw [checkAll, bindOk, ih]
      simp

def Known (names : List String) : Prop := ∀ name ∈ names, (EndpointKind.parse? name).isSome = true

instance (names : List String) : Decidable (Known names) :=
  inferInstanceAs (Decidable (∀ name ∈ names, _))

structure PolicyRecord.Fits (r : PolicyRecord) : Prop where
  known : Known (r.endpoints.getD [])
  defaultLimit : r.pagination.defaultLimit ≠ some 0
  maxLimit : r.pagination.maxLimit ≠ some 0

theorem checkedFits {owner : String} {r : PolicyRecord} (checked : r.check owner = .ok ()) :
    r.Fits := by
  simp only [PolicyRecord.check] at checked
  split at checked
  · cases checked
  · rename_i none
    split at checked
    · cases checked
    · rename_i positive
      obtain ⟨first, second⟩ := not_or.mp positive
      refine ⟨fun name member => ?_, first, second⟩
      have odd := List.find?_eq_none.mp none name member
      simpa [Option.isSome_iff_ne_none] using odd

theorem cappedOk {owner : String} {p : Policy} (checked : p.check owner = .ok ()) :
    p.pagination.defaultLimit ≤ p.pagination.maxLimit := by
  simp only [Policy.check] at checked
  split at checked
  · cases checked
  · omega

theorem validateOk (valid : s.validate = .ok ()) :
    s.defaults.Fits ∧ (∀ entry ∈ s.tables.entries, entry.2.Fits) ∧
      (Resolver.ofSettings s).global.check "defaults" = .ok () ∧
      ∀ key ∈ s.tables.keys, ((Resolver.ofSettings s).resolveKey key).check key = .ok () := by
  simp only [Settings.validate] at valid
  split at valid
  · cases valid
  · split at valid
    · cases valid
    · split at valid
      · cases valid
      · obtain ⟨defaults, valid⟩ := bindOk.mp valid
        obtain ⟨records, valid⟩ := bindOk.mp valid
        obtain ⟨global, merged⟩ := bindOk.mp valid
        refine ⟨checkedFits defaults, ?_, global, checkAllOk.mp merged⟩
        exact fun entry member => checkedFits (checkAllOk.mp records entry member)

structure Policy.Usable (p : Policy) : Prop where
  known : Known p.endpoints
  positive : 1 ≤ p.pagination.defaultLimit
  capped : p.pagination.defaultLimit ≤ p.pagination.maxLimit

theorem limitOverlay {limit : Nat} {own : Option Nat} (positive : 1 ≤ limit)
    (set : own ≠ some 0) : 1 ≤ own.getD limit := by
  cases own with
  | none => exact positive
  | some n =>
      have different : n ≠ 0 := fun zero => set (zero ▸ rfl)
      exact Nat.one_le_iff_ne_zero.mpr different

theorem knownOverlay {p : Policy} {r : PolicyRecord} (known : Known p.endpoints) (fits : r.Fits) :
    Known (p.overlay r).endpoints := by
  have own := fits.known
  simp only [Policy.overlay]
  cases set : r.endpoints with
  | none => exact known
  | some names => simpa [set] using own

theorem usableOverlay {p : Policy} {r : PolicyRecord} (usable : p.Usable) (fits : r.Fits)
    (capped : (p.overlay r).pagination.defaultLimit ≤ (p.overlay r).pagination.maxLimit) :
    (p.overlay r).Usable :=
  ⟨knownOverlay usable.known fits, limitOverlay usable.positive fits.defaultLimit, capped⟩

theorem builtInUsable : Policy.Usable {} := ⟨by decide +kernel, by decide, by decide⟩

theorem globalUsable (valid : s.validate = .ok ()) : (Resolver.ofSettings s).global.Usable := by
  obtain ⟨defaults, -, global, -⟩ := validateOk valid
  exact usableOverlay builtInUsable defaults (cappedOk global)

theorem resolvedKnown (valid : s.validate = .ok ()) (schema table : String) :
    Known ((Resolver.ofSettings s).resolve (some schema) table).endpoints := by
  -- Kinds are checked in every record, so this holds for whatever a table is called.
  obtain ⟨-, records, -, -⟩ := validateOk valid
  rw [Resolver.resolve]
  split
  · exact (globalUsable valid).known
  · rename_i record found
    obtain ⟨key, entry⟩ := Resolver.recordListed found
    exact knownOverlay (globalUsable valid).known (records (key, record) entry)

theorem resolvedUsable (valid : s.validate = .ok ()) {schema table : String}
    (plainSchema : Naming.isPlainIdentifier schema = true)
    (plainTable : Naming.isPlainIdentifier table = true) :
    ((Resolver.ofSettings s).resolve (some schema) table).Usable := by
  obtain ⟨-, records, -, merged⟩ := validateOk valid
  have global := globalUsable valid
  rw [Resolver.resolve]
  split
  · exact ⟨global.known, global.positive, global.capped⟩
  · rename_i record found
    obtain ⟨key, entry, same⟩ := Resolver.checkedUnderKey plainSchema plainTable found
    have capped := cappedOk (merged key (List.mem_map_of_mem entry))
    rw [same] at capped
    have own := usableOverlay global (records (key, record) entry) capped
    exact ⟨own.known, own.positive, own.capped⟩

theorem parseAllKnown {names : List String} (known : Known names) (seen : List EndpointKind) :
    ∃ kinds, EndpointKind.parseAll names seen = .ok kinds := by
  induction names generalizing seen with
  | nil => exact ⟨[], rfl⟩
  | cons name rest ih =>
      obtain ⟨first, others⟩ := List.forall_mem_cons.mp known
      obtain ⟨kind, parsed⟩ := Option.isSome_iff_exists.mp first
      simp only [EndpointKind.parseAll, parsed]
      split
      · exact ih others seen
      · obtain ⟨kinds, later⟩ := ih others (kind :: seen)
        exact ⟨kind :: kinds, by rw [later]; rfl⟩

theorem endpointKindsKnown {p : Policy} (known : Known p.endpoints) (table : String) :
    ∃ kinds, p.endpointKinds table = .ok kinds := by
  obtain ⟨kinds, parsed⟩ := parseAllKnown known []
  exact ⟨kinds, by rw [Policy.endpointKinds, parsed]; rfl⟩

inductive Settings.Accepted (s : Settings) : Prop where
  | built (valid : s.validate = .ok ())
  | read {detail text : String} (parsed : Settings.ofDocument detail text = .ok s)
  | loaded {detail : String} {document : Option String} {env : Environment}
      (parsed : Settings.load detail document env = .ok s)

theorem ofDocumentValid {detail text : String}
    (parsed : Settings.ofDocument detail text = .ok s) : s.validate = .ok () := by
  simp only [Settings.ofDocument] at parsed
  split at parsed
  · cases parsed
  · rename_i read _
    cases checked : read.validate with
    | error e =>
        rw [checked] at parsed
        cases parsed
    | ok u =>
        rw [checked] at parsed
        cases parsed
        exact checked

theorem applyEnvironmentValid {env : Environment} {before : Settings}
    (applied : before.applyEnvironment env = (s, .ok ())) : s.validate = .ok () := by
  -- Only a run to the end of the variables gives a result, and that is checked once more.
  simp only [Settings.applyEnvironment] at applied
  split at applied
  · cases applied
  · split at applied
    · cases applied
    · obtain ⟨rfl, valid⟩ := Prod.mk.inj applied
      exact valid

theorem loadValid {detail : String} {document : Option String} {env : Environment}
    (parsed : Settings.load detail document env = .ok s) : s.validate = .ok () := by
  cases document with
  | none => cases parsed
  | some text =>
      rw [Settings.load] at parsed
      cases read : Settings.ofDocument detail text with
      | error e =>
          rw [read] at parsed
          cases parsed
      | ok before =>
          rw [read] at parsed
          replace parsed : ((before.applyEnvironment env).2 >>= fun _ =>
              pure (before.applyEnvironment env).1) = .ok s := parsed
          cases applied : before.applyEnvironment env with
          | mk after checked =>
              rw [applied] at parsed
              cases checked with
              | error e => cases parsed
              | ok u =>
                  cases parsed
                  exact applyEnvironmentValid applied

theorem acceptedValid (accepted : s.Accepted) : s.validate = .ok () := by
  cases accepted with
  | built valid => exact valid
  | read parsed => exact ofDocumentValid parsed
  | loaded parsed => exact loadValid parsed

end RestScaffold
