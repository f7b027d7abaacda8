import RestScaffold.Policy.Validation
import RestScaffold.Proofs.SortedMap
import RestScaffold.Proofs.Text.Identifier

/-! Which record a table's policy is made from. Keys are checked by dividing them at their first
dot, and looked up in lower case by joining a schema and a table. Both come to the same record. -/
namespace RestScaffold

variable {key : String}

theorem splitSome {first second : String} (divided : splitAtDot key = some (first, second)) :
    key = first ++ "." ++ second := by
  simp only [splitAtDot] at divided
  split at divided
  · contradiction
  · rename_i c rest found
    cases divided
    have dot : c = '.' := by
      have head := List.head?_dropWhile_not (fun c => decide (c ≠ '.')) key.toList
      rw [found] at head
      simpa using head
    subst dot
    have whole := List.takeWhile_append_dropWhile (p := fun c => decide (c ≠ '.')) (l := key.toList)
    rw [found] at whole
    rw [← String.toList_inj]
    exact whole.symm.trans (by simp)

theorem noSigma (ascii : ∀ c ∈ (Text.lower key).toList, c.toNat < 128) : 'Σ' ∉ key.toList := by
  intro member
  rw [Text.lower, String.toList_ofList] at ascii
  have lowered : 'σ' ∈ Text.lowerFrom [] key.toList ∨ 'ς' ∈ Text.lowerFrom [] key.toList :=
    Text.lowerFromSigma member
  rcases lowered with middle | final
  · exact absurd (ascii _ middle) (by decide)
  · exact absurd (ascii _ final) (by decide)

namespace Resolver

theorem resolveKeyFinds {r : Resolver} {record : PolicyRecord} (plain : 'Σ' ∉ key.toList)
    (found : r.records.get? (Text.lower key) = some record) :
    ∃ schema table, r.resolveKey key = r.resolve schema table ∧
      r.record? schema table = some record := by
  simp only [resolveKey]
  split
  · rename_i schema table divided
    refine ⟨some schema, table, rfl, ?_⟩
    have whole := splitSome divided
    have parts : 'Σ' ∉ schema.toList ++ table.toList := by
      rw [whole] at plain
      simpa using plain
    rw [whole, Text.lowerJoin parts] at found
    rw [record?, found]
    rfl
  · exact ⟨none, key, rfl, found⟩

variable {s : Settings} {record : PolicyRecord}

theorem recordKey {lowered : String} (found : (ofSettings s).records.get? lowered = some record) :
    ∃ key, (key, record) ∈ s.tables.entries ∧ Text.lower key = lowered := by
  rw [ofSettings, SortedMap.getOfList] at found
  have listed := List.mem_reverse.mp (SortedMap.lookupMember found)
  obtain ⟨⟨key, own⟩, entry, same⟩ := List.mem_map.mp listed
  cases same
  exact ⟨key, entry, rfl⟩

theorem recordFound {schema table : String}
    (found : (ofSettings s).record? (some schema) table = some record) :
    ∃ lowered, (ofSettings s).records.get? lowered = some record ∧
      (lowered = Text.lower schema ++ "." ++ Text.lower table ∨ lowered = Text.lower table) := by
  rcases Option.or_eq_some_iff.mp found with own | ⟨-, shared⟩
  · exact ⟨_, own, .inl rfl⟩
  · exact ⟨_, shared, .inr rfl⟩

theorem lookedUpAscii {schema table lowered : String}
    (plainSchema : Naming.isPlainIdentifier schema = true)
    (plainTable : Naming.isPlainIdentifier table = true)
    (form : lowered = Text.lower schema ++ "." ++ Text.lower table ∨ lowered = Text.lower table) :
    ∀ c ∈ lowered.toList, c.toNat < 128 := by
  intro c member
  rcases form with rfl | rfl
  · simp only [String.toList_append, List.mem_append] at member
    rcases member with (first | dot) | second
    · exact Naming.wordlyAscii (Naming.lowerWordly plainSchema _ first)
    · obtain rfl := List.mem_singleton.mp dot
      decide
    · exact Naming.wordlyAscii (Naming.lowerWordly plainTable _ second)
  · exact Naming.wordlyAscii (Naming.lowerWordly plainTable _ member)

theorem recordListed {schema table : String}
    (found : (ofSettings s).record? (some schema) table = some record) :
    ∃ key, (key, record) ∈ s.tables.entries := by
  obtain ⟨lowered, here, -⟩ := recordFound found
  exact (recordKey here).imp fun key both => both.1

theorem checkedUnderKey {schema table : String}
    (plainSchema : Naming.isPlainIdentifier schema = true)
    (plainTable : Naming.isPlainIdentifier table = true)
    (found : (ofSettings s).record? (some schema) table = some record) :
    ∃ key, (key, record) ∈ s.tables.entries ∧
      ((ofSettings s).resolveKey key).pagination =
        (ofSettings s).global.pagination.overlay record.pagination := by
  obtain ⟨lowered, here, form⟩ := recordFound found
  have ascii := lookedUpAscii plainSchema plainTable form
  obtain ⟨key, entry, rfl⟩ := recordKey here
  obtain ⟨first, second, divided, same⟩ := resolveKeyFinds (noSigma ascii) here
  refine ⟨key, entry, ?_⟩
  rw [divided, resolve, same]
  rfl

end Resolver
end RestScaffold
