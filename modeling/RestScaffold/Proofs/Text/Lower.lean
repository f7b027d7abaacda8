import RestScaffold.Naming
import RestScaffold.Text.CaseMap

/-! Lower-casing adds no character before the letter a, so what divides paths and keys divides them
in lower case at the same places. -/
namespace RestScaffold.Text

def Raised (n : Nat) : Prop := 'a'.toNat ≤ n ∧ n.isValidChar

instance (n : Nat) : Decidable (Raised n) := inferInstanceAs (Decidable (_ ∧ _))

theorem raisedBetween {first last n : Nat} (low : Raised first) (high : Raised last)
    (after : first ≤ n) (before : n ≤ last)
    (beside : last < 0xd800 ∨ 0xdfff < first) : Raised n := by
  obtain ⟨letter, valid⟩ := low
  obtain ⟨-, last'⟩ := high
  simp only [Nat.isValidChar] at valid last'
  refine ⟨by omega, ?_⟩
  simp only [Nat.isValidChar]
  omega

theorem raisedOfNat {n : Nat} (raised : Raised n) : 'a' ≤ Char.ofNat n := by
  have same : (Char.ofNat n).toNat = n := by
    rw [Char.ofNat, dif_pos raised.2]
    rfl
  rw [Char.le_def, UInt32.le_iff_toNat_le]
  exact Nat.le_trans raised.1 (Nat.le_of_eq same.symm)

theorem lowerRunsRaise : ∀ r ∈ lowerRuns,
    0 ≤ r.first + r.offset ∧ Raised (r.first + r.offset).toNat ∧ Raised (r.last + r.offset).toNat ∧
      ((r.last + r.offset).toNat < 0xd800 ∨ 0xdfff < (r.first + r.offset).toNat) := by
  decide +kernel

theorem lowerExpansionsRaise : ∀ e ∈ lowerExpansions, ∀ n ∈ e.2, Raised n := by decide

theorem mapRunRaised {r : CaseRun} {c n : Nat} (known : r ∈ lowerRuns)
    (mapped : r.map? c = some n) : Raised n := by
  obtain ⟨positive, low, high, beside⟩ := lowerRunsRaise r known
  simp only [CaseRun.map?] at mapped
  split at mapped
  · rename_i inside
    cases mapped
    exact raisedBetween low high (by omega) (by omega) beside
  · contradiction

theorem lowerCharRaises {c d : Char} (member : d ∈ lowerChar c) : d = c ∨ 'a' ≤ d := by
  simp only [lowerChar] at member
  split at member
  · obtain rfl := List.mem_singleton.mp member
    unfold Char.toLower
    split
    · rename_i capital
      refine .inr ?_
      obtain ⟨low, high⟩ := capital
      rw [ge_iff_le, UInt32.le_iff_toNat_le] at low
      rw [UInt32.le_iff_toNat_le] at high
      rw [Char.le_def, UInt32.le_iff_toNat_le, UInt32.toNat_add]
      simp only [Char.reduceVal, UInt32.reduceToNat, UInt32.reduceSub] at low high ⊢
      omega
    · exact .inl rfl
  · simp only [mapCase] at member
    split at member
    · rename_i n found
      obtain ⟨r, known, mapped⟩ := List.exists_of_findSome?_eq_some found
      obtain rfl := List.mem_singleton.mp member
      exact .inr (raisedOfNat (mapRunRaised known mapped))
    · split at member
      · rename_i entry key ns found
        obtain ⟨n, inside, rfl⟩ := List.mem_map.mp member
        exact .inr (raisedOfNat (lowerExpansionsRaise _ (List.mem_of_find?_eq_some found) n inside))
      · exact .inl (List.mem_singleton.mp member)

theorem lowerFirstRaises {before rest : List Char} {c d : Char}
    (member : d ∈ if c = 'Σ' then
        if startsCased before && !startsCased rest then ['ς'] else ['σ']
      else lowerChar c) : d = c ∨ 'a' ≤ d := by
  split at member
  · split at member
    all_goals
      obtain rfl := List.mem_singleton.mp member
      exact .inr (by decide)
  · exact lowerCharRaises member

theorem lowerFromRaises {before cs : List Char} {d : Char} (member : d ∈ lowerFrom before cs) :
    d ∈ cs ∨ 'a' ≤ d := by
  induction cs generalizing before with
  | nil => contradiction
  | cons c rest ih =>
      rcases List.mem_append.mp member with first | later
      · rcases lowerFirstRaises first with rfl | raised
        · exact .inl List.mem_cons_self
        · exact .inr raised
      · exact (ih later).imp_left (List.mem_cons_of_mem c)

theorem lowerRaises {s : String} {d : Char} (member : d ∈ (lower s).toList) :
    d ∈ s.toList ∨ 'a' ≤ d := by
  rw [lower, String.toList_ofList] at member
  exact lowerFromRaises member

theorem plainCharacter {s : String} (plain : Naming.isPlainIdentifier s = true) {c : Char}
    (member : c ∈ s.toList) : (c.isAlphanum || c == '_') = true := by
  simp only [Naming.isPlainIdentifier] at plain
  split at plain
  · contradiction
  · rename_i first rest same
    rw [same] at member
    obtain ⟨letter, others⟩ := Bool.and_eq_true_iff.mp plain
    rcases List.mem_cons.mp member with rfl | later
    · simp only [Char.isAlphanum, Bool.or_eq_true] at letter ⊢
      exact letter.imp_left .inl
    · exact List.all_eq_true.mp others c later

theorem lowerPlain {s : String} (plain : Naming.isPlainIdentifier s = true) {c : Char}
    (low : c < 'a') (odd : (c.isAlphanum || c == '_') = false) : c ∉ (lower s).toList := by
  intro member
  rcases lowerRaises member with own | raised
  · rw [plainCharacter plain own] at odd
    contradiction
  · exact absurd raised (Char.not_le.mpr low)

theorem lowerFromEach {before cs : List Char} (plain : 'Σ' ∉ cs) :
    lowerFrom before cs = cs.flatMap lowerChar := by
  induction cs generalizing before with
  | nil => rfl
  | cons c rest ih =>
      obtain ⟨first, others⟩ := not_or.mp (mt List.mem_cons.mpr plain)
      rw [lowerFrom, if_neg (Ne.symm first), ih others, List.flatMap_cons]

theorem lowerJoin {first second : String} (plain : 'Σ' ∉ first.toList ++ second.toList) :
    lower (first ++ "." ++ second) = lower first ++ "." ++ lower second := by
  obtain ⟨one, other⟩ := not_or.mp (mt List.mem_append.mpr plain)
  have whole : 'Σ' ∉ first.toList ++ ".".toList ++ second.toList := by simp [one, other]
  have dot : ".".toList.flatMap lowerChar = ".".toList := by decide
  rw [← String.toList_inj]
  simp only [lower, lowerFromEach whole, lowerFromEach one, lowerFromEach other,
    String.toList_append, String.toList_ofList, List.flatMap_append, dot]

theorem lowerFromSigma {before cs : List Char} (member : 'Σ' ∈ cs) :
    'σ' ∈ lowerFrom before cs ∨ 'ς' ∈ lowerFrom before cs := by
  induction cs generalizing before with
  | nil => contradiction
  | cons c rest ih =>
      rw [lowerFrom]
      rcases List.mem_cons.mp member with rfl | later
      · rw [if_pos rfl]
        split
        · exact .inr List.mem_cons_self
        · exact .inl List.mem_cons_self
      · exact (ih later).imp (List.mem_append_right _) (List.mem_append_right _)

end RestScaffold.Text
